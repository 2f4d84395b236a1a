import EntityQuery.Proofs.Metadata.Declared
import Mathlib.Data.List.Infix

/-!
# The fields of a statement

An analysis goes through a statement once, and takes each path for a field of the entity that its
first name stands for at that time. If names are declared before they are used, and no alias is
declared for two entities, that is the entity which the name stands for in the statement as a whole.

1. `step_fields`, `run_filled`: what one step adds to the fields, and what a run adds that meets no
   paths.
2. `pathOwner?_of_prefix`: under `DeclaredFirst` a path belongs to the same entity at its place as
   in the whole statement.
3. `run_fields`: so the fields of a run are those of the whole statement, by induction on the nodes
   that are met.
4. `analyze_hasField`: the fields in the metadata of a statement.
-/

namespace EntityQuery

open Sql Grammar

/-! ## Two passes -/

/-- The fields that a path names: a single name is one, and behind a qualifier every name adds a
longer one. -/
def fieldNames : List String → List String
  | [] => []
  | [name] => [name]
  | _ :: second :: rest => rest.inits.map fun more => dotted (second :: more)

namespace Node

/-- The entity of an alias in a whole statement. -/
def aliasEntity? (node : Node) (name : String) : Option String :=
  (declaredAliases node.met).reverse.lookup name

/-- The entity that the first name of a path stands for in a whole statement: that of an alias, or a
declared one. -/
def denotes? (node : Node) (first : String) : Option String :=
  match node.aliasEntity? first with
  | some entity => some entity
  | none => if first ∈ (declared node.met).map Prod.fst then some first else none

/-- The target of an update or a delete. -/
def target? : Node → Option String
  | .update entity _ _ _ | .delete entity _ _ => some entity
  | _ => none

/-- The entity whose fields a path names in a whole statement. A single name belongs to the target,
unless it is an alias. -/
def pathOwner? (node : Node) : List String → Option String
  | [] => none
  | [name] => if (node.aliasEntity? name).isSome then none else node.target?
  | first :: _ :: _ => node.denotes? first

/-- The fields that an insert fills, with its entity. -/
def fills : Node → List (String × String)
  | .insert entity targets _ =>
    targets.filterMap fun t => t.pathText.toOption.map fun text => (entity, text)
  | _ => []

/-- The fields of a statement: what its paths name, in whatever clause or sub-query, and what it
fills. -/
def HasField (node : Node) (entity field : String) : Prop :=
  (∃ parts, .path parts ∈ node.met ∧ node.pathOwner? parts = some entity ∧
    field ∈ fieldNames parts) ∨ (entity, field) ∈ node.fills

/-- The first name of a path. -/
def firstName? : Node → Option String
  | .path (first :: _) => some first
  | _ => none

/-- The first name of a path of several names. -/
def qualifier? : Node → Option String
  | .path (first :: _ :: _) => some first
  | _ => none

/-- Each alias stands for one entity, and what a path starts with is declared before the path is
met, if it is declared. -/
structure DeclaredFirst (node : Node) : Prop where
  oneEntity : ∀ d ∈ declaredAliases node.met, ∀ e ∈ declaredAliases node.met, d.1 = e.1 → d.2 = e.2
  aliasFirst : ∀ i : Fin node.met.length, ∀ first ∈ (node.met.get i).firstName?,
    first ∈ (declaredAliases node.met).map Prod.fst →
    first ∈ (declaredAliases (node.met.take i)).map Prod.fst
  entityFirst : ∀ i : Fin node.met.length, ∀ first ∈ (node.met.get i).qualifier?,
    first ∉ (declaredAliases node.met).map Prod.fst → first ∈ (declared node.met).map Prod.fst →
      first ∈ (declared (node.met.take i)).map Prod.fst

end Node

/-! ## Steps -/

theorem mem_fieldsOf_addField {m : Metadata} {entity entity' field field' : String} :
    field ∈ (m.addField entity' field').fieldsOf entity ↔
      field ∈ m.fieldsOf entity ∨ entity' = entity ∧ field = field' := by
  unfold Metadata.fieldsOf Metadata.addField
  by_cases he : entity' = entity
  · subst he
    rw [Registry.get?_put_self (.ofLawful _), Option.getD_some, Analysis.mem_appendNew]
    simp
  · rw [Registry.get?_put_of_ne (.ofLawful _) (.ofLawful _) he]
    simp [he]

theorem mem_fieldsOf_foldl {m : Metadata} {entity entity' field : String} (fields : List String) :
    field ∈ (fields.foldl (fun m f => m.addField entity' f) m).fieldsOf entity ↔
      field ∈ m.fieldsOf entity ∨ entity' = entity ∧ field ∈ fields := by
  induction fields generalizing m with
  | nil => simp
  | cons f fields ih =>
    rw [List.foldl_cons, ih, mem_fieldsOf_addField, List.mem_cons]
    grind

/-- No field of an entity is entered twice. -/
def Metadata.Distinct (m : Metadata) : Prop :=
  ∀ entity, (m.fieldsOf entity).Nodup

theorem Metadata.Distinct.addField {m : Metadata} (h : m.Distinct) (entity field : String) :
    (m.addField entity field).Distinct := by
  intro entity'
  unfold Metadata.fieldsOf Metadata.addField
  by_cases he : entity = entity'
  · rw [he, Registry.get?_put_self (.ofLawful _)]
    exact nodup_appendNew (h entity') field
  · rw [Registry.get?_put_of_ne (.ofLawful _) (.ofLawful _) he]
    exact h entity'

theorem Metadata.Distinct.foldl {m : Metadata} (h : m.Distinct) (entity : String)
    (fields : List String) :
    (fields.foldl (fun m f => m.addField entity f) m).Distinct := by
  induction fields generalizing m with
  | nil => exact h
  | cons f fields ih => exact ih (h.addField entity f)

namespace Analysis

variable {a b : Analysis}

/-- The longer fields of a path are entered in turn. -/
theorem addLonger_eq_foldl (rest : List String) {names : List String} (hne : names ≠ [])
    (m : Metadata) (entity : String) :
    addLonger (m.addField entity (dotted names)) entity (dotted names) rest =
      (rest.inits.map fun more => dotted (names ++ more)).foldl
        (fun m f => m.addField entity f) m := by
  induction rest generalizing names m with
  | nil => simp [addLonger]
  | cons name rest ih =>
    have hmore : names ++ [name] ≠ [] := by simp
    rw [addLonger, ← dotted_append_singleton hne, ih hmore, List.inits_cons]
    simp [Function.comp_def]

theorem addPath_eq_foldl (m : Metadata) (entity first second : String) (rest : List String) :
    addPath m entity second rest =
      (fieldNames (first :: second :: rest)).foldl (fun m f => m.addField entity f) m := by
  have hsecond : dotted [second] = second := String.intercalate_singleton
  have hlonger := addLonger_eq_foldl rest (List.cons_ne_nil second []) m entity
  rw [hsecond] at hlonger
  exact hlonger

/-- The entity whose fields a path names, as far as an analysis has come. -/
def pathOwner? (a : Analysis) : List String → Option String
  | [] => none
  | [name] => if a.metadata.isAlias name then none else a.target
  | first :: _ :: _ => owner? a.metadata first

/-- A path is met as the fields that it names, if it belongs to an entity. -/
theorem mention_eq {parts : List String} (h : a.mention parts = .ok b) :
    b.metadata = (a.pathOwner? parts).elim a.metadata fun entity =>
      (fieldNames parts).foldl (fun m f => m.addField entity f) a.metadata := by
  match parts with
  | [] => cases h
  | [name] =>
    show b.metadata = (if a.metadata.isAlias name then none else a.target).elim _ _
    unfold mention at h
    dsimp only at h
    by_cases hname : a.metadata.isAlias name = true
    · rw [if_pos hname]
      split at h <;> cases h
      · rw [if_pos hname]
        rfl
      · rfl
    · rw [if_neg hname]
      split at h
      · next entity htarget =>
        cases h
        rw [if_neg hname, htarget]
        rfl
      · next htarget =>
        cases h
        rw [htarget]
        rfl
  | first :: second :: rest =>
    show b.metadata = (owner? a.metadata first).elim _ _
    unfold mention at h
    dsimp only at h
    split at h
    · next entity howner =>
      cases h
      rw [howner]
      exact addPath_eq_foldl _ _ _ _ _
    · next howner =>
      cases h
      rw [howner]
      rfl

end Analysis

/-- What is met adds a field to an entity. -/
def Visit.Records (a : Analysis) (entity field : String) : Visit → Prop
  | .filled entity' field' => entity' = entity ∧ field = field'
  | .mention parts => a.pathOwner? parts = some entity ∧ field ∈ fieldNames parts
  | _ => False

namespace Analysis

variable {a b : Analysis}

/-- A step adds the fields that it meets. -/
theorem step_fields {v : Visit} (h : a.step v = .ok b) (entity field : String) :
    field ∈ b.metadata.fieldsOf entity ↔ field ∈ a.metadata.fieldsOf entity ∨
      v.Records a entity field := by
  cases v with
  | filled entity' field' =>
    cases h
    exact mem_fieldsOf_addField
  | mention parts =>
    rw [mention_eq h]
    show _ ↔ _ ∨ a.pathOwner? parts = some entity ∧ field ∈ fieldNames parts
    cases a.pathOwner? parts with
    | none => simp
    | some entity' => rw [Option.elim_some, mem_fieldsOf_foldl, Option.some.injEq]
  | declare entity' asName =>
    cases h
    unfold Metadata.addEntity
    cases given? asName <;> simp [Visit.Records, Metadata.fieldsOf]
  | broken => cases h
  | _ =>
    cases h
    exact (or_false _).symm.to_iff

/-- A step enters no field twice. -/
theorem step_distinct {v : Visit} (ha : a.metadata.Distinct) (h : a.step v = .ok b) :
    b.metadata.Distinct := by
  cases v with
  | filled entity field =>
    cases h
    exact ha.addField entity field
  | mention parts =>
    rw [mention_eq h]
    cases a.pathOwner? parts with
    | none => exact ha
    | some entity => exact ha.foldl entity _
  | declare entity asName =>
    cases h
    unfold Metadata.addEntity
    cases given? asName <;> exact ha
  | broken => cases h
  | _ =>
    cases h
    exact ha

theorem run_distinct {vs : List Visit} (ha : a.metadata.Distinct) (h : a.run vs = (b, none)) :
    b.metadata.Distinct := by
  induction vs generalizing a with
  | nil =>
    cases h
    exact ha
  | cons v vs ih =>
    obtain ⟨c, hstep, hrun⟩ := run_cons h
    exact ih (step_distinct ha hstep) hrun

/-- A run that meets no paths adds the fields that are filled. -/
theorem run_filled {vs : List Visit} (hv : ∀ parts, .mention parts ∉ vs) (h : a.run vs = (b, none))
    (entity field : String) :
    field ∈ b.metadata.fieldsOf entity ↔ field ∈ a.metadata.fieldsOf entity ∨
      .filled entity field ∈ vs := by
  induction vs generalizing a with
  | nil =>
    cases h
    simp
  | cons v vs ih =>
    obtain ⟨c, hstep, hrun⟩ := run_cons h
    have hrecords : v.Records a entity field ↔ .filled entity field = v := by
      cases v with
      | filled entity' field' => simp [Visit.Records, eq_comm]
      | mention parts => exact absurd List.mem_cons_self (hv parts)
      | _ => simp [Visit.Records]
    rw [ih (fun parts hm => hv parts (List.mem_cons_of_mem _ hm)) hrun, step_fields hstep, hrecords,
      List.mem_cons, or_assoc]

end Analysis

/-! ## Prefixes of a statement -/

theorem mem_of_lookup {ps : List (String × String)} {name entity : String}
    (h : ps.lookup name = some entity) :
    (name, entity) ∈ ps := by
  obtain ⟨before, after, rfl, -⟩ := List.lookup_eq_some_iff.mp h
  simp

theorem isSome_lookup {ps : List (String × String)} {name : String} :
    (ps.lookup name).isSome = true ↔ name ∈ ps.map Prod.fst := by
  induction ps with
  | nil => simp
  | cons p ps ih =>
    obtain ⟨key, value⟩ := p
    by_cases hkey : name = key
    · rw [hkey, List.lookup_cons_self]
      simp
    · have hname : (name == key) = false := by simpa using hkey
      rw [List.lookup_cons, hname]
      simp [hkey, ih]

/-- An alias that is declared already, if it is declared at all, stands for the same entity then as
later. -/
theorem lookup_eq_of_first {ps qs : List (String × String)} {name : String} (hsub : qs ⊆ ps)
    (hone : ∀ d ∈ ps, ∀ e ∈ ps, d.1 = e.1 → d.2 = e.2)
    (hfirst : name ∈ ps.map Prod.fst → name ∈ qs.map Prod.fst) :
    qs.reverse.lookup name = ps.reverse.lookup name := by
  by_cases hname : name ∈ ps.map Prod.fst
  · have hp : (ps.reverse.lookup name).isSome = true := isSome_lookup.mpr (by simpa using hname)
    have hq : (qs.reverse.lookup name).isSome = true :=
      isSome_lookup.mpr (by simpa using hfirst hname)
    obtain ⟨entity, hentity⟩ := Option.isSome_iff_exists.mp hp
    obtain ⟨entity', hentity'⟩ := Option.isSome_iff_exists.mp hq
    have hmem := List.mem_reverse.mp (mem_of_lookup hentity)
    have hmem' := List.mem_reverse.mp (mem_of_lookup hentity')
    have hsame : entity' = entity := hone _ (hsub hmem') _ hmem rfl
    rw [hentity, hentity', hsame]
  · have hqs : name ∉ qs.map Prod.fst := fun hq => hname (List.map_subset _ hsub hq)
    have hp : (ps.reverse.lookup name).isSome = false := by
      rw [Bool.eq_false_iff, Ne, isSome_lookup]
      simpa using hname
    have hq : (qs.reverse.lookup name).isSome = false := by
      rw [Bool.eq_false_iff, Ne, isSome_lookup]
      simpa using hqs
    rw [Option.isSome_eq_false_iff, Option.isNone_iff_eq_none] at hp hq
    rw [hp, hq]

theorem declaredAliases_append (ns ms : List Node) :
    declaredAliases (ns ++ ms) = declaredAliases ns ++ declaredAliases ms := by
  simp [declaredAliases, declared]

theorem declared_append (ns ms : List Node) : declared (ns ++ ms) = declared ns ++ declared ms := by
  simp [declared]

namespace Node

variable {node : Node}

/-- A node that is met behind others stands at the position of which they are the front. -/
theorem get_of_met {before after : List Node} {m : Node} (hmet : node.met = before ++ m :: after) :
    ∃ i : Fin node.met.length, node.met.get i = m ∧ node.met.take i = before := by
  have hlt : before.length < node.met.length := by simp [hmet]
  exact ⟨⟨before.length, hlt⟩, by simp [hmet], by simp [hmet]⟩

theorem DeclaredFirst.alias {before after : List Node} {first : String} {rest : List String}
    (hd : node.DeclaredFirst) (hmet : node.met = before ++ .path (first :: rest) :: after) :
    (declaredAliases before).reverse.lookup first = node.aliasEntity? first := by
  refine lookup_eq_of_first ?_ hd.oneEntity ?_
  · rw [hmet, declaredAliases_append]
    exact List.subset_append_left _ _
  · obtain ⟨i, hget, htake⟩ := get_of_met hmet
    have hfirst := hd.aliasFirst i first (by rw [hget]; rfl)
    rwa [htake] at hfirst

theorem DeclaredFirst.entity {before after : List Node} {first second : String} {rest : List String}
    (hd : node.DeclaredFirst) (hmet : node.met = before ++ .path (first :: second :: rest) :: after)
    (hnone : node.aliasEntity? first = none) :
    first ∈ (declared before).map Prod.fst ↔ first ∈ (declared node.met).map Prod.fst := by
  constructor
  · rw [hmet, declared_append, List.map_append]
    exact fun h => List.mem_append_left _ h
  · obtain ⟨i, hget, htake⟩ := get_of_met hmet
    have hfirst := hd.entityFirst i first (by rw [hget]; rfl)
    rw [htake] at hfirst
    refine hfirst fun hname => ?_
    have hsome : (node.aliasEntity? first).isSome = true := isSome_lookup.mpr (by simpa using hname)
    rw [hnone] at hsome
    cases hsome

/-- Where a path is met, it belongs to the entity that it belongs to in the whole statement. -/
theorem pathOwner?_of_prefix (hd : node.DeclaredFirst) {before after : List Node}
    {parts : List String} (hmet : node.met = before ++ .path parts :: after) {a : Analysis}
    (hentities : a.metadata.entities = ((declared before).map Prod.fst).eraseDups)
    (haliases : a.metadata.aliases = .ofList (declaredAliases before))
    (htarget : a.target = node.target?) :
    a.pathOwner? parts = node.pathOwner? parts := by
  have hlookup : ∀ name, a.metadata.entityOf? name =
      (declaredAliases before).reverse.lookup name := by
    intro name
    rw [Metadata.entityOf?, haliases, Registry.get?_ofList]
  rcases parts with _ | ⟨name, _ | ⟨second, rest⟩⟩
  · rfl
  · have hname : a.metadata.isAlias name = (node.aliasEntity? name).isSome := by
      rw [← hd.alias hmet, ← hlookup]
      exact (Registry.isSome_get? _ _).symm
    show (if a.metadata.isAlias name then none else a.target) = _
    rw [hname, htarget]
    rfl
  · have hentity := hd.alias hmet
    rw [← hlookup] at hentity
    show Analysis.owner? a.metadata name = node.denotes? name
    unfold Analysis.owner? denotes?
    rw [hentity]
    cases hnone : node.aliasEntity? name with
    | some entity => rfl
    | none =>
      have hhas : a.metadata.hasEntity name = true ↔ name ∈ (declared node.met).map Prod.fst := by
        rw [Metadata.hasEntity, hentities, List.contains_iff_mem, List.mem_eraseDups]
        exact hd.entity hmet hnone
      simp only [hhas]

/-! ## Runs -/

/-- The nodes below a statement neither lead into an update or delete nor out of one. -/
theorem run_target_below {ms : List Node} (h : ∀ m ∈ ms, WellFormed m) {a b : Analysis}
    (hrun : a.run (ms.flatMap opening) = (b, none)) : b.target = a.target := by
  have hinner : ∀ v ∈ ms.flatMap opening, v.Inner := by
    intro v hv
    obtain ⟨m, hm, hvm⟩ := List.mem_flatMap.mp hv
    refine visits_inner (h m hm) v ?_
    rw [visits_eq, List.append_assoc]
    exact List.mem_append_left _ hvm
  obtain ⟨c, hc, htarget⟩ := Analysis.run_inner a hinner
  rw [hrun] at hc
  cases hc
  exact htarget

/-- A select statement itself has no target, fills no fields and opens with nothing. -/
theorem opening_select (h : node.statementKind? = some .select) :
    node.opening = [] ∧ node.target? = none ∧ node.fills = [] := by
  cases node with
  | select => exact ⟨rfl, rfl, rfl⟩
  | _ => cases h

theorem ne_path_of_statement (h : WellFormedStatement node) (parts : List String) :
    node ≠ .path parts := by
  rintro rfl
  cases h with
  | query _ hk => cases hk

/-- A statement leads into its target. -/
theorem run_target_opening (h : WellFormedStatement node) {a b : Analysis} (ha : a.target = none)
    (hrun : a.run node.opening = (b, none)) : b.target = node.target? := by
  cases h with
  | query _ hk =>
    obtain ⟨hopening, htarget, -⟩ := opening_select hk
    rw [hopening] at hrun
    cases hrun
    rw [ha, htarget]
  | update | delete =>
    cases hrun
    rfl
  | insert hp ht h =>
    have hinner := visits_insert_inner hp ht h
    rw [visits_eq, List.append_assoc] at hinner
    obtain ⟨c, hc, htarget⟩ := Analysis.run_inner a fun v hv => hinner v (List.mem_append_left _ hv)
    rw [hrun] at hc
    cases hc
    exact htarget.trans ha

/-- In a node that is no path no paths are met. -/
theorem mention_notMem_opening {n : Node} (h : ∀ parts, n ≠ .path parts) (parts : List String) :
    .mention parts ∉ n.opening := by
  cases n with
  | path ps => exact absurd rfl (h ps)
  | join kind along asName fetch condition =>
    show .mention parts ∉ Visit.ofJoin along asName
    unfold Visit.ofJoin
    split
    · simp
    · split
      · simp
      · split <;> simp
  | insert entity targets source =>
    simp only [opening, List.mem_cons, List.mem_map, reduceCtorEq, false_or, not_exists, not_and]
    intro t _ htarget
    unfold Visit.ofTarget at htarget
    split at htarget <;> cases htarget
  | _ => simp [opening]

/-- Only inserts fill fields. -/
theorem filled_notMem_opening {n : Node} (h : WellFormed n) (entity field : String) :
    .filled entity field ∉ n.opening := by
  intro hv
  cases needs_wellFormed h _ hv

theorem filled_mem_opening (h : WellFormedStatement node) (entity field : String) :
    .filled entity field ∈ node.opening ↔ (entity, field) ∈ node.fills := by
  cases h with
  | query _ hk =>
    obtain ⟨hopening, -, hfills⟩ := opening_select hk
    simp [hopening, hfills]
  | update | delete => simp [opening, fills]
  | @insert parts targets query _ ht _ =>
    simp only [opening, fills, List.mem_cons, reduceCtorEq, false_or, List.mem_map,
      List.mem_filterMap]
    refine exists_congr fun t => and_congr_right fun htm => ?_
    obtain ⟨ps, rfl, -⟩ := ht t htm
    simp [Visit.ofTarget, pathText, Except.toOption]

/-- The fields that a run adds from some node of a statement on are those of the whole statement. -/
theorem run_fields (h : WellFormedStatement node) (hd : node.DeclaredFirst) {query : String}
    {kind : StatementKind} {book : Log.Book} {root : Node} {before ms : List Node}
    (hmet : node.met = root :: before ++ ms) {a b : Analysis}
    (hbefore : Analysis.run ⟨{ query, kind }, none, book⟩ ((root :: before).flatMap opening) =
      (a, none))
    (hrun : a.run (ms.flatMap opening) = (b, none)) (entity field : String) :
    field ∈ b.metadata.fieldsOf entity ↔ field ∈ a.metadata.fieldsOf entity ∨
      ∃ parts, .path parts ∈ ms ∧ node.pathOwner? parts = some entity ∧
      field ∈ fieldNames parts := by
  induction ms generalizing before a with
  | nil =>
    cases hrun
    simp
  | cons m ms ih =>
    have hmet' : node.met = root :: (before ++ [m]) ++ ms := by rw [hmet]; simp
    obtain ⟨rfl, hwell⟩ := wellFormed_of_met h hmet'
    obtain ⟨c, hopening, hrest⟩ := Analysis.run_split hrun
    have hnext : Analysis.run ⟨{ query, kind }, none, book⟩
        ((node :: (before ++ [m])).flatMap opening) = (c, none) := by
      rw [← List.cons_append, List.flatMap_append, Analysis.run_append hbefore]
      simpa using hopening
    rw [ih hmet' hnext hrest]
    have hstep : field ∈ c.metadata.fieldsOf entity ↔ field ∈ a.metadata.fieldsOf entity ∨
        ∃ parts, m = .path parts ∧ node.pathOwner? parts = some entity ∧
        field ∈ fieldNames parts := by
      by_cases hpath : ∃ parts, m = .path parts
      · obtain ⟨parts, rfl⟩ := hpath
        obtain ⟨c', hmention, hdone⟩ := Analysis.run_cons hopening
        cases hdone
        -- What the analysis knows at this point comes from the nodes before.
        obtain ⟨hentities, haliases, -⟩ := run_met h hmet hbefore
        have htarget : a.target = node.target? := by
          obtain ⟨start, hroot, hbelow⟩ := Analysis.run_split hbefore
          rw [run_target_below (fun m hm => hwell m (List.mem_append_left _ hm)) hbelow]
          exact run_target_opening h rfl hroot
        have howner := pathOwner?_of_prefix hd hmet hentities haliases htarget
        rw [Analysis.step_fields hmention]
        show _ ∨ a.pathOwner? parts = some entity ∧ _ ↔ _
        rw [howner]
        simp
      · have hnone : ∀ parts, m ≠ .path parts := fun parts hm => hpath ⟨parts, hm⟩
        rw [Analysis.run_filled (mention_notMem_opening hnone) hopening]
        simp [filled_notMem_opening (hwell m (by simp)), hnone]
    rw [hstep, or_assoc]
    refine or_congr_right ?_
    simp only [List.mem_cons, eq_comm (a := m)]
    grind

/-- The metadata of a statement has the fields of the statement, each of them once. -/
theorem analyze_hasField (h : WellFormedStatement node) (hd : node.DeclaredFirst) (query : String)
    (book : Log.Book) :
    ∃ m, ((node.analyze query).run book).1 = .ok m ∧ m.Distinct ∧
      (∀ entity field, field ∈ m.fieldsOf entity ↔ node.HasField entity field) ∧
      ∀ name, m.entityOf? name = node.aliasEntity? name := by
  obtain ⟨kind, last, -, hrun, hm⟩ := analyze_met h query book
  obtain ⟨-, haliases, -⟩ := run_met h (List.append_nil _).symm hrun
  have hempty : Metadata.Distinct { query, kind } := fun entity => List.nodup_nil
  refine ⟨last.metadata, hm, Analysis.run_distinct hempty hrun, ?_, ?_⟩
  · intro entity field
    have hmet : node.met = node :: [] ++ node.inspected.flatMap met := met_eq node
    rw [hmet, List.flatMap_append] at hrun
    obtain ⟨a, hroot, hrest⟩ := Analysis.run_split hrun
    have hopening : Analysis.run ⟨{ query, kind }, none, book⟩ node.opening = (a, none) := by
      simpa using hroot
    have hstatement := ne_path_of_statement h
    rw [run_fields h hd hmet hroot hrest,
      Analysis.run_filled (mention_notMem_opening hstatement) hopening, filled_mem_opening h,
      HasField, hmet, or_comm]
    simp [Metadata.fieldsOf, Registry.get?, hstatement, eq_comm (b := node)]
  · intro name
    rw [Metadata.entityOf?, haliases, Registry.get?_ofList]
    rfl

end Node

end EntityQuery
