import EntityQuery.Proofs.Metadata.Order
import EntityQuery.Proofs.Sql.TreeText

/-!
# What a statement declares

A target, a source and a join each declare an entity, a join the one that its path leads to as far
as names tell. Entities, aliases and join paths of the metadata are what is declared in the
statement and its sub-queries, and nothing else: where a field is entered, its entity has been
declared before.

1. `run_entities`: the entities after a run are those that it was declared, in order. The invariant
   is `Grounded`.
2. `run_aliases`, `run_joinPaths`: aliases and join paths are entered in turn.
3. `analyze_declared`: the metadata of a statement.
-/

namespace EntityQuery

open Sql Grammar

/-! ## Declarations -/

namespace Node

/-- The entity that a node declares, with its alias. -/
def declares? : Node → Option (String × Option String)
  | .update entity asName _ _ | .delete entity asName _ | .fromItem entity asName _ =>
    some (entity, asName)
  | .insert entity _ _ => some (entity, none)
  | .join _ (.path parts) asName _ _ =>
    (inferEntity parts).toOption.map fun entity => (entity, asName)
  | _ => none

/-- The path of several names that a join follows. -/
def follows? : Node → Option JoinPath
  | .join _ (.path (first :: second :: rest)) asName _ _ =>
    (inferEntity (first :: second :: rest)).toOption.map fun entity =>
      ⟨first, dotted (first :: second :: rest), asName, some entity⟩
  | _ => none

end Node

/-- The entities that nodes declare, each with its alias. -/
def declared (ns : List Node) : List (String × Option String) :=
  ns.filterMap Node.declares?

/-- The aliases that nodes declare, each with its entity. -/
def declaredAliases (ns : List Node) : List (String × String) :=
  (declared ns).filterMap fun d => d.2.map fun name => (name, d.1)

/-- The paths that joins among nodes follow. -/
def followed (ns : List Node) : List JoinPath :=
  ns.filterMap Node.follows?

namespace Visit

/-- The entity that is declared, with its alias. -/
def declares? : Visit → Option (String × Option String)
  | .declare entity asName => some (entity, asName)
  | _ => none

/-- The alias that is declared, with its entity. -/
def alias? (v : Visit) : Option (String × String) :=
  v.declares?.bind fun d => (given? d.2).map fun name => (name, d.1)

/-- The join path that is met. -/
def follows? : Visit → Option JoinPath
  | .joined join => some join
  | _ => none

/-- The entity that must have been declared before. -/
def needs? : Visit → Option String
  | .filled entity _ | .enter entity => some entity
  | _ => none

end Visit

/-! ## Nodes and what is met in them -/

namespace Node

theorem filterMap_ofTarget {β : Type} {pick : Visit → Option β}
    (hf : ∀ entity field, pick (.filled entity field) = none)
    (hb : ∀ fault, pick (.broken fault) = none) (entity : String) (targets : List Node) :
    (targets.map (Visit.ofTarget entity)).filterMap pick = [] := by
  simp only [List.filterMap_eq_nil_iff, List.mem_map]
  rintro v ⟨t, -, rfl⟩
  unfold Visit.ofTarget
  split
  · exact hf _ _
  · exact hb _

theorem opening_declares (n : Node) : n.opening.filterMap Visit.declares? = n.declares?.toList := by
  cases n with
  | join kind along asName fetch condition =>
    cases along with
    | path parts =>
      simp only [opening, Visit.ofJoin, pathParts, declares?]
      cases inferEntity parts with
      | error f => rfl
      | ok entity =>
        dsimp only
        split <;> rfl
    | _ => rfl
  | insert entity targets source =>
    rw [opening, List.filterMap_cons, filterMap_ofTarget (fun _ _ => rfl) fun _ => rfl]
    rfl
  | _ => rfl

theorem opening_follows (n : Node) : n.opening.filterMap Visit.follows? = n.follows?.toList := by
  cases n with
  | join kind along asName fetch condition =>
    cases along with
    | path parts =>
      match parts with
      | [] | [_] => rfl
      | first :: second :: rest =>
        simp only [opening, Visit.ofJoin, pathParts, follows?]
        cases inferEntity (first :: second :: rest) <;> rfl
    | _ => rfl
  | insert entity targets source =>
    rw [opening, List.filterMap_cons, filterMap_ofTarget (fun _ _ => rfl) fun _ => rfl]
    rfl
  | _ => rfl

/-- What is picked from the visits of nodes is read off the nodes. -/
theorem opening_filterMap {β : Type} {pick : Visit → Option β} {read : Node → Option β}
    (h : ∀ n : Node, n.opening.filterMap pick = (read n).toList) (ns : List Node) :
    (ns.flatMap opening).filterMap pick = ns.filterMap read := by
  rw [List.filterMap_flatMap, List.filterMap_eq_flatMap_toList]
  exact List.flatMap_congr fun n _ => h n

theorem wellFormed_of_mem_below {m n : Node} (h : WellFormed n) (hm : m ∈ n.met) :
    WellFormed m := by
  rcases mem_met.mp hm with rfl | ⟨c, hc, hmc⟩
  · exact h
  · exact wellFormed_of_mem_below (h.children c (inspected_subset hc)) hmc
termination_by sizeOf n
decreasing_by exact sizeOf_lt_of_mem_children (inspected_subset hc)

/-- The nodes that are met in a statement are the statement and trees that can stand below it. -/
theorem wellFormed_of_met {n m : Node} (h : WellFormedStatement n) {ms rest : List Node}
    (hms : n.met = m :: ms ++ rest) :
    n = m ∧ ∀ m ∈ ms, WellFormed m := by
  rw [met_eq, List.cons_append] at hms
  obtain ⟨hroot, htail⟩ := List.cons.inj hms
  refine ⟨hroot, fun m hm => ?_⟩
  obtain ⟨c, hc, hmc⟩ := List.mem_flatMap.mp (htail ▸ List.mem_append_left rest hm)
  exact wellFormed_of_mem_below (h.children c (inspected_subset hc)) hmc

/-- An alias that is declared is a name. -/
theorem ne_empty_of_declares {n : Node} (h : WellFormed n ∨ WellFormedStatement n)
    {entity name : String} (hd : n.declares? = some (entity, some name)) : name ≠ "" := by
  have hwell : WellFormed n → name ≠ "" := by
    intro h
    cases h with
    | join _ ha _ =>
      obtain ⟨_, -, heq⟩ := Option.map_eq_some_iff.mp hd
      exact ne_empty_of_nameText ha name (Prod.mk.inj heq).2
    | fromItem _ ha _ _ => exact ne_empty_of_nameText ha name (Prod.mk.inj (Option.some.inj hd)).2
    | _ => cases hd
  rcases h with h | h
  · exact hwell h
  · cases h with
    | query h _ => exact hwell h
    | update _ ha _ _ _ | delete _ ha _ =>
      exact ne_empty_of_nameText ha name (Prod.mk.inj (Option.some.inj hd)).2
    | insert => cases hd

theorem opening_aliases {ns : List Node} (h : ∀ n ∈ ns, WellFormed n ∨ WellFormedStatement n) :
    (ns.flatMap opening).filterMap Visit.alias? = declaredAliases ns := by
  have hpick : Visit.alias? = fun v => v.declares?.bind fun d => (given? d.2).map fun name =>
      (name, d.1) := rfl
  rw [hpick, ← List.filterMap_filterMap, opening_filterMap opening_declares]
  refine List.filterMap_congr fun d hd => ?_
  obtain ⟨n, hn, hdn⟩ := List.mem_filterMap.mp hd
  rw [given_eq]
  intro name hname
  have hdeclares : n.declares? = some (d.1, some name) := by rw [hdn, ← hname]
  exact ne_empty_of_declares (h n hn) hdeclares

end Node

/-! ## Steps -/

namespace Analysis

variable {a b : Analysis}

/-- The entities of aliases and of the target have been declared. -/
structure Grounded (a : Analysis) : Prop where
  aliases : ∀ name entity, a.metadata.entityOf? name = some entity → entity ∈ a.metadata.entities
  target : ∀ entity ∈ a.target, entity ∈ a.metadata.entities

theorem entities_addField {m : Metadata} {entity : String} (h : entity ∈ m.entities)
    (field : String) :
    (m.addField entity field).entities = m.entities := by
  have hcontains : m.entities.contains entity = true := List.contains_iff_mem.mpr h
  simp only [Metadata.addField, appendNew, hcontains, if_true]

theorem entities_addLonger (rest : List String) {m : Metadata} {entity : String}
    (h : entity ∈ m.entities) (field : String) :
    (addLonger m entity field rest).entities = m.entities := by
  induction rest generalizing m field with
  | nil => rfl
  | cons name rest ih =>
    have hfield := entities_addField h (field ++ "." ++ name)
    rw [addLonger, ih (by rwa [hfield]), hfield]

theorem owner_mem_entities (h : a.Grounded) {first entity : String}
    (ho : owner? a.metadata first = some entity) :
    entity ∈ a.metadata.entities := by
  unfold owner? at ho
  split at ho
  · next e he =>
    cases ho
    exact h.aliases _ _ he
  · split at ho
    · next hd =>
      cases ho
      exact List.contains_iff_mem.mp hd
    · cases ho

/-- A path adds no entity: the one that it belongs to has been declared. -/
theorem mention_entities (h : a.Grounded) {parts : List String} (hm : a.mention parts = .ok b) :
    b.metadata.entities = a.metadata.entities := by
  unfold mention at hm
  split at hm
  · cases hm
  · split at hm
    · next entity htarget =>
      cases hm
      split
      · rfl
      · exact entities_addField (h.target entity htarget) _
    · cases hm
      rfl
  · split at hm
    · next entity howner =>
      have hmem := owner_mem_entities h howner
      cases hm
      have hfield := entities_addField hmem
      rw [addPath, entities_addLonger _ (by rwa [hfield]), hfield]
    · cases hm
      rfl

theorem mention_target {parts : List String} (hm : a.mention parts = .ok b) :
    b.target = a.target := by
  unfold mention at hm
  split at hm
  · cases hm
  · split at hm <;> cases hm
    · split <;> rfl
    · rfl
  · split at hm <;> cases hm <;> rfl

/-- A step adds the entity that it is declared, and no other. -/
theorem step_entities {v : Visit} (hg : a.Grounded) (hv : ∀ e ∈ v.needs?, e ∈ a.metadata.entities)
    (h : a.step v = .ok b) :
    b.metadata.entities = v.declares?.elim a.metadata.entities fun d =>
      appendNew a.metadata.entities d.1 := by
  cases v with
  | declare entity asName =>
    cases h
    unfold Metadata.addEntity
    cases given? asName <;> rfl
  | filled entity field =>
    cases h
    exact entities_addField (hv entity rfl) field
  | mention parts => exact mention_entities hg h
  | broken => cases h
  | _ =>
    cases h
    rfl

theorem step_aliases_elim {v : Visit} (h : a.step v = .ok b) :
    b.metadata.aliases = v.alias?.elim a.metadata.aliases fun p =>
      a.metadata.aliases.put p.1 p.2 := by
  rw [step_aliases h]
  cases v with
  | declare entity asName =>
    simp only [Visit.aliasesAfter, Visit.alias?, Visit.declares?, Option.bind_some]
    cases given? asName <;> rfl
  | _ => rfl

theorem step_joinPaths {v : Visit} (h : a.step v = .ok b) :
    b.metadata.joinPaths = v.follows?.elim a.metadata.joinPaths fun j =>
      a.metadata.joinPaths.put j.path j := by
  cases v with
  | declare entity asName =>
    cases h
    unfold Metadata.addEntity
    cases given? asName <;> rfl
  | mention parts =>
    obtain ⟨entities, fields, hm⟩ := mention_metadata h
    rw [hm]
    rfl
  | broken => cases h
  | _ =>
    cases h
    rfl

/-- A step keeps the analysis grounded. -/
theorem step_grounded {v : Visit} (hg : a.Grounded) (hv : ∀ e ∈ v.needs?, e ∈ a.metadata.entities)
    (h : a.step v = .ok b) : b.Grounded := by
  have hentities := step_entities hg hv h
  have haliases := step_aliases_elim h
  have hmono : ∀ e ∈ a.metadata.entities, e ∈ b.metadata.entities := by
    intro e he
    rw [hentities]
    cases v.declares? with
    | none => exact he
    | some d => exact mem_appendNew.mpr (.inl he)
  refine ⟨?_, ?_⟩
  · intro name entity hname
    unfold Metadata.entityOf? at hname
    rw [haliases, Visit.alias?] at hname
    cases hd : v.declares? with
    | none =>
      rw [hd] at hname
      exact hmono _ (hg.aliases name entity hname)
    | some d =>
      have hnew : d.1 ∈ b.metadata.entities := by
        rw [hentities, hd]
        exact mem_appendNew.mpr (.inr rfl)
      rw [hd, Option.bind_some] at hname
      cases hgiven : given? d.2 with
      | none =>
        rw [hgiven] at hname
        exact hmono _ (hg.aliases name entity hname)
      | some own =>
        rw [hgiven, Option.map_some, Option.elim_some] at hname
        by_cases hown : own = name
        · rw [hown, Registry.get?_put_self (.ofLawful _)] at hname
          rwa [← Option.some.inj hname]
        · rw [Registry.get?_put_of_ne (.ofLawful _) (.ofLawful _) hown] at hname
          exact hmono _ (hg.aliases name entity hname)
  · intro entity htarget
    cases v with
    | enter own =>
      cases h
      exact Option.some.inj htarget ▸ hv own rfl
    | leave =>
      cases h
      cases htarget
    | mention parts =>
      rw [mention_target h] at htarget
      exact hmono _ (hg.target _ htarget)
    | broken => cases h
    | _ =>
      cases h
      exact hmono _ (hg.target _ htarget)

/-! ## Runs -/

/-- Whatever has to be declared before is declared at the front. -/
def Founded (vs : List Visit) : Prop :=
  ∀ v ∈ vs, ∀ e ∈ v.needs?, ∃ asName rest, vs = .declare e asName :: rest

/-- The entities after a run, in the order in which they were declared. -/
theorem run_entities {vs : List Visit} (hv : Founded vs) (hg : a.Grounded)
    (h : a.run vs = (b, none)) :
    b.metadata.entities =
      ((vs.filterMap Visit.declares?).map Prod.fst).foldl appendNew a.metadata.entities := by
  cases vs with
  | nil =>
    cases h
    rfl
  | cons v rest =>
    obtain ⟨c, hstep, hrun⟩ := run_cons h
    have hfront : ∀ e ∈ v.needs?, e ∈ a.metadata.entities := by
      intro e he
      obtain ⟨asName, more, heq⟩ := hv v List.mem_cons_self e he
      rw [(List.cons.inj heq).1] at he
      cases he
    have hentities := step_entities hg hfront hstep
    -- What the rest needs is what was declared at the front, and it stays declared.
    have hneeds : ∀ w ∈ rest, ∀ e ∈ w.needs?, e ∈ c.metadata.entities := by
      intro w hw e he
      obtain ⟨asName, more, heq⟩ := hv w (List.mem_cons_of_mem _ hw) e he
      rw [hentities, (List.cons.inj heq).1]
      exact mem_appendNew.mpr (.inr rfl)
    have hlast :=
      (run_foldl (fun a => a.metadata.entities) Visit.declares? (fun es d => appendNew es d.1)
      (P := fun a => a.Grounded ∧ ∀ w ∈ rest, ∀ e ∈ w.needs?, e ∈ a.metadata.entities) ?_
      ⟨step_grounded hg hfront hstep, hneeds⟩ hrun).2
    · rw [List.foldl_map, List.filterMap_cons, hlast, hentities]
      cases v.declares? <;> rfl
    · rintro w hw a b ⟨hg, hneeds⟩ hstep
      have hstepped := step_entities hg (hneeds w hw) hstep
      refine ⟨⟨step_grounded hg (hneeds w hw) hstep, fun w' hw' e he => ?_⟩, hstepped⟩
      rw [hstepped]
      have hmem := hneeds w' hw' e he
      cases w.declares? with
      | none => exact hmem
      | some d => exact mem_appendNew.mpr (.inl hmem)

/-- The aliases after a run, entered in turn. -/
theorem run_aliases {vs : List Visit} (h : a.run vs = (b, none)) :
    b.metadata.aliases =
      (vs.filterMap Visit.alias?).foldl (fun r p => r.put p.1 p.2) a.metadata.aliases :=
  (run_foldl (fun a => a.metadata.aliases) Visit.alias? (fun r p => r.put p.1 p.2)
    (P := fun _ => True) (fun _ _ _ _ _ hstep => ⟨trivial, step_aliases_elim hstep⟩) trivial h).2

/-- The join paths after a run, entered in turn. -/
theorem run_joinPaths {vs : List Visit} (h : a.run vs = (b, none)) :
    b.metadata.joinPaths =
      (vs.filterMap Visit.follows?).foldl (fun r j => r.put j.path j) a.metadata.joinPaths :=
  (run_foldl (fun a => a.metadata.joinPaths) Visit.follows? (fun r j => r.put j.path j)
    (P := fun _ => True) (fun _ _ _ _ _ hstep => ⟨trivial, step_joinPaths hstep⟩) trivial h).2

end Analysis

/-! ## Statements -/

namespace Node

theorem needs_wellFormed {n : Node} (h : WellFormed n) : ∀ v ∈ n.opening, v.needs? = none := by
  cases h with
  | join hp =>
    obtain ⟨entity, he⟩ := inferEntity_ok hp
    simp only [opening, Visit.ofJoin, pathParts, he, List.forall_mem_cons]
    refine ⟨rfl, ?_⟩
    split <;> simp [Visit.needs?]
  | _ => simp [opening, plainCall, Visit.needs?]

theorem needs_statement {n : Node} (h : WellFormedStatement n) {v : Visit} (hv : v ∈ n.opening)
    {e : String} (he : e ∈ v.needs?) : ∃ asName rest, n.opening = .declare e asName :: rest := by
  cases h with
  | query h =>
    rw [needs_wellFormed h v hv] at he
    cases he
  | update | delete =>
    simp only [opening, List.mem_cons, List.not_mem_nil, or_false] at hv
    rcases hv with rfl | rfl
    · cases he
    · cases he
      exact ⟨_, _, rfl⟩
  | insert _ ht =>
    rcases List.mem_cons.mp hv with rfl | hv
    · cases he
    · obtain ⟨t, htm, rfl⟩ := List.mem_map.mp hv
      obtain ⟨parts, rfl, -⟩ := ht t htm
      cases he
      exact ⟨_, _, rfl⟩

/-- Whatever has to be declared before is declared by the statement itself, at its front. -/
theorem founded_met {n : Node} (h : WellFormedStatement n) {ms rest : List Node}
    (hms : n.met = ms ++ rest) :
    Analysis.Founded (ms.flatMap opening) := by
  cases ms with
  | nil => exact nofun
  | cons m ms =>
    obtain ⟨rfl, hbelow⟩ := wellFormed_of_met h hms
    intro v hv e he
    rw [List.flatMap_cons] at hv ⊢
    rcases List.mem_append.mp hv with hv | hv
    · obtain ⟨asName, more, hopening⟩ := needs_statement h hv he
      exact ⟨asName, more ++ ms.flatMap opening, by rw [hopening, List.cons_append]⟩
    · obtain ⟨m, hm, hvm⟩ := List.mem_flatMap.mp hv
      rw [needs_wellFormed (hbelow m hm) v hvm] at he
      cases he

/-- What has been declared when an analysis comes to some node of a statement. -/
theorem run_met {n : Node} (h : WellFormedStatement n) {ms rest : List Node}
    (hms : n.met = ms ++ rest) {query : String} {kind : StatementKind} {book : Log.Book}
    {a : Analysis}
    (hrun : Analysis.run ⟨{ query, kind }, none, book⟩ (ms.flatMap opening) = (a, none)) :
    a.metadata.entities = ((declared ms).map Prod.fst).eraseDups ∧
      a.metadata.aliases = .ofList (declaredAliases ms) ∧
      a.metadata.joinPaths = .ofList ((followed ms).map fun j => (j.path, j)) := by
  refine ⟨?_, ?_, ?_⟩
  · have hstart : Analysis.Grounded ⟨{ query, kind }, none, book⟩ := by
      refine ⟨fun name entity hname => ?_, fun entity htarget => ?_⟩
      · cases hname
      · cases htarget
    rw [Analysis.run_entities (founded_met h hms) hstart hrun, opening_filterMap opening_declares]
    exact foldl_appendNew_nil _
  · have hmet : ∀ m ∈ ms, WellFormed m ∨ WellFormedStatement m := by
      cases ms with
      | nil => simp
      | cons m ms =>
        obtain ⟨rfl, hbelow⟩ := wellFormed_of_met h hms
        exact List.forall_mem_cons.mpr ⟨.inr h, fun m hm => .inl (hbelow m hm)⟩
    rw [Analysis.run_aliases hrun, opening_aliases hmet]
    rfl
  · rw [Analysis.run_joinPaths hrun, opening_filterMap opening_follows, Registry.ofList,
      List.foldl_map]
    rfl

section

variable {node n : Node} {query : String} {m : Metadata} {book : Log.Book}

/-- The entities of a statement are those that its nodes declare. -/
theorem mem_entities_of_declares (h : WellFormedStatement node)
    (hm : ((node.analyze query).run book).1 = .ok m) (hn : n ∈ node.nodes true) {entity : String}
    {asName : Option String} (hd : n.declares? = some (entity, asName)) :
    entity ∈ m.entities := by
  obtain ⟨kind, last, -, hrun, hlast⟩ := Node.analyze_met h query book
  obtain rfl : last.metadata = m := Except.ok.inj (hlast.symm.trans hm)
  rw [(Node.run_met h (List.append_nil _).symm hrun).1, List.mem_eraseDups]
  have hmet : (entity, asName) ∈ declared node.met :=
    (Node.met_perm (.inr h) fun _ => rfl).mem_iff.mpr (List.mem_filterMap.mpr ⟨n, hn, hd⟩)
  exact List.mem_map_of_mem hmet

/-- The entities behind aliases are among the entities of the statement. -/
theorem mem_entities_of_entityOf? (h : WellFormedStatement node)
    (hm : ((node.analyze query).run book).1 = .ok m) {name entity : String}
    (he : m.entityOf? name = some entity) : entity ∈ m.entities := by
  obtain ⟨kind, last, -, hrun, hlast⟩ := Node.analyze_met h query book
  obtain rfl : last.metadata = m := Except.ok.inj (hlast.symm.trans hm)
  obtain ⟨hentities, haliases, -⟩ := Node.run_met h (List.append_nil _).symm hrun
  rw [Metadata.entityOf?, haliases, Registry.get?_ofList] at he
  obtain ⟨before, after, hsplit, -⟩ := List.lookup_eq_some_iff.mp he
  have halias : (name, entity) ∈ declaredAliases node.met := by
    rw [← List.mem_reverse, hsplit]
    exact List.mem_append_right _ List.mem_cons_self
  obtain ⟨d, hd, hname⟩ := List.mem_filterMap.mp halias
  obtain ⟨_, -, hpair⟩ := Option.map_eq_some_iff.mp hname
  rw [hentities, List.mem_eraseDups, ← (Prod.mk.inj hpair).2]
  exact List.mem_map_of_mem hd

end

end Node

theorem lookup_followed (js : List JoinPath) (text : String) :
    (js.map fun j => (j.path, j)).lookup text = js.find? fun j => j.path == text := by
  induction js with
  | nil => rfl
  | cons j js ih =>
    rw [List.map_cons]
    by_cases hj : j.path = text
    · rw [hj, List.lookup_cons_self]
      simp [hj]
    · have htext : (text == j.path) = false := by simpa using Ne.symm hj
      rw [List.lookup_cons, htext, List.find?_cons_of_neg (by simpa using hj)]
      exact ih

/--
The metadata of a query holds what its statement declares. Its entities are those of the
declarations, in the order in which they come first. So are its aliases, each with the entity that
it was declared with last, and the paths of its joins, each as it was followed last. All nodes of
the tree count, sub-queries included.
-/
theorem analyze_declared (maxDepth : Int) (query : String) (node : Node) (book : Log.Book)
    (hparse : parse maxDepth query = .ok node) :
    ∃ m, ((node.analyze query).run book).1 = .ok m ∧
      m.entities = ((declared node.met).map Prod.fst).eraseDups ∧
      m.aliases.keys = ((declaredAliases node.met).map Prod.fst).eraseDups ∧
      (∀ name, m.aliases.get? name = (declaredAliases node.met).reverse.lookup name) ∧
      m.joinPaths.keys = ((followed node.met).map JoinPath.path).eraseDups ∧
      (∀ text, m.joinPaths.get? text = (followed node.met).reverse.find? fun j => j.path == text) ∧
      (declared node.met).Perm (declared (node.nodes true)) ∧
      (followed node.met).Perm (followed (node.nodes true)) := by
  have h := wellFormed_of_parse hparse
  obtain ⟨kind, last, -, hrun, hm⟩ := Node.analyze_met h query book
  obtain ⟨hentities, haliases, hpaths⟩ := Node.run_met h (List.append_nil _).symm hrun
  refine ⟨last.metadata, hm, hentities, ?_, ?_, ?_, ?_, Node.met_perm (.inr h) fun _ => rfl,
    Node.met_perm (.inr h) fun _ => rfl⟩
  · rw [haliases, Registry.keys_ofList]
  · intro name
    rw [haliases, Registry.get?_ofList]
  · rw [hpaths, Registry.keys_ofList, List.map_map]
    rfl
  · intro text
    rw [hpaths, Registry.get?_ofList, ← List.map_reverse, lookup_followed]

/-- A sub-query takes an alias over, and a join goes along a path for the second time. -/
theorem analyze_declared_tags :
    ∃ query node m,
      query =
      ("SELECT x.id, (SELECT COUNT(y) FROM Item y JOIN y.tags x) " ++
       "FROM Sale x JOIN x.buyer b JOIN x.buyer") ∧
      parse 64 query = .ok node ∧ ((node.analyze query).run []).1 = .ok m ∧
      m.entities = ["Sale", "Buyer", "Item", "Tag"] ∧ m.aliases.keys = ["x", "b", "y"] ∧
      m.aliases.get? "x" = some "Tag" ∧ m.joinPaths.keys = ["x.buyer", "y.tags"] ∧
      m.joinPaths.get? "x.buyer" = some ⟨"x", "x.buyer", none, some "Buyer"⟩ := by
  have hparse : parse 64
      ("SELECT x.id, (SELECT COUNT(y) FROM Item y JOIN y.tags x) " ++
       "FROM Sale x JOIN x.buyer b JOIN x.buyer") =
      .ok (.select [.selectItem (.path ["x", "id"]) none, .selectItem (.subquery (.select
        [.selectItem (plainCall "COUNT" [.path ["y"]]) none]
        [.fromItem "Item" (some "y") [.join .plain (.path ["y", "tags"]) (some "x") false none]]
        false none [] none [])) none]
        [.fromItem "Sale" (some "x") [.join .plain (.path ["x", "buyer"]) (some "b") false none,
          .join .plain (.path ["x", "buyer"]) none false none]] false none [] none []) := by
    with_unfolding_all rfl
  obtain ⟨m, hm, hentities, hkeys, haliases, hpaths, hfollowed, -, -⟩ :=
    analyze_declared 64 _ _ [] hparse
  refine ⟨_, _, m, rfl, hparse, hm, ?_, ?_, ?_, ?_, ?_⟩
  · rw [hentities]
    decide +kernel
  · rw [hkeys]
    decide +kernel
  · rw [haliases]
    decide +kernel
  · rw [hpaths]
    decide +kernel
  · rw [hfollowed]
    decide +kernel

end EntityQuery
