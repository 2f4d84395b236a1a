import EntityQuery.Proofs.Metadata.Declared

/-!
# Collecting metadata

Metadata are collected by one addition after the other, and they can be taken at any time in
between. Names stay where they came first. An alias or a join path that comes again keeps its place
and takes its new value.

1. `Metadata.Consistent.add`, `Metadata.extendedBy_add`: what one addition keeps.
2. `Metadata.lists_foldl`: what additions leave behind, read off the additions.
3. `Metadata.builds_collected`: all metadata that are taken from one collection.
-/

namespace EntityQuery

/-! ## Additions -/

/-- What can be added to metadata. -/
inductive Addition where
  | entity (entity : String) (asName : Option String)
  | field (entity field : String)
  | parameter (name : String)
  | joinPath (join : JoinPath)
  deriving DecidableEq, Repr

namespace Addition

/-- The entity that is mentioned. -/
def entity? : Addition → Option String
  | .entity e _ | .field e _ => some e
  | _ => none

/-- The alias that is given, with its entity. An empty name is none. -/
def alias? : Addition → Option (String × String)
  | .entity e asName => (given? asName).map fun name => (name, e)
  | _ => none

/-- The field that is mentioned, behind its entity. -/
def field? : Addition → Option (String × String)
  | .field e f => some (e, f)
  | _ => none

/-- The parameter that is mentioned. -/
def parameter? : Addition → Option String
  | .parameter name => some name
  | _ => none

/-- The join path that is given. -/
def joinPath? : Addition → Option JoinPath
  | .joinPath join => some join
  | _ => none

end Addition

/-- What can be asked of a collection. -/
inductive Call where
  | add (a : Addition)
  /-- Takes the metadata as they are. -/
  | build
  deriving DecidableEq, Repr

/-- The addition that is asked for. -/
def Call.addition? : Call → Option Addition
  | .add a => some a
  | .build => none

namespace Metadata

variable {m m' m'' : Metadata}

/-- Makes an addition. -/
def add (m : Metadata) : Addition → Metadata
  | .entity entity asName => m.addEntity entity asName
  | .field entity field => m.addField entity field
  | .parameter name => m.addParameter name
  | .joinPath join => m.addJoinPath join

/-- The metadata that are taken while calls are made one after the other. -/
def builds (m : Metadata) : List Call → List Metadata
  | [] => []
  | .add a :: calls => (m.add a).builds calls
  | .build :: calls => m :: m.builds calls

/-! ## One addition -/

/-- Puts a field behind those of its entity. -/
def putField (fields : Registry String (List String)) (f : String × String) :
    Registry String (List String) :=
  fields.put f.1 (appendNew ((fields.get? f.1).getD []) f.2)

/-- What an addition does to each table. -/
theorem add_eq (m : Metadata) (a : Addition) :
    m.add a =
      { m with
        entities := a.entity?.elim m.entities (appendNew m.entities)
        aliases := a.alias?.elim m.aliases fun p => m.aliases.put p.1 p.2
        fields := a.field?.elim m.fields (putField m.fields)
        parameters := a.parameter?.elim m.parameters (appendNew m.parameters)
        joinPaths := a.joinPath?.elim m.joinPaths fun j => m.joinPaths.put j.path j } := by
  cases a with
  | entity entity asName =>
    simp only [add, addEntity, Addition.alias?]
    cases given? asName <;> rfl
  | _ => rfl

/-- No name is listed twice, aliases and fields belong to listed entities, and join paths stand
under their own texts. -/
structure Consistent (m : Metadata) : Prop where
  entities : m.entities.Nodup
  parameters : m.parameters.Nodup
  aliasNames : m.aliases.keys.Nodup
  aliases : ∀ e ∈ m.aliases.entries, e.2 ∈ m.entities
  fieldOwners : m.fields.keys.Nodup
  fields : ∀ e ∈ m.fields.entries, e.1 ∈ m.entities ∧ e.2 ≠ [] ∧ e.2.Nodup
  paths : m.joinPaths.keys.Nodup
  joinPaths : ∀ e ∈ m.joinPaths.entries, e.1 = e.2.path

theorem consistent_start (query : String) (kind : StatementKind) : Consistent { query, kind } := by
  constructor <;> simp [Registry.keys]

theorem Consistent.addField (h : m.Consistent) (entity field : String) :
    (m.addField entity field).Consistent := by
  have hkept : ∀ x ∈ m.entities, x ∈ appendNew m.entities entity :=
    fun x hx => Analysis.mem_appendNew.mpr (.inl hx)
  have hnew : entity ∈ appendNew m.entities entity := Analysis.mem_appendNew.mpr (.inr rfl)
  refine ⟨nodup_appendNew h.entities entity, h.parameters, h.aliasNames,
    fun e he => hkept _ (h.aliases e he),
    Registry.nodup_keys_put h.fieldOwners _ _, fun e he => ?_, h.paths, h.joinPaths⟩
  rcases Registry.mem_entries_put he with rfl | he
  · refine ⟨hnew, appendNew_ne_nil _ _, nodup_appendNew ?_ field⟩
    cases hfields : m.fields.get? entity with
    | none => exact List.nodup_nil
    | some fields => exact (h.fields _ (Registry.mem_entries_of_get? hfields)).2.2
  · exact ⟨hkept _ (h.fields e he).1, (h.fields e he).2⟩

theorem Consistent.addEntity (h : m.Consistent) (entity : String) (asName : Option String) :
    (m.addEntity entity asName).Consistent := by
  have hkept : ∀ x ∈ m.entities, x ∈ appendNew m.entities entity :=
    fun x hx => Analysis.mem_appendNew.mpr (.inl hx)
  have hnew : entity ∈ appendNew m.entities entity := Analysis.mem_appendNew.mpr (.inr rfl)
  have hentity : Consistent { m with entities := appendNew m.entities entity } :=
    { h with
      entities := nodup_appendNew h.entities entity
      aliases := fun e he => hkept _ (h.aliases e he)
      fields := fun e he => ⟨hkept _ (h.fields e he).1, (h.fields e he).2⟩ }
  unfold Metadata.addEntity
  cases given? asName with
  | none => exact hentity
  | some name =>
    refine { hentity with aliasNames := Registry.nodup_keys_put h.aliasNames _ _, aliases :=
      fun e he => ?_ }
    rcases Registry.mem_entries_put he with rfl | he
    · exact hnew
    · exact hentity.aliases e he

/-- An addition keeps metadata consistent. -/
theorem Consistent.add (h : m.Consistent) (a : Addition) : (m.add a).Consistent := by
  cases a with
  | entity entity asName => exact h.addEntity entity asName
  | field entity field => exact h.addField entity field
  | parameter name => exact { h with parameters := nodup_appendNew h.parameters name }
  | joinPath join =>
    refine { h with paths := Registry.nodup_keys_put h.paths _ _, joinPaths := fun e he => ?_ }
    rcases Registry.mem_entries_put he with rfl | he
    · rfl
    · exact h.joinPaths e he

/-- Nothing of earlier metadata is lost or moved in later ones. -/
structure ExtendedBy (m m' : Metadata) : Prop where
  entities : m.entities <+: m'.entities
  parameters : m.parameters <+: m'.parameters
  aliasNames : m.aliases.keys <+: m'.aliases.keys
  fieldOwners : m.fields.keys <+: m'.fields.keys
  fields : ∀ entity, m.fieldsOf entity <+: m'.fieldsOf entity
  paths : m.joinPaths.keys <+: m'.joinPaths.keys

theorem ExtendedBy.refl (m : Metadata) : m.ExtendedBy m :=
  ⟨List.prefix_rfl, List.prefix_rfl, List.prefix_rfl, List.prefix_rfl, fun _ => List.prefix_rfl,
    List.prefix_rfl⟩

theorem ExtendedBy.trans (h : m.ExtendedBy m') (h' : m'.ExtendedBy m'') : m.ExtendedBy m'' :=
  ⟨h.entities.trans h'.entities, h.parameters.trans h'.parameters, h.aliasNames.trans h'.aliasNames,
    h.fieldOwners.trans h'.fieldOwners, fun entity => (h.fields entity).trans (h'.fields entity),
    h.paths.trans h'.paths⟩

theorem get?_putField (fields : Registry String (List String)) (f : String × String)
    (entity : String) :
    ((putField fields f).get? entity).getD [] =
      if f.1 = entity then appendNew ((fields.get? entity).getD []) f.2
        else (fields.get? entity).getD [] := by
  unfold putField
  split
  · next h => rw [h, Registry.get?_put_self (.ofLawful _), Option.getD_some]
  · next h => rw [Registry.get?_put_of_ne (.ofLawful _) (.ofLawful _) h]

/-- An addition extends metadata. -/
theorem extendedBy_add (m : Metadata) (a : Addition) : m.ExtendedBy (m.add a) := by
  have hnames : ∀ (xs : List String) (x? : Option String), xs <+: x?.elim xs (appendNew xs) := by
    intro xs x?
    cases x? with
    | none => exact List.prefix_rfl
    | some x => exact prefix_appendNew xs x
  have hkeys : ∀ {α β : Type} (r : Registry String α) (x? : Option β) (k : β → String) (v : β → α),
      r.keys <+: (x?.elim r fun x => r.put (k x) (v x)).keys := by
    intro α β r x? k v
    cases x? with
    | none => exact List.prefix_rfl
    | some x =>
      show r.keys <+: (r.put (k x) (v x)).keys
      exact Registry.keys_put r (k x) (v x) ▸ prefix_appendNew r.keys (k x)
  rw [add_eq]
  refine ⟨hnames _ _, hnames _ _, hkeys _ _ _ _, hkeys _ _ _ _, fun entity => ?_, hkeys _ _ _ _⟩
  show m.fieldsOf entity <+: ((a.field?.elim m.fields (putField m.fields)).get? entity).getD []
  cases a.field? with
  | none => exact List.prefix_rfl
  | some f =>
    rw [Option.elim_some, get?_putField]
    split
    · exact prefix_appendNew _ _
    · exact List.prefix_rfl

/-! ## Many additions -/

/-- Metadata list what was added: names in the order in which they came first, aliases and join
paths with their last values. -/
structure Lists (m : Metadata) (additions : List Addition) : Prop where
  entities : m.entities = (additions.filterMap Addition.entity?).eraseDups
  parameters : m.parameters = (additions.filterMap Addition.parameter?).eraseDups
  aliasNames : m.aliases.keys = ((additions.filterMap Addition.alias?).map Prod.fst).eraseDups
  aliases : ∀ name, m.entityOf? name = (additions.filterMap Addition.alias?).reverse.lookup name
  fieldOwners : m.fields.keys = ((additions.filterMap Addition.field?).map Prod.fst).eraseDups
  fields : ∀ entity, m.fieldsOf entity =
    (((additions.filterMap Addition.field?).filter fun f => f.1 == entity).map Prod.snd).eraseDups
  paths : m.joinPaths.keys = ((additions.filterMap Addition.joinPath?).map JoinPath.path).eraseDups
  joinPaths : ∀ path, m.joinPaths.get? path =
    (additions.filterMap Addition.joinPath?).reverse.find? fun j => j.path == path

/-- What each addition does to a part of the metadata, many additions do in turn. -/
theorem foldl_add {σ δ : Type} (view : Metadata → σ) (pick : Addition → Option δ) (put : σ → δ → σ)
    (h : ∀ m a, view (m.add a) = (pick a).elim (view m) (put (view m))) (additions : List Addition)
    (m : Metadata) :
    view (additions.foldl add m) = (additions.filterMap pick).foldl put (view m) := by
  induction additions generalizing m with
  | nil => rfl
  | cons a additions ih =>
    rw [List.foldl_cons, ih, h, List.filterMap_cons]
    cases pick a <;> rfl

/-- The names that are mentioned one after the other, in a list that had none. -/
theorem foldl_add_names {δ : Type} (view : Metadata → List String) (pick : Addition → Option δ)
    (name : δ → String)
    (h : ∀ m a, view (m.add a) = (pick a).elim (view m) fun d => appendNew (view m) (name d))
    (additions : List Addition) {m : Metadata} (hm : view m = []) :
    view (additions.foldl add m) = ((additions.filterMap pick).map name).eraseDups := by
  rw [foldl_add view pick (fun names d => appendNew names (name d)) h, hm, ← foldl_appendNew_nil,
    List.foldl_map]

theorem lists_foldl (query : String) (kind : StatementKind) (additions : List Addition) :
    Lists (additions.foldl add { query, kind }) additions := by
  have haliases : (additions.foldl add { query, kind }).aliases =
      .ofList (additions.filterMap Addition.alias?) :=
    foldl_add aliases Addition.alias? (fun r p => r.put p.1 p.2) (fun m a => by rw [add_eq])
      additions _
  have hpaths : (additions.foldl add { query, kind }).joinPaths =
      .ofList ((additions.filterMap Addition.joinPath?).map fun j => (j.path, j)) := by
    rw [foldl_add joinPaths Addition.joinPath? (fun r j => r.put j.path j)
      (fun m a => by rw [add_eq]) additions, Registry.ofList, List.foldl_map]
  refine ⟨?_, ?_, ?_, fun name => ?_, ?_, fun entity => ?_, ?_, fun path => ?_⟩
  · rw [foldl_add entities Addition.entity? appendNew (fun m a => by rw [add_eq])]
    exact foldl_appendNew_nil _
  · rw [foldl_add parameters Addition.parameter? appendNew (fun m a => by rw [add_eq])]
    exact foldl_appendNew_nil _
  · rw [haliases, Registry.keys_ofList]
  · rw [entityOf?, haliases, Registry.get?_ofList]
  · refine foldl_add_names (fun m => m.fields.keys) Addition.field? Prod.fst (fun m a => ?_)
      additions rfl
    rw [add_eq]
    cases a.field? with
    | none => rfl
    | some f => exact Registry.keys_put _ _ _
  · rw [List.filter_filterMap]
    refine foldl_add_names (fun m => m.fieldsOf entity) _ Prod.snd (fun m a => ?_) additions rfl
    rw [add_eq]
    cases a.field? with
    | none => rfl
    | some f =>
      refine (get?_putField m.fields f entity).trans ?_
      rw [Option.filter_some]
      split <;> simp_all [fieldsOf]
  · rw [hpaths, Registry.keys_ofList, List.map_map]
    rfl
  · rw [hpaths, Registry.get?_ofList, ← List.map_reverse, lookup_followed]

/-! ## Metadata that are taken -/

theorem builds_append (m : Metadata) (before after : List Call) :
    m.builds (before ++ after) =
      m.builds before ++ ((before.filterMap Call.addition?).foldl add m).builds after := by
  induction before generalizing m with
  | nil => rfl
  | cons call before ih =>
    cases call with
    | add a => exact ih (m.add a)
    | build => exact congrArg (m :: ·) (ih m)

theorem length_builds (m : Metadata) (calls : List Call) :
    (m.builds calls).length = calls.count .build := by
  induction calls generalizing m with
  | nil => rfl
  | cons call calls ih =>
    cases call with
    | add a => rw [builds, ih, List.count_cons_of_ne (by simp)]
    | build => rw [builds, List.length_cons, ih, List.count_cons_self]

/-- What is taken later extends what is there now. -/
theorem extendedBy_of_mem_builds {calls : List Call} (h : m' ∈ m.builds calls) :
    m.ExtendedBy m' := by
  induction calls generalizing m with
  | nil => cases h
  | cons call calls ih =>
    cases call with
    | add a => exact (extendedBy_add m a).trans (ih h)
    | build =>
      rcases List.mem_cons.mp h with rfl | h
      · exact .refl _
      · exact ih h

theorem pairwise_builds (m : Metadata) (calls : List Call) :
    (m.builds calls).Pairwise ExtendedBy := by
  induction calls generalizing m with
  | nil => exact .nil
  | cons call calls ih =>
    cases call with
    | add a => exact ih (m.add a)
    | build => exact .cons (fun _ h => extendedBy_of_mem_builds h) (ih m)

/--
Metadata can be taken at any time. Whatever was added before, they are consistent, and list exactly
that: names in the order in which they came first, and aliases and join paths in the places where
they came first with the values that came last. What is taken later from the same collection extends
what was taken before.
-/
theorem builds_collected (query : String) (kind : StatementKind) (calls : List Call) :
    (builds { query, kind } calls).length = calls.count .build ∧
    (∀ before after, calls = before ++ .build :: after →
      ∃ m, (builds { query, kind } calls)[before.count .build]? = some m ∧ m.query = query ∧
        m.kind = kind ∧ m.Consistent ∧ m.Lists (before.filterMap Call.addition?)) ∧
    (builds { query, kind } calls).Pairwise ExtendedBy := by
  refine ⟨length_builds _ calls, ?_, pairwise_builds _ calls⟩
  rintro before after rfl
  have hkept : ∀ additions : List Addition, (additions.foldl add { query, kind }).query = query ∧
      (additions.foldl add { query, kind }).kind = kind ∧
      (additions.foldl add { query, kind }).Consistent := by
    intro additions
    refine List.foldlRecOn (motive := fun m => m.query = query ∧ m.kind = kind ∧ m.Consistent)
      additions add ⟨rfl, rfl, consistent_start query kind⟩ fun m hm a _ => ?_
    obtain ⟨hquery, hkind, hconsistent⟩ := hm
    have hadd := add_eq m a
    exact ⟨by rw [hadd, hquery], by rw [hadd, hkind], hconsistent.add a⟩
  obtain ⟨hquery, hkind, hconsistent⟩ := hkept (before.filterMap Call.addition?)
  refine ⟨(before.filterMap Call.addition?).foldl add { query, kind }, ?_, hquery, hkind,
    hconsistent, lists_foldl query kind _⟩
  rw [builds_append, ← length_builds { query, kind } before,
    List.getElem?_append_right (Nat.le_refl _), Nat.sub_self]
  rfl

/-- An alias and a join path come again after a build, and an alias without a name is none. -/
def tagCalls : List Call :=
  [.add (.entity "Sale" (some "s")), .add (.entity "Item" (some "i")),
    .add (.joinPath ⟨"s", "s.items", some "i", some "Item"⟩), .build, .add (.field "Tag" "name"),
    .add (.entity "Tag" (some "s")), .add (.entity "Sale" (some "")), .add (.field "Item" "price"),
    .add (.field "Tag" "name"), .add (.joinPath ⟨"t", "s.items", none, none⟩)]

/-- Two builds, before and after names have come again. -/
theorem builds_collected_tags :
    ∃ early late, builds {} (tagCalls ++ [.build]) = [early, late] ∧ early.ExtendedBy late ∧
      late.Consistent ∧
      late.entities = ["Sale", "Item", "Tag"] ∧ late.aliases.keys = ["s", "i"] ∧
      late.entityOf? "s" = some "Tag" ∧
      late.fields.keys = ["Tag", "Item"] ∧ late.fieldsOf "Tag" = ["name"] ∧
      late.joinPaths.get? "s.items" = some ⟨"t", "s.items", none, none⟩ := by
  obtain ⟨-, htaken, hpairs⟩ := builds_collected "" .select (tagCalls ++ [.build])
  obtain ⟨late, hlate, -, -, hconsistent, hlists⟩ := htaken tagCalls [] rfl
  obtain rfl := Option.some.inj hlate
  refine ⟨_, _, rfl, List.rel_of_pairwise_cons hpairs List.mem_cons_self, hconsistent, ?_, ?_, ?_,
    ?_, ?_, ?_⟩
  · rw [hlists.entities]
    decide +kernel
  · rw [hlists.aliasNames]
    decide +kernel
  · rw [hlists.aliases]
    decide +kernel
  · rw [hlists.fieldOwners]
    decide +kernel
  · rw [hlists.fields]
    decide +kernel
  · rw [hlists.joinPaths]
    decide +kernel

end Metadata

end EntityQuery
