import EntityQuery.Proofs.Sql.Yield

/-!
# What a configuration says

A configuration gives tables, columns and relations under names. `Lookup` is what is found under
each name, whatever else the configuration holds.

`lookup_apply`: a fresh schema that takes a configuration over finds exactly what the configuration
says. The columns are entered one by one, so no key of the configuration may come twice.
-/

namespace EntityQuery

/-! ## Keys that come once -/

namespace Registry

variable {κ α : Type} [BEq κ]

/-- No key comes twice. -/
def Distinct (r : Registry κ α) : Prop :=
  r.entries.Pairwise fun e f => (e.1 == f.1) = false

instance (r : Registry κ α) : Decidable r.Distinct :=
  inferInstanceAs (Decidable (List.Pairwise _ _))

theorem putEntry_new {k : κ} (v : α) {es : List (κ × α)} (h : ∀ e ∈ es, (e.1 == k) = false) :
    putEntry k v es = es ++ [(k, v)] := by
  induction es with
  | nil => rfl
  | cons e es ih =>
    obtain ⟨he, hes⟩ := List.forall_mem_cons.mp h
    rw [putEntry, he, ih hes]
    rfl

/-- Entries with new keys are put at the end, one after the other. -/
theorem foldl_put_new {es fs : List (κ × α)}
    (h : (es ++ fs).Pairwise fun e f => (e.1 == f.1) = false) :
    fs.foldl (fun r e => r.put e.1 e.2) (⟨es⟩ : Registry κ α) = ⟨es ++ fs⟩ := by
  induction fs generalizing es with
  | nil => rw [List.foldl_nil, List.append_nil]
  | cons f fs ih =>
    have hnew : ∀ e ∈ es, (e.1 == f.1) = false :=
      fun e he => (List.pairwise_append.mp h).2.2 e he f List.mem_cons_self
    have hput : (⟨es⟩ : Registry κ α).put f.1 f.2 = ⟨es ++ [f]⟩ := by
      rw [put, putEntry_new f.2 hnew]
    rw [List.foldl_cons, hput, ih (by rwa [List.append_assoc, List.singleton_append]),
      List.append_assoc, List.singleton_append]

/-- A registry is made again by entering what is in it. -/
theorem Distinct.foldl_put {r : Registry κ α} (h : r.Distinct) :
    r.entries.foldl (fun r e => r.put e.1 e.2) ({} : Registry κ α) = r :=
  foldl_put_new h

theorem mem_keys_putEntry {k x : κ} {v : α} {es : List (κ × α)}
    (h : x ∈ (putEntry k v es).map Prod.fst) :
    x ∈ es.map Prod.fst ∨ x = k := by
  induction es with
  | nil => exact .inr (List.mem_singleton.mp h)
  | cons e es ih =>
    unfold putEntry at h
    split at h
    · exact .inl h
    · rcases List.mem_cons.mp h with rfl | h
      · exact .inl List.mem_cons_self
      · exact (ih h).imp_left (List.mem_cons_of_mem _)

theorem Distinct.put {r : Registry κ α} (h : r.Distinct) (k : κ) (v : α) :
    (r.put k v).Distinct := by
  obtain ⟨es⟩ := r
  change es.Pairwise _ at h
  show (putEntry k v es).Pairwise _
  induction es with
  | nil => exact List.pairwise_singleton _ _
  | cons e es ih =>
    obtain ⟨hfirst, hrest⟩ := List.pairwise_cons.mp h
    unfold putEntry
    split
    · exact List.pairwise_cons.mpr ⟨hfirst, hrest⟩
    · next hk =>
      refine List.pairwise_cons.mpr ⟨fun f hf => ?_, ih hrest⟩
      rcases mem_keys_putEntry (List.mem_map_of_mem hf) with hf | hf
      · obtain ⟨g, hg, heq⟩ := List.mem_map.mp hf
        rw [← heq]
        exact hfirst g hg
      · rw [hf]
        exact Bool.eq_false_iff.mpr hk

theorem distinct_ofList (pairs : List (κ × α)) : (ofList pairs).Distinct :=
  List.foldlRecOn pairs _ List.Pairwise.nil fun _ h e _ => h.put e.1 e.2

end Registry

/-- No table, no entity and no field of a configuration comes twice. -/
structure MappingConfig.Distinct (c : MappingConfig) : Prop where
  entities : c.entities.Distinct
  fields : c.fields.Distinct
  columns : ∀ e ∈ c.fields.entries, e.2.Distinct

/-! ## Looking up -/

/-- What is found under names. -/
structure Lookup where
  table? : Json → Option Json
  column? : String → String → Option Json
  relation? : String → String → Option Relation

/-- What a configuration says. -/
def MappingConfig.lookup (c : MappingConfig) : Lookup where
  table? := c.entities.get?
  column? entity field := (c.fields.get? entity).bind fun columns => columns.get? (.str field)
  relation? entity property :=
    (c.relations.get? entity).bind fun properties => properties.get? property

namespace Sql

/-- What a schema finds. -/
def Schema.lookup (s : Schema) : Lookup where
  table? := s.tables.get?
  column? := s.columns.column?
  relation? := s.relation?

/-! ## Taking a configuration over -/

theorem foldl_putTable (es : List (Json × Json)) (s : Schema) :
    es.foldl (fun t e => t.putTable e.1 e.2) s =
      { s with tables := es.foldl (fun r e => r.put e.1 e.2) s.tables } := by
  induction es generalizing s with
  | nil => rfl
  | cons e es ih => exact ih (s.putTable e.1 e.2)

/-- Gives the fields of an entity their columns. -/
def Columns.putAll (c : Columns) (entity : String) (names : Names) : Columns :=
  names.entries.foldl (fun d f => d.putColumn (.str entity) f.1 f.2) c

theorem foldl_putColumn (entity : String) (fs : List (Json × Json)) (s : Schema) :
    fs.foldl (fun u f => u.putColumn (.str entity) f.1 f.2) s =
      { s with columns := fs.foldl (fun d f => d.putColumn (.str entity) f.1 f.2) s.columns } := by
  induction fs generalizing s with
  | nil => rfl
  | cons f fs ih => exact ih (s.putColumn (.str entity) f.1 f.2)

theorem foldl_putColumns (es : List (String × Names)) (s : Schema) :
    es.foldl (fun t e => e.2.entries.foldl (fun u f => u.putColumn (.str e.1) f.1 f.2) t) s =
      { s with columns := es.foldl (fun c e => c.putAll e.1 e.2) s.columns } := by
  induction es generalizing s with
  | nil => rfl
  | cons e es ih =>
    rw [List.foldl_cons, List.foldl_cons, foldl_putColumn, ih]
    rfl

/-- A schema takes the sections of a configuration over one by one. -/
theorem Schema.apply_eq (s : Schema) (c : MappingConfig) :
    s.apply c =
      { s with
        tables := c.entities.entries.foldl (fun r e => r.put e.1 e.2) s.tables
        columns := c.fields.entries.foldl (fun c e => c.putAll e.1 e.2) s.columns
        relations := if c.relations.isEmpty then s.relations else c.relations } := by
  unfold Schema.apply
  dsimp only
  rw [foldl_putTable, foldl_putColumns]
  cases c.relations.isEmpty <;> rfl

theorem Columns.ofEntity_putAll (c : Columns) (entity other : String) (names : Names) :
    (c.putAll entity names).ofEntity (.str other) =
      if entity = other then names.entries.foldl (fun r f => r.put f.1 f.2)
        (c.ofEntity (.str other))
      else c.ofEntity (.str other) := by
  unfold Columns.putAll
  induction names.entries generalizing c with
  | nil => rw [List.foldl_nil, List.foldl_nil, ite_self]
  | cons f fs ih =>
    rw [List.foldl_cons, ih, ofEntity_putColumn]
    split
    · rw [List.foldl_cons]
    · rfl

/-- Entities that come once have the columns that they come with. -/
theorem Columns.ofEntity_foldl_putAll {es : List (String × Names)}
    (hes : es.Pairwise fun e f => (e.1 == f.1) = false) (hcolumns : ∀ e ∈ es, e.2.Distinct)
    (c : Columns) (hnew : ∀ e ∈ es, c.ofEntity (.str e.1) = {}) (entity : String) :
    (es.foldl (fun c e => c.putAll e.1 e.2) c).ofEntity (.str entity) =
      ((⟨es⟩ : Registry String Names).get? entity).getD (c.ofEntity (.str entity)) := by
  unfold Registry.get?
  induction es generalizing c with
  | nil => rfl
  | cons e es ih =>
    obtain ⟨hfirst, hrest⟩ := List.pairwise_cons.mp hes
    obtain ⟨he, hes'⟩ := List.forall_mem_cons.mp hcolumns
    obtain ⟨hnewFirst, hnewRest⟩ := List.forall_mem_cons.mp hnew
    have hkept : ∀ f ∈ es, (c.putAll e.1 e.2).ofEntity (.str f.1) = {} := by
      intro f hf
      have hne : e.1 ≠ f.1 := by simpa using hfirst f hf
      rw [ofEntity_putAll, if_neg hne, hnewRest f hf]
    rw [List.foldl_cons, ih hrest hes' _ hkept, ofEntity_putAll]
    by_cases hentity : e.1 = entity
    · -- The entity comes first here, and not again.
      have hlater : es.find? (fun f => f.1 == entity) = none := by
        refine List.find?_eq_none.mpr fun f hf => ?_
        rw [← hentity, BEq.comm, hfirst f hf]
        exact Bool.false_ne_true
      have hhere : (e :: es).find? (fun f => f.1 == entity) = some e :=
        List.find?_cons_of_pos (by simpa using hentity)
      subst hentity
      rw [hlater, hhere, if_pos rfl, hnewFirst, he.foldl_put]
      rfl
    · rw [if_neg hentity, List.find?_cons_of_neg (by simpa using hentity)]

/-- Relations are taken over as a whole. -/
theorem relation?_apply (c : MappingConfig) (options : ConverterOptions) :
    (({ options } : Schema).apply c).relation? = c.lookup.relation? := by
  funext entity property
  rw [Schema.apply_eq]
  unfold Schema.relation? MappingConfig.lookup
  dsimp only
  split
  · next hempty =>
    have hentries : c.relations.entries = [] := List.isEmpty_iff.mp hempty
    unfold Registry.get?
    rw [hentries]
  · rfl

/-- A fresh schema that takes a configuration over finds what the configuration says. -/
theorem lookup_apply {c : MappingConfig} (h : c.Distinct) (options : ConverterOptions) :
    (({ options } : Schema).apply c).lookup = c.lookup := by
  have htables : (({ options } : Schema).apply c).tables = c.entities := by
    rw [Schema.apply_eq]
    exact h.entities.foldl_put
  have hcolumns : (({ options } : Schema).apply c).columns.column? = c.lookup.column? := by
    funext entity field
    rw [Schema.apply_eq]
    unfold Columns.column? MappingConfig.lookup
    rw [Columns.ofEntity_foldl_putAll h.fields h.columns _ fun _ _ => rfl]
    dsimp only
    cases c.fields.get? entity <;> rfl
  rw [Schema.lookup, htables, hcolumns, relation?_apply]
  rfl

end Sql

end EntityQuery
