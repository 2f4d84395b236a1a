import EntityQuery.Proofs.Mapping.Lookup

/-!
# Reading part by part

A configuration is read part by part, up to the first part with a fault. `fault?` is the fault of a
reading that fails; in a sequence of readings the first fault counts (`fault?_bind`, `fault?_mapM`).

Relations, the relations of one entity, and columns are all read in the same way, field by field
into a registry (`MappingConfig.readFields`). What is read so has no key twice (`readFields_ok`).
-/

namespace EntityQuery

/-! ## Readings in turn -/

section

variable {ε α β : Type}

/-- The fault of a reading that fails. -/
def fault? : Except ε α → Option ε
  | .ok _ => none
  | .error f => some f

theorem fault?_eq_none_iff {x : Except ε α} : fault? x = none ↔ ∃ a, x = .ok a := by
  cases x <;> simp [fault?]

theorem fault?_eq_some_iff {x : Except ε α} {f : ε} : fault? x = some f ↔ x = .error f := by
  cases x <;> simp [fault?]

theorem ok_bind (a : α) (f : α → Except ε β) : .ok a >>= f = f a :=
  rfl

theorem bind_eq_ok {x : Except ε α} {f : α → Except ε β} {b : β} (h : x >>= f = .ok b) :
    ∃ a, x = .ok a ∧ f a = .ok b := by
  cases x with
  | ok a => exact ⟨a, rfl, h⟩
  | error e => cases h

theorem bind_eq_error {x : Except ε α} {f : α → Except ε β} {e : ε} (h : x >>= f = .error e) :
    x = .error e ∨ ∃ a, x = .ok a ∧ f a = .error e := by
  cases x with
  | ok a => exact .inr ⟨a, rfl, h⟩
  | error e' =>
    cases h
    exact .inl rfl

/-- The first fault counts. -/
theorem fault?_bind {x : Except ε α} {f : α → Except ε β} {later? : Option ε}
    (h : ∀ a, x = .ok a → fault? (f a) = later?) :
    fault? (x >>= f) = (fault? x).or later? := by
  cases x with
  | ok a => exact h a rfl
  | error e => rfl

theorem fault?_bind_pure (x : Except ε α) (g : α → β) :
    fault? (x >>= fun a => pure (g a)) = fault? x := by
  cases x <;> rfl

theorem findSome?_cons_or (f : α → Option β) (x : α) (xs : List α) :
    (x :: xs).findSome? f = (f x).or (xs.findSome? f) := by
  rw [List.findSome?_cons]
  cases f x <;> rfl

theorem fault?_mapM (f : α → Except ε β) (xs : List α) :
    fault? (xs.mapM f) = xs.findSome? fun x => fault? (f x) := by
  induction xs with
  | nil => rfl
  | cons x xs ih =>
    have hlater : ∀ y, f x = .ok y →
        fault? (xs.mapM f >>= fun ys => pure (y :: ys)) = xs.findSome? fun x => fault? (f x) :=
      fun y _ => (fault?_bind_pure _ _).trans ih
    rw [List.mapM_cons, fault?_bind hlater, findSome?_cons_or]

theorem mapM_ok {f : α → Except ε β} {g : α → β} {xs : List α} (h : ∀ x ∈ xs, f x = .ok (g x)) :
    xs.mapM f = .ok (xs.map g) := by
  induction xs with
  | nil => rfl
  | cons x xs ih =>
    obtain ⟨hx, hxs⟩ := List.forall_mem_cons.mp h
    rw [List.mapM_cons, hx, ih hxs]
    rfl

theorem mem_of_mapM_ok {f : α → Except ε β} {xs : List α} {ys : List β} (h : xs.mapM f = .ok ys) :
    ∀ y ∈ ys, ∃ x ∈ xs, f x = .ok y := by
  induction xs generalizing ys with
  | nil =>
    cases h
    exact fun _ hy => absurd hy List.not_mem_nil
  | cons x xs ih =>
    rw [List.mapM_cons] at h
    obtain ⟨y, hy, h⟩ := bind_eq_ok h
    obtain ⟨rest, hrest, h⟩ := bind_eq_ok h
    cases h
    refine List.forall_mem_cons.mpr ⟨⟨x, List.mem_cons_self, hy⟩, fun z hz => ?_⟩
    obtain ⟨w, hw, hwz⟩ := ih hrest z hz
    exact ⟨w, List.mem_cons_of_mem _ hw, hwz⟩

end

/-! ## Relations -/

namespace Relation

theorem require_eq_ok_iff {property key : String} {data : Json} :
    require property data key = .ok () ↔ mentions data key = .ok true := by
  unfold require
  rcases mentions data key with f | _ | _ <;>
    simp [bind, Except.bind, throw, throwThe, MonadExceptOf.throw, pure, Except.pure]

/-- A relation is asked for its two required keys before its fields are looked at. -/
theorem ofJson_eq (property : String) (data : Json) :
    ofJson property data =
      require property data "target_entity" >>= fun _ =>
        require property data "join_column" >>= fun _ =>
        MappingConfig.sectionFields (some data) >>= ofFields property := by
  unfold ofJson
  refine bind_congr fun _ => bind_congr fun _ => ?_
  cases data with
  | obj fields => exact (pure_bind fields (ofFields property)).symm
  | _ => rfl

/-- A relation with its two required keys is read from its fields. -/
theorem ofJson_obj {property : String} {fields : List (String × Json)}
    (htarget : (Json.field? fields "target_entity").isSome = true)
    (hcolumn : (Json.field? fields "join_column").isSome = true) :
    ofJson property (.obj fields) = ofFields property fields := by
  have hrequired : ∀ key, (Json.field? fields key).isSome = true →
      require property (.obj fields) key = .ok () :=
    fun key h => require_eq_ok_iff.mpr (congrArg Except.ok h)
  rw [ofJson_eq, hrequired _ htarget, hrequired _ hcolumn, ok_bind, ok_bind,
    MappingConfig.sectionFields, ok_bind]

/-- The join type that fields suggest, if there is one. -/
def joinTypeOf? (fields : List (String × Json)) : Option JoinType :=
  JoinType.ofName? (Text.upper ((Json.field? fields "join_type").getD (.str "INNER")).display)

/-- The join type alone decides whether fields describe a relation. -/
theorem ofFields_cases (property : String) (fields : List (String × Json)) :
    ((joinTypeOf? fields).isSome = true ∧ ∃ r, ofFields property fields = .ok r ∧
      r.property = property) ∨ ((joinTypeOf? fields).isSome = false ∧
        ∃ value, ofFields property fields = .error (.unknownJoinType value property)) := by
  unfold ofFields joinTypeOf?
  dsimp only
  split
  · next h =>
    rw [h]
    exact .inr ⟨rfl, _, rfl⟩
  · next h =>
    rw [h]
    exact .inl ⟨rfl, _, rfl, rfl⟩

end Relation

/-! ## Pairs -/

theorem Names.pair_eq_ok_iff {index : Nat} {item key value : Json} :
    pair index item = .ok (key, value) ↔ items? item = some [key, value] ∧ isKey key = true := by
  unfold pair
  split
  · next h => simp [h]
  · next k v h =>
    rw [h]
    constructor
    · intro hpair
      split at hpair
      · next hkey =>
        cases hpair
        exact ⟨rfl, hkey⟩
      · cases hpair
    · rintro ⟨heq, hkey⟩
      cases heq
      exact if_pos hkey
  · next items hpair h =>
    have hlength : items ≠ [key, value] := hpair key value
    simp [h, hlength]

/-! ## Fields in turn -/

namespace MappingConfig

/-- Reads fields in turn. -/
def readFields {α : Type} (read : String → Json → Except MappingFault α)
    (fields : List (String × Json)) :
    Except MappingFault (Registry String α) := do
  let pairs ← fields.mapM fun f => do
    let value ← read f.1 f.2
    pure (f.1, value)
  pure (Registry.ofList pairs)

theorem relationsOf_eq (properties : Json) :
    relationsOf properties = sectionFields (some properties) >>= readFields Relation.ofJson :=
  rfl

theorem relationsOfAll_eq : relationsOfAll = readFields fun _ => relationsOf :=
  rfl

theorem columnsOfAll_eq : columnsOfAll = readFields fun _ => Names.ofJson :=
  rfl

section

variable {α : Type} {read : String → Json → Except MappingFault α}

theorem fault?_readFields (fields : List (String × Json)) :
    fault? (readFields read fields) = fields.findSome? fun f => fault? (read f.1 f.2) := by
  unfold readFields
  rw [fault?_bind_pure, fault?_mapM]
  congr 1
  funext f
  exact fault?_bind_pure _ _

/-- Each field is read under its own name, and no name comes twice. -/
theorem readFields_ok {fields : List (String × Json)} {r : Registry String α}
    (h : readFields read fields = .ok r) :
    r.Distinct ∧ ∀ e ∈ r.entries, ∃ v, read e.1 v = .ok e.2 := by
  obtain ⟨pairs, hpairs, h⟩ := bind_eq_ok h
  cases h
  refine ⟨Registry.distinct_ofList pairs, fun e he => ?_⟩
  obtain ⟨f, -, hf⟩ := mem_of_mapM_ok hpairs e (Registry.mem_entries_ofList he)
  obtain ⟨value, hvalue, hf⟩ := bind_eq_ok hf
  cases hf
  exact ⟨f.2, hvalue⟩

/-- Entries are read again from the fields that they are written as. -/
theorem readFields_map (read : String → Json → Except MappingFault α) (write : α → Json)
    (again : α → α) {r : Registry String α} (hr : r.Distinct)
    (h : ∀ e ∈ r.entries, read e.1 (write e.2) = .ok (again e.2)) :
    readFields read (r.entries.map fun e => (e.1, write e.2)) =
      .ok ⟨r.entries.map fun e => (e.1, again e.2)⟩ := by
  have hpairs : (r.entries.map fun e => (e.1, write e.2)).mapM (fun f => do
      let value ← read f.1 f.2
      pure (f.1, value)) = .ok (r.entries.map fun e => (e.1, again e.2)) := by
    rw [List.mapM_map]
    refine mapM_ok fun e he => ?_
    rw [Function.comp_apply, h e he]
    rfl
  have hdistinct : (⟨r.entries.map fun e => (e.1, again e.2)⟩ : Registry String α).Distinct := by
    exact List.pairwise_map.mpr hr
  unfold readFields
  rw [hpairs]
  exact congrArg Except.ok hdistinct.foldl_put

end

/-! ## Configurations -/

theorem sectionFields_eq_ok_iff {value : Json} {fields : List (String × Json)} :
    sectionFields (some value) = .ok fields ↔ value = .obj fields := by
  cases value <;> simp [sectionFields]

theorem sectionFields_eq_error_iff {value : Json} {f : MappingFault} :
    sectionFields (some value) = .error f ↔ (∀ fields, value ≠ .obj fields) ∧ f = .noFields := by
  cases value <;> simp [sectionFields, eq_comm]

/-- A configuration with known sections is read section by section. -/
theorem ofJson_obj {fields : List (String × Json)} (h : unknownSections fields = []) :
    ofJson (.obj fields) =
      (sectionFields (Json.field? fields "relationships") >>= relationsOfAll) >>= fun relations =>
        Names.ofJson ((Json.field? fields "entities").getD (.obj [])) >>= fun entities =>
          (sectionFields (Json.field? fields "fields") >>= columnsOfAll) >>= fun columns =>
            pure { entities, fields := columns, relations } := by
  simp only [ofJson, h, bind_assoc]
  rfl

theorem ofJson_sections (tables : Json) (columns relations : List (String × Json)) :
    ofJson (.obj [("entities", tables), ("fields", .obj columns),
      ("relationships", .obj relations)]) =
      relationsOfAll relations >>= fun relations => Names.ofJson tables >>= fun entities =>
        columnsOfAll columns >>= fun columns =>
          pure { entities, fields := columns, relations } := by
  rw [ofJson_obj (by simp [unknownSections, sections])]
  rfl

theorem ofJson_of_unknown {fields : List (String × Json)} (h : unknownSections fields ≠ []) :
    ofJson (.obj fields) = .error (.unknownSections (unknownSections fields)) := by
  have hempty : (unknownSections fields).isEmpty = false := by simpa using h
  simp only [ofJson, hempty]
  rfl

end MappingConfig

end EntityQuery
