import EntityQuery.Proofs.Json
import EntityQuery.Proofs.Mapping.Reading
import EntityQuery.Proofs.Metadata.Renaming
import EntityQuery.Proofs.Sql.ExplicitCondition

/-!
# Configurations that are written and read again

The dictionary form of a configuration leaves out what a reader supplies: tables of relations that
do not count as present, and a null that leaves it to a property's name whether it is a collection.
Otherwise it has everything, and join types by their own names.

1. `Relation.ofJson_dictionary`, `Names.ofJson_dictionary`: the parts of a configuration.
2. `MappingConfig.readable_ofJson`: what is known of a configuration that has been read.
3. `MappingConfig.ofJson_dictionary`: the whole.
4. `MappingConfig.reload`: what is read again is the same to every conversion.
-/

namespace EntityQuery

open Sql

/-! ## Relations -/

/-- A value, or null if it does not count as present. -/
def Json.orNull (v : Json) : Json :=
  if v.truthy then v else .null

theorem Json.truthy_orNull (v : Json) : v.orNull.truthy = v.truthy := by
  unfold orNull
  split
  · rfl
  · next h => exact (Bool.eq_false_iff.mpr h).symm

theorem Json.orNull_of_truthy {v : Json} (h : v.truthy = true) : v.orNull = v :=
  if_pos h

theorem Json.equal_null_iff {v : Json} : v.equal .null = true ↔ v = .null := by
  cases v <;> simp [equal, asInt?]

theorem Json.field?_append (xs ys : List (String × Json)) (key : String) :
    field? (xs ++ ys) key = (field? xs key).or (field? ys key) := by
  induction xs with
  | nil => rfl
  | cons f xs ih =>
    rw [List.cons_append, field?_cons, field?_cons, ih]
    split <;> rfl

theorem JoinType.ofName?_name (t : JoinType) :
    ofName? (Text.upper (Json.str t.name).display) = some t := by
  cases t <;> decide +kernel

namespace Relation

/-- The relation without tables that do not count as present. -/
def tidied (r : Relation) : Relation :=
  { r with sourceTable := r.sourceTable.orNull, targetTable := r.targetTable.orNull }

theorem field?_fieldIf (condition : Bool) (k : String) (v : Json) (key : String) :
    Json.field? (fieldIf condition k v) key = if condition && k == key then some v else none := by
  unfold fieldIf
  cases condition with
  | false => rfl
  | true => simp [Json.field?_cons, Json.field?_nil]

theorem dictionary_tidied (r : Relation) : r.tidied.dictionary = r.dictionary := by
  have hfield : ∀ key v, fieldIf (Json.orNull v).truthy key v.orNull = fieldIf v.truthy key v := by
    intro key v
    rw [Json.truthy_orNull]
    cases hv : v.truthy with
    | false => rfl
    | true => rw [Json.orNull_of_truthy hv]
  simp only [dictionary, tidied, hfield]

/-- What a relation is read from again is all that its dictionary form has. -/
theorem ofJson_dictionary (r : Relation) : ofJson r.property r.dictionary = .ok r.tidied := by
  have hcollection :
      (if r.isCollection.equal .null = false then some r.isCollection else none).getD .null =
      r.isCollection := by
    cases hnull : r.isCollection.equal .null with
    | false => rfl
    | true => exact (Json.equal_null_iff.mp hnull).symm
  have htable : ∀ v : Json, (if v.truthy = true then some v else none).getD .null = v.orNull := by
    intro v
    unfold Json.orNull
    split <;> rfl
  unfold dictionary
  rw [ofJson_obj (by simp [Json.field?_cons]) (by simp [Json.field?_cons]), ofFields]
  simp only [List.cons_append, List.nil_append, List.append_assoc, Json.field?_cons,
    String.reduceEq, ↓reduceIte, Option.getD_some, JoinType.ofName?_name, Json.field?_append,
    field?_fieldIf, BEq.rfl, Bool.and_true,
    String.reduceBEq, Bool.and_false, Bool.false_eq_true, Option.or_self, Option.or_none, htable,
    Option.none_or, Bool.not_eq_eq_eq_not, Bool.not_true, hcollection]
  rfl

/-- A relation that was read stands under its property. -/
theorem property_ofJson {property : String} {data : Json} {r : Relation}
    (h : ofJson property data = .ok r) :
    r.property = property := by
  rw [ofJson_eq] at h
  obtain ⟨-, -, h⟩ := bind_eq_ok h
  obtain ⟨-, -, h⟩ := bind_eq_ok h
  obtain ⟨fields, -, hread⟩ := bind_eq_ok h
  rcases ofFields_cases property fields with ⟨-, r', hr', hproperty⟩ | ⟨-, value, hvalue⟩
  · rw [hr'] at hread
    cases hread
    exact hproperty
  · rw [hvalue] at hread
    cases hread

end Relation

/-! ## Names -/

namespace Names

variable {names names' : Names}

/-- A table of names as it is read: its keys can be keys, and none comes twice. -/
structure Keyed (names : Names) : Prop where
  distinct : names.Distinct
  isKey : ∀ k ∈ names.keys, Names.isKey k = true

theorem Keyed.put (h : names.Keyed) {key : Json} (hk : Names.isKey key = true) (value : Json) :
    Keyed (names.put key value) := by
  refine ⟨h.distinct.put key value, fun k hk' => ?_⟩
  rcases Registry.mem_keys_putEntry hk' with hk' | rfl
  · exact h.isKey k hk'
  · exact hk

theorem keyed_empty : Keyed {} :=
  ⟨.nil, fun _ hk => absurd hk List.not_mem_nil⟩

theorem Keyed.addPairs (h : names.Keyed) {index : Nat} {items : List Json}
    (hadd : addPairs names index items = .ok names') :
    names'.Keyed := by
  induction items generalizing names index with
  | nil =>
    cases hadd
    exact h
  | cons item items ih =>
    rw [Names.addPairs] at hadd
    split at hadd
    · next hpair => exact ih (h.put (pair_eq_ok_iff.mp hpair).2 _) hadd
    · cases hadd

theorem keyed_ofJson {data : Json} (h : ofJson data = .ok names) : names.Keyed := by
  unfold ofJson at h
  split at h
  · next fields =>
    cases h
    refine List.foldlRecOn (motive := Keyed) _ _ keyed_empty fun names hnames e he => ?_
    obtain ⟨f, -, rfl⟩ := List.mem_map.mp he
    exact hnames.put rfl f.2
  · split at h
    · exact keyed_empty.addPairs h
    · cases h

theorem fields?_eq_some {es : List (Json × Json)} {fields : List (String × Json)}
    (h : fields? es = some fields) :
    es = fields.map fun f => (.str f.1, f.2) := by
  induction es generalizing fields with
  | nil =>
    cases h
    rfl
  | cons e es ih =>
    obtain ⟨key, value⟩ := e
    cases key with
    | str key =>
      obtain ⟨more, hmore, rfl⟩ := Option.map_eq_some_iff.mp h
      rw [List.map_cons, ← ih hmore]
    | _ => cases h

/-- Pairs are entered in turn. -/
theorem addPairs_map (es : List (Json × Json)) (hk : ∀ e ∈ es, isKey e.1 = true) (names : Names)
    (index : Nat) :
    addPairs names index (es.map fun e => .arr [e.1, e.2]) =
      .ok (es.foldl (fun r e => r.put e.1 e.2) names) := by
  induction es generalizing names index with
  | nil => rfl
  | cons e es ih =>
    obtain ⟨he, hes⟩ := List.forall_mem_cons.mp hk
    have hpair : pair index (.arr [e.1, e.2]) = .ok (e.1, e.2) := if_pos he
    rw [List.map_cons, addPairs, hpair]
    exact ih hes _ _

/-- A table of names is read again as it was, from an object or from a list of pairs. -/
theorem ofJson_dictionary (h : names.Keyed) : ofJson names.dictionary = .ok names := by
  unfold dictionary
  cases hfields : fields? names.entries with
  | some fields =>
    show Except.ok (Registry.ofList (fields.map fun f => (Json.str f.1, f.2))) = _
    rw [← fields?_eq_some hfields]
    exact congrArg Except.ok h.distinct.foldl_put
  | none =>
    show addPairs {} 0 _ = _
    rw [addPairs_map _ (fun e he => h.isKey e.1 (List.mem_map_of_mem he)), h.distinct.foldl_put]

end Names

/-! ## Configurations -/

namespace MappingConfig

variable {c : MappingConfig}

/-- A configuration as it is read: no name comes twice anywhere, and relations stand under their
properties. -/
structure Readable (c : MappingConfig) : Prop where
  entities : c.entities.Keyed
  fields : c.fields.Distinct
  columns : ∀ e ∈ c.fields.entries, e.2.Keyed
  relations : c.relations.Distinct
  properties : ∀ e ∈ c.relations.entries, e.2.Distinct ∧ ∀ p ∈ e.2.entries, p.2.property = p.1

/-- The configuration without tables of relations that do not count as present. -/
def tidied (c : MappingConfig) : MappingConfig :=
  { c with relations := c.relations.relabel id fun properties =>
    properties.relabel id Relation.tidied }

theorem readable_ofJson {d : Json} (h : ofJson d = .ok c) : c.Readable := by
  unfold ofJson at h
  split at h
  · next fields =>
    change ofJson (.obj fields) = .ok c at h
    by_cases hknown : unknownSections fields = []
    · rw [ofJson_obj hknown] at h
      obtain ⟨relations, hrelations, h⟩ := bind_eq_ok h
      obtain ⟨entities, hentities, h⟩ := bind_eq_ok h
      obtain ⟨columns, hcolumns, h⟩ := bind_eq_ok h
      cases h
      obtain ⟨columnFields, -, hcolumns⟩ := bind_eq_ok hcolumns
      obtain ⟨relationFields, -, hrelations⟩ := bind_eq_ok hrelations
      rw [columnsOfAll_eq] at hcolumns
      rw [relationsOfAll_eq] at hrelations
      obtain ⟨hfields, hreadColumns⟩ := readFields_ok hcolumns
      obtain ⟨hentries, hreadRelations⟩ := readFields_ok hrelations
      refine ⟨Names.keyed_ofJson hentities, hfields, fun e he => ?_, hentries, fun e he => ?_⟩
      · obtain ⟨v, hv⟩ := hreadColumns e he
        exact Names.keyed_ofJson hv
      · obtain ⟨v, hv⟩ := hreadRelations e he
        rw [relationsOf_eq] at hv
        obtain ⟨properties, -, hproperties⟩ := bind_eq_ok hv
        obtain ⟨hdistinct, hread⟩ := readFields_ok hproperties
        refine ⟨hdistinct, fun p hp => ?_⟩
        obtain ⟨w, hw⟩ := hread p hp
        exact Relation.property_ofJson hw
    · rw [ofJson_of_unknown hknown] at h
      cases h
  · cases h

/-- A configuration that was read is read again from its dictionary form. -/
theorem ofJson_dictionary (h : c.Readable) : ofJson c.dictionary = .ok c.tidied := by
  have hproperties : ∀ e ∈ c.relations.entries,
      relationsOf (.obj (relationFields e.2)) = .ok (e.2.relabel id Relation.tidied) := by
    intro e he
    obtain ⟨hdistinct, hproperty⟩ := h.properties e he
    refine readFields_map Relation.ofJson Relation.dictionary Relation.tidied hdistinct
      fun p hp => ?_
    rw [← hproperty p hp]
    exact p.2.ofJson_dictionary
  have hrelations :
      relationsOfAll (c.relations.entries.map fun e => (e.1, .obj (relationFields e.2))) =
      .ok c.tidied.relations := by
    rw [relationsOfAll_eq]
    exact readFields_map _ (fun properties => .obj (relationFields properties)) _ h.relations
      hproperties
  have hcolumns : columnsOfAll (c.fields.entries.map fun e => (e.1, e.2.dictionary)) =
      .ok c.fields := by
    rw [columnsOfAll_eq, readFields_map _ Names.dictionary id h.fields fun e he =>
      Names.ofJson_dictionary (h.columns e he)]
    simp
  rw [dictionary, ofJson_sections, hrelations, Names.ofJson_dictionary h.entities, hcolumns]
  rfl

theorem dictionary_tidied (c : MappingConfig) : c.tidied.dictionary = c.dictionary := by
  simp [dictionary, tidied, relationFields, Registry.relabel, Relation.dictionary_tidied,
    Function.comp_def]

theorem relation?_tidied (c : MappingConfig) (entity property : String) :
    c.tidied.lookup.relation? entity property =
      (c.lookup.relation? entity property).map Relation.tidied := by
  have hget : ∀ {α β : Type} (g : α → β) (r : Registry String α) (k : String),
      (r.relabel id g).get? k = (r.get? k).map g :=
    fun g r k => Registry.get?_relabel (f := id) fun _ _ h => h
  simp only [lookup, tidied, hget]
  cases c.relations.get? entity with
  | none => rfl
  | some properties => exact hget Relation.tidied properties property

/-- To a conversion, tables that do not count as present are none. -/
theorem convert_tidied (options : ConverterOptions) (maxDepth : Int) (query : String)
    (c : MappingConfig) (metadata? : Option Metadata) (book book' : Log.Book) :
    (((Converter.configured options maxDepth c.tidied).convert query metadata?).run book').1.1 =
      (((Converter.configured options maxDepth c).convert query metadata?).run book).1.1 := by
  have hsame : c.SameUpTo (fun r r' => r.tidied = r') c.tidied := by
    refine ⟨rfl, rfl, fun entity property => ?_⟩
    rw [relation?_tidied]
    cases c.lookup.relation? entity property with
    | none => exact .none
    | some r => exact .some rfl
  refine (convert_eq_of_sameUpTo hsame ?_ ?_ metadata? book book').symm
  · rintro r _ rfl
    exact ⟨rfl, (Json.truthy_orNull _).symm, fun h => (Json.orNull_of_truthy h).symm⟩
  · rintro - - - - - r _ rfl
    exact ⟨rfl, rfl, rfl⟩

/--
A configuration that was read from a file can be written and read again. The second one has the same
dictionary form. It is the first one, except that tables of relations which do not count as present
are null; and every conversion, whatever its options, has the same result under both.
-/
theorem reload (d : Json) (c : MappingConfig) (h : ofJson d = .ok c) :
    ∃ c', ofJson c.dictionary = .ok c' ∧ c'.dictionary = c.dictionary ∧ c' = c.tidied ∧
      ∀ options maxDepth query metadata? book book',
        (((Converter.configured options maxDepth c').convert query metadata?).run book').1.1 =
          (((Converter.configured options maxDepth c).convert query metadata?).run book).1.1 :=
  ⟨c.tidied, ofJson_dictionary (readable_ofJson h), c.dictionary_tidied, rfl,
    fun options maxDepth query => convert_tidied options maxDepth query c⟩

/-- A file with a key that is no text and comes again as a double, a join type in small letters, and
tables that do not count as present: an empty one, and a negative zero. -/
def looseFile : Json :=
  .obj [
    ("entities", .arr [.arr [.int 7, .str "seven"], .str "Tt",
      .arr [.decimal (.ofDecimal false 70 (-1)), .str "sept"]]),
    ("relationships", .obj [("Sale", .obj [("items", .obj [
      ("target_entity", .str "Item"), ("join_column", .str "sale_id"), ("join_type", .str "left"),
      ("source_table", .str ""), ("target_table", .decimal (.ofDecimal true 0 (-1))),
      ("is_collection", .int 0)])])])]

/-- What the file says. -/
def looseConfig : MappingConfig where
  entities := ⟨[(.int 7, .str "sept"), (.str "T", .str "t")]⟩
  relations := ⟨[("Sale", ⟨[("items",
    { property := "items", targetEntity := .str "Item", joinColumn := .str "sale_id",
      joinType := .left
      sourceTable := .str "", targetTable :=
      .decimal (.ofDecimal true 0 (-1)), isCollection := .int 0 })]⟩)]⟩

/-- The table -0.0 and the empty table are null in the file that is written, and a join takes
neither for its table. -/
theorem reload_loose :
    ofJson looseFile = .ok looseConfig ∧ ∃ c', ofJson looseConfig.dictionary = .ok c' ∧
      (c'.lookup.relation? "Sale" "items").map (fun r => (r.sourceTable, r.targetTable)) =
      some (.null, .null) ∧
      (((Converter.configured {} 64 c').convert "SELECT s.id FROM Sale s JOIN s.items i" none).run
        []).1.1 = .ok "SELECT s.id FROM sale s JOIN item i ON s.sale_id = i.id" := by
  have hread : ofJson looseFile = .ok looseConfig := by with_unfolding_all rfl
  have hsql :
      (((Converter.configured {} 64 looseConfig).convert "SELECT s.id FROM Sale s JOIN s.items i"
        none).run []).1.1 =
      .ok "SELECT s.id FROM sale s JOIN item i ON s.sale_id = i.id" :=
        ok_of_toOption (by decide +kernel)
  obtain ⟨c', hagain, -, rfl, hconvert⟩ := reload looseFile looseConfig hread
  exact ⟨hread, _, hagain, by with_unfolding_all rfl, (hconvert {} 64 _ none [] []).trans hsql⟩

end MappingConfig

end EntityQuery
