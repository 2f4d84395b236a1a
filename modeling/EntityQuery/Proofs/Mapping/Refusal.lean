import EntityQuery.CommandLine.Command
import EntityQuery.Proofs.Mapping.Reading
import EntityQuery.Proofs.Sql.RoundTrip

/-!
# Configurations that are refused

A configuration is refused with a message if its structure is wrong, and without one if a part has a
type that its reader does not expect. What decides is the first part that is wrong, in the order of
reading.

1. `MappingConfig.parts`: the parts of a configuration, in the order of reading.
2. `Part.wellFormed_iff`, `Part.mistyped_iff`: the parts that are accepted, and those that are
   refused without a message.
3. `MappingConfig.fault?_ofJson`: a configuration has the fault of its first part with one.
4. `MappingConfig.ofJson_outcome`: which configurations are read, which break down, and what the
   command makes of them.
-/

namespace EntityQuery

namespace MappingConfig

/-! ## Parts -/

/-- A part of a configuration with a check of its own. -/
inductive Part where
  | whole (data : Json)
  /-- A section, or the relations of an entity. -/
  | object (value : Json)
  /-- A relation along a property. -/
  | relation (property : String) (data : Json)
  /-- A table of names. -/
  | table (value : Json)
  /-- An item of a table of names that is written as a list of pairs. -/
  | pair (index : Nat) (item : Json)

/-- The fields of an object. -/
def fieldsOf : Json → List (String × Json)
  | .obj fields => fields
  | _ => []

/-- The pairs of a table of names. A table that is an object has none. -/
def pairsOf : Json → List Json
  | .obj _ => []
  | value => (Names.items? value).getD []

def tableParts (value : Json) : List Part :=
  .table value :: (pairsOf value).zipIdx.map fun p => .pair p.2 p.1

/-- An object, and the parts of its fields. -/
def objectParts (partsOf : String → Json → List Part) (value : Json) : List Part :=
  .object value :: (fieldsOf value).flatMap fun f => partsOf f.1 f.2

def relationParts : Json → List Part :=
  objectParts fun _ => objectParts fun property data => [.relation property data]

def columnParts : Json → List Part :=
  objectParts fun _ => tableParts

/-- The parts of a configuration, in the order of reading. -/
def parts (data : Json) : List Part :=
  .whole data :: ((Json.field? (fieldsOf data) "relationships").toList.flatMap relationParts ++
    ((Json.field? (fieldsOf data) "entities").toList.flatMap tableParts ++
      (Json.field? (fieldsOf data) "fields").toList.flatMap columnParts))

namespace Part

/-- What is asked of a part. -/
def WellFormed : Part → Prop
  | whole data => ∃ fields, data = .obj fields ∧ ∀ f ∈ fields, f.1 ∈ sections
  | object value => ∃ fields, value = .obj fields
  | relation _ data =>
    ∃ fields, data = .obj fields ∧ (Json.field? fields "target_entity").isSome ∧
      (Json.field? fields "join_column").isSome ∧ (Relation.joinTypeOf? fields).isSome
  | table value => (Names.items? value).isSome
  | pair _ item => ∃ key value, Names.items? item = some [key, value] ∧ Names.isKey key

/-- A part of a type that its reader does not expect, and the fault that comes of it. -/
inductive Mistyped : Part → MappingFault → Prop where
  | object {value : Json} (h : ∀ fields, value ≠ .obj fields) : Mistyped (.object value) .noFields
  /-- A relation that is no sequence cannot be asked for keys. -/
  | relation {property : String} {data : Json} (h : Names.items? data = none) : Mistyped
      (.relation property data) .wrongType
  /-- A list or a text that mentions both keys has no fields all the same. -/
  | mention {property : String} {data : Json} (h : ∀ fields, data ≠ .obj fields)
      (htarget : Relation.mentions data "target_entity" = .ok true)
      (hcolumn : Relation.mentions data "join_column" = .ok true) : Mistyped
      (.relation property data) .noFields
  | table {value : Json} (h : Names.items? value = none) : Mistyped (.table value) .wrongType
  | pair {index : Nat} {item : Json} (h : Names.items? item = none) : Mistyped (.pair index item)
      .wrongType
  | key {index : Nat} {item key value : Json} (h : Names.items? item = some [key, value])
      (hkey : Names.isKey key = false) :
      Mistyped (.pair index item) .wrongType

/-- The fault of a part, apart from those of its own parts. -/
def fault? : Part → Option MappingFault
  | whole (.obj fields) =>
    if unknownSections fields = [] then none else some (.unknownSections (unknownSections fields))
  | whole _ => some .notAnObject
  | object value => EntityQuery.fault? (sectionFields (some value))
  | relation property data => EntityQuery.fault? (Relation.ofJson property data)
  | table value => if (Names.items? value).isSome then none else some .wrongType
  | pair index item => EntityQuery.fault? (Names.pair index item)

end Part

end MappingConfig

/-! ## Relations -/

namespace Relation

theorem mentions_eq_error_iff {data : Json} {key : String} {f : MappingFault} :
    mentions data key = .error f ↔ Names.items? data = none ∧ f = .wrongType := by
  cases data <;> simp [mentions, Names.items?, eq_comm]

theorem require_eq_error {property key : String} {data : Json} {f : MappingFault}
    (h : require property data key = .error f) :
    f = .missingKey property key ∨ mentions data key = .error f := by
  rcases bind_eq_error h with h | ⟨b, -, h⟩
  · exact .inr h
  · cases b <;> cases h
    exact .inl rfl

theorem exists_ofFields_iff {property : String} {fields : List (String × Json)} :
    (∃ r, ofFields property fields = .ok r) ↔ (joinTypeOf? fields).isSome = true := by
  rcases ofFields_cases property fields with ⟨hsome, r, hr, -⟩ | ⟨hnone, value, hvalue⟩
  · exact iff_of_true ⟨r, hr⟩ hsome
  · simp [hvalue, hnone]

theorem ofFields_eq_error {property : String} {fields : List (String × Json)} {f : MappingFault}
    (h : ofFields property fields = .error f) : ∃ value, f = .unknownJoinType value property := by
  rcases ofFields_cases property fields with ⟨-, r, hr, -⟩ | ⟨-, value, hvalue⟩
  · rw [hr] at h
    cases h
  · rw [hvalue] at h
    exact ⟨value, (Except.error.inj h).symm⟩

end Relation

/-! ## The faults of single parts -/

namespace MappingConfig

theorem unknownSections_eq_nil_iff {fields : List (String × Json)} :
    unknownSections fields = [] ↔ ∀ f ∈ fields, f.1 ∈ sections := by
  rw [← List.length_eq_zero_iff, unknownSections, List.length_mergeSort, List.length_eq_zero_iff,
    List.filter_eq_nil_iff]
  simp

theorem exists_relation_iff {property : String} {data : Json} :
    (∃ r, Relation.ofJson property data = .ok r) ↔ (Part.relation property data).WellFormed := by
  constructor
  · rintro ⟨r, h⟩
    rw [Relation.ofJson_eq] at h
    obtain ⟨_, htarget, h⟩ := bind_eq_ok h
    obtain ⟨_, hcolumn, h⟩ := bind_eq_ok h
    obtain ⟨fields, hfields, hread⟩ := bind_eq_ok h
    obtain rfl := sectionFields_eq_ok_iff.mp hfields
    refine ⟨fields, rfl, ?_, ?_, Relation.exists_ofFields_iff.mp ⟨r, hread⟩⟩
    · exact Except.ok.inj (Relation.require_eq_ok_iff.mp htarget)
    · exact Except.ok.inj (Relation.require_eq_ok_iff.mp hcolumn)
  · rintro ⟨fields, rfl, htarget, hcolumn, hjoin⟩
    rw [Relation.ofJson_obj htarget hcolumn]
    exact Relation.exists_ofFields_iff.mpr hjoin

theorem mistyped_relation_iff {property : String} {data : Json} {f : MappingFault} :
    (Part.relation property data).Mistyped f ↔
      Relation.ofJson property data = .error f ∧ f.message? = none := by
  rw [Relation.ofJson_eq]
  constructor
  · intro h
    cases h with
    | relation h =>
      have htarget : Relation.require property data "target_entity" = .error .wrongType := by
        rw [Relation.require, Relation.mentions_eq_error_iff.mpr ⟨h, rfl⟩]
        rfl
      rw [htarget]
      exact ⟨rfl, rfl⟩
    | mention h htarget hcolumn =>
      rw [Relation.require_eq_ok_iff.mpr htarget, Relation.require_eq_ok_iff.mpr hcolumn,
        sectionFields_eq_error_iff.mpr ⟨h, rfl⟩]
      exact ⟨rfl, rfl⟩
  · rintro ⟨h, hsilent⟩
    -- A missing key and an unknown join type have messages, so a type is to blame.
    have hkey : ∀ key, Relation.require property data key = .error f →
        (Part.relation property data).Mistyped f := by
      intro key h
      rcases Relation.require_eq_error h with rfl | h
      · cases hsilent
      · obtain ⟨hitems, rfl⟩ := Relation.mentions_eq_error_iff.mp h
        exact .relation hitems
    rcases bind_eq_error h with h | ⟨_, htarget, h⟩
    · exact hkey _ h
    rcases bind_eq_error h with h | ⟨_, hcolumn, h⟩
    · exact hkey _ h
    rcases bind_eq_error h with h | ⟨fields, -, h⟩
    · obtain ⟨hobject, rfl⟩ := sectionFields_eq_error_iff.mp h
      exact .mention hobject (Relation.require_eq_ok_iff.mp htarget)
        (Relation.require_eq_ok_iff.mp hcolumn)
    · obtain ⟨value, rfl⟩ := Relation.ofFields_eq_error h
      cases hsilent

theorem exists_pair_iff {index : Nat} {item : Json} :
    (∃ p, Names.pair index item = .ok p) ↔ (Part.pair index item).WellFormed :=
  Prod.exists.trans (exists_congr fun _ => exists_congr fun _ => Names.pair_eq_ok_iff)

theorem mistyped_pair_iff {index : Nat} {item : Json} {f : MappingFault} :
    (Part.pair index item).Mistyped f ↔ Names.pair index item = .error f ∧ f.message? = none := by
  constructor
  · intro h
    cases h with
    | pair h => simp [Names.pair, h, MappingFault.message?]
    | key h hkey => simp [Names.pair, h, hkey, MappingFault.message?]
  · rintro ⟨h, hsilent⟩
    unfold Names.pair at h
    split at h
    · next hitems =>
      cases h
      exact .pair hitems
    · next key value hitems =>
      split at h
      · cases h
      · next hkey =>
        cases h
        exact .key hitems (Bool.eq_false_iff.mpr hkey)
    · cases h
      cases hsilent

namespace Part

theorem wellFormed_iff (p : Part) : p.WellFormed ↔ p.fault? = none := by
  cases p with
  | whole data =>
    cases data with
    | obj fields => simp [fault?, WellFormed, unknownSections_eq_nil_iff]
    | _ => simp [fault?, WellFormed]
  | object value =>
    exact (exists_congr fun _ => sectionFields_eq_ok_iff.symm).trans fault?_eq_none_iff.symm
  | relation property data => exact exists_relation_iff.symm.trans fault?_eq_none_iff.symm
  | table value => simp [fault?, WellFormed, Option.isSome_iff_ne_none]
  | pair index item => exact exists_pair_iff.symm.trans fault?_eq_none_iff.symm

/-- The whole is refused with a message, of whatever type it is. -/
theorem message?_of_whole {data : Json} {f : MappingFault} (h : (whole data).fault? = some f) :
    f.message? ≠ none := by
  cases data with
  | obj fields =>
    rw [fault?] at h
    split at h <;> cases h
    simp [MappingFault.message?]
  | _ =>
    cases h
    simp [MappingFault.message?]

theorem mistyped_iff (p : Part) (f : MappingFault) :
    p.Mistyped f ↔ p.fault? = some f ∧ f.message? = none := by
  cases p with
  | whole data =>
    constructor
    · intro h
      cases h
    · exact fun h => absurd h.2 (message?_of_whole h.1)
  | object value =>
    constructor
    · intro h
      cases h with
      | object h => exact ⟨fault?_eq_some_iff.mpr (sectionFields_eq_error_iff.mpr ⟨h, rfl⟩), rfl⟩
    · rintro ⟨h, -⟩
      obtain ⟨hobject, rfl⟩ := sectionFields_eq_error_iff.mp (fault?_eq_some_iff.mp h)
      exact .object hobject
  | relation property data =>
    exact mistyped_relation_iff.trans (and_congr_left' fault?_eq_some_iff.symm)
  | table value =>
    constructor
    · intro h
      cases h with
      | table h => exact ⟨if_neg (by simp [h]), rfl⟩
    · rintro ⟨h, -⟩
      rw [fault?] at h
      split at h <;> cases h
      next hitems => exact .table (Option.not_isSome_iff_eq_none.mp hitems)
  | pair index item => exact mistyped_pair_iff.trans (and_congr_left' fault?_eq_some_iff.symm)

end Part

/-! ## The parts in turn -/

theorem findSome?_flatMap {α β γ : Type} (g : α → List β) (f : β → Option γ) (xs : List α) :
    (xs.flatMap g).findSome? f = xs.findSome? fun x => (g x).findSome? f := by
  induction xs with
  | nil => rfl
  | cons x xs ih => rw [List.flatMap_cons, List.findSome?_append, ih, findSome?_cons_or]

/-- Places are counted from that of the first item. What has been entered before does not matter. -/
theorem fault?_addPairs (names : Names) (index : Nat) (items : List Json) :
    fault? (Names.addPairs names index items) = (items.zipIdx index).findSome? fun p =>
      fault? (Names.pair p.2 p.1) := by
  induction items generalizing names index with
  | nil => rfl
  | cons item items ih =>
    rw [List.zipIdx_cons, findSome?_cons_or, Names.addPairs]
    split
    · next h =>
      rw [h, ih]
      rfl
    · next h =>
      rw [h]
      rfl

theorem fault?_table (value : Json) :
    fault? (Names.ofJson value) = (tableParts value).findSome? Part.fault? := by
  have hpairs : ∀ items : List Json,
      (items.zipIdx.map fun p => Part.pair p.2 p.1).findSome? Part.fault? =
      fault? (Names.addPairs {} 0 items) := by
    intro items
    rw [List.findSome?_map, fault?_addPairs]
    rfl
  rw [tableParts, findSome?_cons_or, hpairs]
  cases value <;> rfl

theorem fault?_object {α : Type} {read : String → Json → Except MappingFault α}
    {partsOf : String → Json → List Part}
    (h : ∀ name value, fault? (read name value) = (partsOf name value).findSome? Part.fault?)
    (value : Json) :
    fault? (sectionFields (some value) >>= readFields read) =
      (objectParts partsOf value).findSome? Part.fault? := by
  have hfields : ∀ fields, sectionFields (some value) = .ok fields →
      fault? (readFields read fields) =
      ((fieldsOf value).flatMap fun f => partsOf f.1 f.2).findSome? Part.fault? := by
    intro fields hvalue
    obtain rfl := sectionFields_eq_ok_iff.mp hvalue
    rw [fault?_readFields, findSome?_flatMap]
    simp only [h]
    rfl
  rw [fault?_bind hfields, objectParts, findSome?_cons_or]
  rfl

theorem fault?_relations (value : Json) :
    fault? (sectionFields (some value) >>= relationsOfAll) =
      (relationParts value).findSome? Part.fault? := by
  have hone : ∀ property data,
      fault? (Relation.ofJson property data) =
      [Part.relation property data].findSome? Part.fault? := by
    intro property data
    rw [List.findSome?_singleton]
    rfl
  exact fault?_object (fun _ => fault?_object hone) value

theorem fault?_columns (value : Json) :
    fault? (sectionFields (some value) >>= columnsOfAll) =
      (columnParts value).findSome? Part.fault? :=
  fault?_object (fun _ => fault?_table) value

/-- A section that is absent has no fault. -/
theorem fault?_section {α : Type} {readAll : List (String × Json) → Except MappingFault α}
    {partsOf : Json → List Part} (hempty : fault? (readAll []) = none)
    (h : ∀ value, fault? (sectionFields (some value) >>= readAll) =
      (partsOf value).findSome? Part.fault?)
    (section? : Option Json) :
    fault? (sectionFields section? >>= readAll) =
      (section?.toList.flatMap partsOf).findSome? Part.fault? := by
  cases section? with
  | none => exact hempty
  | some value => rw [h, Option.toList_some, List.flatMap_singleton]

theorem fault?_tables (section? : Option Json) :
    fault? (Names.ofJson (section?.getD (.obj []))) =
      (section?.toList.flatMap tableParts).findSome? Part.fault? := by
  cases section? with
  | none => rfl
  | some value => rw [Option.getD_some, fault?_table, Option.toList_some, List.flatMap_singleton]

/-- A configuration has the fault of its first part with one. -/
theorem fault?_ofJson (data : Json) :
    fault? (ofJson data) = (parts data).findSome? Part.fault? := by
  rw [parts, findSome?_cons_or, List.findSome?_append, List.findSome?_append]
  cases data with
  | obj fields =>
    by_cases h : unknownSections fields = []
    · rw [ofJson_obj h, ← fault?_section rfl fault?_relations, ← fault?_tables,
        ← fault?_section rfl fault?_columns]
      have hwhole : (Part.whole (.obj fields)).fault? = none := if_pos h
      rw [hwhole, Option.none_or]
      exact fault?_bind fun _ _ => fault?_bind fun _ _ => fault?_bind_pure _ _
    · have hwhole : (Part.whole (.obj fields)).fault? =
          some (.unknownSections (unknownSections fields)) := if_neg h
      rw [ofJson_of_unknown h, hwhole]
      rfl
  | _ => rfl

/-! ## What becomes of a configuration -/

/-- The first part that is not as asked has a type that its reader does not expect. -/
def BreaksDown (data : Json) (f : MappingFault) : Prop :=
  ∃ before p after, parts data = before ++ p :: after ∧ (∀ q ∈ before, Part.WellFormed q) ∧
    p.Mistyped f

theorem exists_ofJson_iff (data : Json) :
    (∃ c, ofJson data = .ok c) ↔ ∀ p ∈ parts data, p.WellFormed := by
  rw [← fault?_eq_none_iff, fault?_ofJson, List.findSome?_eq_none_iff]
  simp only [Part.wellFormed_iff]

theorem breaksDown_iff (data : Json) (f : MappingFault) :
    BreaksDown data f ↔ ofJson data = .error f ∧ f.message? = none := by
  rw [← fault?_eq_some_iff, fault?_ofJson, List.findSome?_eq_some_iff, BreaksDown]
  simp only [Part.wellFormed_iff, Part.mistyped_iff]
  constructor
  · rintro ⟨before, p, after, hparts, hbefore, hfault, hsilent⟩
    exact ⟨⟨before, p, after, hparts, hfault, hbefore⟩, hsilent⟩
  · rintro ⟨⟨before, p, after, hparts, hfault, hbefore⟩, hsilent⟩
    exact ⟨before, p, after, hparts, hbefore, hfault, hsilent⟩

end MappingConfig

/-! ## The command -/

namespace CommandLine

open MappingConfig

/-- The command converts a query under the mappings of a file. -/
structure Converts (a : Arguments) (w : Surroundings) (data : Json) : Prop where
  mode : a.mode = some .convert
  query : ∃ query, queryText a w = .value query ∧ Text.isBlankText query = false
  mappings : ∃ path text, given? a.mappings = some path ∧ w.mappingFile = .file text ∧
    Json.parse (Text.unifiedLines text) = .ok data

variable {a : Arguments} {w : Surroundings} {data : Json}

theorem run_schemaOf (h : Converts a w data) (book : Log.Book) :
    (∀ c, ofJson data = .ok c → ((schemaOf a w).run book).1 = .value (({} : Sql.Schema).apply c)) ∧
      ∀ f, ofJson data = .error f →
        ((schemaOf a w).run book).1 =
          f.message?.elim (.breakdown (.mapping f)) fun message => .report (unusable message) := by
  obtain ⟨path, text, hpath, hfile, hdata⟩ := h.mappings
  simp only [schemaOf, hpath, hfile, loadText, hdata, load]
  constructor
  · intro c h
    simp only [h]
    rfl
  · intro f h
    simp only [h]
    cases hm : f.message? <;> simp [hm] <;> rfl

theorem notConverted_ne_breakdown {α : Type} (e : Sql.ConvertError) (b : Breakdown) :
    (notConverted e : Outcome α) ≠ .breakdown b := by
  cases e with
  | analysis e => cases e <;> simp [notConverted]
  | _ => simp [notConverted, malformed]

/-- How the command ends. -/
def Outcome.ending (a : Arguments) : Outcome String → Except Breakdown Report
  | .value text => .ok (delivery a text)
  | .report r => .ok r
  | .breakdown b => .error b

theorem Outcome.ending_eq_error_iff {outcome : Outcome String} {b : Breakdown} :
    outcome.ending a = .error b ↔ outcome = .breakdown b := by
  cases outcome <;> simp [ending]

theorem run_eq_ending (h : Converts a w data) (book : Log.Book) :
    ∃ query, ((run a w).run book).1 = Outcome.ending a ((conversion a w query).run book).1 := by
  obtain ⟨query, hquery, hblank⟩ := h.query
  refine ⟨query, ?_⟩
  have hproduct : product a w query = conversion a w query := by
    rw [product, h.mode]
  rw [← hproduct, run, hquery]
  dsimp only
  rw [hblank, h.mode, if_neg (by simp), if_neg (by decide), Sql.run_logging_bind]
  cases ((product a w query).run book).1 <;> rfl

/-- The mappings decide first. With a schema, a query is converted or refused. -/
theorem conversion_of_schemaOf (book : Log.Book) (query : String) :
    (∀ s, ((schemaOf a w).run book).1 = .value s → ∀ b,
      ((conversion a w query).run book).1 ≠ .breakdown b) ∧
      (∀ r, ((schemaOf a w).run book).1 = .report r →
        ((conversion a w query).run book).1 = .report r) ∧
      ∀ b, ((schemaOf a w).run book).1 = .breakdown b →
      ((conversion a w query).run book).1 = .breakdown b := by
  rw [conversion, Sql.run_logging_bind]
  refine ⟨fun schema h b => ?_, fun r h => ?_, fun b h => ?_⟩ <;> rw [h]
  · dsimp only
    rw [Sql.run_logging_bind]
    rcases ((({ schema } : Sql.Converter).convert query none).run
      ((schemaOf a w).run book).2).1 with ⟨e | sql, after⟩
    · exact notConverted_ne_breakdown e b
    · intro hvalue
      cases hvalue
  · rfl
  · rfl

/-- The ending of the command, by what becomes of the mappings. -/
theorem run_of_ofJson (h : Converts a w data) (book : Log.Book) :
    (∀ c, ofJson data = .ok c → ∀ b, ((run a w).run book).1 ≠ .error b) ∧
      (∀ f message, ofJson data = .error f → f.message? = some message →
        ((run a w).run book).1 = .ok (unusable message)) ∧
      ∀ f, ofJson data = .error f → f.message? = none →
      ((run a w).run book).1 = .error (.mapping f) := by
  obtain ⟨query, hrun⟩ := run_eq_ending h book
  obtain ⟨hread, hrefused⟩ := run_schemaOf h book
  obtain ⟨hvalue, hreport, hbreakdown⟩ := conversion_of_schemaOf (a := a) (w := w) book query
  rw [hrun]
  refine ⟨fun c hc b => ?_, fun f message hf hm => ?_, fun f hf hm => ?_⟩
  · exact fun hb => hvalue _ (hread c hc) b (Outcome.ending_eq_error_iff.mp hb)
  · rw [hreport (unusable message) (by rw [hrefused f hf, hm]; rfl)]
    rfl
  · rw [hbreakdown (.mapping f) (by rw [hrefused f hf, hm]; rfl)]
    rfl

end CommandLine

/-! ## The main statement -/

namespace MappingConfig

open CommandLine

/-- A configuration is read exactly if all of its parts are as asked. It is refused without a
message, and the command breaks down, exactly if the first part that is not has an unexpected type.
Every other refusal has a message, and the command ends with it. -/
theorem ofJson_outcome (data : Json) :
    ((∃ c, ofJson data = .ok c) ↔ ∀ p ∈ parts data, p.WellFormed) ∧
      (∀ f, ofJson data = .error f ∧ f.message? = none ↔ BreaksDown data f) ∧
      ∀ (a : Arguments) (w : Surroundings) (book : Log.Book), Converts a w data →
        (∀ b, ((run a w).run book).1 = .error b ↔ ∃ f, b = .mapping f ∧ BreaksDown data f) ∧
        ∀ f message, ofJson data = .error f → f.message? = some message →
          ∃ r, ((run a w).run book).1 = .ok r ∧ r.code = 1 ∧
            r.complaint = "Erreur de configuration: " ++ message ++ "\n" := by
  refine ⟨exists_ofJson_iff data, fun f => (breaksDown_iff data f).symm, fun a w book h => ?_⟩
  obtain ⟨hread, hreport, hbreakdown⟩ := run_of_ofJson h book
  refine ⟨fun b => ⟨fun hb => ?_, ?_⟩, fun f message hf hm =>
    ⟨_, hreport f message hf hm, rfl, rfl⟩⟩
  · rcases hdata : ofJson data with f | c
    · rcases hm : f.message? with _ | message
      · rw [hbreakdown f hdata hm] at hb
        exact ⟨f, (Except.error.inj hb).symm, (breaksDown_iff data f).mpr ⟨hdata, hm⟩⟩
      · rw [hreport f message hdata hm] at hb
        cases hb
    · exact absurd hb (hread c hdata b)
  · rintro ⟨f, rfl, hf⟩
    obtain ⟨hdata, hm⟩ := (breaksDown_iff data f).mp hf
    exact hbreakdown f hdata hm

/-- Null in place of the tables is refused without a message, and the command breaks down. -/
theorem ofJson_outcome_null :
    ofJson (.obj [("entities", .null)]) = .error .wrongType ∧
      ((run { query := some "FROM User u", mode := some .convert, mappings := some "mappings.json" }
        { mappingFile := .file "\x7b\"entities\": null\x7d" }).run []).1 =
        .error (.mapping .wrongType) := by
  have hchars : (Text.unifiedLines "\x7b\"entities\": null\x7d").toList =
      ['\x7b', Text.doubleQuote, 'e', 'n', 't', 'i', 't', 'i', 'e', 's', Text.doubleQuote, ':', ' ',
        'n', 'u', 'l', 'l', '\x7d'] := by
    decide +kernel
  have hparse : Json.parse (Text.unifiedLines "\x7b\"entities\": null\x7d") =
      .ok (.obj [("entities", .null)]) := by
    unfold Json.parse
    rw [hchars]
    with_unfolding_all rfl
  have hfirst : BreaksDown (.obj [("entities", .null)]) .wrongType := by
    refine ⟨[.whole (.obj [("entities", .null)])], .table .null, [], rfl, fun q hq => ?_,
      .table rfl⟩
    obtain rfl := List.mem_singleton.mp hq
    exact ⟨_, rfl, by simp [sections]⟩
  obtain ⟨-, hsilent, hrun⟩ := ofJson_outcome (.obj [("entities", .null)])
  refine ⟨((hsilent .wrongType).mpr hfirst).1, ?_⟩
  refine ((hrun _ _ [] ⟨rfl, ⟨_, rfl, ?_⟩, ⟨_, _, rfl, rfl, hparse⟩⟩).1 (.mapping .wrongType)).mpr
    ⟨_, rfl, hfirst⟩
  decide +kernel

end MappingConfig

end EntityQuery
