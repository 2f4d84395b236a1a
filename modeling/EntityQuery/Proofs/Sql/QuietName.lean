import EntityQuery.Proofs.Metadata.Encounter
import EntityQuery.Proofs.Sql.Signal
import EntityQuery.Proofs.Sql.TreeText

/-!
# Quiet names

Names have no signals. The words of a query are quiet, and so is what an analysis makes of them. A
place is quiet (`Place.Quiet`) if its schema and its analysis have quiet names only; then the
columns, tables and join conditions in it are quiet, given or not.
-/

namespace EntityQuery.Sql

open Grammar Text

/-! ## Names of a query -/

/-- The characters of a word are none that a reader of SQL stops at. -/
theorem quiet_word {w : String} (h : WordText w) : isQuiet w = true := by
  rw [isQuiet_iff]
  exact fun c hc => quiet_of_isWordPart (h.isWordPart c hc)

theorem quiet_name {w : String} (h : NameText w) : isQuiet w = true :=
  quiet_word h.word

theorem quiet_parts {parts : List String} (h : PathText parts) : ∀ w ∈ parts, isQuiet w = true :=
  fun w hw => quiet_word (h.words w hw)

/-- Neither is the point between two names. -/
theorem quiet_dotted {parts : List String} (h : ∀ w ∈ parts, isQuiet w = true) :
    isQuiet (dotted parts) = true :=
  quiet_intercalate (by decide) h

/-- The entity of a property is made of its characters, the first one in upper case. -/
theorem quiet_entityOfProperty {property : List Char} (hp : ∀ c ∈ property, isQuietChar c = true)
    {entity : String} (h : entityOfProperty property = .ok entity) : isQuiet entity = true := by
  have hsingular : ∀ c ∈ if property.getLast? = some 's' ∧ property.length > 1
      then property.dropLast else property, isQuietChar c = true := by
    split
    · exact fun c hc => hp c ((List.dropLast_sublist property).subset hc)
    · exact hp
  unfold entityOfProperty at h
  generalize (if property.getLast? = some 's' ∧ property.length > 1 then property.dropLast
    else property) = singular at h hsingular
  cases singular with
  | nil => cases h
  | cons c cs =>
    cases h
    rw [isQuiet_iff, String.toList_ofList]
    intro d hd
    rcases List.mem_append.mp hd with hd | hd
    · exact quiet_upperChar (hsingular c List.mem_cons_self) d hd
    · exact hsingular d (List.mem_cons_of_mem _ hd)

/-- The entity that a path leads to has letters of the path. -/
theorem quiet_inferEntity {parts : List String} (hp : ∀ w ∈ parts, isQuiet w = true)
    {entity : String} (h : inferEntity parts = .ok entity) : isQuiet entity = true := by
  unfold inferEntity at h
  split at h
  · next first second rest =>
    rw [List.getLast?_eq_some_getLast (by simp), Option.getD_some] at h
    exact quiet_entityOfProperty
      (isQuiet_iff.mp (hp _ (List.mem_cons_of_mem _ (List.getLast_mem _)))) h
  · cases h
    exact quiet_dotted hp

/-- What an analysis takes for an entity is a name of the query, or made of one. -/
theorem quiet_entity {entity : String} (h : EntityText entity) : isQuiet entity = true := by
  obtain ⟨parts, hp, rfl | he⟩ := h
  · exact quiet_dotted (quiet_parts hp)
  · exact quiet_inferEntity (quiet_parts hp) he

theorem signals_sizes {sizes : List String} {ts : List Token} (h : Sizes sizes ts)
    (hp : Proper ts) :
    SignalsAll sizes noSignal := by
  have hinteger : ∀ {t : Token}, t.kind = .integer → Lexeme.Spelling t.kind t.text.toList →
      Signals isGap t.text noSignal :=
    fun hk hs => signals_token hs (by rw [hk]; rfl)
  induction h with
  | one hk => exact .single (hinteger hk (hp _ (by simp)))
  | more _ _ hk ih =>
    have hlast := SignalsAll.single (hinteger hk (hp _ (by simp)))
    exact ((ih (hp.of_subset (by simp +contextual))).append hlast).congr fun s => or_self_iff

/-- The sizes of a type are numbers, with commas and parentheses around them. -/
theorem signals_type {type : String} (h : TypeText type) : Signals isGap type noSignal := by
  obtain ⟨ts, ht, hp⟩ := h
  cases ht with
  | plain hd => exact .silent (quiet_dotted (quiet_parts (pathText_of_dotted hd hp)))
  | @sized parts _ _ _ _ _ hd _ hs _ =>
    have hname :=
      quiet_dotted (quiet_parts (pathText_of_dotted hd (hp.of_subset (by simp +contextual))))
    have hopen : isQuiet (dotted parts ++ "(") = true := by
      rw [isQuiet_append, hname]
      rfl
    have hsizes := (signals_sizes hs (hp.of_subset (by simp +contextual))).listed
    exact hsizes.closed hopen

/-! ## Names of a place -/

/-- The names that a schema gives and those that an analysis has found are quiet. -/
structure Place.Quiet (q : Place) : Prop where
  names : q.scope.schema.hasNames isQuiet = true
  entities : ∀ name entity, q.scope.metadata.entityOf? name = some entity → isQuiet entity = true

variable {q : Place}

/-- A column is one of the schema or made of the field. -/
theorem quiet_column (h : q.Quiet) (entity? : Option String) {field : String}
    (hf : isQuiet field = true) :
    isQuiet (q.column entity? field) = true :=
  test_display (Schema.columnName_text h.names entity? (quiet_snakeCase hf))

/-- A table is one of the schema or made of the entity. -/
theorem quiet_tableName (h : q.Quiet) {entity : String} (he : isQuiet entity = true) :
    isTextOf isQuiet (q.scope.schema.tableName entity) = true :=
  Schema.tableName_text h.names (quiet_lower he)

theorem quiet_table (h : q.Quiet) {entity : String} (he : isQuiet entity = true) :
    isQuiet (q.table entity) = true :=
  test_display (quiet_tableName h he)

/-- A column among names. -/
theorem quiet_dotted_column (before : List String) {column : String} (rest : List String)
    (hb : ∀ w ∈ before, isQuiet w = true) (hc : isQuiet column = true)
    (hr : ∀ w ∈ rest, isQuiet w = true) :
    isQuiet (dotted (before ++ nameParts column ++ rest)) = true := by
  rw [dotted_append_nameParts]
  refine quiet_dotted fun w hw => ?_
  rcases List.mem_append.mp hw with hw | hw
  · exact hb w hw
  · rcases List.mem_cons.mp hw with rfl | hw
    · exact hc
    · exact hr w hw

/-- Splitting a column at its points and joining the parts again changes nothing. -/
theorem quiet_nameParts {column : String} (h : isQuiet column = true) :
    isQuiet (dotted (nameParts column)) = true := by
  rwa [dotted_nameParts]

/-- A path in an expression: whichever of its parts is replaced by a column, it stays quiet. -/
theorem quiet_path (h : q.Quiet) {parts : List String} (hp : ∀ w ∈ parts, isQuiet w = true) :
    isQuiet (dotted (q.path parts)) = true := by
  cases hc : q.pathColumn? parts with
  | none =>
    rw [Place.path_of_none hc]
    exact quiet_dotted hp
  | some column =>
    match parts with
    | [] => cases hc
    | [name] =>
      rw [Place.path_singleton hc]
      simp only [Place.pathColumn?] at hc
      split at hc
      · cases hc
        exact quiet_nameParts (quiet_column h _ (hp name (by simp)))
      · cases hc
    | first :: second :: rest =>
      rw [Place.path_cons hc]
      obtain ⟨entity, -, rfl⟩ := Option.map_eq_some_iff.mp hc
      exact quiet_dotted_column [first] rest (by simpa using hp first (by simp))
        (quiet_column h _ (hp second (by simp))) fun w hw => hp w (by simp [hw])

/-- The same for the left side of an assignment, which leaves out the name of its own target. -/
theorem quiet_targetPath (h : q.Quiet) {parts : List String} (hp : ∀ w ∈ parts, isQuiet w = true) :
    isQuiet (dotted (q.targetPath parts)) = true := by
  match parts with
  | [] => exact quiet_nameParts (rfl : isQuiet "" = true)
  | [name] => exact quiet_nameParts (quiet_column h _ (hp name (by simp)))
  | first :: second :: rest =>
    have hcolumn := quiet_column h (some (q.targetEntity first)) (hp second (by simp))
    have hrest : ∀ w ∈ rest, isQuiet w = true := fun w hw => hp w (by simp [hw])
    unfold Place.targetPath
    dsimp only
    split
    · exact quiet_dotted_column [] rest (by simp) hcolumn hrest
    · exact quiet_dotted_column [first] rest (by simpa using hp first (by simp)) hcolumn hrest

/-! ## Joins -/

/-- The table behind an alias, or behind the last name of a path. -/
theorem quiet_aliasTable (h : q.Quiet) {parts : List String} (hp : PathText parts)
    (asName : String) :
    isTextOf isQuiet (q.aliasTable parts asName) = true := by
  refine quiet_tableName h ?_
  cases he : q.scope.metadata.entityOf? asName with
  | some entity => exact h.entities asName entity he
  | none =>
    obtain ⟨entity, hi⟩ := inferEntity_ok hp
    rw [hi]
    exact quiet_inferEntity (quiet_parts hp) hi

/-- What may be null is a text if it counts as true. -/
theorem isTextOf_of_truthy {test : String → Bool} {v : Json} (h : isOptionalTextOf test v = true)
    (ht : v.truthy = true) :
    isTextOf test v = true := by
  cases v with
  | null => cases ht
  | str text => exact h
  | _ => cases h

theorem names_of_joinRelation (h : q.Quiet) {parts : List String} {source : String} {r : Relation}
    (hr : joinRelation q.scope parts = some (source, r)) : Relation.hasNames isQuiet r = true := by
  obtain ⟨entity, property, hrelation⟩ := relation_of_joinRelation hr
  exact Schema.relation_names h.names hrelation

/-- The table of a join, wherever it comes from. -/
theorem quiet_joinTable (h : q.Quiet) {parts : List String} (hp : PathText parts)
    (asName : String) :
    isQuiet (q.joinTable parts asName).display = true := by
  refine test_display ?_
  unfold Place.joinTable
  split
  · exact quiet_aliasTable h hp asName
  · next hr =>
    have hnames := names_of_joinRelation h hr
    simp only [Relation.hasNames, Bool.and_eq_true] at hnames
    split
    · next ht => exact Schema.table_text h.names ht
    · split
      · next htruthy => exact isTextOf_of_truthy hnames.2 htruthy
      · exact quiet_aliasTable h hp asName

/-- Both sides of an equation are an alias and a column. -/
theorem quiet_equation (h : q.Quiet) {parts : List String} (hp : PathText parts) {name : String}
    (hn : isQuiet name = true) {e : Place.Equation} (he : q.joinEquation? parts name = some e) :
    isQuiet e.text = true := by
  obtain ⟨⟨source, r⟩, hr, rfl⟩ := Option.map_eq_some_iff.mp he
  have hnames := names_of_joinRelation h hr
  simp only [Relation.hasNames, Bool.and_eq_true] at hnames
  have hsource := quiet_name (nameText_of_joinRelation hp hr)
  have hjoin := test_display hnames.1.1
  have href := test_display hnames.1.2
  have hside : ∀ {owner column : String}, isQuiet owner = true → isQuiet column = true →
      isQuiet (dotted (owner :: nameParts column)) = true := by
    intro owner column ho hc
    simpa using quiet_dotted_column [owner] [] (by simpa using ho) hc (by simp)
  dsimp only
  split <;> simp only [Place.Equation.text, isQuiet_append, hside, hn, hsource, hjoin, href,
    Bool.true_and, Bool.and_true]
  all_goals rfl

theorem quiet_onText (h : q.Quiet) {parts : List String} (hp : PathText parts) {name : String}
    (hn : isQuiet name = true) :
    isQuiet (onText (q.joinEquation? parts name)) = true := by
  cases he : q.joinEquation? parts name with
  | none => rfl
  | some e =>
    rw [onText, isQuiet_append, quiet_equation h hp hn he]
    rfl

/-- A join up to its condition. -/
theorem quiet_joinText (h : q.Quiet) (kind : JoinKind) {parts : List String} (hp : PathText parts)
    {name : String} (hn : isQuiet name = true) : isQuiet (q.joinText kind parts name) = true := by
  have hwords : isQuiet (joinWords kind) = true := by cases kind <;> decide
  rw [Place.joinText]
  simp only [isQuiet_append, hwords, quiet_joinTable h hp name, hn]
  rfl

end EntityQuery.Sql
