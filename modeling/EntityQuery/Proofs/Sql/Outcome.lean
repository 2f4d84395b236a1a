import EntityQuery.Proofs.Sql.WrittenStatement

/-!
# How a rendering ends

`Ends q q' x a free` says about a rendering `x` that starts in the place `q`: it gives `a` and is in
the place `q'` then, and `free` holds; or it meets something that SQL does not have, and `free` does
not hold. So `x` succeeds exactly if `free` holds, but for one more fault: a relation whose target
cannot be a name (`Schema.hasTargets`).

This is for schemas whose tables and columns are texts (`Schema.hasNames`). Then every piece is a
text, and every lookup succeeds.
-/

namespace EntityQuery.Sql

open Rendering

/-! ## Schemas of texts -/

/-- A text that passes a test. -/
def isTextOf (test : String → Bool) : Json → Bool
  | .str text => test text
  | _ => false

/-- A text that passes a test, or nothing. -/
def isOptionalTextOf (test : String → Bool) : Json → Bool
  | .null => true
  | .str text => test text
  | _ => false

/-- The columns of a relation are texts that pass a test, and so is its table, if it has one. -/
def Relation.hasNames (test : String → Bool) (r : Relation) : Bool :=
  isTextOf test r.joinColumn && isTextOf test r.referencedColumn &&
    isOptionalTextOf test r.targetTable

namespace Schema

/-- All tables and columns are texts that pass a test. -/
def hasNames (s : Schema) (test : String → Bool) : Bool :=
  (s.tables.entries.all fun e => isTextOf test e.2) &&
    (s.columns.entries.all fun e => e.2.entries.all fun f => isTextOf test f.2) &&
    s.relations.entries.all fun e => e.2.entries.all fun p => Relation.hasNames test p.2

/-- The targets of all relations can be names. -/
def hasTargets (s : Schema) : Bool :=
  s.relations.entries.all fun e => e.2.entries.all fun p => Names.isKey p.2.targetEntity

end Schema

theorem exists_text {test : String → Bool} {v : Json} (h : isTextOf test v = true) :
    ∃ text, v = .str text ∧ test text = true := by
  cases v with
  | str text => exact ⟨text, rfl, h⟩
  | _ => cases h

theorem mem_entries_of_get? {κ α : Type} [BEq κ] {r : Registry κ α} {k : κ} {v : α}
    (h : r.get? k = some v) :
    ∃ e ∈ r.entries, e.2 = v := by
  unfold Registry.get? at h
  obtain ⟨e, he, rfl⟩ := Option.map_eq_some_iff.mp h
  exact ⟨e, List.mem_of_find?_eq_some he, rfl⟩

namespace Schema

variable {s : Schema} {test : String → Bool}

theorem hasNames_mono {test' : String → Bool} (h : s.hasNames test = true)
    (ht : ∀ w, test w = true → test' w = true) :
    s.hasNames test' = true := by
  have htext : ∀ v, isTextOf test v = true → isTextOf test' v = true := by
    intro v hv
    obtain ⟨w, rfl, hw⟩ := exists_text hv
    exact ht w hw
  have hoptional : ∀ v, isOptionalTextOf test v = true → isOptionalTextOf test' v = true := by
    intro v hv
    cases v with
    | null => rfl
    | str w => exact ht w hv
    | _ => cases hv
  simp only [hasNames, Relation.hasNames, Bool.and_eq_true, List.all_eq_true] at h ⊢
  obtain ⟨⟨htables, hcolumns⟩, hrelations⟩ := h
  refine ⟨⟨fun e he => htext _ (htables e he), fun e he f hf => htext _ (hcolumns e he f hf)⟩,
    fun e he p hp => ?_⟩
  obtain ⟨⟨hjoin, href⟩, htable⟩ := hrelations e he p hp
  exact ⟨⟨htext _ hjoin, htext _ href⟩, hoptional _ htable⟩

theorem table_text (h : s.hasNames test = true) {entity table : Json}
    (ht : s.tables.get? entity = some table) :
    isTextOf test table = true := by
  simp only [hasNames, Bool.and_eq_true, List.all_eq_true] at h
  obtain ⟨e, he, rfl⟩ := mem_entries_of_get? ht
  exact h.1.1 e he

theorem column_text (h : s.hasNames test = true) {entity field : String} {column : Json}
    (hc : s.columns.column? entity field = some column) : isTextOf test column = true := by
  simp only [hasNames, Bool.and_eq_true, List.all_eq_true] at h
  unfold Columns.column? Columns.ofEntity at hc
  cases hnames : s.columns.get? (.str entity) with
  | none =>
    rw [hnames] at hc
    cases hc
  | some names =>
    rw [hnames] at hc
    obtain ⟨e, he, rfl⟩ := mem_entries_of_get? hnames
    obtain ⟨f, hf, rfl⟩ := mem_entries_of_get? hc
    exact h.1.2 e he f hf

theorem mem_of_relation? {entity property : String} {r : Relation}
    (h : s.relation? entity property = some r) :
    ∃ e ∈ s.relations.entries, ∃ p ∈ e.2.entries, p.2 = r := by
  unfold relation? at h
  obtain ⟨properties, hp, hr⟩ := Option.bind_eq_some_iff.mp h
  obtain ⟨e, he, rfl⟩ := mem_entries_of_get? hp
  exact ⟨e, he, mem_entries_of_get? hr⟩

theorem relation_names (h : s.hasNames test = true) {entity property : String} {r : Relation}
    (hr : s.relation? entity property = some r) : Relation.hasNames test r = true := by
  simp only [hasNames, Bool.and_eq_true, List.all_eq_true] at h
  obtain ⟨e, he, p, hp, rfl⟩ := mem_of_relation? hr
  exact h.2 e he p hp

theorem relation_target {entity property : String} {r : Relation}
    (hr : s.relation? entity property = some r) (hk : Names.isKey r.targetEntity = false) :
    s.hasTargets = false := by
  obtain ⟨e, he, p, hp, rfl⟩ := mem_of_relation? hr
  rw [Bool.eq_false_iff]
  intro h
  simp only [hasTargets, List.all_eq_true] at h
  rw [h e he p hp] at hk
  cases hk

/-- The table of an entity is a text; without a table, it is the name in small letters. -/
theorem tableName_text (h : s.hasNames test = true) {entity : String}
    (hd : test (Text.lower entity) = true) :
    isTextOf test (s.tableName entity) = true := by
  unfold tableName table? nonNull?
  cases ht : s.tables.get? (.str entity) with
  | none => exact hd
  | some table =>
    obtain ⟨text, rfl, htext⟩ := exists_text (table_text h ht)
    exact htext

/-- The column of a field is a text; without a column, it is the name in snake case. -/
theorem columnName_text (h : s.hasNames test = true) (entity? : Option String) {field : String}
    (hd : test (Text.snakeCase field) = true) :
    isTextOf test (s.columnName entity? field) = true := by
  unfold columnName column? nonNull?
  cases entity? with
  | none => exact hd
  | some entity =>
    rw [Option.bind_some]
    cases hc : s.columns.column? entity field with
    | none => exact hd
    | some column =>
      obtain ⟨text, rfl, htext⟩ := exists_text (column_text h hc)
      exact htext

end Schema

/-! ## Ends -/

/-- The faults of a rendering: something that SQL does not have, if the rendering is not free of it,
or a relation whose target cannot be a name. -/
inductive Fault (s : Schema) (free : Prop) : RenderFault → Prop
  | unsupported (feature : String) (h : ¬free) : Fault s free (.unsupported feature)
  | notAName (typeName : String) (h : s.hasTargets = false) : Fault s free (.notAName typeName)

theorem Fault.mono {s : Schema} {free free' : Prop} {f : RenderFault} (h : Fault s free f)
    (hi : free' → free) :
    Fault s free' f := by
  cases h with
  | unsupported feature hn => exact .unsupported feature fun h' => hn (hi h')
  | notAName typeName ht => exact .notAName typeName ht

variable {α β : Type}

/-- A rendering goes from one place to another and gives a result, if it is free of what SQL does
not have. -/
def Ends (q q' : Place) (x : Rendering α) (a : α) (free : Prop) : Prop :=
  ∀ ⦃s r s'⦄, q.Holds s → x.run.run s = (r, s') →
    (r = .ok a ∧ q'.Holds s' ∧ free) ∨ ∃ f, r = .error f ∧ Fault q.scope.schema free f

/-- A rendering stays in its place and gives a result, if it is free of what SQL does not have. -/
abbrev Gives (q : Place) (x : Rendering α) (a : α) (free : Prop) : Prop :=
  Ends q q x a free

namespace Ends

variable {q q' : Place} {x : Rendering α} {a : α} {b : β} {free free' : Prop}

theorem iff (h : Ends q q' x a free) (hi : free ↔ free') : Ends q q' x a free' := by
  rwa [propext hi] at h

theorem throw (feature : String) :
    Ends q q' (MonadExcept.throw (.unsupported feature) : Rendering α) a False := by
  intro s r s' _ hx
  cases hx
  exact .inr ⟨_, rfl, .unsupported feature id⟩

/-- A change of the state goes to another place under the same schema. -/
theorem modify {p : Place} (hp : p.scope = q.scope) {g : RenderState → RenderState}
    {f : PUnit → Rendering β} (hg : ∀ s, q.Holds s → p.Holds (g s)) (hf : Ends p q' (f ⟨⟩) b free) :
    Ends q q' (modify g >>= f) b free := by
  intro s r s' hq hx
  rw [run_bind] at hx
  have hend := hf (hg s hq) hx
  rwa [hp] at hend

theorem pure (a : α) : Gives q (Pure.pure a) a True := by
  intro s r s' hq hx
  cases hx
  exact .inl ⟨rfl, hq, trivial⟩

/-- One rendering after another. -/
theorem bind {f : α → Rendering β} (h : Gives q x a free) (hf : Ends q q' (f a) b free') :
    Ends q q' (x >>= f) b (free ∧ free') := by
  intro s r s'' hq hx
  rw [run_bind] at hx
  obtain ⟨r', s', hx'⟩ : ∃ r' s', x.run.run s = (r', s') := ⟨_, _, rfl⟩
  rw [hx'] at hx
  rcases h hq hx' with ⟨rfl, hq', hfree⟩ | ⟨f', rfl, hfault⟩
  · rcases hf hq' hx with ⟨rfl, hq'', hfree'⟩ | ⟨f', rfl, hfault⟩
    · exact .inl ⟨rfl, hq'', hfree, hfree'⟩
    · exact .inr ⟨f', rfl, hfault.mono And.right⟩
  · cases hx
    exact .inr ⟨f', rfl, hfault.mono And.left⟩

/-- A rendering after one that always succeeds. -/
theorem next {f : α → Rendering β} (h : Gives q x a True) (hf : Ends q q' (f a) b free) :
    Ends q q' (x >>= f) b free :=
  (h.bind hf).iff (by rw [true_and])

theorem get_bind {f : RenderState → Rendering β} (hf : ∀ s, q.Holds s → Ends q q' (f s) b free) :
    Ends q q' (MonadState.get >>= f) b free := by
  intro s r s' hq hx
  rw [run_bind] at hx
  exact hf s hq hq hx

theorem logging {y : Log.Logging α} (h : ∀ book, (y.run book).1 = a) :
    Gives q (Rendering.logging y) a True := by
  intro s r s' hq hx
  cases hx
  exact .inl ⟨congrArg Except.ok (h s.book), ⟨hq.target, hq.targetAlias, hq.columns⟩, trivial⟩

/-- A rendering that only looks something up and may find a target that cannot be a name. -/
theorem notAName (typeName : String) (h : q.scope.schema.hasTargets = false) :
    Ends q q' (MonadExcept.throw (.notAName typeName) : Rendering α) a True := by
  intro s r s' _ hx
  cases hx
  exact .inr ⟨_, rfl, .notAName typeName h⟩

/-- The text of a rendering goes into what follows. -/
theorem shows {x : Rendering Fragment} {w : String} {f : String → Rendering β}
    (h : Gives q x (.text w) free) (hf : Ends q q' (f w) b free') :
    Ends q q' (x >>= fun p => Rendering.shown p >>= f) b (free ∧ free') := by
  refine h.bind ?_
  rw [show Rendering.shown (.text w) = Pure.pure w from rfl, pure_bind]
  exact hf

end Ends

/-! ## Texts -/

theorem texts_map (ws : List String) (n : Nat) :
    Fragment.texts n (ws.map Fragment.text) = .ok ws := by
  induction ws generalizing n with
  | nil => rfl
  | cons w ws ih => rw [List.map_cons, Fragment.texts, ih]

theorem strung_map (sep : String) (ws : List String) :
    Rendering.strung sep (ws.map Fragment.text) = pure (sep.intercalate ws) := by
  rw [Rendering.strung, Fragment.strung, texts_map]
  rfl

theorem extendedBy_text (w : String) (words? : Option String) :
    Rendering.extendedBy (.text w) words? = pure (.text (w ++ words?.getD "")) := by
  cases words? with
  | none =>
    rw [Option.getD_none, String.append_empty]
    rfl
  | some words => rfl

/-! ## Lookups -/

variable {q : Place} {test : String → Bool}

/-- A text is shown as it is. -/
theorem ofJson_of_text {v : Json} (h : isTextOf test v = true) :
    Fragment.ofJson v = .text v.display := by
  obtain ⟨w, rfl, -⟩ := exists_text h
  rfl

theorem test_display {v : Json} (h : isTextOf test v = true) : test v.display = true := by
  obtain ⟨w, rfl, hw⟩ := exists_text h
  exact hw

/-- A schema whose tables and columns are texts, whichever they are. -/
def Schema.hasTexts (s : Schema) : Bool :=
  s.hasNames fun _ => true

theorem gives_columnPiece (hz : q.scope.schema.hasTexts = true) (entity? : Option String)
    (field : String) :
    Gives q (columnPiece q.scope entity? field) (.text (q.column entity? field)) True := by
  refine Ends.get_bind fun s hs => ?_
  have hschema : { q.scope.schema with columns := s.columns } = q.scope.schema := by rw [hs.columns]
  rw [hschema]
  refine Ends.next (.logging (run_columnFor _ entity? field)) ?_
  have htext : isTextOf (fun _ => true) (q.scope.schema.columnName entity? field) = true :=
    Schema.columnName_text hz entity? rfl
  obtain ⟨w, hw, -⟩ := exists_text htext
  rw [Place.column, hw]
  cases entity? <;> exact .pure _

/-- Names around a column. -/
theorem gives_dotted (before : List String) (column : String) (rest : List String) :
    Gives q (do
        let text ← Rendering.strung "."
          (before.map Fragment.text ++ .text column :: rest.map Fragment.text)
        pure (Fragment.text text))
      (.text (dotted (before ++ nameParts column ++ rest))) True := by
  rw [dotted_append_nameParts, dotted, ← List.map_cons, ← List.map_append, strung_map, pure_bind]
  exact .pure _

/-- A path is written with the column that it names. -/
theorem gives_path (hz : q.scope.schema.hasTexts = true) {parts : List String} (hne : parts ≠ []) :
    Gives q (renderPath q.scope parts) (.text (dotted (q.path parts))) True := by
  match parts, hne with
  | [name], _ =>
    rw [renderPath]
    refine Ends.get_bind fun s hs => ?_
    rw [hs.target]
    have hname : dotted [name] = name := by rw [dotted, String.intercalate_singleton]
    cases ht : q.target with
    | none =>
      have hc : q.pathColumn? [name] = none := by simp only [Place.pathColumn?, ht]
      rw [Place.path_of_none hc, hname]
      exact .pure _
    | some target =>
      cases he : q.scope.metadata.entityOf? name with
      | some entity =>
        have hc : q.pathColumn? [name] = none := by simp only [Place.pathColumn?, ht, he]
        rw [Place.path_of_none hc, hname]
        exact .pure _
      | none =>
        have hc : q.pathColumn? [name] = some (q.column (some target) name) := by
          simp only [Place.pathColumn?, ht, he]
        rw [Place.path_singleton hc, dotted_nameParts]
        exact gives_columnPiece hz _ _
  | first :: second :: rest, _ =>
    unfold renderPath
    dsimp only
    split
    · next hnone =>
      have ho : q.owner? first = none := hnone
      have hc : q.pathColumn? (first :: second :: rest) = none := by
        simp only [Place.pathColumn?, ho, Option.map_none]
      rw [Place.path_of_none hc]
      exact .pure _
    · next entity hsome =>
      have ho : q.owner? first = some entity := hsome
      have hc : q.pathColumn? (first :: second :: rest) = some (q.column (some entity) second) := by
        simp only [Place.pathColumn?, ho, Option.map_some]
      rw [Place.path_cons hc]
      exact (gives_columnPiece hz _ _).next (gives_dotted [first] _ rest)

/-- The left side of an assignment is written with its column. -/
theorem gives_target (hz : q.scope.schema.hasTexts = true) {parts : List String}
    (hne : parts ≠ []) :
    Gives q (renderTarget q.scope parts) (.text (dotted (q.targetPath parts))) True := by
  match parts, hne with
  | [name], _ =>
    rw [renderTarget]
    refine Ends.get_bind fun s hs => ?_
    rw [hs.target]
    unfold Place.targetPath
    rw [dotted_nameParts]
    exact gives_columnPiece hz _ _
  | first :: second :: rest, _ =>
    rw [renderTarget]
    refine (gives_columnPiece hz (some (q.targetEntity first)) second).next ?_
    refine Ends.get_bind fun s hs => ?_
    have hown : ((s.targetAlias == some first || s.target == some first) &&
        s.target == some ((given? (q.scope.metadata.entityOf? first)).getD first)) =
        q.isOwn first := by
      rw [hs.target, hs.targetAlias]
      rfl
    unfold Place.targetPath
    dsimp only
    rw [hown]
    cases q.isOwn first with
    | true => exact gives_dotted [] _ rest
    | false => exact gives_dotted [first] _ rest

theorem gives_table (entity : String) :
    Gives q (Rendering.logging (q.scope.schema.tableFor entity))
      (q.scope.schema.tableName entity) True :=
  .logging (run_tableFor _ _)

/-! ## Joins -/

theorem entityOfProperty_ok (c : Char) (cs : List Char) :
    ∃ entity, entityOfProperty (c :: cs) = .ok entity := by
  -- An `s` is dropped only from a longer name.
  have hsingular : ∃ d ds, (if (c :: cs).getLast? = some 's' ∧ (c :: cs).length > 1
      then (c :: cs).dropLast else c :: cs) = d :: ds := by
    split
    · next hplural =>
      cases cs with
      | nil => simp at hplural
      | cons d ds => exact ⟨c, (d :: ds).dropLast, rfl⟩
    · exact ⟨c, cs, rfl⟩
  obtain ⟨d, ds, h⟩ := hsingular
  simp only [entityOfProperty, h]
  exact ⟨_, rfl⟩

/-- A path leads to an entity. -/
theorem inferEntity_ok {parts : List String} (hp : PathText parts) :
    ∃ entity, inferEntity parts = .ok entity := by
  obtain ⟨first, rest, rfl, -, hr⟩ := hp
  cases rest with
  | nil => exact ⟨_, rfl⟩
  | cons second rest =>
    obtain ⟨kind, -, hs⟩ := hr ((second :: rest).getLast (by simp)) (List.getLast_mem _)
    obtain ⟨c, cs, hc⟩ := hs.exists_cons
    rw [inferEntity, List.getLast?_eq_some_getLast (by simp), Option.getD_some, hc]
    exact entityOfProperty_ok c cs

theorem gives_aliasTable {parts : List String} (hp : PathText parts) (asName : String) :
    Gives q (aliasTable q.scope parts asName) (q.aliasTable parts asName) True := by
  unfold aliasTable Place.aliasTable
  cases q.scope.metadata.entityOf? asName with
  | some entity => exact gives_table entity
  | none =>
    obtain ⟨entity, he⟩ := inferEntity_ok hp
    rw [he]
    refine Ends.next (.pure entity) ?_
    exact Ends.next (a := ()) (.logging fun _ => rfl) (gives_table entity)

/-- The relation of a join is one of the schema. -/
theorem relation_of_joinRelation {parts : List String} {source : String} {r : Relation}
    (h : joinRelation q.scope parts = some (source, r)) :
    ∃ entity property, q.scope.schema.relation? entity property = some r := by
  unfold joinRelation at h
  split at h
  · obtain ⟨entity, -, h⟩ := Option.bind_eq_some_iff.mp h
    obtain ⟨relation, hrelation, h⟩ := Option.bind_eq_some_iff.mp h
    cases h
    exact ⟨_, _, hrelation⟩
  · cases h

/-- A join goes to the table that its place gives, unless the target of its relation cannot be a
name. -/
theorem gives_joinTable {parts : List String} (hp : PathText parts) (asName : String) :
    Gives q (joinTable q.scope parts asName ((joinRelation q.scope parts).map Prod.snd))
      (q.joinTable parts asName) True := by
  unfold joinTable Place.joinTable
  cases hr : joinRelation q.scope parts with
  | none => exact gives_aliasTable hp asName
  | some step =>
    obtain ⟨source, r⟩ := step
    dsimp only [Option.map_some]
    split
    · next hkey =>
      obtain ⟨entity, property, hrelation⟩ := relation_of_joinRelation hr
      exact .notAName _ (Schema.relation_target hrelation (by simpa using hkey))
    · cases q.scope.schema.tables.get? r.targetEntity with
      | some table => exact .pure _
      | none =>
        dsimp only
        split
        · exact .pure _
        · exact gives_aliasTable hp asName

theorem gives_joinHead (kind : JoinKind) {parts : List String} (hp : PathText parts)
    (name : String) :
    Gives q (renderJoinHead q.scope kind parts name)
      (joinWords kind ++ " " ++ (q.joinTable parts name).display ++ " " ++ name) True :=
  (gives_joinTable hp name).next (.pure _)

/-- A join without a condition of its own has the one of its relation. -/
theorem gives_joinByRelation (parts : List String) (asName head : String) :
    Gives q (renderJoinByRelation q.scope parts asName head)
      (.text (head ++ onText (q.joinEquation? parts asName))) True := by
  unfold renderJoinByRelation
  cases hr : joinRelation q.scope parts with
  | none =>
    rw [Place.joinEquation?, hr, Option.map_none, onText, String.append_empty]
    exact Ends.next (a := ()) (.logging fun _ => rfl) (.pure _)
  | some step =>
    obtain ⟨source, r⟩ := step
    refine Ends.next (.logging (run_resolve hr asName)) ?_
    cases q.joinEquation? parts asName with
    | none =>
      rw [onText, String.append_empty]
      exact .pure _
    | some e =>
      rw [onText, ← String.append_assoc]
      exact .pure _

end EntityQuery.Sql
