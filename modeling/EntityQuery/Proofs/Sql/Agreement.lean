import EntityQuery.Proofs.Node.Contents
import EntityQuery.Proofs.Sql.WrittenName

/-!
# Renderings that agree

`Agree known V x y` compares two renderings in all their outcomes: from states that show the same,
they give the same result, a value in `V` or a fault, and leave states that show the same. States
show the same if they have the same target and the same columns of the known entities; their logs
may differ.

Pieces of SQL can point to the list of a column. `Fragment.PointsTo` says that the entity of that
column is known, so that the piece shows the same in both renderings.

The main statement is `agree_render`: a tree is rendered the same in two scopes if each of its nodes
finds the same names in both.
-/

namespace EntityQuery.Sql

open Rendering

variable {α β : Type} {known : String → Prop}

/-! ## States -/

/-- The columns after the list of one of them has grown. -/
theorem Columns.column?_extend (c : Columns) (entity field words entity' field' : String) :
    (c.extend entity field words).column? entity' field' =
      if entity = entity' ∧ field = field' then
        some (.arr (c.items entity field ++ words.toList.map fun letter =>
          .str (String.ofList [letter])))
      else c.column? entity' field' := by
  unfold Columns.extend Columns.column?
  rw [Columns.ofEntity_putColumn]
  by_cases he : entity = entity'
  · by_cases hf : field = field'
    · rw [if_pos he, if_pos ⟨he, hf⟩, ← hf, Registry.get?_put_self (exact_str field)]
    · rw [if_pos he, if_neg fun h => hf h.2,
        Registry.get?_put_of_ne (exact_str field) (exact_str field') (by simpa using hf)]
  · rw [if_neg he, if_neg fun h => he h.1]

/-- Two states show the same to a rendering that looks up known entities only. -/
structure SameView (known : String → Prop) (s t : RenderState) : Prop where
  target : s.target = t.target
  targetAlias : s.targetAlias = t.targetAlias
  known_target : ∀ entity, s.target = some entity → known entity
  columns : ∀ entity, known entity → ∀ field,
    s.columns.column? entity field = t.columns.column? entity field

namespace SameView

variable {s t : RenderState}

theorem logged (h : SameView known s t) (book book' : Log.Book) :
    SameView known { s with book } { t with book := book' } :=
  ⟨h.target, h.targetAlias, h.known_target, h.columns⟩

theorem items (h : SameView known s t) {entity : String} (hk : known entity) (field : String) :
    s.columns.items entity field = t.columns.items entity field := by
  rw [Columns.items, Columns.items, h.columns entity hk field]

theorem extend (h : SameView known s t) {entity : String} (hk : known entity)
    (field words : String) :
    SameView known { s with columns := s.columns.extend entity field words }
      { t with columns := t.columns.extend entity field words } := by
  refine ⟨h.target, h.targetAlias, h.known_target, fun entity' hk' field' => ?_⟩
  show (s.columns.extend entity field words).column? entity' field' = _
  rw [Columns.column?_extend, Columns.column?_extend, h.items hk field,
    h.columns entity' hk' field']

end SameView

/-- A piece that points to a column points to one of a known entity. -/
def Fragment.PointsTo (known : String → Prop) : Fragment → Prop
  | .column entity _ => known entity
  | _ => True

theorem Fragment.pointsTo_ofJson (v : Json) : (Fragment.ofJson v).PointsTo known := by
  cases v <;> trivial

/-! ## Pairs of renderings -/

/-- From states that show the same, two renderings have the same outcome and leave states that show
the same. -/
def Agree (known : String → Prop) (V : α → Prop) (x y : Rendering α) : Prop :=
  ∀ ⦃s t⦄, SameView known s t → (x.run.run s).1 = (y.run.run t).1 ∧
    (∀ a, (x.run.run s).1 = .ok a → V a) ∧ SameView known (x.run.run s).2 (y.run.run t).2

/-- Two renderings agree, whatever their value. -/
abbrev Agrees (known : String → Prop) (x y : Rendering α) : Prop :=
  Agree known (fun _ => True) x y

/-- Two renderings agree on a piece that the rest can use. -/
abbrev AgreeOn (known : String → Prop) (x y : Rendering Fragment) : Prop :=
  Agree known (Fragment.PointsTo known) x y

/-- Two renderings agree on pieces that the rest can use. -/
abbrev AgreeOnAll (known : String → Prop) (x y : Rendering (List Fragment)) : Prop :=
  Agree known (fun ps => ∀ p ∈ ps, p.PointsTo known) x y

namespace Agree

variable {V : α → Prop} {W : β → Prop} {x y : Rendering α}

theorem bind {f g : α → Rendering β} (h : Agree known V x y)
    (hf : ∀ a, V a → Agree known W (f a) (g a)) :
    Agree known W (x >>= f) (y >>= g) := by
  intro s t hst
  obtain ⟨hresult, hvalue, hstate⟩ := h hst
  rw [run_bind, run_bind]
  generalize x.run.run s = r at hresult hvalue hstate
  generalize y.run.run t = r' at hresult hstate
  obtain ⟨result, s'⟩ := r
  obtain ⟨result', t'⟩ := r'
  obtain rfl : result = result' := hresult
  cases result with
  | ok a => exact hf a (hvalue a rfl) hstate
  | error e => exact ⟨rfl, fun _ h => (by cases h), hstate⟩

theorem pure {a : α} (h : V a) : Agree known V (Pure.pure a) (Pure.pure a) := by
  intro s t hst
  exact ⟨rfl, fun b hb => by cases hb; exact h, hst⟩

/-- A text points to nothing. -/
theorem text (w : String) : AgreeOn known (Pure.pure (.text w)) (Pure.pure (.text w)) :=
  .pure trivial

theorem throw (e : RenderFault) : Agree known V (MonadExcept.throw e) (MonadExcept.throw e) := by
  intro s t hst
  exact ⟨rfl, fun _ h => (by cases h), hst⟩

theorem get {f g : RenderState → Rendering β}
    (h : ∀ s t, SameView known s t → Agree known W (f s) (g t)) :
    Agree known W (MonadState.get >>= f) (MonadState.get >>= g) :=
  fun s t hst => h s t hst hst

theorem modify {f g : RenderState → RenderState}
    (h : ∀ s t, SameView known s t → SameView known (f s) (g t)) :
    Agrees known (modify f) (modify g) :=
  fun s t hst => ⟨rfl, fun _ _ => trivial, h s t hst⟩

/-- What is looked up does not depend on the log. -/
theorem logging {u v : Log.Logging α} (h : ∀ book book', (u.run book).1 = (v.run book').1) :
    Agrees known (Rendering.logging u) (Rendering.logging v) := by
  intro s t hst
  exact ⟨congrArg Except.ok (h s.book t.book), fun _ _ => trivial, hst.logged _ _⟩

/-- An entry of the log changes nothing that a rendering sees. -/
theorem noting {u v : Log.Logging Unit} {x y : Rendering β} (h : Agree known W x y) :
    Agree known W (Rendering.logging u >>= fun _ => x) (Rendering.logging v >>= fun _ => y) := by
  have hentry : Agrees known (Rendering.logging u) (Rendering.logging v) :=
    logging fun _ _ => Subsingleton.elim _ _
  exact hentry.bind fun _ _ => h

theorem ofExcept (r : Except RenderFault α) :
    Agrees known (Rendering.ofExcept r) (Rendering.ofExcept r) := by
  cases r with
  | ok a => exact .pure trivial
  | error e => exact .throw e

theorem ofTree (r : Except TreeFault α) :
    Agree known (fun a => r = .ok a) (Rendering.ofTree r) (Rendering.ofTree r) := by
  cases r with
  | ok a => exact .pure rfl
  | error e => exact .throw _

/-! ## Pieces -/

theorem strung (sep : String) (ps : List Fragment) :
    Agrees known (Rendering.strung sep ps) (Rendering.strung sep ps) :=
  .ofExcept _

/-- Pieces that are strung together make a text. -/
theorem strungText {sep : String} {ps : List Fragment} {f g : String → Rendering β}
    (h : ∀ w, Agree known W (f w) (g w)) :
    Agree known W (Rendering.strung sep ps >>= f) (Rendering.strung sep ps >>= g) :=
  (strung sep ps).bind fun w _ => h w

theorem after (keyword : String) (p : Fragment) :
    AgreeOn known (Rendering.after keyword p) (Rendering.after keyword p) :=
  (ofExcept _).bind fun w _ => .text w

theorem shown {p : Fragment} (h : p.PointsTo known) :
    Agrees known (Rendering.shown p) (Rendering.shown p) := by
  cases p with
  | text w => exact .pure trivial
  | value v => exact .pure trivial
  | column entity field =>
    refine .get fun s t hst => ?_
    rw [hst.items h field]
    exact .pure trivial

theorem isPresent {p : Fragment} (h : p.PointsTo known) :
    Agrees known (Rendering.isPresent p) (Rendering.isPresent p) := by
  cases p with
  | text w => exact .pure trivial
  | value v => exact .pure trivial
  | column entity field =>
    refine .get fun s t hst => ?_
    rw [hst.items h field]
    exact .pure trivial

/-- Words behind a list make it grow in both states. -/
theorem extendedBy {p : Fragment} (h : p.PointsTo known) (words? : Option String) :
    AgreeOn known (Rendering.extendedBy p words?) (Rendering.extendedBy p words?) := by
  cases words? with
  | none => exact .pure h
  | some words =>
    cases p with
    | text w => exact .text _
    | value v => exact .throw _
    | column entity field =>
      exact (modify fun s t hst => hst.extend h field words).bind fun _ _ => .pure h

/-- A rendering whose result is formatted. -/
theorem display {x y : Rendering Fragment} {f g : String → Rendering β} (h : AgreeOn known x y)
    (hf : ∀ w, Agree known W (f w) (g w)) :
    Agree known W (x >>= fun p => Rendering.shown p >>= f)
      (y >>= fun p => Rendering.shown p >>= g) :=
  h.bind fun _ hp => (shown hp).bind fun w _ => hf w

/-- A rendering whose results are strung together. -/
theorem string {V : List Fragment → Prop} {x y : Rendering (List Fragment)}
    {f g : String → Rendering β} {sep : String} (h : Agree known V x y)
    (hf : ∀ w, Agree known W (f w) (g w)) :
    Agree known W (x >>= fun ps => Rendering.strung sep ps >>= f)
      (y >>= fun ps => Rendering.strung sep ps >>= g) :=
  h.bind fun _ _ => strungText hf

end Agree

theorem agree_itemsClause (keyword : String) (ps : List Fragment) :
    AgreeOnAll known (itemsClause keyword ps) (itemsClause keyword ps) := by
  unfold itemsClause
  split
  · exact .pure (by simp)
  · exact .strungText fun w => .pure (List.forall_mem_singleton.mpr trivial)

/-! ## Names -/

variable {z z' : Scope}

/-- The columns are those of the state, so any two scopes find the same column of a known entity. -/
theorem agree_columnPiece {entity? : Option String}
    (h : ∀ entity, entity? = some entity → known entity) (field : String) :
    AgreeOn known (columnPiece z entity? field) (columnPiece z' entity? field) := by
  refine .get fun s t hst => ?_
  have hcolumn : ({ z.schema with columns := s.columns } : Schema).columnName entity? field =
      ({ z'.schema with columns := t.columns } : Schema).columnName entity? field := by
    cases entity? with
    | none => rfl
    | some entity =>
      simp only [Schema.columnName, Schema.column?, Option.bind_some,
        hst.columns entity (h entity rfl) field]
  refine (Agree.logging fun book book' => ?_).bind fun column _ => ?_
  · rw [run_columnFor, run_columnFor, hcolumn]
  · cases entity? with
    | none => exact .pure (Fragment.pointsTo_ofJson column)
    | some entity =>
      cases column with
      | arr items => exact .pure (h entity rfl)
      | _ => exact .pure (Fragment.pointsTo_ofJson _)

/-- Two metadata say the same about aliases, and know the entities of all of them. -/
structure SameEntities (known : String → Prop) (m m' : Metadata) : Prop where
  entityOf? : ∀ name, m.entityOf? name = m'.entityOf? name
  known : ∀ name entity, m.entityOf? name = some entity → known entity

/-- A path is rendered the same if its first name, where it is no alias, is an entity for both
schemas or for none. -/
theorem agree_path {parts : List String} (hm : SameEntities known z.metadata z'.metadata)
    (hfirst : ∀ first second rest, parts = first :: second :: rest → known first ∧
      z.schema.tables.contains (.str first) = z'.schema.tables.contains (.str first)) :
    AgreeOn known (renderPath z parts) (renderPath z' parts) := by
  match parts with
  | [] => exact .throw _
  | [name] =>
    rw [renderPath, renderPath]
    refine .get fun s t hst => ?_
    rw [← hm.entityOf? name, ← hst.target]
    cases htarget : s.target with
    | none => exact .text _
    | some target =>
      cases z.metadata.entityOf? name with
      | some entity => exact .text _
      | none =>
        refine agree_columnPiece ?_ name
        rintro _ ⟨⟩
        exact hst.known_target target htarget
  | first :: second :: rest =>
    obtain ⟨hknown, htables⟩ := hfirst first second rest rfl
    have hfound : ∀ entity, known entity → AgreeOn known
        (columnPiece z (some entity) second >>= fun column =>
          Rendering.strung "." (.text first :: column :: rest.map Fragment.text) >>= fun w =>
            pure (.text w))
        (columnPiece z' (some entity) second >>= fun column =>
          Rendering.strung "." (.text first :: column :: rest.map Fragment.text) >>= fun w =>
            pure (.text w)) := by
      intro entity hentity
      refine (agree_columnPiece ?_ second).bind fun column _ => .strungText fun w => .text w
      rintro _ ⟨⟩
      exact hentity
    rw [renderPath, renderPath, ← hm.entityOf? first, ← htables]
    cases hentity : z.metadata.entityOf? first with
    | some entity => exact hfound entity (hm.known first entity hentity)
    | none =>
      by_cases hcontains : z.schema.tables.contains (.str first) = true
      · rw [if_pos hcontains]
        exact hfound first hknown
      · rw [if_neg hcontains]
        exact .text _

/-- The left side of an assignment is rendered the same if its first name, where it is no alias, is
known. -/
theorem agree_target {parts : List String} (hm : SameEntities known z.metadata z'.metadata)
    (hfirst : ∀ first second rest, parts = first :: second :: rest → known first) :
    AgreeOn known (renderTarget z parts) (renderTarget z' parts) := by
  match parts with
  | [] => exact .throw _
  | [name] =>
    rw [renderTarget, renderTarget]
    refine .get fun s t hst => ?_
    rw [← hst.target]
    exact agree_columnPiece hst.known_target name
  | first :: second :: rest =>
    rw [renderTarget, renderTarget, ← hm.entityOf? first]
    have hentity : known ((given? (z.metadata.entityOf? first)).getD first) := by
      cases hgiven : given? (z.metadata.entityOf? first) with
      | none => exact hfirst first second rest rfl
      | some entity => exact hm.known first entity (Option.filter_eq_some_iff.mp hgiven).1
    generalize (given? (z.metadata.entityOf? first)).getD first = entity at hentity
    refine (agree_columnPiece ?_ second).bind fun column _ => .get fun s t hst => ?_
    · rintro _ ⟨⟩
      exact hentity
    · rw [← hst.target, ← hst.targetAlias]
      exact .strungText fun w => .text w

theorem agree_table {entity : String} (h : z.schema.table? entity = z'.schema.table? entity) :
    Agrees known (Rendering.logging (z.schema.tableFor entity))
      (Rendering.logging (z'.schema.tableFor entity)) := by
  refine .logging fun book book' => ?_
  rw [run_tableFor, run_tableFor, Schema.tableName, Schema.tableName, h]

/-! ## Joins -/

/-- Two schemas have the same tables for the entity of an alias, and for the one that its path
suggests. -/
structure SameAliasTable (z z' : Scope) (parts : List String) (asName : String) : Prop where
  declared : ∀ entity, z.metadata.entityOf? asName = some entity →
    z.schema.table? entity = z'.schema.table? entity
  inferred : ∀ entity, z.metadata.entityOf? asName = none → inferEntity parts = .ok entity →
    z.schema.table? entity = z'.schema.table? entity

theorem agree_aliasTable {parts : List String} {asName : String}
    (hm : SameEntities known z.metadata z'.metadata) (h : SameAliasTable z z' parts asName) :
    Agrees known (aliasTable z parts asName) (aliasTable z' parts asName) := by
  rw [aliasTable, aliasTable, ← hm.entityOf? asName]
  cases hentity : z.metadata.entityOf? asName with
  | some entity => exact agree_table (h.declared entity hentity)
  | none =>
    refine (Agree.ofTree _).bind fun entity hinferred => ?_
    exact .noting (agree_table (h.inferred entity hentity hinferred))

/-- Two relations go to the same table. -/
structure SameTarget (r r' : Relation) : Prop where
  targetEntity : r.targetEntity = r'.targetEntity
  truthy : r.targetTable.truthy = r'.targetTable.truthy
  targetTable : r.targetTable.truthy = true → r.targetTable = r'.targetTable

theorem agree_joinTable {parts : List String} {asName : String} {r? r'? : Option Relation}
    (hm : SameEntities known z.metadata z'.metadata) (h : SameAliasTable z z' parts asName)
    (hr : Option.Rel SameTarget r? r'?)
    (htable : ∀ r, r? = some r →
      z.schema.tables.get? r.targetEntity = z'.schema.tables.get? r.targetEntity) :
    Agrees known (joinTable z parts asName r?) (joinTable z' parts asName r'?) := by
  have halias := agree_aliasTable hm h
  cases hr with
  | none => exact halias
  | @some r r' hsame =>
    rw [joinTable, joinTable, ← hsame.targetEntity, ← htable r rfl]
    split
    · exact .throw _
    · cases z.schema.tables.get? r.targetEntity with
      | some table => exact .pure trivial
      | none =>
        dsimp only
        rw [← hsame.truthy]
        split
        · next htruthy =>
          rw [hsame.targetTable htruthy]
          exact .pure trivial
        · exact halias

/-- Two relations join over the same columns. -/
structure SameColumns (r r' : Relation) : Prop where
  isCollection : r.isCollection = r'.isCollection
  joinColumn : r.joinColumn = r'.joinColumn
  referencedColumn : r.referencedColumn = r'.referencedColumn

/-- Two joins go through the same alias, over relations that are the same in some respect. -/
def SameJoin (R : Relation → Relation → Prop) (x y : String × Relation) : Prop :=
  x.1 = y.1 ∧ R x.2 y.2

theorem agree_joinHead (kind : JoinKind) {parts : List String} {asName : String}
    (h : Agrees known (joinTable z parts asName ((joinRelation z parts).map Prod.snd))
      (joinTable z' parts asName ((joinRelation z' parts).map Prod.snd))) :
    Agrees known (renderJoinHead z kind parts asName) (renderJoinHead z' kind parts asName) :=
  h.bind fun _ _ => .pure trivial

theorem run_resolve_of_sameColumns {r r' : Relation} (h : SameColumns r r') (w : Resolver)
    (source path asName : String) (book book' : Log.Book) :
    ((w.resolve source path asName (some r)).run book).1 =
      ((w.resolve source path asName (some r')).run book').1 := by
  have hcollection : w.isCollection (lastName path) (some r) =
      w.isCollection (lastName path) (some r') := by
    simp only [Resolver.isCollection, h.isCollection]
  unfold Resolver.resolve
  dsimp only
  rw [hcollection, h.joinColumn, h.referencedColumn]
  split <;> rfl

theorem agree_joinByRelation {parts : List String} (asName head : String)
    (hoptions : z.schema.options = z'.schema.options)
    (hr : Option.Rel (SameJoin SameColumns) (joinRelation z parts) (joinRelation z' parts)) :
    AgreeOn known (renderJoinByRelation z parts asName head)
      (renderJoinByRelation z' parts asName head) := by
  have hresolver : z.schema.resolver = z'.schema.resolver := by
    rw [Schema.resolver, Schema.resolver, hoptions]
  unfold renderJoinByRelation
  generalize joinRelation z parts = r at hr
  generalize joinRelation z' parts = r' at hr
  cases hr with
  | none => exact .noting (.text _)
  | @some x y hsame =>
    obtain ⟨source, r⟩ := x
    obtain ⟨source', r'⟩ := y
    obtain ⟨hsource, hcolumns⟩ := hsame
    obtain rfl : source = source' := hsource
    rw [hresolver]
    refine (Agree.logging (run_resolve_of_sameColumns hcolumns _ _ _ _)).bind fun condition _ => ?_
    cases condition with
    | some w => exact .text _
    | none => exact .text _

theorem agree_aliasless (along : Node) (hoptions : z.schema.options = z'.schema.options) :
    AgreeOn known (renderAliasless z along) (renderAliasless z' along) := by
  unfold renderAliasless
  rw [hoptions]
  refine (Agree.ofTree _).bind fun w _ => ?_
  split
  · exact .noting (.text _)
  · exact .throw _

/-! ## Trees -/

/-- The names that a node itself looks up are rendered the same in two scopes. -/
def FindsSame (known : String → Prop) (z z' : Scope) : Node → Prop
  | .path parts => AgreeOn known (renderPath z parts) (renderPath z' parts)
  | .assignment target _ =>
    ∀ parts, target.pathParts = .ok parts →
      AgreeOn known (renderTarget z parts) (renderTarget z' parts)
  | .join kind along asName _ condition =>
    AgreeOn known (renderAliasless z along) (renderAliasless z' along) ∧
      ∀ parts name, along.pathParts = .ok parts → asName = some name →
        Agrees known (renderJoinHead z kind parts name) (renderJoinHead z' kind parts name) ∧
          (condition = none → ∀ head,
            AgreeOn known (renderJoinByRelation z parts name head)
            (renderJoinByRelation z' parts name head))
  | .fromItem entity _ _ => z.schema.table? entity = z'.schema.table? entity
  | .update entity _ _ _ | .delete entity _ _ =>
    known entity ∧ z.schema.table? entity = z'.schema.table? entity
  | _ => True

section

variable {ns : List Node} {n? : Option Node}

theorem agree_list (h : ∀ n ∈ ns, AgreeOn known (render z n) (render z' n)) :
    AgreeOnAll known (renderList z ns) (renderList z' ns) := by
  induction ns with
  | nil =>
    rw [renderList, renderList]
    exact .pure (by simp)
  | cons n ns ih =>
    obtain ⟨hn, hns⟩ := List.forall_mem_cons.mp h
    rw [renderList, renderList]
    exact hn.bind fun p hp => (ih hns).bind fun ps hps => .pure (List.forall_mem_cons.mpr ⟨hp, hps⟩)

theorem agree_present (h : ∀ n ∈ ns, AgreeOn known (render z n) (render z' n)) :
    AgreeOnAll known (renderPresent z ns) (renderPresent z' ns) := by
  induction ns with
  | nil =>
    rw [renderPresent, renderPresent]
    exact .pure (by simp)
  | cons n ns ih =>
    obtain ⟨hn, hns⟩ := List.forall_mem_cons.mp h
    rw [renderPresent, renderPresent]
    refine hn.bind fun p hp => (Agree.isPresent hp).bind fun present _ =>
      (ih hns).bind fun ps hps => .pure ?_
    split
    · exact List.forall_mem_cons.mpr ⟨hp, hps⟩
    · exact hps

theorem agree_first (h : ∀ n ∈ ns, AgreeOn known (render z n) (render z' n)) :
    AgreeOn known (renderFirst z ns) (renderFirst z' ns) := by
  cases ns with
  | nil =>
    rw [renderFirst, renderFirst]
    exact .throw _
  | cons n ns =>
    rw [renderFirst, renderFirst]
    exact h n List.mem_cons_self

theorem agree_option (h : ∀ n ∈ n?.toList, AgreeOn known (render z n) (render z' n)) :
    Agree known (fun p? => ∀ p ∈ p?.toList, p.PointsTo known) (renderOption z n?)
      (renderOption z' n?) := by
  cases n? with
  | none =>
    rw [renderOption, renderOption]
    exact .pure (by simp)
  | some n =>
    rw [renderOption, renderOption]
    exact (h n (by simp)).bind fun p hp => .pure (by simpa using hp)

theorem agree_clause (keyword : String)
    (h : ∀ n ∈ n?.toList, AgreeOn known (render z n) (render z' n)) :
    AgreeOnAll known (renderClause z keyword n?) (renderClause z' keyword n?) := by
  cases n? with
  | none =>
    rw [renderClause, renderClause]
    exact .pure (by simp)
  | some n =>
    rw [renderClause, renderClause]
    refine (h n (by simp)).bind fun p _ => (Agree.after keyword p).bind fun clause hclause => ?_
    exact .pure (List.forall_mem_singleton.mpr hclause)

end

/-- A node that puts words around the text of one operand. -/
theorem agree_around {n e : Node} {words : String → String}
    (hn : ∀ scope, render scope n = do
      let w ← shown (← render scope e)
      pure (.text (words w)))
    (h : AgreeOn known (render z e) (render z' e)) : AgreeOn known (render z n) (render z' n) := by
  rw [hn, hn]
  exact h.display fun w => .text _

/-- A node that puts words around the texts of two operands. -/
theorem agree_aroundBoth {n l r : Node} {words : String → String → String}
    (hn : ∀ scope, render scope n = do
      let v ← shown (← render scope l)
      let w ← shown (← render scope r)
      pure (.text (words v w)))
    (hl : AgreeOn known (render z l) (render z' l))
    (hr : AgreeOn known (render z r) (render z' r)) :
    AgreeOn known (render z n) (render z' n) := by
  rw [hn, hn]
  exact hl.display fun v => hr.display fun w => .text _

theorem agree_call {name : String} {args : List Node} {distinct isKnown : Bool}
    {side type : Option String} {char : Option Node}
    (ha : ∀ n ∈ args, AgreeOn known (render z n) (render z' n))
    (hc : ∀ n ∈ char.toList, AgreeOn known (render z n) (render z' n)) :
    AgreeOn known (render z (.call name args distinct isKnown side char type))
      (render z' (.call name args distinct isKnown side char type)) := by
  have hargs := agree_list ha
  have hfirst := agree_first ha
  rw [render, render]
  split
  · exact hargs.string fun w => .text _
  · split
    · exact .throw _
    · split
      · exact .text _
      · split
        · refine (agree_option hc).bind fun char _ => hfirst.bind fun first _ => ?_
          exact .strungText fun w => .text _
        · split
          · exact hfirst.display fun w => .text _
          · exact hargs.string fun w => .text _

theorem agree_inSet {e : Node} {values : List Node} {query single : Option Node} {negated : Bool}
    (h : AgreeOn known (render z e) (render z' e))
    (hv : ∀ n ∈ values, AgreeOn known (render z n) (render z' n))
    (hq : ∀ n ∈ query.toList, AgreeOn known (render z n) (render z' n))
    (hs : ∀ n ∈ single.toList, AgreeOn known (render z n) (render z' n)) :
    AgreeOn known (render z (.inSet e values query single negated))
      (render z' (.inSet e values query single negated)) := by
  cases query with
  | some q =>
    rw [render, render]
    refine (hq q (by simp)).bind fun inner hinner => h.display fun w => ?_
    exact (Agree.shown hinner).bind fun _ _ => .text _
  | none =>
    cases single with
    | some p =>
      rw [render, render]
      refine (hs p (by simp)).bind fun inner hinner => h.display fun w => ?_
      exact (Agree.shown hinner).bind fun _ _ => .text _
    | none =>
      rw [render, render]
      exact (agree_list hv).string fun inner => h.display fun w => .text _

theorem agree_like {e pattern : Node} {escape : Option Node} {negated : Bool}
    (h : AgreeOn known (render z e) (render z' e))
    (hp : AgreeOn known (render z pattern) (render z' pattern))
    (hc : ∀ n ∈ escape.toList, AgreeOn known (render z n) (render z' n)) :
    AgreeOn known (render z (.like e pattern escape negated))
      (render z' (.like e pattern escape negated)) := by
  rw [render, render]
  refine h.display fun w => hp.display fun wp => (agree_option hc).bind fun char hchar => ?_
  cases char with
  | none => exact .text _
  | some c => exact (Agree.shown (hchar c (by simp))).bind fun _ _ => .text _

theorem agree_caseOf {operand otherwise : Option Node} {branches : List Node}
    (ho : ∀ n ∈ operand.toList, AgreeOn known (render z n) (render z' n))
    (hb : ∀ n ∈ branches, AgreeOn known (render z n) (render z' n))
    (he : ∀ n ∈ otherwise.toList, AgreeOn known (render z n) (render z' n)) :
    AgreeOn known (render z (.caseOf operand branches otherwise))
      (render z' (.caseOf operand branches otherwise)) := by
  rw [render, render]
  refine (agree_option ho).bind fun operand _ => (agree_list hb).bind fun branches _ => ?_
  refine (agree_option he).bind fun otherwise hother => ?_
  cases otherwise with
  | none => exact .strungText fun w => .text _
  | some e => exact (Agree.shown (hother e (by simp))).bind fun _ _ => .strungText fun w => .text _

theorem agree_join {kind : JoinKind} {along : Node} {asName : Option String} {fetch : Bool}
    {condition : Option Node} (h : FindsSame known z z' (.join kind along asName fetch condition))
    (hc : asName.isSome = true → ∀ n ∈ condition.toList, AgreeOn known (render z n) (render z' n)) :
    AgreeOn known (render z (.join kind along asName fetch condition))
      (render z' (.join kind along asName fetch condition)) := by
  rw [render, render]
  cases hgiven : given? asName with
  | none => exact h.1
  | some name =>
    obtain ⟨rfl, -⟩ := Option.filter_eq_some_iff.mp hgiven
    refine (Agree.ofTree along.pathParts).bind fun parts hparts => ?_
    obtain ⟨hhead, hrelation⟩ := h.2 parts name hparts rfl
    refine hhead.bind fun head _ => ?_
    cases condition with
    | some test =>
      rw [renderOption, renderOption, bind_assoc, bind_assoc]
      simp only [pure_bind]
      exact (hc rfl test (by simp)).display fun w => .text _
    | none =>
      rw [renderOption, renderOption]
      exact hrelation rfl head

theorem agree_select {items sources grouping ordering : List Node} {condition having : Option Node}
    {distinct : Bool} (hi : ∀ n ∈ items, AgreeOn known (render z n) (render z' n))
    (hs : ∀ n ∈ sources, AgreeOn known (render z n) (render z' n))
    (hc : ∀ n ∈ condition.toList, AgreeOn known (render z n) (render z' n))
    (hg : ∀ n ∈ grouping, AgreeOn known (render z n) (render z' n))
    (hh : ∀ n ∈ having.toList, AgreeOn known (render z n) (render z' n))
    (ho : ∀ n ∈ ordering, AgreeOn known (render z n) (render z' n)) :
    AgreeOn known (render z (.select items sources distinct condition grouping having ordering))
      (render z' (.select items sources distinct condition grouping having ordering)) := by
  rw [render, render]
  refine (agree_list hs).string fun sources => (agree_list hi).string fun items => ?_
  refine (agree_clause "WHERE " hc).bind fun condition _ => ?_
  refine (agree_list hg).bind fun ps _ =>
    (agree_itemsClause "GROUP BY " ps).bind fun grouping _ => ?_
  refine (agree_clause "HAVING " hh).bind fun having _ => ?_
  refine (agree_list ho).bind fun ps _ =>
    (agree_itemsClause "ORDER BY " ps).bind fun ordering _ => ?_
  exact .strungText fun w => .text _

/-- An update looks up its table and columns inside of its target. -/
theorem agree_update {entity : String} {asName : Option String} {assignments : List Node}
    {condition : Option Node} (h : known entity)
    (htable : z.schema.table? entity = z'.schema.table? entity)
    (ha : ∀ n ∈ assignments, AgreeOn known (render z n) (render z' n))
    (hc : ∀ n ∈ condition.toList, AgreeOn known (render z n) (render z' n)) :
    AgreeOn known (render z (.update entity asName assignments condition))
      (render z' (.update entity asName assignments condition)) := by
  rw [render, render]
  refine (Agree.modify fun s t hst => ?_).bind fun _ _ =>
    (agree_table htable).bind fun table _ => ?_
  · exact ⟨rfl, rfl, fun _ he => (by cases he; exact h), hst.columns⟩
  refine (agree_list ha).string fun assignments =>
    (agree_clause "WHERE " hc).bind fun condition _ => ?_
  refine (Agree.modify fun s t hst => ?_).bind fun _ _ => .strungText fun w => .text _
  exact ⟨rfl, rfl, fun _ he => (by cases he), hst.columns⟩

theorem agree_delete {entity : String} {asName : Option String} {condition : Option Node}
    (h : known entity) (htable : z.schema.table? entity = z'.schema.table? entity)
    (hc : ∀ n ∈ condition.toList, AgreeOn known (render z n) (render z' n)) :
    AgreeOn known (render z (.delete entity asName condition))
      (render z' (.delete entity asName condition)) := by
  rw [render, render]
  refine (Agree.modify fun s t hst => ?_).bind fun _ _ =>
    (agree_table htable).bind fun table _ => ?_
  · exact ⟨rfl, hst.targetAlias, fun _ he => (by cases he; exact h), hst.columns⟩
  refine (agree_clause "WHERE " hc).bind fun condition _ => ?_
  refine (Agree.modify fun s t hst => ?_).bind fun _ _ => .strungText fun w => .text _
  exact ⟨rfl, hst.targetAlias, fun _ he => (by cases he), hst.columns⟩

/-- A node that finds the same names is rendered the same if the nodes below it are. -/
theorem agree_node {n : Node} (h : FindsSame known z z' n)
    (hbelow : ∀ c ∈ n.children false, AgreeOn known (render z c) (render z' c)) :
    AgreeOn known (render z n) (render z' n) := by
  cases n with
  | literal value kind => rw [render, render]; exact .text _
  | path parts => rw [render, render]; exact h
  | parameter name positional => rw [render, render]; exact .text _
  | star => rw [render, render]; exact .text _
  | call name args distinct isKnown side char type =>
    obtain ⟨ha, hc⟩ := List.forall_mem_append.mp hbelow
    exact agree_call ha hc
  | paren e => exact agree_around (fun _ => by rw [render]) (hbelow e (by simp [Node.children]))
  | unary operator e =>
    exact agree_around (fun _ => by rw [render]) (hbelow e (by simp [Node.children]))
  | isNull e negated =>
    exact agree_around (fun _ => by rw [render]) (hbelow e (by simp [Node.children]))
  | existsQuery e =>
    exact agree_around (fun _ => by rw [render]) (hbelow e (by simp [Node.children]))
  | subquery e => exact agree_around (fun _ => by rw [render]) (hbelow e (by simp [Node.children]))
  | binary l operator r =>
    exact agree_aroundBoth (fun _ => by rw [render]) (hbelow l (by simp [Node.children]))
      (hbelow r (by simp [Node.children]))
  | branch l r =>
    exact agree_aroundBoth (fun _ => by rw [render]) (hbelow l (by simp [Node.children]))
      (hbelow r (by simp [Node.children]))
  | between e lower upper negated =>
    rw [render, render]
    refine (hbelow e (by simp [Node.children])).display fun w =>
      (hbelow lower (by simp [Node.children])).display fun wl => ?_
    exact (hbelow upper (by simp [Node.children])).display fun wu => .text _
  | inSet e values query single negated =>
    obtain ⟨he, hrest⟩ := List.forall_mem_cons.mp hbelow
    obtain ⟨hrest, hs⟩ := List.forall_mem_append.mp hrest
    obtain ⟨hv, hq⟩ := List.forall_mem_append.mp hrest
    exact agree_inSet he hv hq hs
  | like e pattern escape negated =>
    obtain ⟨he, hrest⟩ := List.forall_mem_cons.mp hbelow
    obtain ⟨hp, hc⟩ := List.forall_mem_cons.mp hrest
    exact agree_like he hp hc
  | memberOf e collection negated => rw [render, render]; exact .throw _
  | caseOf operand branches otherwise =>
    obtain ⟨hrest, he⟩ := List.forall_mem_append.mp hbelow
    obtain ⟨ho, hb⟩ := List.forall_mem_append.mp hrest
    exact agree_caseOf ho hb he
  | selectItem e asName =>
    rw [render, render]
    exact (hbelow e (by simp [Node.children])).bind fun p hp => .extendedBy hp _
  | constructor className args asName =>
    rw [render, render]
    split
    · exact .throw _
    · exact (agree_list hbelow).string fun w => .extendedBy (p := .text w) trivial _
  | join kind along asName fetch condition =>
    refine agree_join h fun hname n hn => hbelow n ?_
    simp only [Node.children, Bool.false_or, hname, if_true]
    exact List.mem_cons_of_mem _ hn
  | fromItem entity asName joins =>
    rw [render, render]
    refine (agree_table h).bind fun table _ => (agree_present hbelow).bind fun joins _ => ?_
    exact .strungText fun w => .text _
  | assignment target value =>
    rw [render, render]
    refine (Agree.ofTree target.pathParts).bind fun parts hparts =>
      (h parts hparts).display fun w => ?_
    exact (hbelow value (by simp [Node.children])).display fun wv => .text _
  | orderItem e direction nulls =>
    rw [render, render]
    refine (hbelow e (by simp [Node.children])).bind fun p hp => ?_
    exact (Agree.extendedBy hp _).bind fun p hp => .extendedBy hp _
  | select items sources distinct condition grouping having ordering =>
    obtain ⟨hrest, ho⟩ := List.forall_mem_append.mp hbelow
    obtain ⟨hrest, hh⟩ := List.forall_mem_append.mp hrest
    obtain ⟨hrest, hg⟩ := List.forall_mem_append.mp hrest
    obtain ⟨hrest, hc⟩ := List.forall_mem_append.mp hrest
    obtain ⟨hi, hs⟩ := List.forall_mem_append.mp hrest
    exact agree_select hi hs hc hg hh ho
  | update entity asName assignments condition =>
    obtain ⟨ha, hc⟩ := List.forall_mem_append.mp hbelow
    exact agree_update h.1 h.2 ha hc
  | delete entity asName condition => exact agree_delete h.1 h.2 hbelow
  | insert entity targets source => rw [render, render]; exact .throw _

/-- A tree is rendered the same in two scopes if each of its nodes finds the same names in both. -/
theorem agree_render (n : Node) (h : ∀ m ∈ n.nodes false, FindsSame known z z' m) :
    AgreeOn known (render z n) (render z' n) := by
  obtain ⟨hself, hbelow⟩ := Node.forall_nodes.mp h
  exact agree_node hself fun c hc => agree_render c (hbelow c hc)
termination_by sizeOf n
decreasing_by exact Node.sizeOf_lt_of_mem_children hc

end EntityQuery.Sql
