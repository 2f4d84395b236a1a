import EntityQuery.Proofs.Sql.WrittenName

/-!
# Renderings under two alias tables

A rendering looks up what an alias stands for in three ways: for the column of a path, for the left
side of an assignment, and for the table and the condition of a join. `writesSameNames` says that a
node finds the same names under two alias tables. `Alike q r x y` compares two renderings: if both
succeed from states that differ only in the log, their results are equal, and their states still
differ only in the log.
-/

namespace EntityQuery.Sql

open Grammar Rendering

variable {α β : Type} {other : Metadata} {q r : Place}

/-! ## Two alias tables -/

/-- The same place with other metadata. -/
def Place.under (q : Place) (other : Metadata) : Place :=
  { q with scope := { q.scope with metadata := other } }

/-- Two metadata know the same aliases. -/
def SameAliases (m other : Metadata) : Prop :=
  ∀ name, (other.entityOf? name).isSome = (m.entityOf? name).isSome

/-- The names that a node itself writes for tables and columns are the same under other metadata. -/
def writesSameNames (other : Metadata) (q : Place) : Node → Bool
  | .path parts => (q.under other).path parts == q.path parts
  | .join _ along asName _ condition =>
    let name := asName.getD ""
    ((q.under other).joinTable (partsOf along) name).display ==
      (q.joinTable (partsOf along) name).display &&
      (condition.isSome ||
        (q.under other).joinEquation? (partsOf along) name == q.joinEquation? (partsOf along) name)
  | .assignment target _ =>
    (q.under other).targetPath (partsOf target) == q.targetPath (partsOf target)
  | _ => true

/-! ## Pairs of renderings -/

/-- If two renderings succeed in a place, they give the same result in another place, with the same
state but for the log. -/
def Alike (q r : Place) (x y : Rendering α) : Prop :=
  ∀ ⦃s a s' book b t⦄, q.Allows s → x.run.run s = (.ok a, s') →
    y.run.run { s with book } = (.ok b, t) →
    b = a ∧ r.Allows s' ∧ ∃ book', t = { s' with book := book' }

namespace Alike

variable {q' : Place} {x y : Rendering α} {f g : α → Rendering β}

theorem bind (h : Alike q r x y) (hf : ∀ a, Alike r q' (f a) (g a)) :
    Alike q q' (x >>= f) (y >>= g) := by
  intro s b s'' book c t'' hq hx hy
  obtain ⟨a, s', ha, hb⟩ := run_bind_ok hx
  obtain ⟨a', t', ha', hc⟩ := run_bind_ok hy
  obtain ⟨rfl, hr, book', rfl⟩ := h hq ha ha'
  exact hf a' hr hb hc

theorem pure (a : α) : Alike q q (Pure.pure a) (Pure.pure a) := by
  intro s b s' book c t hq hx hy
  cases hx
  cases hy
  exact ⟨rfl, hq, book, rfl⟩

theorem throw {e : RenderFault} : Alike q r (MonadExcept.throw e) y := by
  intro s a s' book b t _ hx
  cases hx

/-- Two renderings that each find the same are alike. -/
theorem ofFinds (other : Metadata) {a : α} (h : Finds q x (· = a))
    (h' : Finds (q.under other) y (· = a)) : Alike q q x y := by
  intro s b s' book c t hq hx hy
  obtain ⟨rfl, book', rfl⟩ := h hq hx
  have hq' : (q.under other).Allows { s with book } := ⟨hq.target, hq.targetAlias, hq.grown⟩
  obtain ⟨rfl, book'', rfl⟩ := h' hq' hy
  exact ⟨rfl, hq.logged book', book'', rfl⟩

/-- The states that two renderings look at differ only in the log. -/
theorem get {f g : RenderState → Rendering β}
    (h : ∀ s book, q.Allows s → Alike q r (f s) (g { s with book })) :
    Alike q r (MonadState.get >>= f) (MonadState.get >>= g) := by
  intro s b s' book c t hq hx hy
  exact h s book hq hq hx hy

/-- A change that leaves the log alone goes to another place. -/
theorem modify {g : RenderState → RenderState} (hg : ∀ s, q.Allows s → r.Allows (g s))
    (hlog : ∀ s book, g { s with book } = { g s with book }) :
    Alike q r (modify g) (modify g) := by
  intro s a s' book b t hq hx hy
  cases hx
  cases hy
  exact ⟨rfl, hg s hq, book, hlog s book⟩

/-- What is looked up does not depend on the log. -/
theorem logging {y : Log.Logging α} {a : α} (h : ∀ book, (y.run book).1 = a) :
    Alike q q (Rendering.logging y) (Rendering.logging y) :=
  ofFinds q.scope.metadata (.logging h) (.logging h)

theorem ofExcept (y : Except RenderFault α) :
    Alike q q (Rendering.ofExcept y) (Rendering.ofExcept y) := by
  cases y with
  | ok a => exact .pure a
  | error e => exact .throw

/-! ## Pieces -/

theorem strung (sep : String) (ps : List Fragment) :
    Alike q q (Rendering.strung sep ps) (Rendering.strung sep ps) :=
  .ofExcept _

theorem after (keyword : String) (p : Fragment) :
    Alike q q (Rendering.after keyword p) (Rendering.after keyword p) :=
  (ofExcept _).bind fun text => .pure (Fragment.text text)

theorem shown (p : Fragment) : Alike q q (Rendering.shown p) (Rendering.shown p) := by
  cases p with
  | text w => exact .pure w
  | value v => exact .pure v.display
  | column entity field => exact .get fun s book _ => .pure _

theorem isPresent (p : Fragment) : Alike q q (Rendering.isPresent p) (Rendering.isPresent p) := by
  cases p with
  | text w => exact .pure (w != "")
  | value v => exact .pure v.truthy
  | column entity field => exact .get fun s book _ => .pure _

/-- Words behind a list make it grow. -/
theorem extendedBy (p : Fragment) (words? : Option String) :
    Alike q q (Rendering.extendedBy p words?) (Rendering.extendedBy p words?) := by
  cases words? with
  | none => exact .pure p
  | some words =>
    cases p with
    | text w => exact .pure (Fragment.text (w ++ words))
    | value v => exact .throw
    | column entity field =>
      let grow (s : RenderState) : RenderState :=
        { s with columns := s.columns.extend entity field words }
      have hgrow : ∀ s, q.Allows s → q.Allows (grow s) :=
        fun s hs => ⟨hs.target, hs.targetAlias, hs.grown.extend entity field words⟩
      exact (modify hgrow fun _ _ => rfl).bind fun _ => .pure _

/-- A rendering whose result is formatted. -/
theorem display {x y : Rendering Fragment} {f g : String → Rendering β} (h : Alike q q x y)
    (hf : ∀ w, Alike q r (f w) (g w)) :
    Alike q r (x >>= fun p => Rendering.shown p >>= f) (y >>= fun p => Rendering.shown p >>= g) :=
  h.bind fun p => (shown p).bind hf

/-- A rendering whose results are strung together. -/
theorem string {x y : Rendering (List Fragment)} {f g : String → Rendering β} {sep : String}
    (h : Alike q q x y) (hf : ∀ w, Alike q r (f w) (g w)) :
    Alike q r (x >>= fun ps => Rendering.strung sep ps >>= f)
      (y >>= fun ps => Rendering.strung sep ps >>= g) :=
  h.bind fun ps => (strung sep ps).bind hf

end Alike

/-! ## Names -/

theorem alike_columnPiece (entity? : Option String) (field : String) :
    Alike q q (columnPiece q.scope entity? field)
      (columnPiece (q.under other).scope entity? field) := by
  refine .get fun s book _ => ?_
  refine (Alike.logging (run_columnFor { q.scope.schema with columns := s.columns } entity?
    field)).bind fun column => ?_
  split
  · exact .pure _
  · exact .pure _

/-- A path that finds the same column is rendered alike. -/
theorem alike_path {parts : List String} (hm : SameAliases q.scope.metadata other)
    (h : (q.under other).path parts = q.path parts) :
    Alike q q (renderPath q.scope parts) (renderPath (q.under other).scope parts) := by
  match parts with
  | [] => exact .throw
  | [name] =>
    rw [renderPath, renderPath]
    refine .get fun s book _ => ?_
    have hname : ((q.under other).scope.metadata.entityOf? name).isSome =
        (q.scope.metadata.entityOf? name).isSome :=
      hm name
    dsimp only
    cases s.target with
    | none => exact .pure _
    | some target =>
      cases hown : q.scope.metadata.entityOf? name <;>
        cases hother : (q.under other).scope.metadata.entityOf? name
      · exact alike_columnPiece (some target) name
      · simp [hown, hother] at hname
      · simp [hown, hother] at hname
      · exact .pure _
  | first :: second :: rest =>
    have hfinds := finds_path (q := q.under other) first second rest
    rw [h] at hfinds
    exact .ofFinds other (finds_path first second rest) hfinds

/-- The left side of an assignment that finds the same column is rendered alike. -/
theorem alike_target {parts : List String}
    (h : (q.under other).targetPath parts = q.targetPath parts) :
    Alike q q (renderTarget q.scope parts) (renderTarget (q.under other).scope parts) := by
  match parts with
  | [] => exact .throw
  | [name] =>
    rw [renderTarget, renderTarget]
    exact .get fun s book _ => alike_columnPiece s.target name
  | first :: second :: rest =>
    have hfinds := finds_target (q := q.under other) first second rest
    rw [h] at hfinds
    exact .ofFinds other (finds_target first second rest) hfinds

/-! ## Trees, lists and optional trees -/

/-- A tree that finds the same names everywhere is rendered alike. -/
def NodeAlike (other : Metadata) (n : Node) : Prop :=
  ∀ ⦃q : Place⦄, SameAliases q.scope.metadata other →
    everywhere (writesSameNames other) q n = true →
    Alike q q (render q.scope n) (render (q.under other).scope n)

theorem NodeAlike.path (parts : List String) : NodeAlike other (.path parts) := by
  intro q hm hw
  simp only [everywhere, writesSameNames, beq_iff_eq] at hw
  rw [render, render]
  exact alike_path hm hw

theorem alike_list {ns : List Node} (h : ∀ n ∈ ns, NodeAlike other n)
    (hm : SameAliases q.scope.metadata other)
    (hw : everywhereList (writesSameNames other) q ns = true) :
    Alike q q (renderList q.scope ns) (renderList (q.under other).scope ns) := by
  induction ns with
  | nil =>
    rw [renderList, renderList]
    exact .pure []
  | cons n ns ih =>
    rw [everywhereList, Bool.and_eq_true] at hw
    rw [renderList, renderList]
    refine (h n List.mem_cons_self hm hw.1).bind fun p => ?_
    exact (ih (fun n hn => h n (List.mem_cons_of_mem _ hn)) hw.2).bind fun ps => .pure (p :: ps)

theorem alike_present {ns : List Node} (h : ∀ n ∈ ns, NodeAlike other n)
    (hm : SameAliases q.scope.metadata other)
    (hw : everywhereList (writesSameNames other) q ns = true) :
    Alike q q (renderPresent q.scope ns) (renderPresent (q.under other).scope ns) := by
  induction ns with
  | nil =>
    rw [renderPresent, renderPresent]
    exact .pure []
  | cons n ns ih =>
    rw [everywhereList, Bool.and_eq_true] at hw
    rw [renderPresent, renderPresent]
    refine (h n List.mem_cons_self hm hw.1).bind fun p => (Alike.isPresent p).bind fun present => ?_
    exact (ih (fun n hn => h n (List.mem_cons_of_mem _ hn)) hw.2).bind fun ps => .pure _

theorem alike_first {ns : List Node} (h : ∀ n ∈ ns, NodeAlike other n)
    (hm : SameAliases q.scope.metadata other)
    (hw : everywhereList (writesSameNames other) q ns = true) :
    Alike q q (renderFirst q.scope ns) (renderFirst (q.under other).scope ns) := by
  cases ns with
  | nil =>
    rw [renderFirst]
    exact .throw
  | cons n ns =>
    rw [everywhereList, Bool.and_eq_true] at hw
    rw [renderFirst, renderFirst]
    exact h n List.mem_cons_self hm hw.1

theorem alike_option {n? : Option Node} (h : ∀ n ∈ n?, NodeAlike other n)
    (hm : SameAliases q.scope.metadata other)
    (hw : everywhereOption (writesSameNames other) q n? = true) :
    Alike q q (renderOption q.scope n?) (renderOption (q.under other).scope n?) := by
  cases n? with
  | none =>
    rw [renderOption, renderOption]
    exact .pure none
  | some n =>
    rw [renderOption, renderOption]
    exact (h n rfl hm hw).bind fun p => .pure (some p)

theorem alike_clause {n? : Option Node} (keyword : String) (h : ∀ n ∈ n?, NodeAlike other n)
    (hm : SameAliases q.scope.metadata other)
    (hw : everywhereOption (writesSameNames other) q n? = true) :
    Alike q q (renderClause q.scope keyword n?)
      (renderClause (q.under other).scope keyword n?) := by
  cases n? with
  | none =>
    rw [renderClause, renderClause]
    exact .pure []
  | some n =>
    rw [renderClause, renderClause]
    exact (h n rfl hm hw).bind fun p => (Alike.after keyword p).bind fun clause => .pure [clause]

theorem alike_itemsClause (keyword : String) (ps : List Fragment) :
    Alike q q (itemsClause keyword ps) (itemsClause keyword ps) := by
  unfold itemsClause
  split
  · exact .pure []
  · exact (Alike.strung _ _).bind fun text => .pure [Fragment.text (keyword ++ text)]

end EntityQuery.Sql
