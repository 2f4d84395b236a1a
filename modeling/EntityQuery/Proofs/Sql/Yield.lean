import EntityQuery.Proofs.Registry
import EntityQuery.Proofs.Sql.Translation

/-!
# What a rendering yields

`Yields q x R` says about a rendering `x` in the place `q`: if it succeeds, its result has the
property `R`, and the place is still the same. A rendering is followed from left to right by
`Yields.bind`. Only updates and deletes go to another place and come back (`Leads.modify`).

The columns of the schema are part of the state. They change only when words are put after a list
that a mapping gives as a column; a list is no plain name, so this does not happen while plain names
are written. `Finds q x R` is about renderings that only look things up, also where lists have
grown: if `x` succeeds, its result has the property `R`, and only the log has changed.
-/

namespace EntityQuery.Sql

open Rendering

variable {α β : Type}

/-! ## Runs -/

theorem run_bind (x : Rendering α) (f : α → Rendering β) (s : RenderState) :
    (x >>= f).run.run s =
      match x.run.run s with
      | (.ok a, s') => (f a).run.run s'
      | (.error e, s') => (.error e, s') := by
  show (StateT.run (ExceptT.run (x >>= f)) s : Except RenderFault β × RenderState) = _
  simp only [ExceptT.run_bind, StateT.run_bind]
  cases h : x.run.run s with
  | mk r s' => cases r <;> rfl

theorem run_bind_ok {x : Rendering α} {f : α → Rendering β} {s s'' : RenderState} {b : β}
    (h : (x >>= f).run.run s = (.ok b, s'')) :
    ∃ a s', x.run.run s = (.ok a, s') ∧ (f a).run.run s' = (.ok b, s'') := by
  rw [run_bind] at h
  cases hx : x.run.run s with
  | mk r s' =>
    rw [hx] at h
    cases r with
    | ok a => exact ⟨a, s', rfl, h⟩
    | error e => cases h

/-! ## States -/

/-- The state of a rendering in a place. -/
structure Place.Holds (q : Place) (s : RenderState) : Prop where
  target : s.target = q.target
  targetAlias : s.targetAlias = q.targetAlias
  columns : s.columns = q.scope.schema.columns

theorem exact_str (text : String) : Registry.Exact (Json.str text) := by
  intro v
  show v.equal (.str text) = true ↔ _
  cases v <;> simp [Json.equal, Json.asInt?]

/-- Columns as they were, but for some that have become lists. -/
def Columns.Grown (c c' : Columns) : Prop :=
  ∀ entity field, c'.column? entity field = c.column? entity field ∨ ∃ items,
    c'.column? entity field = some (.arr items)

theorem Columns.Grown.refl (c : Columns) : c.Grown c :=
  fun _ _ => .inl rfl

/-- The columns of an entity after one of them has been given. -/
theorem Columns.ofEntity_putColumn (c : Columns) (entity other : String) (field column : Json) :
    (c.putColumn (.str entity) field column).ofEntity (.str other) =
      if entity = other then (c.ofEntity (.str other)).put field column
        else c.ofEntity (.str other) := by
  unfold ofEntity putColumn
  split
  · next heq =>
    subst heq
    rw [Registry.get?_put_self (exact_str entity)]
    rfl
  · next hne =>
      rw [Registry.get?_put_of_ne (exact_str entity) (exact_str other) (by simpa using hne)]

theorem Columns.Grown.extend {c c' : Columns} (h : c.Grown c') (entity field words : String) :
    c.Grown (c'.extend entity field words) := by
  intro entity' field'
  unfold Columns.extend Columns.column?
  rw [Columns.ofEntity_putColumn]
  split
  · by_cases hf : field = field'
    · subst hf
      exact .inr ⟨_, Registry.get?_put_self (exact_str field) _ _⟩
    · rw [Registry.get?_put_of_ne (exact_str field) (exact_str field') (by simpa using hf)]
      exact h entity' field'
  · exact h entity' field'

/-- The state of a rendering in a place where lists among the columns may have grown. -/
structure Place.Allows (q : Place) (s : RenderState) : Prop where
  target : s.target = q.target
  targetAlias : s.targetAlias = q.targetAlias
  grown : q.scope.schema.columns.Grown s.columns

theorem Place.Holds.allows {q : Place} {s : RenderState} (h : q.Holds s) : q.Allows s :=
  ⟨h.target, h.targetAlias, h.columns ▸ .refl _⟩

theorem Place.Allows.logged {q : Place} {s : RenderState} (h : q.Allows s) (book : Log.Book) :
    q.Allows { s with book } :=
  ⟨h.target, h.targetAlias, h.grown⟩

/-! ## Looking up -/

theorem Fragment.texts_ok {ps : List Fragment} {n : Nat} {all : List String}
    (h : Fragment.texts n ps = .ok all) :
    ps = all.map Fragment.text := by
  fun_induction Fragment.texts n ps generalizing all with
  | case1 =>
    cases h
    rfl
  | case2 n w rest more heq ih =>
    cases h
    rw [List.map_cons, ← ih heq]
  | case3 => cases h
  | case4 => cases h

theorem Fragment.strung_ok {ps : List Fragment} {sep text : String}
    (h : Fragment.strung sep ps = .ok text) :
    ∃ ws, ps = ws.map Fragment.text ∧ text = sep.intercalate ws := by
  unfold Fragment.strung at h
  split at h
  · next all hall =>
    cases h
    exact ⟨all, texts_ok hall, rfl⟩
  · cases h

/-- If a rendering succeeds in a place, its result has a property, and only the log has changed. -/
def Finds (q : Place) (x : Rendering α) (R : α → Prop) : Prop :=
  ∀ ⦃s a s'⦄, q.Allows s → x.run.run s = (.ok a, s') → R a ∧ ∃ book, s' = { s with book }

namespace Finds

variable {q : Place} {x : Rendering α} {R : α → Prop}

theorem mono {S : α → Prop} (h : Finds q x R) (hRS : ∀ a, R a → S a) : Finds q x S := by
  intro s a s' hq hx
  exact ⟨hRS a (h hq hx).1, (h hq hx).2⟩

theorem pure {a : α} (h : R a) : Finds q (Pure.pure a) R := by
  intro s b s' _ hx
  cases hx
  exact ⟨h, s.book, rfl⟩

theorem bind {f : α → Rendering β} {S : β → Prop} (h : Finds q x R)
    (hf : ∀ a, R a → Finds q (f a) S) :
    Finds q (x >>= f) S := by
  intro s b s'' hq hx
  obtain ⟨a, s', ha, hb⟩ := run_bind_ok hx
  obtain ⟨hR, book, rfl⟩ := h hq ha
  obtain ⟨hS, book', rfl⟩ := hf a hR (hq.logged book) hb
  exact ⟨hS, book', rfl⟩

theorem throw {e : RenderFault} : Finds q (MonadExcept.throw e : Rendering α) R := by
  intro s a s' _ hx
  cases hx

theorem get : Finds q (MonadState.get : Rendering RenderState) q.Allows := by
  intro s a s' hq hx
  cases hx
  exact ⟨hq, s.book, rfl⟩

theorem logging {y : Log.Logging α} (h : ∀ book, R (y.run book).1) :
    Finds q (Rendering.logging y) R := by
  intro s a s' _ hx
  cases hx
  exact ⟨h s.book, (y.run s.book).2, rfl⟩

/-- What is only logged need not be known. -/
theorem logged (y : Log.Logging α) : Finds q (Rendering.logging y) fun _ => True :=
  .logging fun _ => trivial

theorem ofTree {y : Except TreeFault α} (h : ∀ a, y = .ok a → R a) :
    Finds q (Rendering.ofTree y) R := by
  cases y with
  | ok a => exact .pure (h a rfl)
  | error e => exact .throw

/-- Pieces that are strung together are texts, all of them. -/
theorem strung (sep : String) (ps : List Fragment) :
    Finds q (Rendering.strung sep ps) fun text =>
      ∃ ws, ps = ws.map Fragment.text ∧ text = sep.intercalate ws := by
  unfold Rendering.strung
  cases h : Fragment.strung sep ps with
  | error f => exact .throw
  | ok text => exact .pure (Fragment.strung_ok h)

end Finds

/-! ## Going from place to place -/

/-- If a rendering succeeds, its result has a property, and it goes from one place to another. -/
def Leads (q q' : Place) (x : Rendering α) (R : α → Prop) : Prop :=
  ∀ ⦃s a s'⦄, q.Holds s → x.run.run s = (.ok a, s') → q'.Holds s' ∧ R a

/-- If a rendering succeeds, its result has a property, and the place is still the same. -/
def Yields (q : Place) (x : Rendering α) (R : α → Prop) : Prop :=
  Leads q q x R

theorem Finds.yields {q : Place} {x : Rendering α} {R : α → Prop} (h : Finds q x R) :
    Yields q x R := by
  intro s a s' hq hx
  obtain ⟨ha, book, rfl⟩ := h hq.allows hx
  exact ⟨⟨hq.target, hq.targetAlias, hq.columns⟩, ha⟩

namespace Yields

variable {q : Place} {x : Rendering α} {R S : α → Prop}

theorem mono (h : Yields q x R) (hRS : ∀ a, R a → S a) : Yields q x S := by
  intro s a s' hq hx
  exact ⟨(h hq hx).1, hRS a (h hq hx).2⟩

theorem pure {a : α} (h : R a) : Yields q (Pure.pure a) R := by
  intro s b s' hq hx
  cases hx
  exact ⟨hq, h⟩

/-- What the first of two renderings yields may be used in the second, wherever that one leads. -/
theorem before {q' : Place} {f : α → Rendering β} {S : β → Prop} (h : Yields q x R)
    (hf : ∀ a, R a → Leads q q' (f a) S) :
    Leads q q' (x >>= f) S := by
  intro s b s'' hq hx
  obtain ⟨a, s', ha, hb⟩ := run_bind_ok hx
  obtain ⟨hq', hR⟩ := h hq ha
  exact hf a hR hq' hb

theorem bind {f : α → Rendering β} {S : β → Prop} (h : Yields q x R)
    (hf : ∀ a, R a → Yields q (f a) S) :
    Yields q (x >>= f) S :=
  h.before hf

theorem throw {e : RenderFault} : Yields q (MonadExcept.throw e : Rendering α) R :=
  Finds.throw.yields

/-- The state is that of the place. -/
theorem get : Yields q (MonadState.get : Rendering RenderState) q.Holds := by
  intro s a s' hq hx
  cases hx
  exact ⟨hq, hq⟩

theorem ofTree {y : Except TreeFault α} (h : ∀ a, y = .ok a → R a) :
    Yields q (Rendering.ofTree y) R :=
  (Finds.ofTree h).yields

end Yields

/-- A change of the state goes to another place. -/
theorem Leads.modify {q r q' : Place} {g : RenderState → RenderState} {f : PUnit → Rendering β}
    {S : β → Prop} (hg : ∀ s, q.Holds s → r.Holds (g s)) (hf : Leads r q' (f ⟨⟩) S) :
    Leads q q' (modify g >>= f) S := by
  intro s b s' hq hx
  obtain ⟨a, s'', ha, hb⟩ := run_bind_ok hx
  cases ha
  exact hf (hg s hq) hb

/-! ## Pieces -/

/-- The text that a piece shows when it is formatted. The list of a column shows none. -/
inductive Fragment.Shows : Fragment → String → Prop
  | text {w : String} : Shows (.text w) w
  | value {v : Json} : Shows (.value v) v.display

theorem Fragment.shows_ofJson (v : Json) : (Fragment.ofJson v).Shows v.display := by
  cases v with
  | str s => exact .text
  | _ => exact .value

/-- Pieces and the texts that they show, one by one. -/
inductive ShowAll : List Fragment → List String → Prop
  | nil : ShowAll [] []
  | cons {p : Fragment} {w : String} {ps : List Fragment} {ws : List String} (h : p.Shows w)
      (hs : ShowAll ps ws) :
      ShowAll (p :: ps) (w :: ws)

theorem ShowAll.append {ps ps' : List Fragment} {ws ws' : List String} (h : ShowAll ps ws)
    (h' : ShowAll ps' ws') :
    ShowAll (ps ++ ps') (ws ++ ws') := by
  induction h with
  | nil => exact h'
  | cons h _ ih => exact .cons h ih

/-- Texts show themselves. -/
theorem ShowAll.eq_of_texts {us ws : List String} (h : ShowAll (us.map Fragment.text) ws) :
    us = ws := by
  generalize hp : us.map Fragment.text = ps at h
  induction h generalizing us with
  | nil => exact List.map_eq_nil_iff.mp hp
  | cons hw _ ih =>
    obtain ⟨u, us, rfl, rfl, hs⟩ := List.map_eq_cons_iff.mp hp
    cases hw
    rw [ih hs]

namespace Yields

variable {q : Place} {R S : α → Prop}

/-- A piece that is formatted. -/
theorem shown {p : Fragment} {w : String} (h : p.Shows w) :
    Yields q (Rendering.shown p) (· = w) := by
  cases h with
  | text => exact .pure rfl
  | value => exact .pure rfl

/-- Pieces that are strung together. -/
theorem strung {ps : List Fragment} {ws : List String} {sep : String} (h : ShowAll ps ws) :
    Yields q (Rendering.strung sep ps) (· = sep.intercalate ws) := by
  refine (Finds.strung sep ps).yields.mono fun text ht => ?_
  obtain ⟨us, rfl, rfl⟩ := ht
  rw [h.eq_of_texts]

/-- A keyword with a piece behind it. -/
theorem after {p : Fragment} {w keyword : String} (h : p.Shows w) :
    Yields q (Rendering.after keyword p) (·.Shows (keyword ++ w)) := by
  cases h with
  | text => exact .pure .text
  | value => exact .throw

/-- Words behind a piece. -/
theorem extendedBy {p : Fragment} {w : String} (h : p.Shows w) (words? : Option String) :
    Yields q (Rendering.extendedBy p words?) (·.Shows (w ++ words?.getD "")) := by
  cases words? with
  | none =>
    refine .pure ?_
    simpa using h
  | some words =>
    cases h with
    | text => exact .pure .text
    | value => exact .throw

/-- Whether a piece has anything in it. -/
theorem isPresent {p : Fragment} {w : String} (h : p = .text w) :
    Yields q (Rendering.isPresent p) (· = (w != "")) := by
  subst h
  exact .pure rfl

end Yields

end EntityQuery.Sql
