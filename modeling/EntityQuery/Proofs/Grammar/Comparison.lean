import EntityQuery.Proofs.Grammar.Nesting
import EntityQuery.Proofs.Grammar.Take

/-!
# Two runs side by side

Two runs of the same reading, over streams that belong together or with different numbers of levels
left, do the same things in the same order. A `Comparison` says what it is that belongs together:
streams, tokens, failures. From its laws, `RelatesOn` follows two readings from left to right, as
`SoundOn` follows one.

Four ends are possible: both runs read their values, both fail, or only one of them fails, with a
failure that the comparison allows there. A comparison that allows none is an equivalence of runs;
one that allows the second run to fail alone, when it has too few levels, measures how many levels a
tree needs. For this the comparison carries `levels`, the numbers of levels that both runs can
enter.

Readings decide by the kinds of tokens alone. They keep the text of a token only where
`TokenKind.dropsSpelling` is false, or directly behind a point; only there the texts have to agree.
-/

namespace EntityQuery

/-- Words that only structure a query: where they are no names, no tree keeps their spelling. -/
def TokenKind.dropsSpelling : TokenKind → Bool
  | .reserved _ | .clock _ => true
  | _ => false

/-- The failure as it is seen from one level further out. -/
def Failure.outward (f : Failure) : Failure :=
  { f with depth := f.depth + 1 }

/-- A statement enters at most the one level of a select statement. -/
theorem Node.depth_le (n : Node) : n.depth ≤ n.nesting + 1 := by
  unfold Node.depth
  split
  · exact Nat.le_refl _
  · exact Nat.le_succ _

/-- What belongs together in two runs. -/
structure Comparison where
  /-- The streams at the same point of both runs. -/
  streams : Stream → Stream → Prop
  /-- The tokens that both runs see at the same point. -/
  tokens : Token → Token → Prop
  /-- The failures with which both runs end. -/
  failures : Failure → Failure → Prop
  /-- The failures with which the first run ends, whatever the second one does. -/
  lost : Failure → Prop
  /-- The failures with which the second run ends, whatever the first one does. -/
  cut : Failure → Prop
  /-- The numbers of levels that are left in both runs. -/
  levels : Nat → Prop
  kind_eq : ∀ {t u}, tokens t u → t.kind = u.kind
  text_eq : ∀ {t u}, tokens t u → t.kind.dropsSpelling = false → t.text = u.text
  current : ∀ {s r}, streams s r → tokens s.current r.current
  next_kind : ∀ {s r}, streams s r → s.next.kind = r.next.kind
  tail : ∀ {s r}, streams s r → streams s.tail r.tail
  ahead : ∀ {s r}, streams s r → s.ahead.length = r.ahead.length
  text_behind_dot : ∀ {s r}, streams s r → s.current.kind = .symbol .dot →
    s.tail.current.text = r.tail.current.text
  failAt : ∀ {s r t u} (fault : GrammarFault), streams s r → tokens t u →
    failures ⟨⟨fault, t⟩, s.pos, 0⟩ ⟨⟨fault, u⟩, r.pos, 0⟩
  levels_zero : levels 0
  levels_max : ∀ {i j}, levels i → levels j → levels (max i j)
  levels_of_le : ∀ {i j}, i ≤ j → levels j → levels i

namespace Comparison

variable {α β : Type} (c : Comparison)

/-- How two runs may end. -/
inductive Ends (V : α → α → Prop) : Except Failure (α × Stream) → Except Failure (α × Stream) → Prop
  | both {a b : α} {s r : Stream} (hv : V a b) (hs : c.streams s r) : Ends V (.ok (a, s))
      (.ok (b, r))
  | failed {f g : Failure} (h : c.failures f g) : Ends V (.error f) (.error g)
  | lost {f : Failure} {y : Except Failure (α × Stream)} (h : c.lost f) : Ends V (.error f) y
  | cut {g : Failure} {x : Except Failure (α × Stream)} (h : c.cut g) : Ends V x (.error g)

/-- From streams in `C` that belong together, two readings end together, their values being related
by `V`. -/
def RelatesOn (C : Stream → Stream → Prop) (V : α → α → Prop) (p q : Reading α) : Prop :=
  ∀ ⦃s r⦄, c.streams s r → C s r → c.Ends V (p s) (q r)

/-- From any streams that belong together, two readings end together. -/
abbrev Relates (V : α → α → Prop) (p q : Reading α) : Prop :=
  c.RelatesOn (fun _ _ => True) V p q

/-- Equal values whose levels are left in both runs. -/
def Within (m : α → Nat) (a b : α) : Prop := a = b ∧ c.levels (m a)

/-! ## Levels of lists -/

/-- An expression that was read one level further in may be an argument. -/
theorem levels_entry {n : Node} (h : c.levels (n.nesting + 1)) : c.levels n.entry := by
  by_cases hn : n = .star
  · subst hn
    exact c.levels_zero
  · rw [Node.entry_of_ne_star hn]
    exact h

theorem levels_entries_nil : c.levels (Node.entries []) := by
  rw [Node.entries]
  exact c.levels_zero

theorem levels_entries_append {ns : List Node} {n : Node} (hns : c.levels (Node.entries ns))
    (hn : c.levels (n.nesting + 1)) : c.levels (Node.entries (ns ++ [n])) := by
  rw [← Grammar.levelsOf_argument, Grammar.Part.levelsOf_append, Grammar.levelsOf_argument]
  exact c.levels_max hns (c.levels_entry hn)

theorem levels_nestings_nil : c.levels (Node.nestings []) := by
  rw [Node.nestings]
  exact c.levels_zero

theorem levels_nestings_append {ns : List Node} {n : Node} (hns : c.levels (Node.nestings ns))
    (hn : c.levels n.nesting) : c.levels (Node.nestings (ns ++ [n])) := by
  rw [Grammar.nestings_append]
  exact c.levels_max hns hn

end Comparison

/-! ## Sequences -/

namespace Comparison.RelatesOn

variable {α β : Type} {c : Comparison} {C D : Stream → Stream → Prop} {V W : α → α → Prop}
  {p q : Reading α}

theorem mono (h : c.RelatesOn C V p q) (hVW : ∀ a b, V a b → W a b) : c.RelatesOn C W p q := by
  intro s r hs hC
  have hp := h hs hC
  generalize p s = x at hp ⊢
  generalize q r = y at hp ⊢
  cases hp with
  | both hv hs' => exact .both (hVW _ _ hv) hs'
  | failed hf => exact .failed hf
  | lost hf => exact .lost hf
  | cut hf => exact .cut hf

/-- Fewer streams are asked for less. -/
theorem weaken (h : c.RelatesOn D V p q) (hCD : ∀ s r, C s r → D s r) : c.RelatesOn C V p q :=
  fun s r hs hC => h hs (hCD s r hC)

theorem pure {a b : α} (h : V a b) : c.RelatesOn C V (Pure.pure a) (Pure.pure b) :=
  fun _ _ hs _ => .both h hs

/-- The second readings start where the first ones have stopped together. -/
theorem bind {R : β → β → Prop} {f g : α → Reading β} (h : c.RelatesOn C V p q)
    (hf : ∀ a b, V a b → c.Relates R (f a) (g b)) : c.RelatesOn C R (p >>= f) (q >>= g) := by
  intro s r hs hC
  have hp := h hs hC
  generalize hx : p s = x at hp
  generalize hy : q r = y at hp
  cases hp with
  | both hv hs' =>
    rw [Reading.bind_ok hx, Reading.bind_ok hy]
    exact hf _ _ hv hs' trivial
  | failed h => rw [Reading.bind_error hx, Reading.bind_error hy]; exact .failed h
  | lost h => rw [Reading.bind_error hx]; exact .lost h
  | cut h => rw [Reading.bind_error hy]; exact .cut h

theorem map {R : β → β → Prop} {f g : α → β} (h : c.RelatesOn C V p q)
    (hf : ∀ a b, V a b → R (f a) (g b)) :
    c.RelatesOn C R (f <$> p) (g <$> q) := by
  rw [← bind_pure_comp, ← bind_pure_comp]
  exact h.bind fun a b hv => .pure (hf a b hv)

/-- The same decision in both readings. -/
theorem ite {P Q : Prop} [Decidable P] [Decidable Q] {p' q' : Reading α} (hPQ : P ↔ Q)
    (hyes : P → c.RelatesOn C V p q) (hno : ¬ P → c.RelatesOn C V p' q') :
    c.RelatesOn C V (if P then p else p') (if Q then q else q') := by
  by_cases h : P
  · rw [if_pos h, if_pos (hPQ.mp h)]
    exact hyes h
  · rw [if_neg h, if_neg (mt hPQ.mpr h)]
    exact hno h

/-! ## Single tokens -/

/-- After a look at the current tokens, the rest may use what was seen. -/
theorem looking {R : β → β → Prop} {f g : Token → Reading β}
    (h : ∀ t u, c.tokens t u →
      c.RelatesOn (fun s r => C s r ∧ s.current = t ∧ r.current = u) R (f t) (g u)) :
    c.RelatesOn C R (Reading.current >>= f) (Reading.current >>= g) :=
  fun _ _ hs hC => h _ _ (c.current hs) hs ⟨hC, rfl, rfl⟩

/-- A look at the tokens behind the current ones shows their kind. -/
theorem lookingAhead {R : β → β → Prop} {f g : Token → Reading β}
    (h : ∀ t u, t.kind = u.kind → c.RelatesOn C R (f t) (g u)) :
    c.RelatesOn C R (Reading.next >>= f) (Reading.next >>= g) :=
  fun _ _ hs hC => h _ _ (c.next_kind hs) hs hC

theorem advance : c.RelatesOn C c.tokens Reading.advance Reading.advance :=
  fun _ _ hs _ => .both (c.current hs) (c.tail hs)

/-- Where the spelling counts, the tokens taken are spelled alike. -/
theorem advance_text (hC : ∀ s r, C s r → s.current.kind.dropsSpelling = false) :
    c.RelatesOn C (fun t u => t.kind = u.kind ∧ t.text = u.text) Reading.advance Reading.advance :=
  fun s r hs h => .both ⟨c.kind_eq (c.current hs), c.text_eq (c.current hs) (hC s r h)⟩ (c.tail hs)

theorem failAt {t u : Token} (fault : GrammarFault) (h : c.tokens t u) :
    c.RelatesOn C V (Reading.failAt fault t) (Reading.failAt fault u) :=
  fun _ _ hs _ => .failed (c.failAt fault hs h)

theorem fail {fault : GrammarFault} : c.RelatesOn C V (Reading.fail fault) (Reading.fail fault) :=
  fun _ _ hs _ => .failed (c.failAt fault hs (c.current hs))

theorem at? {kind : TokenKind} : c.RelatesOn C Eq (Reading.at? kind) (Reading.at? kind) := by
  intro s r hs _
  refine .both ?_ hs
  rw [c.kind_eq (c.current hs)]

theorem accept {kind : TokenKind} :
    c.RelatesOn C Eq (Reading.accept kind) (Reading.accept kind) := by
  intro s r hs _
  have hkind := c.kind_eq (c.current hs)
  by_cases h : s.current.kind = kind
  · rw [Reading.accept_ok h, Reading.accept_ok (hkind ▸ h)]
    exact .both rfl (c.tail hs)
  · rw [Reading.accept_other h, Reading.accept_other (hkind ▸ h)]
    exact .both rfl hs

/-- Decides by a token that is taken if it has a given kind. -/
theorem accepting {kind : TokenKind} {p' q' : Reading α} (hyes : c.Relates V p q)
    (hno : c.Relates V p' q') :
    c.RelatesOn C V (Reading.accept kind >>= fun b => if b then p else p')
      (Reading.accept kind >>= fun b => if b then q else q') := by
  refine accept.bind ?_
  rintro b _ rfl
  exact .ite Iff.rfl (fun _ => hyes) fun _ => hno

/-- Decides by the kind of the current token. -/
theorem asking {kind : TokenKind} {p' q' : Reading α}
    (hyes : c.RelatesOn (fun s _ => s.current.kind = kind) V p q) (hno : c.Relates V p' q') :
    c.RelatesOn C V (Reading.at? kind >>= fun b => if b then p else p')
      (Reading.at? kind >>= fun b => if b then q else q') := by
  intro s r hs _
  have hkind := c.kind_eq (c.current hs)
  rw [Reading.bind_ok rfl, Reading.bind_ok rfl]
  by_cases h : s.current.kind = kind
  · rw [decide_eq_true h, decide_eq_true (hkind ▸ h)]
    exact hyes hs h
  · rw [decide_eq_false h, decide_eq_false (hkind ▸ h)]
    exact hno hs trivial

theorem expect {kind : TokenKind} {fault : GrammarFault} :
    c.RelatesOn C (fun t u => c.tokens t u ∧ t.kind = kind) (Reading.expect kind fault)
      (Reading.expect kind fault) := by
  intro s r hs hC
  have hkind := c.kind_eq (c.current hs)
  by_cases h : s.current.kind = kind
  · rw [Reading.expect_ok h, Reading.expect_ok (hkind ▸ h)]
    exact .both ⟨c.current hs, h⟩ (c.tail hs)
  · rw [Reading.expect, if_neg h, Reading.expect, if_neg (hkind ▸ h)]
    exact fail hs hC

/-- Behind a token that must be there, the rest does not use it. -/
theorem expecting {R : β → β → Prop} {kind : TokenKind} {fault : GrammarFault} {f g : Reading β}
    (h : c.Relates R f g) :
    c.RelatesOn C R (Reading.expect kind fault >>= fun _ => f)
      (Reading.expect kind fault >>= fun _ => g) :=
  expect.bind fun _ _ _ => h

end Comparison.RelatesOn

namespace Comparison

variable {α β : Type} {c : Comparison} {C : Stream → Stream → Prop} {V : α → α → Prop}
  {p q : Reading α}

/-- Readings that are related everywhere are related on any streams. -/
theorem Relates.on (h : c.Relates V p q) : c.RelatesOn C V p q :=
  h.weaken fun _ _ _ => trivial

/-- Values within some levels are equal; the rest needs one argument only. -/
theorem RelatesOn.bindWithin {R : β → β → Prop} {m : α → Nat} {f g : α → Reading β}
    (h : c.RelatesOn C (c.Within m) p q) (hf : ∀ a, c.levels (m a) → c.Relates R (f a) (g a)) :
    c.RelatesOn C R (p >>= f) (q >>= g) := by
  refine h.bind ?_
  rintro a _ ⟨rfl, ha⟩
  exact hf a ha

theorem RelatesOn.bindEq {R : β → β → Prop} {f g : α → Reading β} (h : c.RelatesOn C Eq p q)
    (hf : ∀ a, c.Relates R (f a) (g a)) : c.RelatesOn C R (p >>= f) (q >>= g) := by
  refine h.bind ?_
  rintro a _ rfl
  exact hf a

/-! ## Repetition -/

theorem relates_iterate {step step' : α → Reading (Option α)}
    (hstep : ∀ a b, V a b → c.Relates (Option.Rel V) (step a) (step' b)) (n : Nat) {a b : α}
    (h : V a b) :
    c.Relates V (Reading.iterate step n a) (Reading.iterate step' n b) := by
  induction n generalizing a b with
  | zero => exact .pure h
  | succ n ih =>
    refine (hstep a b h).bind fun x y hxy => ?_
    cases hxy with
    | some hv => exact ih hv
    | none => exact .pure h

/-- Loops whose rounds are related are related: as many tokens are ahead of both. -/
theorem relates_loop {step step' : α → Reading (Option α)}
    (hstep : ∀ a b, V a b → c.Relates (Option.Rel V) (step a) (step' b)) {a b : α} (h : V a b) :
    c.Relates V (Reading.loop step a) (Reading.loop step' b) := by
  intro s r hs hC
  rw [Reading.loop, Reading.loop, c.ahead hs]
  exact relates_iterate hstep _ h hs hC

theorem relates_commaSeparated {W : List α → List α → Prop} (h : c.Relates V p q)
    (hone : ∀ a b, V a b → W [a] [b])
    (hmore : ∀ as bs a b, W as bs → V a b → W (as ++ [a]) (bs ++ [b])) :
    c.Relates W (Reading.commaSeparated p) (Reading.commaSeparated q) := by
  refine h.bind fun a b hab => relates_loop (fun as bs hW => ?_) (hone a b hab)
  refine .accepting ?_ (.pure .none)
  exact h.bind fun a' b' hab' => .pure (.some (hmore as bs a' b' hW hab'))

/-- A list of nodes, each of which enters no level of its own. -/
theorem relates_nodes {p q : Reading Node} (h : c.Relates (c.Within Node.nesting) p q) :
    c.Relates (c.Within Node.nestings) (Reading.commaSeparated p) (Reading.commaSeparated q) := by
  refine relates_commaSeparated h ?_ ?_
  · rintro n _ ⟨rfl, hn⟩
    exact ⟨rfl, c.levels_nestings_append c.levels_nestings_nil hn⟩
  · rintro ns _ n _ ⟨rfl, hns⟩ ⟨rfl, hn⟩
    exact ⟨rfl, c.levels_nestings_append hns hn⟩

/-- A list of expressions, each of which enters a level. -/
theorem relates_entries {p q : Reading Node} (h : c.Relates (c.Within fun n => n.nesting + 1) p q) :
    c.Relates (c.Within Node.entries) (Reading.commaSeparated p) (Reading.commaSeparated q) := by
  refine relates_commaSeparated h ?_ ?_
  · rintro n _ ⟨rfl, hn⟩
    exact ⟨rfl, c.levels_entries_append c.levels_entries_nil hn⟩
  · rintro ns _ n _ ⟨rfl, hns⟩ ⟨rfl, hn⟩
    exact ⟨rfl, c.levels_entries_append hns hn⟩

theorem relates_behind {kind : TokenKind} {m : Option α → Nat} {k : α → Nat}
    (h : c.Relates (c.Within k) p q) (hsome : ∀ a, m (some a) = k a) (hnone : m none = 0) :
    c.Relates (c.Within m) (Reading.behind kind p) (Reading.behind kind q) := by
  refine .accepting ?_ (.pure ⟨rfl, hnone ▸ c.levels_zero⟩)
  exact h.bindWithin fun a ha => .pure ⟨rfl, (hsome a).symm ▸ ha⟩

/-- An expression that is read only behind a word enters a level if it is there. -/
theorem relates_clause {kind : TokenKind} {p q : Reading Node}
    (h : c.Relates (c.Within fun n => n.nesting + 1) p q) :
    c.Relates (c.Within Node.entryOption) (Reading.behind kind p) (Reading.behind kind q) :=
  relates_behind h (fun n => by rw [Node.entryOption]) (by rw [Node.entryOption])

/-! ## Levels -/

/--
Both runs go one level further in, perhaps to a comparison of their own: its failures are those that
are seen outside, one level further out.
-/
theorem RelatesOn.nested {d : Comparison} {W : α → α → Prop} (h : d.RelatesOn C V p q)
    (hin : ∀ s r, c.streams s r → d.streams s r) (hout : ∀ s r, d.streams s r → c.streams s r)
    (hV : ∀ a b, V a b → W a b) (hfail : ∀ f g, d.failures f g → c.failures f.outward g.outward)
    (hlost : ∀ f, d.lost f → c.lost f.outward) (hcut : ∀ f, d.cut f → c.cut f.outward) :
    c.RelatesOn C W (Reading.nested p) (Reading.nested q) := by
  intro s r hs hC
  have hp := h (hin s r hs) hC
  rw [Reading.nested, Reading.nested]
  generalize p s = x at hp
  generalize q r = y at hp
  cases hp with
  | both hv hs' => exact .both (hV _ _ hv) (hout _ _ hs')
  | failed h => exact .failed (hfail _ _ h)
  | lost h => exact .lost (hlost _ h)
  | cut h => exact .cut (hcut _ h)

end Comparison

end EntityQuery
