import EntityQuery.Proofs.Grammar.Tracking

/-!
# Programs that look one token ahead

What a program of the machine does, and how it fails, depends on no token beyond the one behind the
position where it stops. For the program never goes back, and never looks further than one token
ahead. An error is about the token at that position, apart from a wrong number of arguments, which
is about a call that was read before.

`LocalOn C p` says so for all runs of `p` from the positions in `C`. Like `TracksOn` it is followed
from left to right, and the rules are of two kinds:

1. `LocalOn.looksAt`, `LocalOn.andThen`, `local_loop`: the ways in which a program depends on the
   tokens.
2. `LocalOn.failAt`: the ways in which it fails.
-/

namespace EntityQuery.Machine

variable {α β : Type}

/-! ## Runs that agree -/

/-- The token with an index. Out of range it is the last token. -/
def Setup.token (u : Setup) (i : Nat) : Token := u.tokens.getD i u.last

/-- Runs with the same limits, whose tokens are the same up to an index. -/
structure Setup.Agrees (u u' : Setup) (n : Nat) : Prop where
  limit : u'.limit = u.limit
  fuel : u'.fuel = u.fuel
  tokens : ∀ i ≤ n, u'.tokens[i]? = u.tokens[i]?

namespace Setup.Agrees

variable {u u' : Setup} {i n : Nat}

theorem refl (u : Setup) (n : Nat) : u.Agrees u n :=
  ⟨rfl, rfl, fun _ _ => rfl⟩

theorem mono (h : u.Agrees u' n) (hi : i ≤ n) : u.Agrees u' i :=
  ⟨h.limit, h.fuel, fun j hj => h.tokens j (Nat.le_trans hj hi)⟩

/-- If the tokens end before the index, they are all the same. -/
theorem token (h : u.Agrees u' n) (hi : i ≤ n) : u'.token i = u.token i := by
  unfold Setup.token
  rw [List.getD_eq_getElem?_getD, List.getD_eq_getElem?_getD, h.tokens i hi]
  cases hget : u.tokens[i]? with
  | some t => rfl
  | none =>
    have hget' : u'.tokens[i]? = none := (h.tokens i hi).trans hget
    rw [List.getElem?_eq_none_iff] at hget hget'
    have hall : u'.tokens = u.tokens := by
      refine List.ext_getElem? fun j => ?_
      by_cases hj : j ≤ n
      · exact h.tokens j hj
      · rw [List.getElem?_eq_none_iff.mpr (by omega), List.getElem?_eq_none_iff.mpr (by omega)]
    exact List.singleton_inj.mp (List.append_inj' hall rfl).2

theorem lt_iff (h : u.Agrees u' n) (hi : i + 1 ≤ n) :
    i < u'.tokens.length - 1 ↔ i < u.tokens.length - 1 := by
  have hget : u'.tokens[i + 1]? = none ↔ u.tokens[i + 1]? = none := by rw [h.tokens (i + 1) hi]
  rw [List.getElem?_eq_none_iff, List.getElem?_eq_none_iff] at hget
  omega

end Setup.Agrees

/-- An error at a position is about the token there, unless it is about a number of arguments. -/
def Setup.Blames (u : Setup) (pos : Nat) (e : GrammarError) : Prop :=
  e.fault ≠ .substringArity → e.token = u.token pos

/-! ## Local programs -/

/-- A run of a program does not go back. It goes in the same way as long as the tokens up to one
behind its last position are the same, and an error is about the token where it stops. -/
structure LocalAt (u : Setup) (m : Memory) (p : Machine α) : Prop where
  le : m.pos ≤ (p u m).2.pos
  congr : ∀ u', u.Agrees u' ((p u m).2.pos + 1) → p u' m = p u m
  blames : ∀ e, (p u m).1 = .error (.failed e) → u.Blames (p u m).2.pos e

/-- All runs of a program from the positions in `C` are local. -/
def LocalOn (C : Setup → Nat → Prop) (p : Machine α) : Prop :=
  ∀ u m, C u m.pos → LocalAt u m p

/-- All runs of a program are local. -/
abbrev Local (p : Machine α) : Prop :=
  LocalOn (fun _ _ => True) p

/-- A program that begins by going over into another one, with the same tokens in sight. -/
theorem LocalAt.of_eq {u : Setup} {m m' : Memory} {p q : Machine α} (hq : LocalAt u m' q)
    (hpos : m.pos = m'.pos) (h : ∀ u', u.Agrees u' (m.pos + 1) → p u' m = q u' m') :
    LocalAt u m p := by
  have hrun : p u m = q u m' := h u (.refl u _)
  refine ⟨?_, fun u' hu => ?_, fun e he => ?_⟩
  · rw [hrun, hpos]
    exact hq.le
  · rw [hrun] at hu ⊢
    have hle := hq.le
    rw [h u' (hu.mono (by omega)), hq.congr u' hu]
  · rw [hrun] at he ⊢
    exact hq.blames e he

namespace LocalOn

variable {C D : Setup → Nat → Prop} {p q : Machine α} {f : α → Machine β}

theorem weaken (h : LocalOn D p) (hCD : ∀ u i, C u i → D u i) : LocalOn C p :=
  fun u m hC => h u m (hCD u m.pos hC)

theorem pure {a : α} : LocalOn C (Pure.pure a) :=
  fun _ _ _ => ⟨Nat.le_refl _, fun _ _ => rfl, fun _ h => by cases h⟩

/-- The second program starts where the first one has stopped. -/
theorem andThen (h : LocalOn C p) (hf : ∀ a, Local (f a)) : LocalOn C (p >>= f) := by
  intro u m hC
  obtain ⟨hle, hcongr, hblames⟩ := h u m hC
  rcases hx : p u m with ⟨x, m'⟩
  rw [hx] at hle hcongr hblames
  cases x with
  | error e =>
    refine ⟨?_, fun u' hu => ?_, fun e' he => ?_⟩
    · rw [bind_error hx]
      exact hle
    · rw [bind_error hx] at hu ⊢
      exact bind_error (hcongr u' hu)
    · rw [bind_error hx] at he ⊢
      cases he
      exact hblames e' rfl
  | ok a =>
    obtain ⟨hle', hcongr', hblames'⟩ := hf a u m' trivial
    refine ⟨?_, fun u' hu => ?_, fun e he => ?_⟩
    · rw [bind_ok hx]
      exact Nat.le_trans hle hle'
    · rw [bind_ok hx] at hu ⊢
      have hsooner := hu.mono (Nat.succ_le_succ hle')
      rw [bind_ok (hcongr u' hsooner), hcongr' u' hu]
    · rw [bind_ok hx] at he ⊢
      exact hblames' e he

theorem map {g : α → β} (h : LocalOn C p) : LocalOn C (g <$> p) := by
  rw [← bind_pure_comp]
  exact h.andThen fun _ => .pure

theorem ite {P : Prop} [Decidable P] (hyes : P → LocalOn C p) (hno : ¬P → LocalOn C q) :
    LocalOn C (if P then p else q) := by
  by_cases h : P
  · rw [if_pos h]
    exact hyes h
  · rw [if_neg h]
    exact hno h

/-! ## Instructions -/

/-- After a look at one of the tokens in sight, the rest may use what was seen. -/
theorem looksAt {offset : Nat} {f : Token → Machine β} (ho : offset ≤ 1)
    (h : ∀ t, LocalOn (fun u i => C u i ∧ u.token (i + offset) = t) (f t)) :
    LocalOn C (look offset >>= f) := by
  intro u m hC
  have hseen := h (u.token (m.pos + offset)) u
    ⟨m.pos, m.depth, m.trace ++ [⟨.look (m.pos + offset), m.pos, m.depth⟩]⟩ ⟨hC, rfl⟩
  refine hseen.of_eq rfl fun u' hu => ?_
  rw [← hu.token (Nat.add_le_add_left ho _)]
  rfl

theorem looking {f : Token → Machine β}
    (h : ∀ t, LocalOn (fun u i => C u i ∧ u.token i = t) (f t)) :
    LocalOn C (current >>= f) :=
  looksAt (Nat.zero_le 1) h

/-- A look at the token behind the current one, which does not change what is known of that one. -/
theorem peeking {f : Token → Machine β} (h : ∀ t, LocalOn C (f t)) : LocalOn C (next >>= f) :=
  looksAt (Nat.le_refl 1) fun t => (h t).weaken fun _ _ hC => hC.1

theorem current : LocalOn C current := by
  rw [← bind_pure Machine.current]
  exact looking fun _ => .pure

/-- Whether there is a token to move to can be seen from here. -/
theorem move : LocalOn C move := by
  intro u m _
  have hrun : ∀ u', Machine.move u' m =
      record .advance u' (if m.pos < u'.tokens.length - 1 then { m with pos := m.pos + 1 }
        else m) := fun _ => rfl
  have hle : m.pos ≤ (Machine.move u m).2.pos := by
    rw [hrun]
    split
    · exact Nat.le_succ _
    · exact Nat.le_refl _
  refine ⟨hle, fun u' hu => ?_, fun e he => ?_⟩
  · rw [hrun, hrun]
    simp only [hu.lt_iff (Nat.succ_le_succ hle)]
    rfl
  · cases he

theorem advance : LocalOn C advance :=
  current.andThen fun _ => move.andThen fun _ => .pure

theorem failAt {fault : GrammarFault} {t : Token} (h : ∀ u i, C u i → u.Blames i ⟨fault, t⟩) :
    LocalOn C (failAt fault t : Machine α) := by
  refine fun u m hC => ⟨Nat.le_refl _, fun _ _ => rfl, fun e he => ?_⟩
  cases he
  exact h u m.pos hC

theorem fail {fault : GrammarFault} : LocalOn C (fail fault : Machine α) := by
  refine looking fun t => failAt ?_
  rintro u i ⟨-, rfl⟩ -
  rfl

theorem at? {kind : TokenKind} : LocalOn C (at? kind) :=
  current.andThen fun _ => .pure

theorem accept {kind : TokenKind} : LocalOn C (accept kind) :=
  at?.andThen fun _ => .ite (fun _ => advance.andThen fun _ => .pure) fun _ => .pure

theorem expect {kind : TokenKind} {fault : GrammarFault} : LocalOn C (expect kind fault) :=
  at?.andThen fun _ => .ite (fun _ => advance) fun _ => fail

/-- Decides by a token that is taken if it is there. -/
theorem accepting {kind : TokenKind} (hyes : Local p) (hno : Local q) :
    LocalOn C (Machine.accept kind >>= fun b => if b then p else q) :=
  accept.andThen fun _ => .ite (fun _ => hyes) fun _ => hno

/-- Decides by the kind of the current token. -/
theorem asking {kind : TokenKind} (hyes : Local p) (hno : Local q) :
    LocalOn C (Machine.at? kind >>= fun b => if b then p else q) :=
  at?.andThen fun _ => .ite (fun _ => hyes) fun _ => hno

/-! ## Routines and levels -/

theorem record (action : Action) : LocalOn C (record action) :=
  fun _ _ _ => ⟨Nat.le_refl _, fun _ _ => rfl, fun _ h => by cases h⟩

theorem routine {r : Routine} (h : LocalOn C p) : LocalOn C (routine r p) := by
  intro u m hC
  have hbody :=
    (h.andThen fun a => (record (.finish r m.pos m.depth)).andThen fun _ => .pure (a := a)) u m hC
  exact hbody.of_eq rfl fun _ _ => rfl

/-- The limit is the same in all runs that agree. -/
theorem enter : LocalOn C enter := by
  intro u m _
  have hbody : Local (if u.limit < m.depth + 1 then Machine.fail (.tooDeep u.limit)
      else Pure.pure () : Machine Unit) :=
    .ite (fun _ => fail) fun _ => .pure
  refine (hbody u ⟨m.pos, m.depth + 1, m.trace ++ [⟨.enter, m.pos, m.depth + 1⟩]⟩ trivial).of_eq rfl
    fun u' hu => ?_
  rw [← hu.limit]
  rfl

theorem leave : LocalOn C leave :=
  fun _ _ _ => ⟨Nat.le_refl _, fun _ _ => rfl, fun _ h => by cases h⟩

theorem nested (h : Local p) : LocalOn C (nested p) :=
  enter.andThen fun _ => h.andThen fun _ => leave.andThen fun _ => .pure

theorem spent : LocalOn C (throw .spent : Machine α) :=
  fun _ _ _ => ⟨Nat.le_refl _, fun _ _ => rfl, fun _ h => by cases h⟩

end LocalOn

/-! ## Repetition -/

theorem local_iterate {step : α → Machine (Option α)} (h : ∀ a, Local (step a)) (n : Nat) (a : α) :
    Local (iterate step n a) := by
  induction n generalizing a with
  | zero => exact .spent
  | succ n ih =>
    refine (h a).andThen fun b => ?_
    cases b with
    | none => exact .pure
    | some b => exact ih b

/-- The fuel is the same in all runs that agree. -/
theorem local_loop {step : α → Machine (Option α)} (h : ∀ a, Local (step a)) (a : α) :
    Local (loop step a) := by
  intro u m _
  refine (local_iterate h u.fuel a u m trivial).of_eq rfl fun u' hu => ?_
  rw [← hu.fuel]
  rfl

theorem local_commaSeparated {p : Machine α} (h : Local p) : Local (commaSeparated p) :=
  h.andThen fun _ => local_loop (fun _ => .accepting (h.andThen fun _ => .pure) .pure) _

theorem local_behind {p : Machine α} {kind : TokenKind} (h : Local p) : Local (behind kind p) :=
  .accepting (h.andThen fun _ => .pure) .pure

end EntityQuery.Machine
