import EntityQuery.Proofs.Grammar.Machine
import EntityQuery.Proofs.Grammar.Take

/-!
# Running a reading on the machine

`TracksOn w C M p q` says that the machine runs the program `p` as the reading `q` goes: from every
stream in `C` both end with the same value at the same place, or fail with the same error at the
same place and depth. The trace grows by events that are within bounds, and positions do not
decrease in it (`Passage`). For the values in `M` at least one token is taken.

Programs are followed from left to right, as `SoundOn` follows one reading and `RelatesOn` two of
them. Three rules say why the machine stays within bounds:

1. `TracksOn.advance`, `TracksOn.peeking`: where the current token does not end the input, there is
   one behind it.
2. `tracks_loop`: a loop ends by itself if each of its rounds takes a token and there is none at the
   end of the input.
3. `TracksOn.nested`, `TracksOn.tooDeep`: a level that is entered is left again, and one too many is
   the limit and one.
-/

namespace EntityQuery.Machine

variable {α β : Type}

/-! ## Traces -/

/-- An event within the bounds of a run: no token is asked for out of range, and a routine that is
done has taken a token and is as deep as it was at its start. -/
def Event.Sound (u : Setup) (e : Event) : Prop :=
  e.pos < u.tokens.length ∧ 0 ≤ e.depth ∧ e.depth ≤ u.limit + 1 ∧
    match e.action with
    | .look index => index < u.tokens.length
    | .finish _ pos depth => pos < e.pos ∧ e.depth = depth
    | _ => True

/-- Events on the way from one position to another. Positions do not decrease. -/
structure Passage (u : Setup) (start : Nat) (es : List Event) (stop : Nat) : Prop where
  le : start ≤ stop
  sound : ∀ e ∈ es, e.Sound u
  between : ∀ e ∈ es, start ≤ e.pos ∧ e.pos ≤ stop
  sorted : (es.map Event.pos).Pairwise (· ≤ ·)

namespace Passage

variable {u : Setup} {i j k : Nat} {es fs : List Event}

theorem nil (u : Setup) (i : Nat) : Passage u i [] i :=
  ⟨Nat.le_refl i, by simp, by simp, .nil⟩

theorem single {e : Event} (he : e.Sound u) (hi : i ≤ e.pos) (hj : e.pos ≤ j) : Passage u i [e] j :=
  ⟨Nat.le_trans hi hj, by simpa using he, by simpa using ⟨hi, hj⟩, List.pairwise_singleton _ _⟩

theorem append (h : Passage u i es j) (h' : Passage u j fs k) : Passage u i (es ++ fs) k where
  le := Nat.le_trans h.le h'.le
  sound := List.forall_mem_append.mpr ⟨h.sound, h'.sound⟩
  between := by
    refine List.forall_mem_append.mpr ⟨fun e he => ?_, fun e he => ?_⟩
    · exact ⟨(h.between e he).1, Nat.le_trans (h.between e he).2 h'.le⟩
    · exact ⟨Nat.le_trans h.le (h'.between e he).1, (h'.between e he).2⟩
  sorted := by
    rw [List.map_append, List.pairwise_append]
    refine ⟨h.sorted, h'.sorted, ?_⟩
    simp only [List.forall_mem_map]
    intro e he f hf
    exact Nat.le_trans (h.between e he).2 (h'.between f hf).1

end Passage

/-! ## Streams -/

/-- A stream is what is left of the tokens of a run. -/
def Setup.Shows (u : Setup) (s : Stream) : Prop :=
  u.tokens.drop s.pos = s.tokens

namespace Setup

variable {u : Setup} {s : Stream}

theorem Shows.get (h : u.Shows s) (i : Nat) : u.tokens[s.pos + i]? = s.tokens[i]? := by
  rw [← List.getElem?_drop, h]

theorem Shows.length (h : u.Shows s) : u.tokens.length = s.pos + (s.ahead.length + 1) := by
  have hlength := congrArg List.length h
  rw [List.length_drop, Stream.tokens, List.length_cons] at hlength
  omega

theorem Shows.pos_lt (h : u.Shows s) : s.pos < u.tokens.length := by
  have hlength := h.length
  omega

theorem Shows.ended (h : u.Shows s) (hlast : u.last.kind = .endOfInput) : s.Ended := by
  have hlength := h.length
  rw [Stream.Ended, ← h, List.getLast?_drop, if_neg (by omega), tokens]
  simp [hlast]

/-- The next token is not out of range where the current one is not the last. -/
theorem Shows.tail (h : u.Shows s) : u.Shows s.tail := by
  unfold Stream.tail
  split
  · exact h
  · next t rest hs =>
    have hdrop : u.tokens.drop (s.pos + 1) = (u.tokens.drop s.pos).tail := by rw [List.tail_drop]
    rw [Shows, hdrop, h, Stream.tokens, hs, List.tail_cons, Stream.tokens]

end Setup

/-! ## Kinds and faults -/

def isEnd : TokenKind → Bool
  | .endOfInput => true
  | _ => false

theorem ne_end {kind : TokenKind} (h : isEnd kind = false) : kind ≠ .endOfInput := by
  rintro rfl
  cases h

theorem current_ne_end {kind : TokenKind} (h : isEnd kind = false) (s : Stream)
    (hs : s.current.kind = kind) :
    s.current.kind ≠ .endOfInput :=
  hs ▸ ne_end h

def isTooDeep : GrammarFault → Bool
  | .tooDeep _ => true
  | _ => false

theorem ne_tooDeep {fault : GrammarFault} {limit : Int} (h : isTooDeep fault = false) :
    fault ≠ .tooDeep limit := by
  rintro rfl
  cases h

/-! ## Runs side by side -/

/-- A run whose last token ends the input and whose fuel lasts for a round per token, at a depth
within its limit. -/
structure Frame where
  setup : Setup
  depth : Int
  ends : setup.last.kind = .endOfInput
  fuel : setup.tokens.length ≤ setup.fuel
  depth_nonneg : 0 ≤ depth
  depth_le : depth ≤ setup.limit

namespace Frame

/-- A failure lies within the tokens, and at a depth past the limit exactly where this is what
failed. -/
def Fits (w : Frame) (f : Failure) : Prop :=
  f.pos < w.setup.tokens.length ∧
    if f.error.fault = .tooDeep w.setup.limit then w.depth + f.depth = w.setup.limit + 1
    else w.depth + f.depth ≤ w.setup.limit

/-- One nesting level further in. -/
def deeper (w : Frame) (h : w.depth < w.setup.limit) : Frame where
  setup := w.setup
  depth := w.depth + 1
  ends := w.ends
  fuel := w.fuel
  depth_nonneg := by have := w.depth_nonneg; omega
  depth_le := h

theorem depth_le_succ (w : Frame) : w.depth ≤ w.setup.limit + 1 := by
  have hle := w.depth_le
  omega

theorem deeper_depth {w : Frame} (h : w.depth < w.setup.limit) :
    (w.deeper h).depth = w.depth + 1 := rfl

end Frame

variable {w : Frame}

/-- The machine ends as a reading does, with the same value or error at the same place, and has been
there by steps in range. For the values in `M` it has taken a token. -/
inductive Follows (w : Frame) (start : Nat) (trace : List Event) (M : α → Prop) :
    Except Failure (α × Stream) → Except Stop α × Memory → Prop
  | ok {a : α} {s : Stream} {es : List Event} (hs : w.setup.Shows s)
      (he : Passage w.setup start es s.pos)
      (hm : M a → start < s.pos) : Follows w start trace M (.ok (a, s)) (.ok a,
        ⟨s.pos, w.depth, trace ++ es⟩)
  | error {f : Failure} {es : List Event} (he : Passage w.setup start es f.pos) (hf : w.Fits f) :
      Follows w start trace M (.error f) (.error (.failed f.error),
        ⟨f.pos, w.depth + f.depth, trace ++ es⟩)

/-- What comes before belongs to the run. -/
theorem Follows.after {i j : Nat} {trace es : List Event} {M L : α → Prop}
    {r : Except Failure (α × Stream)} {x : Except Stop α × Memory}
    (h : Follows w j (trace ++ es) M r x) (he : Passage w.setup i es j)
    (hL : ∀ a, L a → M a ∨ i < j) : Follows w i trace L r x := by
  cases h with
  | ok hs he' hm =>
    rw [List.append_assoc]
    refine .ok hs (he.append he') fun ha => ?_
    rcases hL _ ha with ha | hij
    · exact Nat.lt_of_le_of_lt he.le (hm ha)
    · exact Nat.lt_of_lt_of_le hij he'.le
  | error he' hf =>
    rw [List.append_assoc]
    exact .error (he.append he') hf

/-- From the streams in `C` the machine runs a program as a reading goes. -/
def TracksOn (w : Frame) (C : Stream → Prop) (M : α → Prop) (p : Machine α) (q : Reading α) :
    Prop :=
  ∀ ⦃s : Stream⦄ (trace : List Event), w.setup.Shows s → C s →
    Follows w s.pos trace M (q s) (p w.setup ⟨s.pos, w.depth, trace⟩)

/-- From any stream the machine runs a program as a reading goes. -/
abbrev Tracks (w : Frame) (M : α → Prop) (p : Machine α) (q : Reading α) : Prop :=
  TracksOn w (fun _ => True) M p q

/-- Some token is taken, whatever the value. -/
abbrev Takes (w : Frame) (p : Machine α) (q : Reading α) : Prop :=
  Tracks w (fun _ => True) p q

theorem bind_ok {p : Machine α} {f : α → Machine β} {u : Setup} {m m' : Memory} {a : α}
    (h : p u m = (.ok a, m')) :
    (p >>= f) u m = f a u m' := by
  show (p u m >>= fun r =>
      (ExceptT.bindCont (fun a => f a u) r.1 : StateM Memory (Except Stop β)) r.2) = _
  rw [h]
  rfl

theorem bind_error {p : Machine α} {f : α → Machine β} {u : Setup} {m m' : Memory} {e : Stop}
    (h : p u m = (.error e, m')) :
    (p >>= f) u m = (.error e, m') := by
  show (p u m >>= fun r =>
      (ExceptT.bindCont (fun a => f a u) r.1 : StateM Memory (Except Stop β)) r.2) = _
  rw [h]
  rfl

namespace TracksOn

variable {C D : Stream → Prop} {M L : α → Prop} {N : β → Prop} {p p' : Machine α} {q q' : Reading α}

theorem mono (h : TracksOn w C M p q) (hL : ∀ a, L a → M a) : TracksOn w C L p q := by
  intro s trace hs hC
  have hp : Follows w s.pos (trace ++ []) M (q s) (p w.setup ⟨s.pos, w.depth, trace⟩) := by
    rw [List.append_nil]
    exact h trace hs hC
  exact hp.after (.nil _ _) fun a ha => .inl (hL a ha)

/-- Fewer streams are asked for less. -/
theorem weaken (h : TracksOn w D M p q) (hCD : ∀ s, C s → D s) : TracksOn w C M p q :=
  fun s trace hs hC => h trace hs (hCD s hC)

theorem pure {a : α} (h : ¬M a) : TracksOn w C M (Pure.pure a) (Pure.pure a) := by
  intro s trace hs _
  have hp : Follows w s.pos trace M (.ok (a, s)) (.ok a, ⟨s.pos, w.depth, trace ++ []⟩) :=
    .ok hs (.nil _ _) fun ha => absurd ha h
  rwa [List.append_nil] at hp

/-- A round that does nothing is the last one, and need not take a token. -/
theorem done :
    TracksOn w C (fun b : Option α => b.isSome = true) (Pure.pure none) (Pure.pure none) :=
  .pure Bool.false_ne_true

/-- The second program starts where the first one has stopped. It has to take a token if the first
one has not. -/
theorem bind {f : α → Machine β} {g : α → Reading β} (h : TracksOn w C M p q)
    (hf : ∀ a, Tracks w (fun b => N b ∧ ¬M a) (f a) (g a)) :
    TracksOn w C N (p >>= f) (q >>= g) := by
  intro s trace hs hC
  have hp := h trace hs hC
  generalize hx : q s = x at hp
  generalize hy : p w.setup ⟨s.pos, w.depth, trace⟩ = y at hp
  cases hp with
  | @ok a m es hs' he hm =>
    rw [Reading.bind_ok hx, bind_ok hy]
    refine (hf a _ hs' trivial).after he fun b hb => ?_
    by_cases ha : M a
    · exact .inr (hm ha)
    · exact .inl ⟨hb, ha⟩
  | error he hf => rw [Reading.bind_error hx, bind_error hy]; exact .error he hf

/-- Behind a program that has taken a token nothing has to be taken. -/
theorem andThen {f : α → Machine β} {g : α → Reading β} (h : TracksOn w C (fun _ => True) p q)
    (hf : ∀ a, Tracks w (fun _ => False) (f a) (g a)) : TracksOn w C N (p >>= f) (q >>= g) :=
  h.bind fun a => (hf a).mono fun _ hb => hb.2 trivial

/-- Behind a program that need not take a token. -/
theorem before {f : α → Machine β} {g : α → Reading β} (h : TracksOn w C (fun _ => False) p q)
    (hf : ∀ a, Tracks w N (f a) (g a)) : TracksOn w C N (p >>= f) (q >>= g) :=
  h.bind fun a => (hf a).mono fun _ hb => hb.1

theorem map {f : α → β} (h : TracksOn w C (fun _ => True) p q) :
    TracksOn w C N (f <$> p) (f <$> q) := by
  rw [← bind_pure_comp, ← bind_pure_comp]
  exact h.andThen fun _ => .pure id

/-- The same decision in both. -/
theorem ite {P : Prop} [Decidable P] (hyes : P → TracksOn w C M p q)
    (hno : ¬P → TracksOn w C M p' q') :
    TracksOn w C M (if P then p else p') (if P then q else q') := by
  by_cases h : P
  · rw [if_pos h, if_pos h]
    exact hyes h
  · rw [if_neg h, if_neg h]
    exact hno h

/-! ## Instructions -/

/-- Something that only leaves a mark belongs to what comes after it. -/
theorem marked {action : Action} {i : Nat} {depth : Int} {trace : List Event}
    {r : Except Failure (α × Stream)} {x : Except Stop α × Memory}
    (hsound : Event.Sound w.setup ⟨action, i, depth⟩)
    (h : Follows w i (trace ++ [⟨action, i, depth⟩]) M r x) : Follows w i trace M r x :=
  h.after (.single hsound (Nat.le_refl _) (Nat.le_refl _)) fun _ ha => .inl ha

theorem sound_look {s : Stream} (hs : w.setup.Shows s) {offset : Nat}
    (h : offset < s.tokens.length) :
    Event.Sound w.setup ⟨.look (s.pos + offset), s.pos, w.depth⟩ := by
  have hlength := hs.length
  rw [Stream.tokens, List.length_cons] at h
  exact ⟨hs.pos_lt, w.depth_nonneg, w.depth_le_succ, by show s.pos + offset < _; omega⟩

/-- A look ahead shows what the stream has there. -/
theorem looksAt {f : Token → Machine β} {g : Reading β} {offset : Nat} {s : Stream}
    {trace : List Event} (hs : w.setup.Shows s) (h : offset < s.tokens.length)
    (hf : ∀ trace,
      Follows w s.pos trace N (g s) (f s.tokens[offset] w.setup ⟨s.pos, w.depth, trace⟩)) :
    Follows w s.pos trace N (g s) ((look offset >>= f) w.setup ⟨s.pos, w.depth, trace⟩) := by
  have hget : w.setup.tokens.getD (s.pos + offset) w.setup.last = s.tokens[offset] := by
    rw [List.getD_eq_getElem?_getD, hs.get, List.getElem?_eq_getElem h, Option.getD_some]
  have hlook : look offset w.setup ⟨s.pos, w.depth, trace⟩ =
      (.ok s.tokens[offset],
        ⟨s.pos, w.depth, trace ++ [⟨.look (s.pos + offset), s.pos, w.depth⟩]⟩) := by
    rw [← hget]
    rfl
  rw [bind_ok hlook]
  exact marked (sound_look hs h) (hf _)

/-- After a look at the current token, the rest may use what was seen. -/
theorem looking {f : Token → Machine β} {g : Token → Reading β}
    (h : ∀ t, TracksOn w (fun s => C s ∧ s.current = t) N (f t) (g t)) :
    TracksOn w C N (current >>= f) (Reading.current >>= g) := by
  intro s trace hs hC
  exact looksAt (g := Reading.current >>= g) hs (Nat.zero_lt_succ _) fun trace =>
    h s.current trace hs ⟨hC, rfl⟩

/-- Where the current token does not end the input, there is a token behind it. -/
theorem peeking {f : Token → Machine β} {g : Token → Reading β}
    (hC : ∀ s, C s → s.current.kind ≠ .endOfInput)
    (h : ∀ t, TracksOn w (fun s => C s ∧ s.next = t) N (f t) (g t)) :
    TracksOn w C N (next >>= f) (Reading.next >>= g) := by
  intro s trace hs hCs
  have htakes := (hs.ended w.ends).takes_tail (hC s hCs)
  obtain ⟨-, hne, -⟩ := Stream.takes_singleton.mp htakes
  obtain ⟨t, rest, hahead⟩ := List.exists_cons_of_ne_nil hne
  have hnext : s.next = t := by rw [Stream.next, hahead]; rfl
  have hlength : 1 < s.tokens.length := by simp [Stream.tokens, hahead]
  have hget : s.tokens[1] = t := by simp [Stream.tokens, hahead]
  refine looksAt (g := Reading.next >>= g) hs hlength fun trace => ?_
  rw [hget, ← hnext]
  exact h s.next trace hs ⟨hCs, rfl⟩

theorem move_run {u : Setup} {m : Memory} (h : m.pos < u.tokens.length - 1) :
    move u m = (.ok (), ⟨m.pos + 1, m.depth, m.trace ++ [⟨.advance, m.pos + 1, m.depth⟩]⟩) := by
  have hmove : move u m = record .advance u (if m.pos < u.tokens.length - 1
      then { m with pos := m.pos + 1 } else m) := rfl
  rw [hmove, if_pos h]
  rfl

/-- Where the current token does not end the input, it is taken. -/
theorem advance (hC : ∀ s, C s → s.current.kind ≠ .endOfInput) :
    TracksOn w C (fun _ => True) Machine.advance Reading.advance := by
  intro s trace hs hCs
  have hpos : s.tail.pos = s.pos + 1 := ((hs.ended w.ends).takes_tail (hC s hCs)).pos
  have hlast := hs.tail.pos_lt
  have hsound : Event.Sound w.setup ⟨.advance, s.tail.pos, w.depth⟩ :=
    ⟨hlast, w.depth_nonneg, w.depth_le_succ, trivial⟩
  refine looksAt (g := Reading.advance) hs (Nat.zero_lt_succ _) fun trace => ?_
  have hlt : s.pos < w.setup.tokens.length - 1 := by omega
  have hmoved : s.pos < s.tail.pos := by omega
  rw [bind_ok (move_run hlt), ← hpos]
  exact .ok hs.tail (.single hsound (Nat.le_of_lt hmoved) (Nat.le_refl _)) fun _ => hmoved

theorem failAt {fault : GrammarFault} {t : Token} (h : isTooDeep fault = false) :
    TracksOn w C M (Machine.failAt fault t) (Reading.failAt fault t) := by
  intro s trace hs _
  have hfits : w.Fits ⟨⟨fault, t⟩, s.pos, 0⟩ := by
    refine ⟨hs.pos_lt, ?_⟩
    rw [if_neg (ne_tooDeep h)]
    simpa using w.depth_le
  have hend : Follows w s.pos trace M (.error ⟨⟨fault, t⟩, s.pos, 0⟩)
      (.error (.failed ⟨fault, t⟩), ⟨s.pos, w.depth + (0 : Nat), trace ++ []⟩) :=
      .error (.nil _ _) hfits
  rwa [List.append_nil, Int.natCast_zero, Int.add_zero] at hend

theorem fail {fault : GrammarFault} (h : isTooDeep fault = false) :
    TracksOn w C M (Machine.fail fault) (Reading.fail fault) :=
  looking fun _ => failAt h

/-- Decides by the kind of the current token. -/
theorem asking {kind : TokenKind} {f : Bool → Machine β} {g : Bool → Reading β}
    (hyes : TracksOn w (fun s => C s ∧ s.current.kind = kind) N (f true) (g true))
    (hno : TracksOn w (fun s => C s ∧ s.current.kind ≠ kind) N (f false) (g false)) :
    TracksOn w C N (Machine.at? kind >>= f) (Reading.at? kind >>= g) := by
  have hf : Machine.at? kind >>= f = Machine.current >>= fun t => f (decide (t.kind = kind)) := by
    rw [Machine.at?, bind_assoc]
    simp only [pure_bind]
  rw [hf]
  refine looking (g := fun t => g (decide (t.kind = kind))) fun t => ?_
  by_cases h : t.kind = kind
  · rw [decide_eq_true h]
    refine hyes.weaken ?_
    rintro s ⟨hC, rfl⟩
    exact ⟨hC, h⟩
  · rw [decide_eq_false h]
    refine hno.weaken ?_
    rintro s ⟨hC, rfl⟩
    exact ⟨hC, h⟩

/-- A token is taken if it is there. -/
theorem accept {kind : TokenKind} (hk : isEnd kind = false) :
    TracksOn w C (fun b => b = true) (Machine.accept kind) (Reading.accept kind) := by
  have hreading : Reading.accept kind = (do
      if ← Reading.at? kind then
        let _ ← Reading.advance
        Pure.pure true
      else Pure.pure false) := by
    funext s
    by_cases h : s.current.kind = kind
    · rw [Reading.accept_ok h, Reading.bind_ok rfl, decide_eq_true h]
      rfl
    · rw [Reading.accept_other h, Reading.bind_ok rfl, decide_eq_false h]
      rfl
  rw [hreading]
  refine asking ?_ (.pure (by simp))
  exact (advance fun s hs => current_ne_end hk s hs.2).andThen fun _ => .pure id

/-- Decides by a token that is taken if it is there. -/
theorem accepting {kind : TokenKind} (hk : isEnd kind = false)
    (hyes : Tracks w (fun _ => False) p q) (hno : Tracks w M p' q') :
    TracksOn w C M (Machine.accept kind >>= fun b => if b then p else p')
      (Reading.accept kind >>= fun b => if b then q else q') := by
  refine (accept hk).bind fun b => ?_
  cases b with
  | true => exact hyes.mono fun _ h => h.2 rfl
  | false => exact hno.mono fun _ h => h.1

theorem expect {kind : TokenKind} {fault : GrammarFault} (hk : isEnd kind = false)
    (hf : isTooDeep fault = false) :
    TracksOn w C (fun _ => True) (Machine.expect kind fault) (Reading.expect kind fault) := by
  have hreading : Reading.expect kind fault =
      (do if ← Reading.at? kind then Reading.advance else Reading.fail fault) := by
    funext s
    by_cases h : s.current.kind = kind
    · rw [Reading.expect_ok h, Reading.bind_ok rfl, decide_eq_true h]
      rfl
    · rw [Reading.expect, if_neg h, Reading.bind_ok rfl, decide_eq_false h]
      rfl
  rw [hreading]
  exact asking (advance fun s hs => current_ne_end hk s hs.2) (fail hf)

/-- Behind a token that must be there. -/
theorem expecting {kind : TokenKind} {fault : GrammarFault} (hk : isEnd kind = false)
    (hf : isTooDeep fault = false) (h : Tracks w (fun _ => False) p q) :
    TracksOn w C M (Machine.expect kind fault >>= fun _ => p)
      (Reading.expect kind fault >>= fun _ => q) :=
  (expect hk hf).andThen fun _ => h

/-! ## Routines and levels -/

/-- A routine that takes a token is done where it should be. -/
theorem routine {r : Routine} (h : TracksOn w C (fun _ => True) p q) :
    TracksOn w C M (Machine.routine r p) q := by
  intro s trace hs hC
  have hp := h trace hs hC
  have hrun : Machine.routine r p w.setup ⟨s.pos, w.depth, trace⟩ =
      (p >>= fun a => record (.finish r s.pos w.depth) >>= fun _ => Pure.pure a) w.setup ⟨s.pos,
        w.depth, trace⟩ := rfl
  rw [hrun]
  generalize q s = x at hp ⊢
  generalize hy : p w.setup ⟨s.pos, w.depth, trace⟩ = y at hp
  cases hp with
  | @ok a m es hs' he hm =>
    have hsound : Event.Sound w.setup ⟨.finish r s.pos w.depth, m.pos, w.depth⟩ :=
      ⟨hs'.pos_lt, w.depth_nonneg, w.depth_le_succ, hm trivial, rfl⟩
    rw [bind_ok hy]
    have hend : Follows w s.pos trace M (.ok (a, m))
        (.ok a, ⟨m.pos, w.depth, trace ++ (es ++ [⟨.finish r s.pos w.depth, m.pos, w.depth⟩])⟩) :=
      .ok hs' (he.append (.single hsound (Nat.le_refl _) (Nat.le_refl _))) fun _ => hm trivial
    rw [← List.append_assoc] at hend
    exact hend
  | error he hf =>
    rw [bind_error hy]
    exact .error he hf

theorem enter_run {u : Setup} {m : Memory} (h : m.depth < u.limit) :
    enter u m = (.ok (), ⟨m.pos, m.depth + 1, m.trace ++ [⟨.enter, m.pos, m.depth + 1⟩]⟩) := by
  have henter : enter u m = (if u.limit < m.depth + 1 then Machine.fail (.tooDeep u.limit)
      else Pure.pure () : Machine Unit) u
      ⟨m.pos, m.depth + 1, m.trace ++ [⟨.enter, m.pos, m.depth + 1⟩]⟩ := rfl
  rw [henter, if_neg (by omega)]
  rfl

theorem sound_enter {s : Stream} (hs : w.setup.Shows s) :
    Event.Sound w.setup ⟨.enter, s.pos, w.depth + 1⟩ := by
  have hle := w.depth_le
  have hnonneg := w.depth_nonneg
  exact ⟨hs.pos_lt, by show 0 ≤ w.depth + 1; omega, by show w.depth + 1 ≤ _; omega, trivial⟩

theorem fits_outward {hd : w.depth < w.setup.limit} {f : Failure} (h : (w.deeper hd).Fits f) :
    w.Fits { f with depth := f.depth + 1 } := by
  obtain ⟨hpos, hdepth⟩ := h
  refine ⟨hpos, ?_⟩
  unfold Frame.deeper at hdepth
  dsimp only at hdepth ⊢
  split at hdepth
  · rw [if_pos ‹_›]
    push_cast
    omega
  · rw [if_neg ‹_›]
    push_cast
    omega

/-- One level further in, and back. -/
theorem nested {hd : w.depth < w.setup.limit} (h : TracksOn (w.deeper hd) C M p q) :
    TracksOn w C M (Machine.nested p) (Reading.nested q) := by
  intro s trace hs hC
  have hrun : Machine.nested p w.setup ⟨s.pos, w.depth, trace⟩ =
      (p >>= fun a => leave >>= fun _ => Pure.pure a) w.setup
      ⟨s.pos, w.depth + 1, trace ++ [⟨.enter, s.pos, w.depth + 1⟩]⟩ := bind_ok (enter_run hd)
  rw [hrun]
  refine marked (sound_enter hs) ?_
  have hp : Follows (w.deeper hd) s.pos (trace ++ [⟨.enter, s.pos, w.depth + 1⟩]) M (q s)
      (p w.setup ⟨s.pos, w.depth + 1, trace ++ [⟨.enter, s.pos, w.depth + 1⟩]⟩) := h _ hs hC
  rw [Reading.nested]
  generalize q s = x at hp ⊢
  generalize hy : p w.setup ⟨s.pos, w.depth + 1, trace ++ [⟨.enter, s.pos, w.depth + 1⟩]⟩ = y at hp
  cases hp with
  | @ok a m es hs' he hm =>
    have hsound : Event.Sound w.setup ⟨.leave, m.pos, w.depth⟩ :=
      ⟨hs'.pos_lt, w.depth_nonneg, w.depth_le_succ, trivial⟩
    have hback : w.depth + 1 - 1 = w.depth := by omega
    have hleave : ∀ trace, (leave >>= fun _ => Pure.pure a : Machine α) w.setup ⟨m.pos,
        w.depth + 1, trace⟩ =
        (.ok a, ⟨m.pos, w.depth + 1 - 1, trace ++ [⟨.leave, m.pos, w.depth + 1 - 1⟩]⟩) :=
        fun _ => rfl
    rw [bind_ok hy, Frame.deeper_depth, hleave, hback, List.append_assoc _ es]
    exact .ok hs' (he.append (.single hsound (Nat.le_refl _) (Nat.le_refl _))) hm
  | @error f es he hf =>
    have hdepth : w.depth + 1 + f.depth = w.depth + (f.depth + 1 : Nat) := by
      push_cast
      omega
    rw [bind_error hy, Frame.deeper_depth, hdepth]
    exact .error he (fits_outward hf)

/-- Where no level is left, the machine fails at the limit. -/
theorem tooDeep (hd : ¬w.depth < w.setup.limit) :
    TracksOn w C M (Machine.nested p) (Reading.tooDeep w.setup.limit) := by
  intro s trace hs _
  have hle := w.depth_le
  have hget : w.setup.tokens.getD (s.pos + 0) w.setup.last = s.current := by
    rw [List.getD_eq_getElem?_getD, hs.get]
    rfl
  have henter : enter w.setup ⟨s.pos, w.depth, trace⟩ =
      (.error (.failed ⟨.tooDeep w.setup.limit, s.current⟩), ⟨s.pos, w.depth + (1 : Nat),
        trace ++ ([⟨.enter, s.pos, w.depth + 1⟩] ++
          [⟨.look (s.pos + 0), s.pos, w.depth + 1⟩])⟩) := by
    have hrun : enter w.setup ⟨s.pos, w.depth, trace⟩ =
        (if w.setup.limit < w.depth + 1 then Machine.fail (.tooDeep w.setup.limit)
          else Pure.pure () : Machine Unit) w.setup
          ⟨s.pos, w.depth + 1, trace ++ [⟨.enter, s.pos, w.depth + 1⟩]⟩ := rfl
    rw [hrun, if_pos (by omega), ← List.append_assoc, ← hget]
    rfl
  have henters := sound_enter hs
  have hlook : Event.Sound w.setup ⟨.look (s.pos + 0), s.pos, w.depth + 1⟩ :=
    ⟨hs.pos_lt, henters.2.1, henters.2.2.1, hs.pos_lt⟩
  have hfits : w.Fits ⟨⟨.tooDeep w.setup.limit, s.current⟩, s.pos, 1⟩ := by
    refine ⟨hs.pos_lt, ?_⟩
    rw [if_pos rfl]
    show w.depth + 1 = _
    omega
  rw [Machine.nested, bind_error henter]
  exact .error ((Passage.single henters (Nat.le_refl _) (Nat.le_refl _)).append
    (.single hlook (Nat.le_refl _) (Nat.le_refl _))) hfits

end TracksOn

/-! ## Repetition -/

section

variable {step : α → Machine (Option α)} {step' : α → Reading (Option α)}

/--
Rounds that take a token each come to an end by themselves: the number of rounds that a reading is
allowed and the fuel of the machine do not matter, if they suffice for the tokens ahead. The
induction is on the rounds of the reading.
-/
theorem follows_iterate (hstep : ∀ a, Tracks w (fun b => b.isSome = true) (step a) (step' a))
    (hend : ∀ a s, s.current.kind = .endOfInput → step' a s = .ok (none, s)) {s : Stream}
    {rounds fuel : Nat} (hs : w.setup.Shows s) (hrounds : s.ahead.length ≤ rounds)
    (hfuel : s.ahead.length < fuel) (a : α) (trace : List Event) :
    Follows w s.pos trace (fun _ => False) (Reading.iterate step' rounds a s)
      (iterate step fuel a w.setup ⟨s.pos, w.depth, trace⟩) := by
  induction rounds generalizing s fuel a trace with
  | zero =>
    cases fuel with
    | zero => cases hfuel
    | succ fuel =>
      have hnil : s.ahead = [] := List.eq_nil_of_length_eq_zero (Nat.le_zero.mp hrounds)
      have hlast : s.current.kind = .endOfInput := by
        have hended := hs.ended w.ends
        simpa [Stream.Ended, Stream.tokens, hnil] using hended
      have hp := hstep a trace hs trivial
      rw [hend a s hlast] at hp
      generalize hy : step a w.setup ⟨s.pos, w.depth, trace⟩ = y at hp
      cases hp with
      | ok hs' he hm =>
        rw [iterate, bind_ok hy]
        exact .ok hs' he False.elim
  | succ rounds ih =>
    cases fuel with
    | zero => cases hfuel
    | succ fuel =>
      have hp := hstep a trace hs trivial
      rw [iterate, Reading.iterate]
      generalize hx : step' a s = x at hp
      generalize hy : step a w.setup ⟨s.pos, w.depth, trace⟩ = y at hp
      cases hp with
      | error he hf =>
        rw [Reading.bind_error hx, bind_error hy]
        exact .error he hf
      | @ok b m es hs' he hm =>
        rw [Reading.bind_ok hx, bind_ok hy]
        cases b with
        | none => exact .ok hs' he False.elim
        | some b =>
          -- A token has been taken, so that fewer are ahead.
          have hmoved := hm rfl
          have hlength := hs.length
          have hlength' := hs'.length
          exact (ih hs' (by omega) (by omega) b _).after he fun _ => False.elim

/-- A loop whose rounds take a token each, and which is done at the end of the input. -/
theorem tracks_loop (hstep : ∀ a, Tracks w (fun b => b.isSome = true) (step a) (step' a))
    (hend : ∀ a s, s.current.kind = .endOfInput → step' a s = .ok (none, s)) (a : α) :
    Tracks w (fun _ => False) (loop step a) (Reading.loop step' a) := by
  intro s trace hs _
  have hlength := hs.length
  have hfuel := w.fuel
  exact follows_iterate hstep hend hs (Nat.le_refl _) (by omega) a trace

end

theorem accept_end {kind : TokenKind} (hk : isEnd kind = false) {s : Stream}
    (hs : s.current.kind = .endOfInput) (f : Bool → Reading α) :
    (Reading.accept kind >>= f) s = f false s :=
  Reading.bind_ok (Reading.accept_other fun h => ne_end hk (h ▸ hs))

section

variable {C : Stream → Prop} {M : α → Prop} {p : Machine α} {q : Reading α}

/-- What has to be taken need not be asked for. -/
theorem TracksOn.still (h : TracksOn w C M p q) : TracksOn w C (fun _ => False) p q :=
  h.mono fun _ => False.elim

/-- Behind a word that need not be there. -/
theorem TracksOn.optional {N : β → Prop} {kind : TokenKind} {f : Bool → Machine β}
    {g : Bool → Reading β} (hk : isEnd kind = false) (h : ∀ b, Tracks w N (f b) (g b)) :
    TracksOn w C N (Machine.accept kind >>= f) (Reading.accept kind >>= g) :=
  (TracksOn.accept hk).still.before h

/-- What holds on all streams holds on some. -/
theorem Tracks.on (h : Tracks w M p q) : TracksOn w C M p q :=
  h.weaken fun _ _ => trivial

theorem takes_commaSeparated (h : Takes w p q) :
    Takes w (commaSeparated p) (Reading.commaSeparated q) := by
  refine h.andThen fun first => tracks_loop (fun items => ?_) (fun items s hs => ?_) [first]
  · exact .accepting rfl (h.andThen fun _ => .pure id) .done
  · exact accept_end rfl hs _

theorem tracks_behind {kind : TokenKind} (hk : isEnd kind = false) (h : Takes w p q) :
    Tracks w (fun _ => False) (behind kind p) (Reading.behind kind q) :=
  .accepting hk (h.andThen fun _ => .pure id) (.pure id)

end

end EntityQuery.Machine
