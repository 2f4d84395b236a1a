import EntityQuery.Grammar.Reading
import EntityQuery.Proofs.Grammar.Derivation

/-!
# Taking tokens off a stream

`s.Takes ts m` says that the stream `m` is what is left of `s` after the tokens `ts`. Both
directions of the correspondence between readings and the grammar are stated with it:

* `Reading.Sound whole p P`: whatever `p` reads, it took tokens `ts` with `P a ts`. A sequence of
  readings is followed from left to right by `SoundOn.bind`. A failure for a wrong number of
  arguments comes with the tokens of the call it is about.
* equations `p s = .ok (a, m)`: a sequence is computed by `bind_ok`.

A reading does not move past the last token. A token is really taken only if it is not the last one;
that is why soundness asks that the stream ends in an ending token (`Stream.Ended`).

Loops are seen through `Reading.Rounds`, the rounds that were made, and not through the number of
rounds allowed.
-/

namespace EntityQuery

namespace Stream

/-- The current token and all after it. -/
def tokens (s : Stream) : List Token := s.current :: s.ahead

/-- The tokens `ts` are the next ones, and `m` is the stream behind them. -/
structure Takes (s : Stream) (ts : List Token) (m : Stream) : Prop where
  tokens : s.tokens = ts ++ m.tokens
  pos : m.pos = s.pos + ts.length

/-- The last token ends the input. -/
def Ended (s : Stream) : Prop := s.tokens.getLast?.map Token.kind = some .endOfInput

theorem Takes.refl (s : Stream) : s.Takes [] s := ⟨rfl, rfl⟩

theorem Takes.trans {s m k : Stream} {ts us : List Token} (h : s.Takes ts m) (h' : m.Takes us k) :
    s.Takes (ts ++ us) k := by
  refine ⟨?_, ?_⟩
  · rw [h.tokens, h'.tokens, List.append_assoc]
  · rw [h'.pos, h.pos, List.length_append, Nat.add_assoc]

/-- Streams with the same tokens at the same place are the same. -/
theorem ext_tokens {s m : Stream} (h : s.tokens = m.tokens) (hp : s.pos = m.pos) : s = m := by
  cases s with
  | mk c a p =>
    cases m with
    | mk c' a' p' =>
      simp only [tokens, List.cons.injEq] at h
      obtain ⟨rfl, rfl⟩ := h
      simp only at hp
      rw [hp]

theorem takes_nil {s m : Stream} : s.Takes [] m ↔ s = m := by
  constructor
  · intro h
    exact ext_tokens (by simpa using h.tokens) (by simpa using h.pos.symm)
  · rintro rfl
    exact .refl s

theorem tail_of_cons {s : Stream} {t : Token} {rest : List Token} (h : s.ahead = t :: rest) :
    s.tail = ⟨t, rest, s.pos + 1⟩ := by
  rw [tail, h]

/-- Taking a token is looking at the current one and moving on. -/
theorem takes_cons {s m : Stream} {t : Token} {ts : List Token} :
    s.Takes (t :: ts) m ↔ s.current = t ∧ s.ahead ≠ [] ∧ s.tail.Takes ts m := by
  constructor
  · intro h
    have htok := h.tokens
    simp only [tokens, List.cons_append, List.cons.injEq] at htok
    obtain ⟨hc, ha⟩ := htok
    cases hs : s.ahead with
    | nil =>
      have := congrArg List.length (hs.symm.trans ha)
      simp at this
    | cons u us =>
      refine ⟨hc, by simp, ?_, ?_⟩
      · rw [tail_of_cons hs, tokens, ← hs, ha, tokens]
      · rw [tail_of_cons hs, h.pos, List.length_cons]
        show s.pos + (ts.length + 1) = s.pos + 1 + ts.length
        omega
  · rintro ⟨rfl, hne, h⟩
    cases hs : s.ahead with
    | nil => exact absurd hs hne
    | cons u us =>
      rw [tail_of_cons hs] at h
      refine ⟨?_, ?_⟩
      · have htok := h.tokens
        simp only [tokens] at htok
        simp only [tokens, hs, List.cons_append, htok]
      · rw [h.pos, List.length_cons]
        show s.pos + 1 + ts.length = s.pos + (ts.length + 1)
        omega

theorem takes_append {s m : Stream} {ts us : List Token} :
    s.Takes (ts ++ us) m ↔ ∃ k, s.Takes ts k ∧ k.Takes us m := by
  constructor
  · intro h
    induction ts generalizing s with
    | nil => exact ⟨s, .refl s, h⟩
    | cons t ts ih =>
      obtain ⟨hc, hne, h'⟩ := takes_cons.mp h
      obtain ⟨k, hk, hk'⟩ := ih h'
      exact ⟨k, takes_cons.mpr ⟨hc, hne, hk⟩, hk'⟩
  · rintro ⟨k, h, h'⟩
    exact h.trans h'

theorem takes_singleton {s m : Stream} {t : Token} :
    s.Takes [t] m ↔ s.current = t ∧ s.ahead ≠ [] ∧ s.tail = m := by
  rw [takes_cons, takes_nil]

/-- What is left is shorter by what was taken. -/
theorem Takes.length_ahead {s m : Stream} {ts : List Token} (h : s.Takes ts m) :
    s.ahead.length = ts.length + m.ahead.length := by
  have := congrArg List.length h.tokens
  simp only [Stream.tokens, List.length_cons, List.length_append] at this
  omega

/-- The token behind the current one, when there is one. -/
theorem next_of_takes {s m : Stream} {t : Token} (h : s.Takes [t] m) : s.next = m.current := by
  obtain ⟨-, hne, rfl⟩ := takes_singleton.mp h
  cases hs : s.ahead with
  | nil => exact absurd hs hne
  | cons u us => rw [tail_of_cons hs, next, hs]; rfl

theorem Takes.ended {s m : Stream} {ts : List Token} (h : s.Takes ts m) (he : s.Ended) :
    m.Ended := by
  rw [Ended, h.tokens, List.getLast?_append] at he
  simpa [Ended, Stream.tokens, List.getLast?_cons] using he

/-- A token that does not end the input is not the last one. -/
theorem Ended.takes_tail {s : Stream} (he : s.Ended) (hk : s.current.kind ≠ .endOfInput) :
    s.Takes [s.current] s.tail := by
  refine takes_singleton.mpr ⟨rfl, ?_, rfl⟩
  intro hs
  apply hk
  simpa [Ended, tokens, hs] using he

/-! ### Whole streams -/

theorem tokens_start (ts : List Token) (last : Token) : (start ts last).tokens = ts ++ [last] := by
  cases ts <;> rfl

theorem pos_start (ts : List Token) (last : Token) : (start ts last).pos = 0 := by
  cases ts <;> rfl

theorem ended_start (ts : List Token) {last : Token} (h : last.kind = .endOfInput) :
    (start ts last).Ended := by
  rw [Ended, tokens_start]
  simp [h]

/-- All tokens but the last one can be taken. -/
theorem takes_start (ts : List Token) (last : Token) :
    (start ts last).Takes ts ⟨last, [], ts.length⟩ := by
  refine ⟨tokens_start ts last, ?_⟩
  cases ts <;> simp [start]

/-- Where the input ends for the first time, all tokens have been taken. -/
theorem Takes.eq_of_end {ts us : List Token} {last : Token} {m : Stream}
    (hts : ∀ t ∈ ts, t.kind ≠ .endOfInput) (h : (start ts last).Takes us m)
    (hm : m.current.kind = .endOfInput) : ts = us := by
  have htok := h.tokens
  rw [tokens_start, Stream.tokens] at htok
  rcases List.append_eq_append_iff.mp htok with ⟨vs, rfl, hvs⟩ | ⟨vs, rfl, hvs⟩
  · cases vs with
    | nil => simp
    | cons v vs => simp at hvs
  · cases vs with
    | nil => simp
    | cons v vs =>
      simp only [List.cons_append, List.cons.injEq] at hvs
      exact absurd hm (hts m.current (by rw [hvs.1]; simp))

end Stream

namespace Reading

variable {α β : Type}

/-! ## Sequences -/

theorem bind_ok {x : Reading α} {f : α → Reading β} {s m : Stream} {a : α} (h : x s = .ok (a, m)) :
    (x >>= f) s = f a m := by
  show (x s >>= fun r => f r.1 r.2) = _
  rw [h]
  rfl

theorem bind_error {x : Reading α} {f : α → Reading β} {s : Stream} {e : Failure}
    (h : x s = .error e) :
    (x >>= f) s = .error e := by
  show (x s >>= fun r => f r.1 r.2) = _
  rw [h]
  rfl

theorem map_ok {x : Reading α} {f : α → β} {s m : Stream} {a : α} (h : x s = .ok (a, m)) :
    (f <$> x) s = .ok (f a, m) := by
  show (do let r ← x s; pure (f r.1, r.2) : Except Failure (β × Stream)) = _
  rw [h]
  rfl

theorem bind_eq_ok {x : Reading α} {f : α → Reading β} {s : Stream} {r : β × Stream} :
    (x >>= f) s = .ok r ↔ ∃ a m, x s = .ok (a, m) ∧ f a m = .ok r := by
  constructor
  · intro h
    cases hx : x s with
    | error e => rw [bind_error hx] at h; cases h
    | ok am => exact ⟨am.1, am.2, rfl, (bind_ok hx).symm.trans h⟩
  · rintro ⟨a, m, hx, hf⟩
    rw [bind_ok hx, hf]

/-! ## Soundness of readings -/

/-- The failure is about the call that was taken last, which has a wrong number of arguments. -/
def RefusesCall (whole : Bool) (s : Stream) (f : Failure) : Prop :=
  ∃ before call m, s.Takes (before ++ call) m ∧ f.pos = m.pos ∧
    Grammar.MiscountedCall whole f.error.token call

theorem RefusesCall.behind {whole : Bool} {s m : Stream} {ts : List Token} {f : Failure}
    (h : RefusesCall whole m f) (ht : s.Takes ts m) : RefusesCall whole s f := by
  obtain ⟨before, call, k, hk, hpos, hcall⟩ := h
  exact ⟨ts ++ before, call, k, by rw [List.append_assoc]; exact ht.trans hk, hpos, hcall⟩

/--
How a sound reading ends: what was read consists of the tokens that were taken, in the sense of `P`,
and a failure for a wrong number of arguments is about the call that was taken last.
-/
inductive SoundEnd (whole : Bool) (P : α → List Token → Prop) (s : Stream) :
    Except Failure (α × Stream) → Prop
  | read {a : α} {ts : List Token} {m : Stream} (ht : s.Takes ts m) (h : P a ts) : SoundEnd whole P
      s (.ok (a, m))
  | failed {f : Failure} (hf : f.error.fault = .substringArity → RefusesCall whole s f) : SoundEnd
      whole P s (.error f)

/-- An end behind some tokens is an end before them. -/
theorem SoundEnd.behind {whole : Bool} {P : α → List Token → Prop} {s m : Stream} {ts : List Token}
    {r : Except Failure (α × Stream)} (h : SoundEnd whole (fun a us => P a (ts ++ us)) m r)
    (ht : s.Takes ts m) :
    SoundEnd whole P s r := by
  cases h with
  | read hu h => exact .read (ht.trans hu) h
  | failed hf => exact .failed fun hfault => (hf hfault).behind ht

/-- On the streams in `C` a reading ends as a sound one does. -/
def SoundOn (whole : Bool) (C : Stream → Prop) (p : Reading α) (P : α → List Token → Prop) : Prop :=
  ∀ ⦃s⦄, s.Ended → C s → SoundEnd whole P s (p s)

/-- Wherever a reading starts, it ends as a sound one does. -/
abbrev Sound (whole : Bool) (p : Reading α) (P : α → List Token → Prop) : Prop :=
  SoundOn whole (fun _ => True) p P

/-- Behind the tokens `ts`, which count as taken too, a reading ends as a sound one does. -/
def SoundBehind (whole : Bool) (ts : List Token) (p : Reading α) (P : α → List Token → Prop) :
    Prop :=
  ∀ ⦃s m⦄, s.Ended → s.Takes ts m → SoundEnd whole P s (p m)

namespace SoundOn

variable {whole : Bool} {C : Stream → Prop} {p : Reading α} {P Q : α → List Token → Prop}

theorem mono (h : SoundOn whole C p P) (hPQ : ∀ a ts, P a ts → Q a ts) : SoundOn whole C p Q := by
  intro s he hC
  have hs := h he hC
  generalize p s = r at hs
  cases hs with
  | read ht hP => exact .read ht (hPQ _ _ hP)
  | failed hf => exact .failed hf

/-- Fewer streams are asked for less. -/
theorem weaken {D : Stream → Prop} (h : SoundOn whole D p P) (hCD : ∀ s, C s → D s) :
    SoundOn whole C p P :=
  fun s he hC => h he (hCD s hC)

theorem pure {a : α} (h : P a []) : SoundOn whole C (Pure.pure a) P :=
  fun s _ _ => .read (.refl s) h

/-- What a first reading takes stands before what the second one takes. -/
theorem bindBehind {x : Reading α} {f : α → Reading β} {R : β → List Token → Prop}
    (hx : SoundOn whole C x P) (hf : ∀ a ts, P a ts → SoundBehind whole ts (f a) R) :
    SoundOn whole C (x >>= f) R := by
  intro s he hC
  have hs := hx he hC
  generalize hxs : x s = r at hs
  cases hs with
  | read ht hP =>
    rw [bind_ok hxs]
    exact hf _ _ hP he ht
  | failed hfault =>
    rw [bind_error hxs]
    exact .failed hfault

/-- The second reading need not know what was taken by the first, if it is sound in itself. -/
theorem bind {x : Reading α} {f : α → Reading β} {R : β → List Token → Prop}
    (hx : SoundOn whole C x P)
    (hf : ∀ a ts, P a ts → Sound whole (f a) fun b us => R b (ts ++ us)) :
    SoundOn whole C (x >>= f) R :=
  hx.bindBehind fun a ts h _ _ he ht => (hf a ts h (ht.ended he) trivial).behind ht

theorem map {f : α → β} {R : β → List Token → Prop}
    (hp : SoundOn whole C p fun a ts => R (f a) ts) :
    SoundOn whole C (f <$> p) R := by
  rw [← bind_pure_comp]
  exact hp.bind fun a ts h => .pure (by rw [List.append_nil]; exact h)

/-- After a look at the current token, the rest may use what was seen. -/
theorem looking {f : Token → Reading β} {R : β → List Token → Prop}
    (h : ∀ t, SoundOn whole (fun s => C s ∧ s.current = t) (f t) R) :
    SoundOn whole C (current >>= f) R :=
  fun s he hC => h s.current he ⟨hC, rfl⟩

/-- After a look at the token behind the current one, the rest may use what was seen. -/
theorem lookingAhead {f : Token → Reading β} {R : β → List Token → Prop}
    (h : ∀ t, SoundOn whole (fun s => C s ∧ s.next = t) (f t) R) : SoundOn whole C (next >>= f) R :=
  fun s he hC => h s.next he ⟨hC, rfl⟩

theorem advance {c : Token → Prop} (hC : ∀ s, C s → c s.current)
    (hc : ∀ t, c t → t.kind ≠ .endOfInput) :
    SoundOn whole C advance fun t ts => ts = [t] ∧ c t :=
  fun s he hs => .read (he.takes_tail (hc _ (hC s hs))) ⟨rfl, hC s hs⟩

theorem fail {fault : GrammarFault} (hf : fault ≠ .substringArity) :
    SoundOn whole C (fail fault) P :=
  fun _ _ _ => .failed fun h => absurd h hf

/-- Going one level further in does not change what is read. -/
theorem nested (h : SoundOn whole C p P) : SoundOn whole C (nested p) P := by
  intro s he hC
  have hs := h he hC
  unfold Reading.nested
  generalize p s = r at hs
  cases hs with
  | read ht hP => exact .read ht hP
  | failed hf => exact .failed hf

end SoundOn

/-- A reading that is sound everywhere is sound on any streams. -/
theorem Sound.on {whole : Bool} {C : Stream → Prop} {p : Reading α} {P : α → List Token → Prop}
    (h : Sound whole p P) :
    SoundOn whole C p P :=
  h.weaken fun _ _ => trivial

namespace SoundBehind

variable {whole : Bool} {ts : List Token} {R : β → List Token → Prop}

theorem ofSound {p : Reading β} (h : Sound whole p fun b us => R b (ts ++ us)) :
    SoundBehind whole ts p R :=
  fun _ _ he ht => (h (ht.ended he) trivial).behind ht

theorem bind {x : Reading α} {f : α → Reading β} {P : α → List Token → Prop} (hx : Sound whole x P)
    (hf : ∀ a us, P a us → SoundBehind whole (ts ++ us) (f a) R) :
    SoundBehind whole ts (x >>= f) R := by
  intro s m he ht
  have hm := hx (ht.ended he) trivial
  generalize hxm : x m = r at hm
  cases hm with
  | read hu hP =>
    rw [bind_ok hxm]
    exact hf _ _ hP he (ht.trans hu)
  | failed hfault =>
    rw [bind_error hxm]
    exact .failed fun h => (hfault h).behind ht

/-- A failure may be about a call if that is what was taken. -/
theorem failAt {fault : GrammarFault} {t : Token} (h : Grammar.MiscountedCall whole t ts) :
    SoundBehind whole ts (failAt fault t) R :=
  fun _ m _ ht => .failed fun _ => ⟨[], ts, m, ht, rfl, h⟩

end SoundBehind

/-! ## Single tokens -/

theorem accept_ok {kind : TokenKind} {s : Stream} (h : s.current.kind = kind) :
    accept kind s = .ok (true, s.tail) :=
  if_pos h

theorem accept_other {kind : TokenKind} {s : Stream} (h : s.current.kind ≠ kind) :
    accept kind s = .ok (false, s) :=
  if_neg h

theorem expect_ok {kind : TokenKind} {fault : GrammarFault} {s : Stream}
    (h : s.current.kind = kind) :
    expect kind fault s = .ok (s.current, s.tail) :=
  if_pos h

section

variable {whole : Bool}

theorem sound_accept {kind : TokenKind} (hk : kind ≠ .endOfInput) :
    Sound whole (accept kind) (Grammar.Mark kind) := by
  intro s he _
  by_cases hs : s.current.kind = kind
  · rw [accept_ok hs]
    exact .read (he.takes_tail (by rw [hs]; exact hk)) (.present hs)
  · rw [accept_other hs]
    exact .read (.refl s) .absent

theorem sound_expect {kind : TokenKind} {fault : GrammarFault} (hk : kind ≠ .endOfInput)
    (hf : fault ≠ .substringArity) :
    Sound whole (expect kind fault) fun t ts => ts = [t] ∧ t.kind = kind := by
  intro s he _
  by_cases hs : s.current.kind = kind
  · rw [expect_ok hs]
    exact .read (he.takes_tail (by rw [hs]; exact hk)) ⟨rfl, hs⟩
  · rw [expect, if_neg hs]
    exact .failed fun h => absurd h hf

/-- After a question about the current token, the rest may use the answer. -/
theorem SoundOn.asking {C : Stream → Prop} {kind : TokenKind} {f : Bool → Reading β}
    {R : β → List Token → Prop} (hyes : SoundOn whole (fun s => s.current.kind = kind) (f true) R)
    (hno : Sound whole (f false) R) :
    SoundOn whole C (at? kind >>= f) R := by
  intro s he _
  rw [bind_ok rfl]
  by_cases hs : s.current.kind = kind
  · rw [decide_eq_true hs]
    exact hyes he hs
  · rw [decide_eq_false hs]
    exact hno he trivial

end

/-! ## Loops -/

/-- The rounds of a loop: `step` leads from `a` at `s` to `b` at `m`, and every round takes
a token. -/
inductive Rounds (step : α → Reading (Option α)) : α → Stream → α → Stream → Prop
  | none {a : α} {s : Stream} : Rounds step a s a s
  | more {a b c : α} {s m k : Stream} (h : Rounds step a s b m) (hs : step b m = .ok (some c, k))
      (hl : k.ahead.length < m.ahead.length) : Rounds step a s c k

/-- Rounds made are rounds fewer to make: the number allowed stays sufficient for the tokens
ahead. -/
theorem Rounds.iterate {step : α → Reading (Option α)} {a b : α} {s m : Stream}
    (h : Rounds step a s b m) {n : Nat} (hn : s.ahead.length ≤ n) :
    ∃ k, m.ahead.length ≤ k ∧ iterate step n a s = iterate step k b m := by
  induction h with
  | none => exact ⟨n, hn, rfl⟩
  | more _ hs hl ih =>
    obtain ⟨k, hk, he⟩ := ih hn
    obtain ⟨j, rfl⟩ : ∃ j, k = j + 1 := ⟨k - 1, by omega⟩
    refine ⟨j, by omega, ?_⟩
    rw [he, Reading.iterate, bind_ok hs]

/-- A loop makes its rounds and stops where there is nothing more to give. -/
theorem loop_ok {step : α → Reading (Option α)} {a b : α} {s m : Stream} (h : Rounds step a s b m)
    (hm : step b m = .ok (none, m)) : loop step a s = .ok (b, m) := by
  obtain ⟨k, -, he⟩ := h.iterate (Nat.le_refl _)
  rw [loop, he]
  cases k with
  | zero => rfl
  | succ j => rw [iterate, bind_ok hm]; rfl

/-- What a round may do to what was read before: prolong it, or take nothing. -/
def Prolongs (P : α → List Token → Prop) (ts : List Token) : Option α → List Token → Prop
  | some b, us => P b (ts ++ us)
  | none, us => us = []

section

variable {whole : Bool}

theorem sound_iterate {step : α → Reading (Option α)} {P : α → List Token → Prop}
    (hstep : ∀ a ts, P a ts → Sound whole (step a) (Prolongs P ts)) (n : Nat) {a : α}
    {ts : List Token} (h : P a ts) :
    Sound whole (iterate step n a) fun b us => P b (ts ++ us) := by
  induction n generalizing a ts with
  | zero => exact .pure (by rw [List.append_nil]; exact h)
  | succ n ih =>
    refine (hstep a ts h).bind fun r us hr => ?_
    cases r with
    | some b =>
      have hb : P b (ts ++ us) := hr
      simpa only [List.append_assoc] using ih hb
    | none =>
      have hu : us = [] := hr
      subst hu
      exact .pure (by simpa using h)

/-- A loop is sound if each round prolongs what was read before. -/
theorem sound_loop {step : α → Reading (Option α)} {P : α → List Token → Prop}
    (hstep : ∀ a ts, P a ts → Sound whole (step a) (Prolongs P ts)) {a : α} {ts : List Token}
    (h : P a ts) :
    Sound whole (loop step a) fun b us => P b (ts ++ us) :=
  fun s he _ => sound_iterate hstep s.ahead.length h he trivial

end

end Reading

end EntityQuery
