import EntityQuery.Proofs.Grammar.Compared
import EntityQuery.Query

/-!
# The same wording

Reading does not see the places of tokens, nor how a word that only structures a query is spelled.
Two lists of tokens with the same wording are read as the same tree, or reading both fails at the
same token.

Words behind a point are names, whatever their kind, so their spelling counts.
-/

namespace EntityQuery

open Reading

/-- Tokens of the same kinds in the same order. Their texts are the same, but for words that only
structure a query and do not stand behind a point. -/
structure SameWording (ts us : List Token) : Prop where
  kinds : ts.map Token.kind = us.map Token.kind
  texts : ∀ i t u, ts[i]? = some t → us[i]? = some u → t.text = u.text ∨
    t.kind.dropsSpelling = true ∧ ∀ j v, j + 1 = i → ts[j]? = some v → v.kind ≠ .symbol .dot

/-- The tokens at one place of two lists. -/
def Beside (ts us : List Token) (t u : Token) : Prop :=
  ∃ i : Nat, ts[i]? = some t ∧ us[i]? = some u

namespace SameWording

variable {ts us : List Token}

theorem length_eq (h : SameWording ts us) : ts.length = us.length := by
  simpa using congrArg List.length h.kinds

theorem kind_eq (h : SameWording ts us) {t u : Token} (htu : Beside ts us t u) :
    t.kind = u.kind := by
  obtain ⟨i, ht, hu⟩ := htu
  have hi : (ts.map Token.kind)[i]? = (us.map Token.kind)[i]? := by rw [h.kinds]
  simpa [ht, hu] using hi

/-- Tokens at one place are spelled alike unless their kind says what they are. -/
theorem text_eq (h : SameWording ts us) {t u : Token} (htu : Beside ts us t u)
    (hk : t.kind.dropsSpelling = false) :
    t.text = u.text := by
  obtain ⟨i, ht, hu⟩ := htu
  rcases h.texts i t u ht hu with htext | ⟨hdrops, -⟩
  · exact htext
  · rw [hk] at hdrops
    cases hdrops

/-- Behind a point the spelling counts, whatever the kind. -/
theorem text_eq_behind_dot (h : SameWording ts us) {i : Nat} {v t u : Token} (hv : ts[i]? = some v)
    (hdot : v.kind = .symbol .dot) (ht : ts[i + 1]? = some t) (hu : us[i + 1]? = some u) :
    t.text = u.text := by
  rcases h.texts (i + 1) t u ht hu with htext | ⟨-, hbehind⟩
  · exact htext
  · exact absurd hdot (hbehind i v rfl hv)

end SameWording

/-! ## Streams over two lists -/

/-- The stream stands in a list, at the place that its position says. -/
def Stream.StandsIn (s : Stream) (ts : List Token) : Prop :=
  s.tokens = ts.drop s.pos

namespace Stream.StandsIn

variable {s : Stream} {ts : List Token}

theorem current (h : s.StandsIn ts) : ts[s.pos]? = some s.current := by
  rw [← List.head?_drop, ← h]
  rfl

/-- What a stream has ahead is the list from the next index on. -/
theorem ahead (h : s.StandsIn ts) : s.ahead = ts.drop (s.pos + 1) := by
  rw [← List.tail_drop, ← h]
  rfl

theorem next (h : s.StandsIn ts) {t : Token} {rest : List Token} (ha : s.ahead = t :: rest) :
    ts[s.pos + 1]? = some t := by
  rw [← List.head?_drop, ← h.ahead, ha]
  rfl

theorem tail (h : s.StandsIn ts) : s.tail.StandsIn ts := by
  cases ha : s.ahead with
  | nil => rwa [Stream.tail, ha]
  | cons t rest =>
    rw [Stream.tail_of_cons ha, StandsIn]
    exact ha.symm.trans h.ahead

end Stream.StandsIn

/-- A stream starts at the first token of its list. -/
theorem Stream.standsIn_start (ts : List Token) (last : Token) :
    (start ts last).StandsIn (ts ++ [last]) := by
  cases ts <;> rfl

/-- Two streams stand at the same place of two lists. -/
structure Stream.SamePlace (ts us : List Token) (s r : Stream) : Prop where
  left : s.StandsIn ts
  right : r.StandsIn us
  pos : s.pos = r.pos

namespace Stream.SamePlace

variable {ts us : List Token} {s r : Stream}

theorem current (h : SamePlace ts us s r) : Beside ts us s.current r.current :=
  ⟨s.pos, h.left.current, h.pos ▸ h.right.current⟩

/-- Two streams at one place come to their ends together. -/
theorem length_ahead (h : SamePlace ts us s r) (hlength : ts.length = us.length) :
    s.ahead.length = r.ahead.length := by
  rw [h.left.ahead, h.right.ahead, List.length_drop, List.length_drop, hlength, h.pos]

/-- Both streams are at their end, or there is a token ahead in both. -/
theorem ahead_cases (h : SamePlace ts us s r) (hlength : ts.length = us.length) :
    s.ahead = [] ∧ r.ahead = [] ∨
      ∃ t u rest rest', s.ahead = t :: rest ∧ r.ahead = u :: rest' ∧ ts[s.pos + 1]? = some t ∧
      us[s.pos + 1]? = some u := by
  have hahead := h.length_ahead hlength
  cases hs : s.ahead with
  | nil =>
    rw [hs] at hahead
    exact .inl ⟨rfl, List.eq_nil_of_length_eq_zero hahead.symm⟩
  | cons t rest =>
    cases hr : r.ahead with
    | nil => simp [hs, hr] at hahead
    | cons u rest' =>
      exact .inr ⟨t, u, rest, rest', rfl, rfl, h.left.next hs, h.pos ▸ h.right.next hr⟩

theorem tail (h : SamePlace ts us s r) (hlength : ts.length = us.length) :
    SamePlace ts us s.tail r.tail := by
  refine ⟨h.left.tail, h.right.tail, ?_⟩
  rcases h.ahead_cases hlength with ⟨hs, hr⟩ | ⟨t, u, rest, rest', hs, hr, -, -⟩
  · rw [Stream.tail, Stream.tail, hs, hr]
    exact h.pos
  · rw [tail_of_cons hs, tail_of_cons hr, h.pos]

end Stream.SamePlace

/-! ## Reading the same wording -/

/-- Failures for the same reason at the same place, as deep as each other. -/
structure Failure.SamePlace (ts us : List Token) (f g : Failure) : Prop where
  fault : f.error.fault = g.error.fault
  token : Beside ts us f.error.token g.error.token
  pos : f.pos = g.pos
  depth : f.depth = g.depth

/-- Two runs over lists with the same wording. Neither of them fails alone. -/
def Comparison.reworded {ts us : List Token} (h : SameWording ts us) : Comparison where
  streams := Stream.SamePlace ts us
  tokens := Beside ts us
  failures := Failure.SamePlace ts us
  lost _ := False
  cut _ := False
  levels _ := True
  kind_eq := h.kind_eq
  text_eq := h.text_eq
  current := Stream.SamePlace.current
  next_kind := by
    intro s r hs
    rcases hs.ahead_cases h.length_eq with ⟨ha, hb⟩ | ⟨t, u, rest, rest', ha, hb, ht, hu⟩
    · rw [Stream.next, Stream.next, ha, hb]
      exact h.kind_eq hs.current
    · rw [Stream.next, Stream.next, ha, hb]
      exact h.kind_eq ⟨_, ht, hu⟩
  tail hs := hs.tail h.length_eq
  ahead hs := hs.length_ahead h.length_eq
  text_behind_dot := by
    intro s r hs hdot
    rcases hs.ahead_cases h.length_eq with ⟨ha, hb⟩ | ⟨t, u, rest, rest', ha, hb, ht, hu⟩
    · rw [Stream.tail, Stream.tail, ha, hb]
      exact h.text_eq hs.current (by rw [hdot]; rfl)
    · rw [Stream.tail_of_cons ha, Stream.tail_of_cons hb]
      exact h.text_eq_behind_dot hs.left.current hdot ht hu
  failAt _ hs ht := ⟨rfl, ht, hs.pos, rfl⟩
  levels_zero := trivial
  levels_max _ _ := trivial
  levels_of_le _ _ := trivial

/-- By induction on the levels: neither list is deeper at any place than the other. -/
theorem Comparison.enters_reworded {ts us : List Token} (h : SameWording ts us) (limit : Int)
    (n : Nat) :
    (reworded h).Enters (level limit n) (level limit n) := by
  induction n with
  | zero => exact fun entry s r hs _ => .failed ⟨rfl, hs.current, hs.pos, rfl⟩
  | succ n ih =>
    intro entry
    refine (relates_atEntry ih entry).nested (fun _ _ h => h) (fun _ _ h => h) ?_ ?_ (fun _ h => h)
      fun _ h => h
    · rintro a _ ⟨rfl, -⟩
      exact ⟨rfl, trivial⟩
    · exact fun f g hf => ⟨hf.fault, hf.token, hf.pos, congrArg (· + 1) hf.depth⟩

/-- Two runs end at the same place and depth, with the same tree or with errors about the same
token. -/
structure ParseRun.SameEnd (ts us : List Token) (run run' : ParseRun) : Prop where
  pos : run.pos = run'.pos
  depth : run.depth = run'.depth
  result : (∃ node, run.result = .ok node ∧ run'.result = .ok node) ∨
    ∃ e e', run.result = .error e ∧ run'.result = .error e' ∧ e.fault = e'.fault ∧
    Beside ts us e.token e'.token

/-- Streams with the same wording are read alike. -/
theorem parseStream_reworded {ts us : List Token} {last last' : Token}
    (h : SameWording (ts ++ [last]) (us ++ [last'])) (maxDepth : Int) :
    ParseRun.SameEnd (ts ++ [last]) (us ++ [last']) (parseStream maxDepth (Stream.start ts last))
      (parseStream maxDepth (Stream.start us last')) := by
  have hstart : Stream.SamePlace (ts ++ [last]) (us ++ [last']) (Stream.start ts last)
      (Stream.start us last') := by
    refine ⟨Stream.standsIn_start ts last, Stream.standsIn_start us last', ?_⟩
    cases ts <;> cases us <;> rfl
  have hends :=
    Comparison.relates_query (Comparison.enters_reworded h maxDepth maxDepth.toNat) hstart trivial
  simp only [parseStream_ample]
  generalize query (level maxDepth maxDepth.toNat) (Stream.start ts last) = x at hends
  generalize query (level maxDepth maxDepth.toNat) (Stream.start us last') = y at hends
  cases hends with
  | both hv hs =>
    obtain ⟨rfl, -⟩ := hv
    exact ⟨hs.pos, rfl, .inl ⟨_, rfl, rfl⟩⟩
  | failed hf => exact ⟨hf.pos, hf.depth, .inr ⟨_, _, rfl, rfl, hf.fault, hf.token⟩⟩
  | lost hf => exact hf.elim
  | cut hf => exact hf.elim

end EntityQuery
