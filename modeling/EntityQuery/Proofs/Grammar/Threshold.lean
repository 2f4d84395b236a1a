import EntityQuery.Proofs.Grammar.Compared
import EntityQuery.Proofs.Grammar.Completeness

/-!
# The nesting limit is a threshold

A query that is read under one limit is read under another one exactly if its tree is not deeper
than that limit; if it is deeper, reading fails at some token, and the limit is the reason.

Two runs over the same tokens with different numbers of levels left are the same run until one of
them has no level left (`enters_level`). So the second run gives the same tree, with no more levels
than were left to it, or it ends at the limit. That enough levels suffice is the completeness of
reading.

A limit below zero lets in no level, as the limit zero does, and reports itself
(`parseStream_of_neg`).
-/

namespace EntityQuery

open Grammar Reading

/-! ## Chains -/

/-- A chain of operators with their right operands, grouped to the left. -/
def Node.chained (first : Node) (rest : List (String × Node)) : Node :=
  rest.foldl (fun left x => .binary left x.1 x.2) first

/-- A chain is as deep as its deepest operand, however long it is. -/
theorem Node.nesting_chained (first : Node) (rest : List (String × Node)) :
    (chained first rest).nesting = nestings (first :: rest.map Prod.snd) := by
  induction rest generalizing first with
  | nil => rw [chained, List.foldl_nil, List.map_nil, nestings, nestings, Nat.max_zero]
  | cons x rest ih =>
    have hstep : chained first (x :: rest) = chained (.binary first x.1 x.2) rest := rfl
    rw [hstep, ih, nestings, nesting, List.map_cons, nestings, nestings, Nat.max_assoc]

/-! ## Two limits -/

/-- Two runs over the tokens `ts` with different limits. The second one has `n` levels left. -/
def Comparison.limited (ts : List Token) (limit limit' : Int) (n : Nat) : Comparison where
  streams s r := s = r ∧ s.tokens ⊆ ts
  tokens := Eq
  failures := Eq
  lost f := f.error.fault = .tooDeep limit
  cut f := f.error.fault = .tooDeep limit' ∧ f.error.token ∈ ts
  levels i := i ≤ n
  kind_eq h := by rw [h]
  text_eq h _ := by rw [h]
  current h := by rw [h.1]
  next_kind h := by rw [h.1]
  tail := by
    rintro s _ ⟨rfl, hs⟩
    refine ⟨rfl, fun t ht => hs ?_⟩
    cases ha : s.ahead with
    | nil => rwa [Stream.tail, ha] at ht
    | cons u us =>
      rw [Stream.tail_of_cons ha] at ht
      rw [Stream.tokens, ha]
      exact List.mem_cons_of_mem _ ht
  ahead h := by rw [h.1]
  text_behind_dot h _ := by rw [h.1]
  failAt fault h ht := by rw [h.1, ht]
  levels_zero := Nat.zero_le n
  levels_max hi hj := Nat.max_le.mpr ⟨hi, hj⟩
  levels_of_le := Nat.le_trans

/-- Until a run has no level left, the runs are the same. -/
theorem Comparison.enters_level (ts : List Token) (limit limit' : Int) (m n : Nat) :
    (limited ts limit limit' n).Enters (level limit m) (level limit' n) := by
  induction n generalizing m with
  | zero =>
    rintro entry s _ ⟨rfl, hs⟩ _
    exact .cut ⟨rfl, hs List.mem_cons_self⟩
  | succ n ih =>
    cases m with
    | zero =>
      rintro entry s _ ⟨rfl, hs⟩ _
      exact .lost rfl
    | succ m =>
      intro entry
      refine (relates_atEntry (ih m) entry).nested (fun _ _ h => h) (fun _ _ h => h) ?_ ?_
        (fun _ h => h) fun _ h => h
      · rintro a _ ⟨rfl, ha⟩
        exact ⟨rfl, Nat.succ_le_succ ha⟩
      · rintro f _ rfl
        rfl

/-! ## Limits below zero -/

/-- Two runs over the same tokens, none of which has a level left. Only the limit that they report
is different. -/
def Comparison.relimited (limit limit' : Int) : Comparison where
  streams := Eq
  tokens := Eq
  failures f g := f.depth = 0 ∧ f = g ∨
    ∃ t pos, f = ⟨⟨.tooDeep limit, t⟩, pos, 1⟩ ∧ g = ⟨⟨.tooDeep limit', t⟩, pos, 1⟩
  lost _ := False
  cut _ := False
  levels _ := True
  kind_eq h := by rw [h]
  text_eq h _ := by rw [h]
  current h := by rw [h]
  next_kind h := by rw [h]
  tail h := by rw [h]
  ahead h := by rw [h]
  text_behind_dot h _ := by rw [h]
  failAt fault h ht := .inl ⟨rfl, by rw [h, ht]⟩
  levels_zero := trivial
  levels_max _ _ := trivial
  levels_of_le _ _ := trivial

theorem Comparison.enters_relimited (limit limit' : Int) :
    (relimited limit limit').Enters (level limit 0) (level limit' 0) := by
  rintro entry s _ rfl _
  exact .failed (.inr ⟨s.current, s.pos, rfl, rfl⟩)

/-- A limit below zero lets in no level, like the limit zero. -/
theorem parseStream_of_neg {limit : Int} (h : limit < 0) (s : Stream) :
    ((parseStream 0 s).depth = 0 ∧ parseStream limit s = parseStream 0 s) ∨
      ∃ t pos, parseStream 0 s = ⟨.error ⟨.tooDeep 0, t⟩, pos, 1⟩ ∧
        parseStream limit s = ⟨.error ⟨.tooDeep limit, t⟩, pos, 1⟩ := by
  have hlevels : limit.toNat = 0 := by omega
  have hends := Comparison.relates_query (Comparison.enters_relimited 0 limit) (s := s) rfl trivial
  simp only [parseStream_ample]
  rw [hlevels, Int.toNat_zero]
  generalize query (level 0 0) s = x at hends
  generalize query (level limit 0) s = y at hends
  cases hends with
  | both hv hs =>
    obtain rfl := hs
    obtain ⟨rfl, -⟩ := hv
    exact .inl ⟨rfl, rfl⟩
  | failed hf =>
    rcases hf with ⟨hdepth, rfl⟩ | ⟨t, pos, rfl, rfl⟩
    · exact .inl ⟨hdepth, rfl⟩
    · exact .inr ⟨t, pos, rfl, rfl⟩
  | lost hf => cases hf
  | cut hf => cases hf

/-! ## The threshold -/

/-- A stream that is read under one limit is read under another one, or that one is too low for its
tree. -/
theorem parseStream_threshold {limit d : Int} {ts : List Token} {last : Token} {node : Node}
    (hts : ∀ t ∈ ts, t.kind ≠ .endOfInput) (hlast : last.kind = .endOfInput)
    (h : (parseStream limit (Stream.start ts last)).result = .ok node) :
    (node.depth ≤ d.toNat → (parseStream d (Stream.start ts last)).result = .ok node) ∧
      (d.toNat < node.depth →
        ∃ t ∈ ts ++ [last], (parseStream d (Stream.start ts last)).result = .error
          ⟨.tooDeep d, t⟩) := by
  constructor
  · intro hd
    obtain ⟨us, semi, marked, rfl, hm, hnode⟩ :
        ∃ us semi marked, ts = us ++ semi ∧ Mark (.symbol .semicolon) marked semi ∧
          Derives false (.part .statement node) us := derives_of_parseStream hts hlast h
    obtain ⟨m, hq⟩ := query_ok d d.toNat hnode hm hd hlast
    rw [parseStream_ample, hq]
  · intro hd
    have hends := Comparison.relates_query
      (Comparison.enters_level (ts ++ [last]) limit d limit.toNat d.toNat)
      (s := Stream.start ts last)
      ⟨rfl, by rw [Stream.tokens_start]; exact List.Subset.refl _⟩ trivial
    rw [parseStream_ample] at h ⊢
    generalize query (level limit limit.toNat) (Stream.start ts last) = x at h hends
    generalize query (level d d.toNat) (Stream.start ts last) = y at hends ⊢
    -- The first run gives the tree, so the second one gives it within its levels or fails for want
    -- of them.
    cases hends with
    | both hv hs =>
      cases h
      exact absurd hv.2 (Nat.not_le.mpr hd)
    | failed hf => cases h
    | lost hf => cases h
    | @cut f _ hf => exact ⟨f.error.token, hf.2, by rw [← hf.1]⟩

theorem parse_eq_grammatical {maxDepth : Int} {query : String} {e : GrammarError}
    (herror : (scan query).error? = none)
    (h : (parseStream maxDepth
      (Stream.start (scan query).tokens (.ending (scan query).stop))).result = .error e) :
    parse maxDepth query = .error (.grammatical e) := by
  rw [parse, herror]
  dsimp only
  rw [h]

/--
The nesting limit is a threshold: under every limit a query that is read at all is read as the same
tree if the tree is not deeper than the limit, and is refused at one of its tokens for being too
deep if it is. So a higher limit refuses nothing that a lower one allows. Chains of operators are no
deeper than their operands.
-/
theorem parse_threshold (maxDepth : Int) (query : String) (node : Node)
    (h : parse maxDepth query = .ok node) :
    (∀ d : Int, node.depth ≤ d → parse d query = .ok node) ∧
      (∀ d : Int, 0 ≤ d → d < node.depth →
        ∃ ts t, tokenize query = .ok ts ∧ t ∈ ts ∧
          parse d query = .error (.grammatical ⟨.tooDeep d, t⟩) ∧
          (QueryError.grammatical ⟨.tooDeep d, t⟩).message =
            located ("Maximum nesting depth of " ++ toString d ++ " exceeded") t.pos) ∧
      (∀ d : Int, maxDepth ≤ d → parse d query = .ok node) ∧
      ∀ first rest, (Node.chained first rest).nesting =
        Node.nestings (first :: rest.map Prod.snd) := by
  obtain ⟨herror, hresult⟩ := parse_eq_ok.mp h
  have hread : ∀ d : Int, node.depth ≤ d.toNat → parse d query = .ok node := fun d hd =>
    parse_eq_ok.mpr ⟨herror, (parseStream_threshold (scan_kind_ne_end query) rfl hresult).1 hd⟩
  refine ⟨fun d hd => hread d (by omega), fun d h0 hd => ?_, fun d hd => ?_, Node.nesting_chained⟩
  · obtain ⟨t, ht, hfail⟩ :=
      (parseStream_threshold (d := d) (scan_kind_ne_end query) rfl hresult).2 (by omega)
    exact ⟨_, t, tokenize_eq_ok.mpr ⟨herror, rfl⟩, ht, parse_eq_grammatical herror hfail, rfl⟩
  · by_cases hdepth : node.depth ≤ maxDepth.toNat
    · exact hread d (by omega)
    · -- Under its own limit the query is read, so the tree cannot be deeper.
      obtain ⟨t, -, hfail⟩ :=
        (parseStream_threshold (d := maxDepth) (scan_kind_ne_end query) rfl hresult).2
          (Nat.lt_of_not_le hdepth)
      cases hresult.symm.trans hfail

/-- A sign inside of parentheses behind `NOT`; the chain of operators around it adds nothing. -/
theorem parse_threshold_sign :
    ∃ node, parse 64 "SELECT NOT (a + b - c = -1) FROM T" = .ok node ∧ node.depth = 5 ∧
      parse 5 "SELECT NOT (a + b - c = -1) FROM T" = .ok node ∧
      ∃ t, parse 4 "SELECT NOT (a + b - c = -1) FROM T" = .error
        (.grammatical ⟨.tooDeep 4, t⟩) := by
  have h : parse 64 "SELECT NOT (a + b - c = -1) FROM T" = .ok (.select
      [.selectItem (.unary "NOT"
        (.paren (.binary (.binary (.binary (.path ["a"]) "+" (.path ["b"])) "-" (.path ["c"]))
        "=" (.unary "-" (.literal "1" .integer))))) none]
      [.fromItem "T" none []] false none [] none []) := by with_unfolding_all rfl
  obtain ⟨hread, hrefuse, -, -⟩ := parse_threshold 64 _ _ h
  obtain ⟨-, t, -, -, hfail, -⟩ := hrefuse 4 (by decide) (by decide)
  exact ⟨_, h, rfl, hread 5 (by decide), t, hfail⟩

end EntityQuery
