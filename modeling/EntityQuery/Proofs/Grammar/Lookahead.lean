import EntityQuery.Grammar.Statement
import EntityQuery.Proofs.Grammar.Derivation

/-!
# What stands before and behind a phrase

Reading decides by the next token, and at three places by the token behind it. Two facts about the
grammar make these decisions right:

* which tokens a phrase can start with (`Derives.starts`);
* which tokens would prolong a phrase if they stood behind it (`Tier.continues`, `Part.continues`).
  They need not be able to follow it in a statement; a phrase is read to its end wherever none of
  them follows.

The tokens that prolong expressions are ordered like the tiers: each has one tier from which on,
towards looser ones, it prolongs an expression.
-/

namespace EntityQuery

namespace Grammar

/-! ## What prolongs a phrase -/

/-- The place of a tier among the tiers, the loosest first. -/
def Tier.rank : Tier → Nat
  | .disjunction => 1
  | .conjunction => 2
  | .negation => 3
  | .predicate => 4
  | .comparison => 5
  | .additive => 6
  | .multiplicative => 7
  | .sign => 8
  | .primary => 9

/-- The rank of the tightest expressions that a token prolongs, zero if it prolongs none. -/
def grip : TokenKind → Nat
  | .reserved .or => 1
  | .reserved .and => 2
  | .symbol .equals | .symbol .notEquals => 4
  | .reserved .is | .reserved .not | .reserved .between | .reserved .inWord | .reserved .like
  | .reserved .member
  | .reserved .escape => 4
  | .symbol .lessThan | .symbol .lessEqual | .symbol .greaterThan | .symbol .greaterEqual => 5
  | .symbol .plus | .symbol .minus | .symbol .concat => 6
  | .symbol .star | .symbol .divide | .symbol .modulo => 7
  | .symbol .dot | .symbol .leftParen => 9
  | _ => 0

/-- The tokens that would prolong an expression of a tier. -/
def Tier.continues (t : Tier) (k : TokenKind) : Bool :=
  decide (t.rank ≤ grip k)

/--
The tokens that would prolong the last operand of a chain. `ESCAPE` prolongs the last `LIKE`, but
not its pattern.
-/
def Tier.prolongsLast (t : Tier) (k : TokenKind) : Bool :=
  t.tighter.continues k || (decide (t = .predicate) && decide (k = .reserved .escape))

/-- The tokens that an alias may start with. -/
def opensAlias (k : TokenKind) : Bool :=
  decide (k = .reserved .asWord) || decide (k = .identifier)

/-- The tokens that would prolong a tree at a place in the grammar. A statement is only told by what
ends it. -/
def Part.continues : Part → TokenKind → Bool
  | .argument, k | .assignment, k => Tier.disjunction.continues k
  | .target, k => decide (k = .symbol .dot)
  | .selection, k => Tier.disjunction.continues k || opensAlias k
  | .join, k => Tier.disjunction.continues k || opensAlias k || decide (k = .reserved .on)
  | .source, k =>
    Tier.disjunction.continues k || opensAlias k || decide (k = .reserved .on) ||
      Reading.startsJoin k
  | .ordering, k =>
    Tier.disjunction.continues k || decide (k = .reserved .asc) || decide (k = .reserved .desc) ||
      decide (k = .reserved .nulls)
  | .select, k =>
    decide (k ≠ .symbol .rightParen) && decide (k ≠ .symbol .semicolon) && decide (k ≠ .endOfInput)
  | .statement, k => decide (k ≠ .symbol .semicolon) && decide (k ≠ .endOfInput)

theorem Tier.rank_le_tighter (t : Tier) : t.rank ≤ t.tighter.rank := by
  cases t <;> decide

/-- What does not prolong a tier does not prolong a tighter one. -/
theorem Tier.continues_tighter {t : Tier} {k : TokenKind} (h : t.continues k = false) :
    t.tighter.continues k = false := by
  have := t.rank_le_tighter
  simp only [continues, decide_eq_false_iff_not] at h ⊢
  omega

/-- The operators of a tier have exactly its rank. -/
theorem Tier.grip_of_joins {t : Tier} {k : TokenKind} (h : t.joins k = true) : grip k = t.rank := by
  unfold joins at h
  split at h
  all_goals first
    | rfl
    | cases h

theorem Tier.prolongsLast_eq_false {t : Tier} {k : TokenKind} :
    t.prolongsLast k = false ↔
      t.tighter.continues k = false ∧ (t = .predicate → k ≠ .reserved .escape) := by
  simp [prolongsLast]

/-- What does not prolong a tier does not prolong its last operand. -/
theorem Tier.prolongsLast_of_continues {t : Tier} {k : TokenKind} (h : t.continues k = false) :
    t.prolongsLast k = false := by
  refine prolongsLast_eq_false.mpr ⟨continues_tighter h, ?_⟩
  rintro rfl rfl
  cases h

/-- An operator of a tier does not prolong its operands. -/
theorem Tier.prolongsLast_of_joins {t : Tier} {k : TokenKind} (h : t.joins k = true) :
    t.prolongsLast k = false := by
  have hg := grip_of_joins h
  have hlt : t.rank < t.tighter.rank := by
    cases t with
    | primary => simp [joins] at h
    | _ => decide
  refine prolongsLast_eq_false.mpr ⟨?_, ?_⟩
  · simp only [continues, decide_eq_false_iff_not]
    omega
  · rintro rfl rfl
    cases h

/-- A token that does not prolong a tier is none of its operators. -/
theorem Tier.joins_of_continues {t : Tier} {k : TokenKind} (h : t.continues k = false) :
    t.joins k = false := by
  rw [Bool.eq_false_iff]
  intro hj
  simp only [continues, decide_eq_false_iff_not, grip_of_joins hj] at h
  omega

/-- The order of the clauses of a select statement, with what may stand behind it. -/
def clauseRank : TokenKind → Nat
  | .reserved .whereWord => 1
  | .reserved .group => 2
  | .reserved .having => 3
  | .reserved .order => 4
  | .symbol .rightParen | .symbol .semicolon | .endOfInput => 5
  | _ => 0

/-- Clauses and what may stand behind a select statement prolong no item of a clause. -/
theorem continues_of_clauseRank {k : TokenKind} (h : 1 ≤ clauseRank k) :
    Part.source.continues k = false ∧ Part.ordering.continues k = false ∧ k ≠ .symbol .comma := by
  unfold clauseRank at h
  split at h
  all_goals first
    | exact ⟨rfl, rfl, by simp⟩
    | cases h

theorem clauseRank_of_select {k : TokenKind} (h : Part.select.continues k = false) :
    clauseRank k = 5 := by
  simp only [Part.continues, Bool.and_eq_false_iff, decide_eq_false_iff_not, ne_eq,
    Decidable.not_not] at h
  rcases h with (rfl | rfl) | rfl <;> rfl

/-! ## What a phrase starts with -/

/-- The tokens that a primary expression starts with. -/
def startsPrimary : TokenKind → Bool
  | .symbol .leftParen | .integer | .decimal | .string | .namedParameter | .positionalParameter
  | .identifier => true
  | .reserved .trueWord | .reserved .falseWord | .reserved .null | .reserved .case
  | .reserved .exists => true
  | .clock _ | .function _ => true
  | _ => false

/-- The tokens that an expression of a tier starts with. -/
def Tier.starts (t : Tier) (k : TokenKind) : Bool :=
  startsPrimary k || (decide (t.rank ≤ Tier.sign.rank) && Reading.isSign k) ||
    (decide (t.rank ≤ Tier.negation.rank) && decide (k = .reserved .not))

/-- The tokens that a tree at a place in the grammar starts with. -/
def Part.starts : Part → TokenKind → Bool
  | .argument, k | .ordering, k => Tier.disjunction.starts k
  | .selection, k => Tier.disjunction.starts k || decide (k = .reserved .new)
  | .target, k | .source, k | .assignment, k => k.isName
  | .join, k => Reading.startsJoin k
  | .select, k => decide (k = .reserved .select)
  | .statement, k =>
    decide (k = .reserved .select) || decide (k = .reserved .update) ||
      decide (k = .reserved .delete) || decide (k = .reserved .insert)

/-- The first token of a list satisfies a test. -/
def StartsWith (test : TokenKind → Bool) (ts : List Token) : Prop :=
  ∃ t rest, ts = t :: rest ∧ test t.kind = true

/-- There are no tokens, or the first one satisfies a test. -/
def MayStartWith (test : TokenKind → Bool) (ts : List Token) : Prop :=
  ts = [] ∨ StartsWith test ts

/-- The tokens of a phrase start as its place in the grammar asks for. -/
def Phrase.Starts : Phrase → List Token → Prop
  | .expression t _, ts => StartsWith t.starts ts
  | .part k _, ts | .list k _, ts => StartsWith k.starts ts
  | .joins _, ts => MayStartWith Reading.startsJoin ts
  | .branches _, ts => MayStartWith (fun k => decide (k = .reserved .whenWord)) ts
  | .arguments _, ts => MayStartWith Tier.disjunction.starts ts
  | .clause w _, ts | .byClause w _ _, ts => MayStartWith (fun k => decide (k = .reserved w)) ts

namespace StartsWith

variable {p q : TokenKind → Bool} {ts : List Token}

theorem cons {t : Token} (h : p t.kind = true) : StartsWith p (t :: ts) := ⟨t, ts, rfl, h⟩

theorem append (us : List Token) (h : StartsWith p ts) : StartsWith p (ts ++ us) := by
  obtain ⟨t, rest, rfl, ht⟩ := h
  exact ⟨t, rest ++ us, rfl, ht⟩

theorem mono (h : StartsWith p ts) (hpq : ∀ k, p k = true → q k = true) : StartsWith q ts := by
  obtain ⟨t, rest, rfl, ht⟩ := h
  exact ⟨t, rest, rfl, hpq _ ht⟩

end StartsWith

theorem MayStartWith.append {p : TokenKind → Bool} {ts us : List Token} (h : MayStartWith p ts)
    (hu : StartsWith p us) :
    MayStartWith p (ts ++ us) := by
  rcases h with rfl | h
  · exact .inr hu
  · exact .inr (h.append us)

theorem Alias.mayStart {asName : Option String} {ts : List Token} (h : Alias asName ts) :
    MayStartWith opensAlias ts := by
  cases h with
  | absent => exact .inl rfl
  | bare h => exact .inr (.cons (by rw [h]; rfl))
  | marked hw => exact .inr (.cons (by rw [hw]; rfl))

theorem DirectionWord.mayStart {direction : Option Direction} {ts : List Token}
    (h : DirectionWord direction ts) :
    MayStartWith (fun k => decide (k = .reserved .asc) || decide (k = .reserved .desc)) ts := by
  cases h with
  | absent => exact .inl rfl
  | ascending h => exact .inr (.cons (by rw [h]; rfl))
  | descending h => exact .inr (.cons (by rw [h]; rfl))

theorem NullsWords.mayStart {nulls : Option String} {ts : List Token} (h : NullsWords nulls ts) :
    MayStartWith (fun k => decide (k = .reserved .nulls)) ts := by
  cases h with
  | absent => exact .inl rfl
  | first h => exact .inr (.cons (decide_eq_true h))
  | last h => exact .inr (.cons (decide_eq_true h))

theorem Dotted.starts {parts : List String} {ts : List Token} (h : Dotted parts ts) :
    StartsWith TokenKind.isName ts := by
  induction h with
  | name h => exact .cons h
  | more _ _ _ ih => exact ih.append _

theorem startsPrimary_of_isName {k : TokenKind} (h : k.isName = true) : startsPrimary k = true := by
  unfold TokenKind.isName at h
  split at h
  · rfl
  · rfl
  · cases h

theorem Tier.starts_of_primary {k : TokenKind} (t : Tier) (h : startsPrimary k = true) :
    t.starts k = true := by
  simp [starts, h]

/-- What starts a tighter expression starts a looser one. -/
theorem Tier.starts_of_tighter {t : Tier} {k : TokenKind} (h : t.tighter.starts k = true) :
    t.starts k = true := by
  have := t.rank_le_tighter
  simp only [starts, Bool.or_eq_true, Bool.and_eq_true, decide_eq_true_eq] at h ⊢
  rcases h with (h | ⟨hr, h⟩) | ⟨hr, h⟩
  · exact .inl (.inl h)
  · exact .inl (.inr ⟨by omega, h⟩)
  · exact .inr ⟨by omega, h⟩

theorem startsPrimary_of_atom {t : Token} {e : Node} (h : atom? t = some e) :
    startsPrimary t.kind = true := by
  unfold atom? at h
  split at h
  case h_10 => cases h
  all_goals
    next hk => rw [hk]; rfl

theorem startsJoin_of_joinWords {kind : JoinKind} {ks : List Token} {w : Token}
    (hk : JoinWords kind ks) (hw : w.Word .join) (rest : List Token) :
    StartsWith Reading.startsJoin (ks ++ w :: rest) := by
  cases hk with
  | plain => exact .cons (by rw [hw]; rfl)
  | inner h => exact .cons (by rw [h]; rfl)
  | left h => exact .cons (by rw [h]; rfl)
  | leftOuter h => exact .cons (by rw [h]; rfl)
  | right h => exact .cons (by rw [h]; rfl)
  | rightOuter h => exact .cons (by rw [h]; rfl)

/-- A primary expression whose first token has a given kind. -/
theorem starts_primary_cons {t : Token} {ts : List Token} {k : TokenKind} (ht : t.kind = k)
    (hk : startsPrimary k = true) : StartsWith Tier.primary.starts (t :: ts) :=
  .cons (Tier.starts_of_primary _ (by rw [ht]; exact hk))

/-- The tokens of every phrase start as its place in the grammar asks for. -/
theorem Derives.starts {whole : Bool} {p : Phrase} {ts : List Token} (h : Derives whole p ts) :
    p.Starts ts := by
  induction h with
  | tighter _ ih => exact ih.mono fun _ => Tier.starts_of_tighter
  | binary _ _ _ ih => exact ih.append _
  | not hw => exact .cons (by rw [hw]; rfl)
  | sign ho =>
    rcases ho with ho | ho
    · exact .cons (by rw [ho]; rfl)
    · exact .cons (by rw [ho]; rfl)
  | isNull _ _ _ _ ih => exact (ih.append _).append _
  | between _ _ _ _ _ _ ih => exact ((ih.append _).append _).append _
  | inParameter _ _ _ _ _ ih => exact (ih.append _).append _
  | inQuery _ _ _ _ _ _ ih => exact ((ih.append _).append _).append _
  | inList _ _ _ _ _ _ ih => exact ((ih.append _).append _).append _
  | like _ _ _ _ ih => exact (ih.append _).append _
  | likeEscape _ _ _ _ _ _ ih => exact ((ih.append _).append _).append _
  | memberOf _ _ _ _ _ ih => exact ((ih.append _).append _).append _
  | atom h => exact .cons (Tier.starts_of_primary _ (startsPrimary_of_atom h))
  | path h => exact h.starts.mono fun k hk => Tier.starts_of_primary _ (startsPrimary_of_isName hk)
  | paren ho => exact starts_primary_cons ho rfl
  | subquery ho => exact starts_primary_cons ho rfl
  | existsQuery hw => exact starts_primary_cons hw rfl
  | caseSearched hw => exact starts_primary_cons hw rfl
  | caseSimple hw => exact starts_primary_cons hw rfl
  | otherCall hf => exact starts_primary_cons hf rfl
  | functionCall _ _ hf => exact starts_primary_cons hf rfl
  | countAll hf => exact starts_primary_cons hf rfl
  | aggregate _ hf => exact starts_primary_cons hf rfl
  | cast hf => exact starts_primary_cons hf rfl
  | trim hf => exact starts_primary_cons hf rfl
  | trimFrom hf => exact starts_primary_cons hf rfl
  | trimCharacter hf => exact starts_primary_cons hf rfl
  | one _ ih => exact ih
  | more _ _ _ ih => exact ih.append _
  | noJoin => exact .inl rfl
  | moreJoins _ _ ih ihj => exact ih.append ihj
  | noBranch => exact .inl rfl
  | moreBranches _ hw _ _ _ ih =>
    simp only [Phrase.Starts, List.append_assoc, List.cons_append]
    exact ih.append (.cons (decide_eq_true hw))
  | noArgument => exact .inl rfl
  | someArguments _ ih => exact .inr ih
  | noClause => exact .inl rfl
  | someClause ht => exact .inr (.cons (decide_eq_true ht))
  | noByClause => exact .inl rfl
  | someByClause ht => exact .inr (.cons (decide_eq_true ht))
  | argument _ ih => exact ih
  | target h => exact h.starts
  | selectItem _ _ ih =>
    exact (ih.append _).mono fun k hk => by
      simp [Part.starts, show Tier.disjunction.starts k from hk]
  | constructor hw => exact .cons (by rw [hw]; rfl)
  | join hk hw =>
    simp only [Phrase.Starts, List.append_assoc, List.cons_append]
    exact startsJoin_of_joinWords hk hw _
  | source hp => exact (hp.starts.append _).append _
  | orderItem _ _ _ ih => exact (ih.append _).append _
  | assignment hp => exact hp.starts.append _
  | select hw => exact .cons (by rw [hw]; rfl)
  | ofSelect _ ih => exact ih.mono fun k hk => by simp [Part.starts, of_decide_eq_true hk]
  | update hw => exact .cons (by rw [hw]; rfl)
  | delete hw => exact .cons (by rw [hw]; rfl)
  | insert hw => exact .cons (by rw [hw]; rfl)

end Grammar

end EntityQuery
