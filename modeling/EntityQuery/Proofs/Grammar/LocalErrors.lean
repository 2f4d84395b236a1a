import EntityQuery.Diagnostic
import EntityQuery.Proofs.Grammar.Locality
import EntityQuery.Proofs.Grammar.Threshold
import EntityQuery.Proofs.Grammar.Tracked

/-!
# Errors are local

Every program of the machine is local, provided that the programs one level further in are. One
lemma for each program, in the order of the grammar.

`parseStream_error_local` says so for the parser. The machine has no limits below zero; these are
the limit zero with another message. What an error about a number of arguments is about does not
show in the machine: it is the call that the parser has just read, so it comes with the derivation
of its arguments (`miscountedCall_of_parseStream`).
-/

namespace EntityQuery

namespace Machine

/-! ## Names -/

/-- A name is refused at the token that stands in its place. -/
theorem local_name (role : String) : Local (name role) :=
  LocalOn.current.andThen fun _ =>
    .ite (fun _ => LocalOn.advance.andThen fun _ => .pure) fun _ => .fail

theorem local_wordAfterDot : Local wordAfterDot :=
  .routine (LocalOn.current.andThen fun _ =>
    .ite (fun _ => LocalOn.advance.andThen fun _ => .pure) fun _ => .fail)

/-- Whether a name goes on shows at the current token. -/
theorem local_dottedName (role : String) : Local (dottedName role) :=
  (local_name role).andThen fun _ =>
    local_loop (fun _ => .accepting (local_wordAfterDot.andThen fun _ => .pure) .pure) _

theorem local_entityName : Local entityName :=
  .routine ((local_dottedName _).andThen fun _ => .pure)

theorem local_path : Local path :=
  .routine ((local_dottedName _).andThen fun _ => .pure)

/-- Whether there is an alias shows at the current token. -/
theorem local_alias : Local alias? :=
  .accepting ((local_name _).andThen fun _ => .pure)
    (.asking (LocalOn.advance.andThen fun _ => .pure) .pure)

/-- Sizes are read only behind a parenthesis. -/
theorem local_typeName : Local typeName := by
  refine .routine (local_entityName.andThen fun _ => .accepting ?_ .pure)
  exact (local_commaSeparated .expect).andThen fun _ => LocalOn.expect.andThen fun _ => .pure

theorem local_parameter : Local parameter :=
  .routine (LocalOn.advance.andThen fun _ => .ite (fun _ => .pure) fun _ => .pure)

section Inner

variable {inner : Entry → Machine Node} (hi : ∀ entry, Local (inner entry))

include hi

/-! ## Expressions -/

omit hi in
/-- A chain ends at the first token that is no operator of it. -/
theorem local_chain {isOperator : TokenKind → Bool} {operator : Token → String}
    {operand : Machine Node} (h : Local operand) : Local (chain isOperator operator operand) := by
  refine h.andThen fun _ => local_loop (fun _ => LocalOn.current.andThen fun _ => ?_) _
  exact .ite (fun _ => LocalOn.advance.andThen fun _ => h.andThen fun _ => .pure) fun _ => .pure

/-- Whether there are arguments shows at the token behind the parenthesis. -/
theorem local_argumentsTo {fault : GrammarFault} : Local (argumentsTo inner fault) :=
  .accepting .pure ((local_commaSeparated (hi _)).andThen fun _ =>
    LocalOn.expect.andThen fun _ => .pure)

theorem local_arguments : Local (arguments inner) :=
  .routine (local_argumentsTo hi)

omit hi in
/-- One token is looked at behind the current one, and none if that is no word for a side. -/
theorem local_trimSide : Local trimSide? := by
  refine LocalOn.current.andThen fun _ => .ite (fun _ => ?_) fun _ => .pure
  exact .peeking fun _ => .ite (fun _ => LocalOn.advance.andThen fun _ => .pure) fun _ => .pure

/-- A side with one operand alone is refused where its `FROM` would stand. -/
theorem local_trimOperands (side : Option String) : Local (trimOperands inner side) := by
  refine .accepting ((hi _).andThen fun _ => .pure)
    ((hi _).andThen fun _ => .accepting ((hi _).andThen fun _ => .pure) ?_)
  exact .ite (fun _ => .fail) fun _ => .pure

theorem local_trimCall : Local (trimCall inner) := by
  refine .routine (local_trimSide.andThen fun side =>
    (local_trimOperands hi side).andThen fun _ => ?_)
  exact LocalOn.expect.andThen fun _ => .pure

/-- A cast is refused where its `AS`, its type or its parenthesis would stand. -/
theorem local_castCall : Local (castCall inner) := by
  refine (hi _).andThen fun _ => LocalOn.expect.andThen fun _ => ?_
  exact local_typeName.andThen fun _ => LocalOn.expect.andThen fun _ => .pure

/-- The star of `COUNT(*)` shows at the current token. -/
theorem local_aggregateCall (f : Function) : Local (aggregateCall inner f) := by
  refine LocalOn.current.andThen fun _ => .ite (fun _ => ?_) fun _ => ?_
  · exact LocalOn.advance.andThen fun _ => LocalOn.expect.andThen fun _ => .pure
  · exact LocalOn.accept.andThen fun _ => (hi _).andThen fun _ =>
      LocalOn.expect.andThen fun _ => .pure

/-- An error about the number of arguments goes back to the name of the function. It is the one that
`Blames` leaves out. -/
theorem local_functionCall (f : Function) : Local (functionCall inner f) := by
  refine .routine (LocalOn.advance.andThen fun t => LocalOn.expect.andThen fun _ => ?_)
  refine .ite (fun _ => local_aggregateCall hi f) fun _ =>
    .ite (fun _ => local_trimCall hi) fun _ => ?_
  refine .ite (fun _ => local_castCall hi) fun _ => (local_arguments hi).andThen fun args => ?_
  exact .ite (fun _ => .failAt fun _ _ _ h => absurd rfl h) fun _ => .pure

theorem local_otherCall : Local (otherCall inner) := by
  refine .routine (LocalOn.advance.andThen fun _ => LocalOn.expect.andThen fun _ => ?_)
  exact (local_arguments hi).andThen fun _ => .pure

/-- Whether a query or an expression is in parentheses shows at the first token. -/
theorem local_parenthesized : Local (parenthesized inner) := by
  have hclosed : ∀ {fault : GrammarFault} {entry : Entry} {make : Node → Node}, Local (do
      let e ← inner entry
      let _ ← expect (.symbol .rightParen) fault
      pure (make e)) :=
    (hi _).andThen fun _ => LocalOn.expect.andThen fun _ => .pure
  exact LocalOn.advance.andThen fun _ => .asking hclosed hclosed

theorem local_existsExpression : Local (existsExpression inner) := by
  refine LocalOn.advance.andThen fun _ => LocalOn.expect.andThen fun _ => .asking ?_ .fail
  exact (hi _).andThen fun _ => LocalOn.expect.andThen fun _ => .pure

/-- Branches end at the first token that is no `WHEN`. -/
theorem local_branches : Local (branches inner) := by
  refine local_loop (fun _ => .accepting ?_ .pure) _
  exact (hi _).andThen fun _ => LocalOn.expect.andThen fun _ => (hi _).andThen fun _ => .pure

/-- A case without branches is refused where the first one would stand. -/
theorem local_caseExpression : Local (caseExpression inner) := by
  have hrest : ∀ operand, Local (do
      let branches ← branches inner
      if branches.isEmpty then fail .noWhen
      else
        let otherwise ← behind (.reserved .elseWord) (inner .expression)
        let _ ← expect (.reserved .endWord) .noEnd
        pure (Node.caseOf operand branches otherwise)) := by
    refine fun _ => (local_branches hi).andThen fun _ => .ite (fun _ => .fail) fun _ => ?_
    exact (local_behind (hi _)).andThen fun _ => LocalOn.expect.andThen fun _ => .pure
  refine .routine (LocalOn.advance.andThen fun _ => .asking ?_ ?_)
  · exact LocalOn.pure.andThen hrest
  · exact (hi _).map.andThen hrest

omit hi in
theorem local_spelledLiteral (kind : LiteralKind) : Local (spelledLiteral kind) :=
  LocalOn.advance.andThen fun _ => .pure

omit hi in
theorem local_keyword (value : Node) : Local (keyword value) :=
  LocalOn.advance.andThen fun _ => .pure

omit hi in
/-- One token is looked at behind a name. -/
theorem local_callOrPath {call : Machine Node} (h : Local call) : Local (callOrPath call) :=
  .peeking fun _ => .ite (fun _ => h) fun _ => local_path

/-- By the first token. -/
theorem local_primary : Local (primary inner) := by
  refine .routine (LocalOn.current.andThen fun t => ?_)
  cases t.kind with
  | integer => exact local_spelledLiteral _
  | decimal => exact local_spelledLiteral _
  | string => exact local_spelledLiteral _
  | namedParameter => exact local_parameter
  | positionalParameter => exact local_parameter
  | identifier => exact local_callOrPath (local_otherCall hi)
  | function f => exact local_callOrPath (local_functionCall hi f)
  | clock c => exact local_keyword _
  | symbol s =>
    cases s with
    | leftParen => exact local_parenthesized hi
    | _ => exact .fail
  | reserved r =>
    cases r with
    | trueWord => exact local_keyword _
    | falseWord => exact local_keyword _
    | null => exact local_keyword _
    | case => exact local_caseExpression hi
    | «exists» => exact local_existsExpression hi
    | _ => exact .fail
  | endOfInput => exact .fail

/-- A sign shows at the current token. -/
theorem local_signed : Local (signed inner) := by
  refine .routine (LocalOn.current.andThen fun _ => .ite (fun _ => ?_) fun _ => local_primary hi)
  exact LocalOn.advance.andThen fun _ => (hi _).andThen fun _ => .pure

theorem local_multiplicative : Local (multiplicative inner) :=
  .routine (local_chain (local_signed hi))

theorem local_additive : Local (additive inner) :=
  .routine (local_chain (local_multiplicative hi))

theorem local_comparison : Local (comparison inner) :=
  .routine (local_chain (local_additive hi))

omit hi in
/-- One token is looked at behind a `NOT`. -/
theorem local_negation : Local negation? := by
  refine .asking (.peeking fun _ => ?_) .pure
  exact .ite (fun _ => LocalOn.advance.andThen fun _ => .pure) fun _ => .pure

/-- Whether a parameter, a query or a list follows `IN` shows at its first token. -/
theorem local_inSet (left : Node) (negated : Bool) : Local (inSet inner left negated) := by
  refine .routine (LocalOn.current.andThen fun _ =>
    .ite (fun _ => local_parameter.andThen fun _ => .pure) fun _ => ?_)
  refine LocalOn.expect.andThen fun _ => .asking ?_ ?_
  · exact (hi _).andThen fun _ => LocalOn.expect.andThen fun _ => .pure
  · exact (local_commaSeparated (hi _)).andThen fun _ => LocalOn.expect.andThen fun _ => .pure

/-- Bounds without an `AND` are refused where it would stand. -/
theorem local_between (left : Node) (negated : Bool) : Local (between inner left negated) := by
  refine (local_comparison hi).andThen fun _ => LocalOn.expect.andThen fun _ => ?_
  exact (local_comparison hi).andThen fun _ => .pure

theorem local_like (left : Node) (negated : Bool) : Local (like inner left negated) :=
  (local_comparison hi).andThen fun _ => (local_behind (local_comparison hi)).andThen fun _ => .pure

omit hi in
theorem local_memberOf (left : Node) (negated : Bool) : Local (memberOf left negated) :=
  LocalOn.accept.andThen fun _ => local_path.andThen fun _ => .pure

/-- Which predicate it is shows at its word. -/
theorem local_negatablePredicate (left : Node) (negated : Bool) :
    Local (negatablePredicate? inner left negated) := by
  refine .accepting (local_between hi left negated).map
    (.accepting (local_inSet hi left negated).map ?_)
  exact .accepting (local_like hi left negated).map
    (.accepting (local_memberOf left negated).map .pure)

/-- Whether there is a predicate more shows at the current token, or behind a `NOT`. -/
theorem local_predicateStep (left : Node) : Local (predicateStep inner left) := by
  refine LocalOn.current.andThen fun _ => .ite (fun _ => ?_) fun _ => .accepting ?_ ?_
  · exact LocalOn.advance.andThen fun _ => (local_comparison hi).andThen fun _ => .pure
  · exact LocalOn.accept.andThen fun _ => LocalOn.expect.andThen fun _ => .pure
  · exact local_negation.andThen fun negated => local_negatablePredicate hi left negated

/-- Predicates end at the first token that starts none. -/
theorem local_predicate : Local (predicate inner) :=
  .routine ((local_comparison hi).andThen fun _ => local_loop (local_predicateStep hi) _)

theorem local_negatable : Local (negatable inner) :=
  .routine (.accepting ((hi _).andThen fun _ => .pure) (local_predicate hi))

theorem local_conjunction : Local (conjunction inner) :=
  .routine (local_chain (local_negatable hi))

/-- Logic has no errors of its own: a chain just ends. -/
theorem local_disjunction : Local (disjunction inner) :=
  .routine (local_chain (local_conjunction hi))

/-! ## Clauses -/

/-- A constructor shows at its `NEW`. -/
theorem local_selectItem : Local (selectItem inner) := by
  refine .routine (.accepting ?_ ((hi _).andThen fun _ => local_alias.andThen fun _ => .pure))
  refine local_entityName.andThen fun _ => LocalOn.expect.andThen fun _ => ?_
  exact (local_argumentsTo hi).andThen fun _ => local_alias.andThen fun _ => .pure

omit hi in
/-- The kind of a join shows word by word. -/
theorem local_joinKind : Local joinKind := by
  have houter : ∀ {a b : JoinKind},
      Local (do if ← accept (.reserved .outer) then pure a else pure b) :=
    .accepting .pure .pure
  exact .accepting .pure (.accepting houter (.accepting houter .pure))

theorem local_join : Local (join inner) := by
  refine .routine (local_joinKind.andThen fun _ => LocalOn.expect.andThen fun _ =>
    LocalOn.accept.andThen fun _ => ?_)
  exact local_path.andThen fun _ => local_alias.andThen fun _ =>
    (local_behind (hi _)).andThen fun _ => .pure

/-- Joins end at the first token that starts none. -/
theorem local_joins : Local (joins inner) :=
  local_loop (fun _ => LocalOn.current.andThen fun _ =>
    .ite (fun _ => (local_join hi).andThen fun _ => .pure) fun _ => .pure) _

theorem local_fromItem : Local (fromItem inner) :=
  .routine (local_entityName.andThen fun _ => local_alias.andThen fun _ =>
    (local_joins hi).andThen fun _ => .pure)

omit hi in
theorem local_direction : Local direction? :=
  .accepting .pure (.accepting .pure .pure)

omit hi in
/-- `NULLS` without a place is refused at the token behind it. -/
theorem local_nullsPlace : Local nullsPlace? :=
  .accepting (.accepting .pure (.accepting .pure .fail)) .pure

theorem local_orderItem : Local (orderItem inner) :=
  .routine ((hi _).andThen fun _ => local_direction.andThen fun _ =>
    local_nullsPlace.andThen fun _ => .pure)

/-- `GROUP` and `ORDER` without a `BY` are refused at the token behind them. -/
theorem local_grouping : Local (grouping inner) :=
  .accepting (LocalOn.expect.andThen fun _ => local_commaSeparated (hi _)) .pure

theorem local_ordering : Local (ordering inner) :=
  .accepting (LocalOn.expect.andThen fun _ => local_commaSeparated (local_orderItem hi)) .pure

theorem local_condition : Local (condition? inner) :=
  local_behind (hi _)

theorem local_assignment : Local (assignment inner) :=
  .routine (local_path.andThen fun _ => LocalOn.expect.andThen fun _ =>
    (hi _).andThen fun _ => .pure)

/-! ## Statements -/

/-- Which clauses there are shows at the tokens that they start with. -/
theorem local_selectStatement : Local (selectStatement inner) := by
  refine LocalOn.expect.andThen fun _ => LocalOn.accept.andThen fun _ => ?_
  refine (local_commaSeparated (local_selectItem hi)).andThen fun _ =>
    LocalOn.expect.andThen fun _ => ?_
  refine (local_commaSeparated (local_fromItem hi)).andThen fun _ =>
    (local_condition hi).andThen fun _ => ?_
  refine (local_grouping hi).andThen fun _ => (local_behind (hi _)).andThen fun _ => ?_
  exact (local_ordering hi).andThen fun _ => .pure

theorem local_updateStatement : Local (updateStatement inner) := by
  refine .routine (LocalOn.expect.andThen fun _ => local_entityName.andThen fun _ =>
    local_alias.andThen fun _ => ?_)
  refine LocalOn.expect.andThen fun _ =>
    (local_commaSeparated (local_assignment hi)).andThen fun _ => ?_
  exact (local_condition hi).andThen fun _ => .pure

theorem local_deleteStatement : Local (deleteStatement inner) := by
  refine .routine (LocalOn.expect.andThen fun _ => LocalOn.accept.andThen fun _ =>
    local_entityName.andThen fun _ => ?_)
  exact local_alias.andThen fun _ => (local_condition hi).andThen fun _ => .pure

/-- The target list and the query of an insert are required, and are refused where they would stand.
-/
theorem local_insertStatement : Local (insertStatement inner) := by
  refine .routine (LocalOn.expect.andThen fun _ => LocalOn.expect.andThen fun _ => ?_)
  refine local_entityName.andThen fun _ => LocalOn.expect.andThen fun _ => ?_
  refine (local_commaSeparated local_path).andThen fun _ => LocalOn.expect.andThen fun _ => ?_
  exact .asking ((hi _).andThen fun _ => .pure) .fail

/-- Which statement it is shows at its first token. -/
theorem local_statement : Local (statement inner) := by
  refine .routine (LocalOn.current.andThen fun t => ?_)
  split
  · exact hi _
  · exact local_updateStatement hi
  · exact local_deleteStatement hi
  · exact local_insertStatement hi
  · exact .fail

/-- What follows a statement is refused at its first token. -/
theorem local_query : Local (query inner) :=
  (local_statement hi).andThen fun _ => LocalOn.accept.andThen fun _ => .asking .pure .fail

/-- Whether there is a level more depends on the depth alone. -/
theorem local_atEntry (entry : Entry) : Local (atEntry inner entry) := by
  cases entry with
  | expression => exact .routine (.nested (local_disjunction hi))
  | select => exact .routine (.nested (local_selectStatement hi))
  | negation => exact .nested (local_negatable hi)
  | sign => exact .nested (local_signed hi)

end Inner

/-! ## Levels -/

/-- By induction on the fuel: without any the machine stops before it looks at a token. -/
theorem local_level (n : Nat) (entry : Entry) : Local (level n entry) := by
  induction n generalizing entry with
  | zero => exact .spent
  | succ n ih => exact local_atEntry ih entry

theorem local_parse (u : Setup) : Local (query (level u.fuel)) :=
  local_query (local_level u.fuel)

/-! ## Two lists of tokens -/

/-- The machine fails as the parser does. -/
theorem parse_of_parseStream {u : Setup} (hlast : u.last.kind = .endOfInput) (hlimit : 0 ≤ u.limit)
    (hfuel : u.tokens.length + u.limit.toNat ≤ u.fuel) {e : GrammarError}
    (h : (parseStream u.limit (Stream.start u.words u.last)).result = .error e) :
    ∃ m, parse u = (.error (.failed e), m) ∧ m.pos < u.tokens.length := by
  have hfollows := follows_tokens hlast hlimit hfuel
  rw [parseStream_ample] at h
  generalize Reading.query (Reading.level u.limit u.limit.toNat) (Stream.start u.words u.last) =
    x at h hfollows
  generalize hy : parse u = y at hfollows
  cases hfollows with
  | ok => cases h
  | error he hf =>
    cases h
    exact ⟨_, rfl, hf.1⟩

/-- The parser fails as the machine does. -/
theorem parseStream_of_parse {u : Setup} (hlast : u.last.kind = .endOfInput) (hlimit : 0 ≤ u.limit)
    (hfuel : u.tokens.length + u.limit.toNat ≤ u.fuel) {e : GrammarError} {m : Memory}
    (h : parse u = (.error (.failed e), m)) :
    parseStream u.limit (Stream.start u.words u.last) = ⟨.error e, m.pos, m.depth.toNat⟩ := by
  have hfollows := follows_tokens hlast hlimit hfuel
  rw [parseStream_ample]
  rw [h] at hfollows
  generalize Reading.query (Reading.level u.limit u.limit.toNat) (Stream.start u.words u.last) =
    x at hfollows
  cases hfollows with
  | @error f es he hf =>
    have hdepth : ((0 : Int) + f.depth).toNat = f.depth := by omega
    exact congrArg (ParseRun.mk _ _) hdepth.symm

/-- Tokens that are the same up to an index, if there are so many, are the same. A list ends where
its only ending stands. -/
theorem agrees_of_tokens {u u' : Setup} {n : Nat} (hlast : u.last.kind = .endOfInput)
    (hlimit : u'.limit = u.limit) (hfuel : u'.fuel = u.fuel)
    (hwords : ∀ t ∈ u'.words, t.kind ≠ .endOfInput)
    (h : ∀ i ≤ n, ∀ t, u.tokens[i]? = some t → u'.tokens[i]? = some t) : u.Agrees u' n := by
  refine ⟨hlimit, hfuel, fun i hi => ?_⟩
  cases hget : u.tokens[i]? with
  | some t => exact h i hi t hget
  | none =>
    have hle : u.words.length + 1 ≤ i := by simpa [Setup.tokens] using hget
    have hending : u'.tokens[u.words.length]? = some u.last := by
      refine h u.words.length (by omega) u.last ?_
      rw [Setup.tokens, List.getElem?_concat_length]
    have hge : u'.words.length ≤ u.words.length := by
      refine Nat.le_of_not_lt fun hlt => ?_
      rw [Setup.tokens, List.getElem?_append_left hlt] at hending
      exact hwords _ (List.mem_of_getElem? hending) hlast
    simpa [Setup.tokens] using Nat.le_trans (Nat.succ_le_succ hge) hle

end Machine

open Machine

/-! ## The parser -/

/-- An error is about the token at a position, unless it is about a number of arguments. -/
def GrammarError.PointsAt (e : GrammarError) (tokens : List Token) (pos : Nat) : Prop :=
  e.fault ≠ .substringArity → tokens[pos]? = some e.token

theorem pointsAt_of_blames {u : Setup} {pos : Nat} {e : GrammarError} (h : u.Blames pos e)
    (hpos : pos < u.tokens.length) :
    e.PointsAt u.tokens pos := by
  intro hfault
  rw [h hfault, Setup.token, List.getD_eq_getElem?_getD, List.getElem?_eq_getElem hpos,
    Option.getD_some]

section

variable {limit : Int} {ts us : List Token} {last last' : Token} {e : GrammarError}

theorem pointsAt_of_nonneg (hlimit : 0 ≤ limit) (hlast : last.kind = .endOfInput)
    (h : (parseStream limit (Stream.start ts last)).result = .error e) :
    e.PointsAt (ts ++ [last]) (parseStream limit (Stream.start ts last)).pos := by
  let u : Setup := ⟨ts, last, limit, (ts ++ [last]).length + limit.toNat⟩
  have hfuel : u.tokens.length + u.limit.toNat ≤ u.fuel := Nat.le_refl _
  obtain ⟨m, hm, hpos⟩ := parse_of_parseStream (u := u) hlast hlimit hfuel h
  have hblames := (local_parse u u ⟨0, 0, []⟩ trivial).blames e (congrArg Prod.fst hm)
  have hrun := parseStream_of_parse (u := u) hlast hlimit hfuel hm
  have hstop : (query (level u.fuel) u ⟨0, 0, []⟩).2 = m := congrArg Prod.snd hm
  rw [hstop] at hblames
  rw [hrun]
  exact pointsAt_of_blames hblames hpos

/-- With fuel for both lists the machine runs on both in the same way. -/
theorem parseStream_congr_of_nonneg (hlimit : 0 ≤ limit) (hlast : last.kind = .endOfInput)
    (h : (parseStream limit (Stream.start ts last)).result = .error e)
    (hus : ∀ t ∈ us, t.kind ≠ .endOfInput) (hlast' : last'.kind = .endOfInput)
    (hagree : ∀ i ≤ (parseStream limit (Stream.start ts last)).pos + 1, ∀ t,
      (ts ++ [last])[i]? = some t → (us ++ [last'])[i]? = some t) :
    parseStream limit (Stream.start us last') = parseStream limit (Stream.start ts last) := by
  let fuel := (ts ++ [last]).length + (us ++ [last']).length + limit.toNat
  let u : Setup := ⟨ts, last, limit, fuel⟩
  let u' : Setup := ⟨us, last', limit, fuel⟩
  have hfuel : u.tokens.length + u.limit.toNat ≤ u.fuel :=
    Nat.add_le_add_right (Nat.le_add_right _ _) _
  have hfuel' : u'.tokens.length + u'.limit.toNat ≤ u'.fuel :=
    Nat.add_le_add_right (Nat.le_add_left _ _) _
  obtain ⟨m, hm, -⟩ := parse_of_parseStream (u := u) hlast hlimit hfuel h
  have hrun : parseStream limit (Stream.start ts last) = ⟨.error e, m.pos, m.depth.toNat⟩ :=
    parseStream_of_parse (u := u) hlast hlimit hfuel hm
  rw [hrun] at hagree ⊢
  have hagrees : u.Agrees u' (m.pos + 1) := agrees_of_tokens hlast rfl rfl hus hagree
  have hstop : (query (level u.fuel) u ⟨0, 0, []⟩).2 = m := congrArg Prod.snd hm
  have hm' : Machine.parse u' = (.error (.failed e), m) :=
    ((local_parse u u ⟨0, 0, []⟩ trivial).congr u' (by rwa [hstop])).trans hm
  exact parseStream_of_parse (u := u') hlast' hlimit hfuel' hm'

end

/-! ## All limits -/

section

variable {limit : Int} {ts us : List Token} {last last' : Token} {e : GrammarError}

theorem pointsAt_of_parseStream (hlast : last.kind = .endOfInput)
    (h : (parseStream limit (Stream.start ts last)).result = .error e) :
    e.PointsAt (ts ++ [last]) (parseStream limit (Stream.start ts last)).pos := by
  by_cases hlimit : 0 ≤ limit
  · exact pointsAt_of_nonneg hlimit hlast h
  · rcases parseStream_of_neg (Int.not_le.mp hlimit) (Stream.start ts last) with
      ⟨-, hsame⟩ | ⟨t, pos, hzero, hneg⟩
    · rw [hsame] at h ⊢
      exact pointsAt_of_nonneg (Int.le_refl 0) hlast h
    · have hpoints := pointsAt_of_nonneg (Int.le_refl 0) hlast (congrArg ParseRun.result hzero)
      rw [hzero] at hpoints
      rw [hneg] at h ⊢
      cases h
      exact fun _ => hpoints nofun

theorem parseStream_congr (hlast : last.kind = .endOfInput)
    (h : (parseStream limit (Stream.start ts last)).result = .error e)
    (hus : ∀ t ∈ us, t.kind ≠ .endOfInput) (hlast' : last'.kind = .endOfInput)
    (hagree : ∀ i ≤ (parseStream limit (Stream.start ts last)).pos + 1, ∀ t,
      (ts ++ [last])[i]? = some t → (us ++ [last'])[i]? = some t) :
    parseStream limit (Stream.start us last') = parseStream limit (Stream.start ts last) := by
  by_cases hlimit : 0 ≤ limit
  · exact parseStream_congr_of_nonneg hlimit hlast h hus hlast' hagree
  · -- The runs with limit zero are the same, and with them what is reported instead.
    have hneg := Int.not_le.mp hlimit
    have hzero : ∀ e', (parseStream 0 (Stream.start ts last)).result = .error e' →
        (parseStream 0 (Stream.start ts last)).pos =
        (parseStream limit (Stream.start ts last)).pos →
        parseStream 0 (Stream.start us last') = parseStream 0 (Stream.start ts last) := by
      intro e' he' hpos
      rw [← hpos] at hagree
      exact parseStream_congr_of_nonneg (Int.le_refl 0) hlast he' hus hlast' hagree
    rcases parseStream_of_neg hneg (Stream.start ts last) with ⟨hdepth, hsame⟩ | ⟨t, pos, ht, hts⟩
    · have hus0 := hzero e (by rw [← hsame, h]) (by rw [hsame])
      rcases parseStream_of_neg hneg (Stream.start us last') with ⟨-, hsame'⟩ | ⟨t', pos', ht', -⟩
      · rw [hsame, hsame', hus0]
      · rw [← hus0, ht'] at hdepth
        cases hdepth
    · have hus0 := hzero _ (by rw [ht]) (by rw [ht, hts])
      rcases parseStream_of_neg hneg (Stream.start us last') with
        ⟨hdepth', -⟩ | ⟨t', pos', ht', hts'⟩
      · rw [hus0, ht] at hdepth'
        cases hdepth'
      · rw [hus0, ht] at ht'
        cases ht'
        rw [hts, hts']

end

/-- The call that an error about a number of arguments is about, by the place of its name. -/
theorem exists_miscountedCall {limit : Int} {ts : List Token} {last : Token} {e : GrammarError}
    (hlast : last.kind = .endOfInput)
    (h : (parseStream limit (Stream.start ts last)).result = .error e)
    (hfault : e.fault = .substringArity) :
    ∃ i, i < (parseStream limit (Stream.start ts last)).pos ∧ (ts ++ [last])[i]? = some e.token ∧
      Grammar.MiscountedCall false e.token
        (((ts ++ [last]).take (parseStream limit (Stream.start ts last)).pos).drop i) := by
  obtain ⟨before, call, rest, htokens, hpos, hcall⟩ := miscountedCall_of_parseStream hlast h hfault
  obtain ⟨tail, rfl⟩ : ∃ tail, call = e.token :: tail := by
    cases hcall
    exact ⟨_, rfl⟩
  refine ⟨before.length, ?_, ?_, ?_⟩
  · rw [hpos]
    simp
  · rw [htokens]
    simp
  · rwa [htokens, hpos, List.take_left, List.drop_left]

/--
Errors are local. An error is about the token at the place where the parser stopped, apart from a
wrong number of arguments of `SUBSTRING`. That one is about the name of the function, further
before: the tokens from this name to the place where the parser stopped are a call with so many
arguments. An error is reported at the place of its token. Any tokens that are the same up to the
one behind the place where the parser stopped end in the same error, at the same place and depth.
-/
theorem parseStream_error_local (maxDepth : Int) (ts : List Token) (last : Token) (e : GrammarError)
    (hlast : last.kind = .endOfInput)
    (h : (parseStream maxDepth (Stream.start ts last)).result = .error e) :
    let run := parseStream maxDepth (Stream.start ts last)
    (e.fault ≠ .substringArity → (ts ++ [last])[run.pos]? = some e.token) ∧
      (e.fault = .substringArity →
        ∃ i, i < run.pos ∧ (ts ++ [last])[i]? = some e.token ∧
          Grammar.MiscountedCall false e.token (((ts ++ [last]).take run.pos).drop i)) ∧
      (QueryError.grammatical e).diagnostic.place =
      (some (e.token.pos.line : Int), some (e.token.pos.column : Int)) ∧
      ∀ (us : List Token) (last' : Token), (∀ t ∈ us, t.kind ≠ .endOfInput) →
        last'.kind = .endOfInput →
        (∀ i ≤ run.pos + 1, ∀ t, (ts ++ [last])[i]? = some t → (us ++ [last'])[i]? = some t) →
        parseStream maxDepth (Stream.start us last') = run :=
  ⟨pointsAt_of_parseStream hlast h, exists_miscountedCall hlast h, rfl,
    fun _ _ => parseStream_congr hlast h⟩

/-- One argument, which is itself a call, is too few for `SUBSTRING`, whatever is wrong behind the
from clause. The error is about the outer call. -/
theorem parseStream_error_local_substring :
    let ts := (scan "SELECT SUBSTRING(SUBSTRING(a, 1, 2)) FROM T").tokens
    let more := (scan ", , )").tokens
    let run := parseStream 5 (Stream.start ts (.ending {}))
    run.result = .error ⟨.substringArity, ⟨.function .substring, "SUBSTRING", ⟨1, 8, 7⟩⟩⟩ ∧
      run.pos = 12 ∧
      (∃ i, i < 12 ∧ (ts ++ [Token.ending {}])[i]? = some
        ⟨.function .substring, "SUBSTRING", ⟨1, 8, 7⟩⟩ ∧
        Grammar.MiscountedCall false ⟨.function .substring, "SUBSTRING", ⟨1, 8, 7⟩⟩
          (((ts ++ [Token.ending {}]).take 12).drop i)) ∧
      parseStream 5 (Stream.start (ts ++ more) (.ending {})) = run := by
  intro ts more run
  have hlength : ts.length = 14 := by decide +kernel
  have hresult : run.result =
      .error ⟨.substringArity, ⟨.function .substring, "SUBSTRING", ⟨1, 8, 7⟩⟩⟩ := by
    with_unfolding_all rfl
  have hpos : run.pos = 12 := by decide +kernel
  obtain ⟨-, hname, -, hcongr⟩ := parseStream_error_local 5 ts (.ending {}) _ rfl hresult
  obtain ⟨i, hi, hget, hcall⟩ := hname rfl
  refine ⟨hresult, hpos, ⟨i, hpos ▸ hi, hget, hpos ▸ hcall⟩, hcongr _ _ ?_ rfl fun i hi t ht => ?_⟩
  · decide +kernel
  · have hle : i ≤ run.pos + 1 := hi
    have hlt : i < ts.length := by omega
    rw [List.append_assoc, List.getElem?_append_left hlt]
    rwa [List.getElem?_append_left hlt] at ht

end EntityQuery
