import EntityQuery.Proofs.Grammar.Tracking
import EntityQuery.Proofs.Sql.Wording

/-!
# The parser within bounds

The machine runs every reading of the grammar, provided that it runs the readings one level further
in (`Enters`). One lemma for each reading, in the order of the grammar: `takes_` where it takes a
token in any case, `tracks_` otherwise. `takes_level` ties the levels together, and `parse_bounded`
says how a whole run goes.
-/

namespace EntityQuery.Machine

variable {w : Frame}

/-! ## Names -/

/-- The end of the input is no name, so behind a name there is another token. -/
theorem ne_end_of_isName {kind : TokenKind} (h : kind.isName = true) : kind ≠ .endOfInput := by
  rintro rfl
  cases h

theorem ne_end_of_isWord {kind : TokenKind} (h : kind.isWord = true) : kind ≠ .endOfInput := by
  rintro rfl
  cases h

/-- A name is taken or nothing is. -/
theorem takes_name (role : String) : Takes w (name role) (Reading.name role) := by
  refine .looking fun t => .ite (fun ht => ?_) fun _ => .fail rfl
  refine (TracksOn.advance ?_).andThen fun _ => .pure id
  rintro s ⟨-, rfl⟩
  exact ne_end_of_isName ht

theorem takes_wordAfterDot : Takes w wordAfterDot Reading.wordAfterDot := by
  refine .routine (.looking fun t => .ite (fun ht => ?_) fun _ => .fail rfl)
  refine (TracksOn.advance ?_).andThen fun _ => .pure id
  rintro s ⟨-, rfl⟩
  exact ne_end_of_isWord ht

/-- Each turn of the loop takes a point and a word, and at the end of the input there is none. -/
theorem takes_dottedName (role : String) : Takes w (dottedName role) (Reading.dottedName role) := by
  refine (takes_name role).andThen fun first =>
    tracks_loop (fun parts => ?_) (fun parts s hs => ?_) [first]
  · exact .accepting rfl (takes_wordAfterDot.andThen fun _ => .pure id) .done
  · exact accept_end rfl hs _

theorem takes_entityName : Takes w entityName Reading.entityName :=
  .routine ((takes_dottedName _).andThen fun _ => .pure id)

theorem takes_path : Takes w path Reading.path :=
  .routine ((takes_dottedName _).andThen fun _ => .pure id)

/-- An alias may be missing, and nothing is taken then. -/
theorem tracks_alias : Tracks w (fun _ => False) alias? Reading.alias? := by
  refine .accepting rfl ((takes_name _).andThen fun _ => .pure id) (.asking ?_ (.pure id))
  refine (TracksOn.advance ?_).andThen fun _ => .pure id
  rintro s ⟨-, hs⟩
  simp [hs]

theorem takes_typeName : Takes w typeName Reading.typeName := by
  refine .routine (takes_entityName.andThen fun base => .accepting rfl ?_ (.pure id))
  exact (takes_commaSeparated (.expect rfl rfl)).andThen fun sizes => .expecting rfl rfl (.pure id)

/-- The token is known to be a parameter, so it can be taken. -/
theorem tracks_parameter {C : Stream → Prop} (hC : ∀ s, C s → s.current.kind.isParameter = true) :
    TracksOn w C (fun _ => True) parameter Reading.parameter := by
  refine .routine ((TracksOn.advance fun s hs => ?_).andThen fun t =>
    .ite (fun _ => .pure id) fun _ => .pure id)
  intro hend
  have hparameter := hC s hs
  rw [hend] at hparameter
  cases hparameter

/-! ## Expressions -/

/-- Each turn of the loop takes an operator and an operand. -/
theorem takes_chain {isOperator : TokenKind → Bool} {operator : Token → String} {p : Machine Node}
    {q : Reading Node} (hend : isOperator .endOfInput = false) (h : Takes w p q) :
    Takes w (chain isOperator operator p) (Reading.chain isOperator operator q) := by
  refine h.andThen fun first => tracks_loop (fun left => ?_) (fun left s hs => ?_) first
  · refine .looking fun t => .ite (fun ht => ?_) fun _ => .done
    refine (TracksOn.advance ?_).andThen fun _ => h.andThen fun _ => .pure id
    rintro s ⟨-, rfl⟩ hkind
    rw [hkind, hend] at ht
    cases ht
  · rw [Reading.bind_ok rfl, hs, hend]
    rfl

section Inner

variable {inner : Entry → Machine Node} {inner' : Entry → Reading Node}

/-- The programs one level further in take tokens as the readings there do. -/
def Enters (w : Frame) (inner : Entry → Machine Node) (inner' : Entry → Reading Node) : Prop :=
  ∀ entry, Takes w (inner entry) (inner' entry)

/-- At least the closing parenthesis is taken. -/
theorem takes_argumentsTo (hi : Enters w inner inner') {fault : GrammarFault}
    (hf : isTooDeep fault = false) :
    Takes w (argumentsTo inner fault) (Reading.arguments inner' fault) := by
  refine TracksOn.bind (.accept rfl) fun b => ?_
  cases b with
  | true => exact .pure fun h => h.2 rfl
  | false =>
    exact (takes_commaSeparated (hi .expression)).andThen fun args => .expecting rfl hf (.pure id)

theorem takes_arguments (hi : Enters w inner inner') :
    Takes w (arguments inner) (Reading.arguments inner' .noArgumentsClose) :=
  .routine (takes_argumentsTo hi rfl)

/-- A look ahead that changes nothing can be left out. -/
theorem next_bind_const {α : Type} (q : Reading α) : (Reading.next >>= fun _ => q) = q := rfl

/-- The reading looks at the token behind the word in any case, the machine only where the word can
be a side. -/
theorem tracks_trimSide : Tracks w (fun _ => False) trimSide? Reading.trimSide? := by
  refine .looking fun t => ?_
  by_cases ht : t.kind = .identifier ∧ Reading.isTrimSide (Text.upper t.text) = true
  · have hC : ∀ s : Stream, True ∧ s.current = t → s.current.kind ≠ .endOfInput := by
      rintro s ⟨-, rfl⟩
      simp [ht.1]
    rw [if_pos ht]
    refine .peeking hC fun after => ?_
    simp only [ht.1, ht.2, true_and]
    exact .ite (fun _ => (TracksOn.advance fun s hs => hC s ⟨trivial, hs.1⟩).andThen fun _ =>
      .pure id) fun _ => .pure id
  · have hnone : ∀ after : Token,
        ¬(t.kind = .identifier ∧ Reading.isTrimSide (Text.upper t.text) = true ∧
        after.kind ≠ .symbol .rightParen ∧ after.kind ≠ .symbol .dot) :=
        fun after h => ht ⟨h.1, h.2.1⟩
    simp only [if_neg ht, if_neg (hnone _), next_bind_const]
    exact .pure id

/-- There is an operand in any case, and it takes a token. -/
theorem takes_trimOperands (hi : Enters w inner inner') (side : Option String) :
    Takes w (trimOperands inner side) (Reading.trimOperands inner' side) := by
  have harg := hi .expression
  refine .accepting rfl (harg.andThen fun _ => .pure id) (harg.andThen fun first => ?_)
  exact .accepting rfl (harg.andThen fun _ => .pure id)
    (.ite (fun _ => .fail rfl) fun _ => .pure id)

/-- The side may be missing; the operand is not. -/
theorem takes_trimCall (hi : Enters w inner inner') :
    Takes w (trimCall inner) (Reading.trimCall inner') := by
  refine .routine (tracks_trimSide.before fun side =>
    (takes_trimOperands hi side).andThen fun x => ?_)
  exact .expecting rfl rfl (.pure id)

theorem takes_castCall (hi : Enters w inner inner') :
    Takes w (castCall inner) (Reading.castCall inner') := by
  refine (hi .expression).andThen fun arg => .expecting rfl rfl ?_
  exact takes_typeName.andThen fun type => .expecting rfl rfl (.pure id)

/-- The star of `COUNT(*)` is taken as a token, other arguments as expressions. -/
theorem takes_aggregateCall (hi : Enters w inner inner') (f : Function) :
    Takes w (aggregateCall inner f) (Reading.aggregateCall inner' f) := by
  refine .looking fun t => .ite (fun ht => ?_) fun _ => ?_
  · refine (TracksOn.advance ?_).andThen fun _ => .expecting rfl rfl (.pure id)
    rintro s ⟨-, rfl⟩
    simp [ht.2]
  · exact .optional rfl fun distinct => (hi .expression).andThen fun arg =>
      .expecting rfl rfl (.pure id)

/-- The name was looked at before and is taken here; then the way parts by the function. -/
theorem tracks_functionCall (hi : Enters w inner inner') {f : Function} {C : Stream → Prop}
    (hC : ∀ s, C s → s.current.kind ≠ .endOfInput) :
    TracksOn w C (fun _ => True) (functionCall inner f) (Reading.functionCall inner' f) := by
  refine .routine ((TracksOn.advance hC).andThen fun nameToken => .expecting rfl rfl ?_)
  refine .ite (fun _ => (takes_aggregateCall hi f).still) fun _ => ?_
  refine .ite (fun _ => (takes_trimCall hi).still) fun _ =>
    .ite (fun _ => (takes_castCall hi).still) fun _ => ?_
  exact (takes_arguments hi).andThen fun args => .ite (fun _ => .failAt rfl) fun _ => .pure id

theorem tracks_otherCall (hi : Enters w inner inner') {C : Stream → Prop}
    (hC : ∀ s, C s → s.current.kind ≠ .endOfInput) :
    TracksOn w C (fun _ => True) (otherCall inner) (Reading.otherCall inner') := by
  refine .routine ((TracksOn.advance hC).andThen fun t => .expecting rfl rfl ?_)
  exact (takes_arguments hi).andThen fun args => .pure id

theorem tracks_parenthesized (hi : Enters w inner inner') {C : Stream → Prop}
    (hC : ∀ s, C s → s.current.kind ≠ .endOfInput) :
    TracksOn w C (fun _ => True) (parenthesized inner) (Reading.parenthesized inner') := by
  refine (TracksOn.advance hC).andThen fun _ => .asking ?_ ?_
  · exact (hi .select).on.andThen fun query => .expecting rfl rfl (.pure id)
  · exact (hi .expression).on.andThen fun e => .expecting rfl rfl (.pure id)

theorem tracks_existsExpression (hi : Enters w inner inner') {C : Stream → Prop}
    (hC : ∀ s, C s → s.current.kind ≠ .endOfInput) :
    TracksOn w C (fun _ => True) (existsExpression inner) (Reading.existsExpression inner') := by
  refine (TracksOn.advance hC).andThen fun _ => .expecting rfl rfl (.asking ?_ (.fail rfl))
  exact (hi .select).on.andThen fun query => .expecting rfl rfl (.pure id)

/-- Each branch takes its `WHEN`. -/
theorem tracks_branches (hi : Enters w inner inner') :
    Tracks w (fun _ => False) (branches inner) (Reading.branches inner') := by
  refine tracks_loop (fun done => .accepting rfl ?_ .done) (fun done s hs => accept_end rfl hs _) []
  exact (hi .expression).andThen fun condition =>
    .expecting rfl rfl ((hi .expression).andThen fun result => .pure id)

/-- What follows the operand of a case expression. -/
theorem tracks_caseRest (hi : Enters w inner inner') (operand : Option Node) :
    Tracks w (fun _ => False)
      (branches inner >>= fun branches => if branches.isEmpty then fail .noWhen else
        behind (.reserved .elseWord) (inner .expression) >>= fun otherwise =>
          expect (.reserved .endWord) .noEnd >>= fun _ =>
            pure (Node.caseOf operand branches otherwise))
      (Reading.branches inner' >>= fun branches =>
        if branches.isEmpty then Reading.fail .noWhen else
        Reading.behind (.reserved .elseWord) (inner' .expression) >>= fun otherwise =>
          Reading.expect (.reserved .endWord) .noEnd >>= fun _ =>
            pure (Node.caseOf operand branches otherwise)) := by
  refine (tracks_branches hi).before fun branches => .ite (fun _ => .fail rfl) fun _ => ?_
  exact (tracks_behind rfl (hi .expression)).before fun otherwise => .expecting rfl rfl (.pure id)

/-- `CASE` is taken before anything else is looked at. -/
theorem tracks_caseExpression (hi : Enters w inner inner') {C : Stream → Prop}
    (hC : ∀ s, C s → s.current.kind ≠ .endOfInput) :
    TracksOn w C (fun _ => True) (caseExpression inner) (Reading.caseExpression inner') := by
  refine .routine ((TracksOn.advance hC).andThen fun _ => ?_)
  refine .asking ?_ ?_
  · exact TracksOn.before (.pure id) fun operand => tracks_caseRest hi operand
  · exact TracksOn.andThen (hi .expression).on.map fun operand => tracks_caseRest hi operand

section

variable {C : Stream → Prop} (hC : ∀ s, C s → s.current.kind ≠ .endOfInput)
include hC

theorem tracks_spelledLiteral (kind : LiteralKind) :
    TracksOn w C (fun _ => True) (spelledLiteral kind) (Reading.spelledLiteral kind) :=
  (TracksOn.advance hC).andThen fun _ => .pure id

theorem tracks_keyword (value : Node) :
    TracksOn w C (fun _ => True) (keyword value) (Reading.advance >>= fun _ => pure value) :=
  (TracksOn.advance hC).andThen fun _ => .pure id

/-- A name is not the last token, so that there is one behind it. -/
theorem tracks_callOrPath {p : Machine Node} {q : Reading Node}
    (h : TracksOn w C (fun _ => True) p q) :
    TracksOn w C (fun _ => True) (callOrPath p) (Reading.callOrPath q) := by
  refine .peeking hC fun after => .ite (fun _ => h.weaken fun s hs => hs.1) fun _ => takes_path.on

end

/-- By the kind of the first token, which is taken unless the reading fails at it. -/
theorem takes_primary (hi : Enters w inner inner') :
    Takes w (primary inner) (Reading.primary inner') := by
  refine .routine (.looking fun t => ?_)
  refine TracksOn.weaken (D := fun s => s.current.kind = t.kind) ?_ (by rintro s ⟨-, rfl⟩; rfl)
  generalize t.kind = kind
  cases kind with
  | symbol sign =>
    cases sign with
    | leftParen => exact tracks_parenthesized hi (current_ne_end rfl)
    | _ => exact .fail rfl
  | integer => exact tracks_spelledLiteral (current_ne_end rfl) _
  | decimal => exact tracks_spelledLiteral (current_ne_end rfl) _
  | string => exact tracks_spelledLiteral (current_ne_end rfl) _
  | namedParameter => exact tracks_parameter fun s hs => by rw [hs]; rfl
  | positionalParameter => exact tracks_parameter fun s hs => by rw [hs]; rfl
  | reserved word =>
    cases word with
    | trueWord => exact tracks_keyword (current_ne_end rfl) _
    | falseWord => exact tracks_keyword (current_ne_end rfl) _
    | null => exact tracks_keyword (current_ne_end rfl) _
    | case => exact tracks_caseExpression hi (current_ne_end rfl)
    | «exists» => exact tracks_existsExpression hi (current_ne_end rfl)
    | _ => exact .fail rfl
  | clock clock => exact tracks_keyword (current_ne_end rfl) _
  | function f =>
    exact tracks_callOrPath (current_ne_end rfl) (tracks_functionCall hi (current_ne_end rfl))
  | identifier =>
    exact tracks_callOrPath (current_ne_end rfl) (tracks_otherCall hi (current_ne_end rfl))
  | endOfInput => exact .fail rfl

/-! ## Arithmetic and comparison -/

/-- A sign is taken before its operand, one level further in. -/
theorem takes_signed (hi : Enters w inner inner') :
    Takes w (signed inner) (Reading.signed inner') := by
  refine .routine (.looking fun t => .ite (fun ht => ?_) fun _ => (takes_primary hi).on)
  refine (TracksOn.advance ?_).andThen fun _ => (hi .sign).andThen fun operand => .pure id
  rintro s ⟨-, rfl⟩ hend
  rw [hend] at ht
  cases ht

theorem takes_multiplicative (hi : Enters w inner inner') :
    Takes w (multiplicative inner) (Reading.multiplicative inner') :=
  .routine (takes_chain rfl (takes_signed hi))

theorem takes_additive (hi : Enters w inner inner') :
    Takes w (additive inner) (Reading.additive inner') :=
  .routine (takes_chain rfl (takes_multiplicative hi))

theorem takes_comparison (hi : Enters w inner inner') :
    Takes w (comparison inner) (Reading.comparison inner') :=
  .routine (takes_chain rfl (takes_additive hi))

/-! ## Predicates -/

/-- The reading looks at the token behind in any case, the machine only behind a `NOT`. -/
theorem tracks_negation : Tracks w (fun _ => False) negation? Reading.negation? := by
  have hlooking : negation? = (current >>= fun t => if t.kind = .reserved .not then
      next >>= fun after => if Reading.isNegatable after.kind then advance >>= fun _ => pure true
        else pure false
      else pure false) := by
    simp [negation?, at?]
  rw [hlooking]
  refine .looking fun t => ?_
  by_cases ht : t.kind = .reserved .not
  · have hC : ∀ s : Stream, True ∧ s.current = t → s.current.kind ≠ .endOfInput := by
      rintro s ⟨-, rfl⟩
      simp [ht]
    rw [if_pos ht]
    refine .peeking hC fun after => ?_
    simp only [ht, true_and]
    exact .ite (fun _ => (TracksOn.advance fun s hs => hC s ⟨trivial, hs.1⟩).andThen fun _ =>
      .pure id) fun _ => .pure id
  · have hnone : ∀ after : Token,
        ¬(t.kind = .reserved .not ∧ Reading.isNegatable after.kind = true) := fun _ h => ht h.1
    simp only [if_neg ht, if_neg (hnone _), next_bind_const]
    exact .pure id

/-- Behind `IN` a parameter is taken, or an opening parenthesis. -/
theorem takes_inSet (hi : Enters w inner inner') (left : Node) (negated : Bool) :
    Takes w (inSet inner left negated) (Reading.inSet inner' left negated) := by
  refine .routine (.looking fun t => .ite (fun ht => ?_) fun _ =>
    .expecting rfl rfl (.asking ?_ ?_))
  · refine (tracks_parameter ?_).andThen fun p => .pure id
    rintro s ⟨-, rfl⟩
    exact ht
  · exact (hi .select).on.andThen fun query => .expecting rfl rfl (.pure id)
  · exact (takes_commaSeparated (hi .expression)).on.andThen fun values =>
      .expecting rfl rfl (.pure id)

theorem takes_between (hi : Enters w inner inner') (left : Node) (negated : Bool) :
    Takes w (between inner left negated) (Reading.between inner' left negated) :=
  (takes_comparison hi).andThen fun _ =>
    .expecting rfl rfl ((takes_comparison hi).andThen fun _ => .pure id)

/-- The pattern takes a token, the escape character only if it is there. -/
theorem takes_like (hi : Enters w inner inner') (left : Node) (negated : Bool) :
    Takes w (like inner left negated) (Reading.like inner' left negated) :=
  (takes_comparison hi).andThen fun _ =>
    (tracks_behind rfl (takes_comparison hi)).before fun _ => .pure id

theorem takes_memberOf (left : Node) (negated : Bool) :
    Takes w (memberOf left negated) (Reading.memberOf left negated) :=
  .optional rfl fun _ => takes_path.andThen fun _ => .pure id

/-- A token is taken exactly if a predicate is found. -/
theorem tracks_negatablePredicate (hi : Enters w inner inner') (left : Node) (negated : Bool) :
    Tracks w (fun b => b.isSome = true) (negatablePredicate? inner left negated)
      (Reading.negatablePredicate? inner' left negated) := by
  refine .accepting rfl (takes_between hi left negated).map
    (.accepting rfl (takes_inSet hi left negated).map ?_)
  exact .accepting rfl (takes_like hi left negated).map
    (.accepting rfl (takes_memberOf left negated).map .done)

/-- A token is taken exactly if there is one predicate more, so the loop of predicates ends. -/
theorem tracks_predicateStep (hi : Enters w inner inner') (left : Node) :
    Tracks w (fun b => b.isSome = true) (predicateStep inner left)
      (Reading.predicateStep inner' left) := by
  refine .looking fun t => .ite (fun ht => ?_) fun _ => .accepting rfl ?_ ?_
  · refine (TracksOn.advance ?_).andThen fun _ =>
      (takes_comparison hi).andThen fun right => .pure id
    rintro s ⟨-, rfl⟩ hend
    rw [hend] at ht
    cases ht
  · exact .optional rfl fun negated => .expecting rfl rfl (.pure id)
  · exact tracks_negation.before fun negated => tracks_negatablePredicate hi left negated

/-- At the end of the input there is no predicate more. -/
theorem predicateStep_end {left : Node} {s : Stream} (hs : s.current.kind = .endOfInput) :
    Reading.predicateStep inner' left s = .ok (none, s) := by
  have hnegation : Reading.negation? s = .ok (false, s) := by
    rw [Reading.negation?, Reading.bind_ok rfl, Reading.bind_ok rfl, hs, if_neg (by simp)]
    rfl
  have hequality : ¬Reading.isEquality .endOfInput = true := by simp [Reading.isEquality]
  rw [Reading.predicateStep, Reading.bind_ok rfl, hs, if_neg hequality, accept_end rfl hs,
    if_neg (by simp), Reading.bind_ok hnegation, Reading.negatablePredicate?, accept_end rfl hs,
    if_neg (by simp),
    accept_end rfl hs, if_neg (by simp), accept_end rfl hs, if_neg (by simp), accept_end rfl hs]
  rfl

/-- The first operand takes a token, the predicates behind it as many as there are. -/
theorem takes_predicate (hi : Enters w inner inner') :
    Takes w (predicate inner) (Reading.predicate inner') := by
  refine .routine ((takes_comparison hi).andThen fun left => ?_)
  exact tracks_loop (tracks_predicateStep hi) (fun left s hs => predicateStep_end hs) left

/-! ## Logic -/

theorem takes_negatable (hi : Enters w inner inner') :
    Takes w (negatable inner) (Reading.negatable inner') :=
  .routine (.accepting rfl ((hi .negation).andThen fun _ => .pure id) (takes_predicate hi))

theorem takes_conjunction (hi : Enters w inner inner') :
    Takes w (conjunction inner) (Reading.conjunction inner') :=
  .routine (takes_chain rfl (takes_negatable hi))

theorem takes_disjunction (hi : Enters w inner inner') :
    Takes w (disjunction inner) (Reading.disjunction inner') :=
  .routine (takes_chain rfl (takes_conjunction hi))

/-! ## Clauses -/

/-- An item is a constructor behind `NEW`, or an expression. -/
theorem takes_selectItem (hi : Enters w inner inner') :
    Takes w (selectItem inner) (Reading.selectItem inner') := by
  refine .routine (.accepting rfl ?_ ?_)
  · refine takes_entityName.andThen fun className => .expecting rfl rfl ?_
    exact (takes_argumentsTo hi rfl).andThen fun args => tracks_alias.before fun asName => .pure id
  · exact (hi .expression).andThen fun e => tracks_alias.before fun asName => .pure id

/-- A plain join has no words for its kind. -/
theorem tracks_joinKind : Tracks w (fun _ => False) joinKind Reading.joinKind := by
  refine .accepting rfl (.pure id) (.accepting rfl (.accepting rfl (.pure id) (.pure id)) ?_)
  exact .accepting rfl (.accepting rfl (.pure id) (.pure id)) (.pure id)

/-- Whatever its kind, a join takes the word `JOIN`. -/
theorem takes_join (hi : Enters w inner inner') : Takes w (join inner) (Reading.join inner') := by
  refine .routine (tracks_joinKind.before fun kind =>
    .expecting rfl rfl (.optional rfl fun fetch => ?_))
  refine takes_path.andThen fun along => tracks_alias.before fun asName => ?_
  exact (tracks_behind rfl (hi .expression)).before fun condition => .pure id

/-- Each turn of the loop takes a join. -/
theorem tracks_joins (hi : Enters w inner inner') :
    Tracks w (fun _ => False) (joins inner) (Reading.joins inner') := by
  refine tracks_loop (fun done => .looking fun t => .ite (fun ht => ?_) fun _ => .done)
    (fun done s hs => ?_) []
  · exact (takes_join hi).on.andThen fun j => .pure id
  · rw [Reading.bind_ok rfl, hs]
    rfl

theorem takes_fromItem (hi : Enters w inner inner') :
    Takes w (fromItem inner) (Reading.fromItem inner') := by
  refine .routine (takes_entityName.andThen fun entity => tracks_alias.before fun asName => ?_)
  exact (tracks_joins hi).before fun joins => .pure id

theorem tracks_direction : Tracks w (fun _ => False) direction? Reading.direction? :=
  .accepting rfl (.pure id) (.accepting rfl (.pure id) (.pure id))

/-- `NULLS` has to be followed by a place, or the reading fails behind it. -/
theorem tracks_nullsPlace : Tracks w (fun _ => False) nullsPlace? Reading.nullsPlace? :=
  .accepting rfl (.accepting rfl (.pure id) (.accepting rfl (.pure id) (.fail rfl))) (.pure id)

theorem takes_orderItem (hi : Enters w inner inner') :
    Takes w (orderItem inner) (Reading.orderItem inner') := by
  refine .routine ((hi .expression).andThen fun e => tracks_direction.before fun direction => ?_)
  exact tracks_nullsPlace.before fun nulls => .pure id

theorem tracks_grouping (hi : Enters w inner inner') :
    Tracks w (fun _ => False) (grouping inner) (Reading.grouping inner') :=
  .accepting rfl (.expecting rfl rfl (takes_commaSeparated (hi .expression)).still) (.pure id)

theorem tracks_ordering (hi : Enters w inner inner') :
    Tracks w (fun _ => False) (ordering inner) (Reading.ordering inner') :=
  .accepting rfl (.expecting rfl rfl (takes_commaSeparated (takes_orderItem hi)).still) (.pure id)

theorem takes_assignment (hi : Enters w inner inner') :
    Takes w (assignment inner) (Reading.assignment inner') :=
  .routine (takes_path.andThen fun _ =>
    .expecting rfl rfl ((hi .expression).andThen fun _ => .pure id))

/-! ## Statements -/

/-- The clauses of a query in their order. Those behind `FROM` may be missing. -/
theorem takes_selectStatement (hi : Enters w inner inner') :
    Takes w (selectStatement inner) (Reading.selectStatement inner') := by
  refine .expecting rfl rfl (.optional rfl fun distinct => ?_)
  refine (takes_commaSeparated (takes_selectItem hi)).andThen fun items => .expecting rfl rfl ?_
  refine (takes_commaSeparated (takes_fromItem hi)).andThen fun sources => ?_
  refine (tracks_behind rfl (hi .expression)).before fun condition =>
    (tracks_grouping hi).before fun grouping => ?_
  exact (tracks_behind rfl (hi .expression)).before fun having =>
    (tracks_ordering hi).before fun ordering => .pure id

/-- Alias and condition of an update may be missing. -/
theorem takes_updateStatement (hi : Enters w inner inner') :
    Takes w (updateStatement inner) (Reading.updateStatement inner') := by
  refine .routine (.expecting rfl rfl (takes_entityName.andThen fun entity =>
    tracks_alias.before fun asName => ?_))
  refine .expecting rfl rfl ?_
  refine (takes_commaSeparated (takes_assignment hi)).andThen fun assignments => ?_
  exact (tracks_behind rfl (hi .expression)).before fun condition => .pure id

theorem takes_deleteStatement (hi : Enters w inner inner') :
    Takes w (deleteStatement inner) (Reading.deleteStatement inner') := by
  refine .routine
    (.expecting rfl rfl (.optional rfl fun _ => takes_entityName.andThen fun entity => ?_))
  exact tracks_alias.before fun asName =>
    (tracks_behind rfl (hi .expression)).before fun condition => .pure id

/-- An insert ends with a query. -/
theorem takes_insertStatement (hi : Enters w inner inner') :
    Takes w (insertStatement inner) (Reading.insertStatement inner') := by
  refine .routine (.expecting rfl rfl
    (.expecting rfl rfl (takes_entityName.andThen fun entity => .expecting rfl rfl ?_)))
  refine (takes_commaSeparated takes_path).andThen fun targets =>
    .expecting rfl rfl (.asking ?_ (.fail rfl))
  exact (hi .select).on.andThen fun source => .pure id

/-- By the first word, which is looked at here and taken by the statement. -/
theorem takes_statement (hi : Enters w inner inner') :
    Takes w (statement inner) (Reading.statement inner') := by
  refine .routine (.looking fun t => Tracks.on ?_)
  generalize t.kind = kind
  cases kind with
  | reserved word =>
    cases word with
    | select => exact hi .select
    | update => exact takes_updateStatement hi
    | delete => exact takes_deleteStatement hi
    | insert => exact takes_insertStatement hi
    | _ => exact .fail rfl
  | _ => exact .fail rfl

/-- The whole text takes at least a statement; the end is looked at and not taken. -/
theorem takes_query (hi : Enters w inner inner') : Takes w (query inner) (Reading.query inner') :=
  (takes_statement hi).andThen fun _ => .optional rfl fun _ => .asking (.pure id) (.fail rfl)

end Inner

/-! ## Levels -/

/--
The levels that a reading has left are those between the depth of the machine and its limit: the
machine runs into its limit where the reading has none left, and its fuel lasts that long. The
induction is on the levels that are left.
-/
theorem takes_level {n fuel : Nat} {w : Frame} (hn : w.depth + n = w.setup.limit) (hfuel : n < fuel)
    (entry : Entry) :
    Takes w (level fuel entry) (Reading.level w.setup.limit n entry) := by
  induction n generalizing w fuel entry with
  | zero =>
    have hd : ¬w.depth < w.setup.limit := by omega
    cases fuel with
    | zero => cases hfuel
    | succ fuel =>
      cases entry with
      | expression => exact .routine (.tooDeep hd)
      | select => exact .routine (.tooDeep hd)
      | negation => exact .tooDeep hd
      | sign => exact .tooDeep hd
  | succ n ih =>
    have hd : w.depth < w.setup.limit := by omega
    have hdeeper : (w.deeper hd).depth + n = w.setup.limit := by
      rw [Frame.deeper_depth]
      omega
    cases fuel with
    | zero => cases hfuel
    | succ fuel =>
      have hi : Enters (w.deeper hd) (level fuel) (Reading.level w.setup.limit n) :=
        ih hdeeper (Nat.lt_of_succ_lt_succ hfuel)
      cases entry with
      | expression => exact .routine (.nested (takes_disjunction hi))
      | select => exact .routine (.nested (takes_selectStatement hi))
      | negation => exact .nested (takes_negatable hi)
      | sign => exact .nested (takes_signed hi)

/-! ## Queries -/

/-- The tokens of a query, with a nesting limit and fuel. -/
def Setup.ofQuery (limit : Int) (query : String) (fuel : Nat) : Setup :=
  ⟨(scan query).tokens, .ending (scan query).stop, limit, fuel⟩

/-- The outermost frame of a query, with fuel for all its tokens and levels. -/
def Frame.ofQuery {limit : Int} {query : String} {fuel : Nat} (hlimit : 0 ≤ limit)
    (hfuel : (Setup.ofQuery limit query fuel).tokens.length + limit.toNat ≤ fuel) : Frame where
  setup := Setup.ofQuery limit query fuel
  depth := 0
  ends := rfl
  fuel := Nat.le_of_add_right_le hfuel
  depth_nonneg := Int.le_refl 0
  depth_le := hlimit

theorem pos_start (ts : List Token) (last : Token) : (Stream.start ts last).pos = 0 := by
  cases ts <;> rfl

/-- At its start a stream shows all tokens. -/
theorem shows_start (u : Setup) : u.Shows (Stream.start u.words u.last) := by
  rw [Setup.Shows, Stream.tokens_start, pos_start]
  rfl

/-- The input ends at the last token and not before. -/
theorem pos_of_end {u : Setup} {s : Stream} (hs : u.Shows s)
    (hwords : ∀ t ∈ u.words, t.kind ≠ .endOfInput) (hend : s.current.kind = .endOfInput) :
    s.pos + 1 = u.tokens.length := by
  have hlength := hs.length
  have hget : u.tokens[s.pos]? = some s.current := hs.get 0
  have hle : ¬s.pos < u.words.length := by
    intro hlt
    rw [Setup.tokens, List.getElem?_append_left hlt] at hget
    exact hwords _ (List.mem_of_getElem? hget) hend
  rw [Setup.tokens, List.length_append, List.length_singleton] at hlength ⊢
  omega

/-- The outermost frame of a run, with fuel for all its tokens and levels. -/
def Frame.outermost {u : Setup} (hlast : u.last.kind = .endOfInput) (hlimit : 0 ≤ u.limit)
    (hfuel : u.tokens.length + u.limit.toNat ≤ u.fuel) : Frame where
  setup := u
  depth := 0
  ends := hlast
  fuel := Nat.le_of_add_right_le hfuel
  depth_nonneg := Int.le_refl 0
  depth_le := hlimit

/-- A run of the machine follows the reading of all tokens. -/
theorem follows_tokens {u : Setup} (hlast : u.last.kind = .endOfInput) (hlimit : 0 ≤ u.limit)
    (hfuel : u.tokens.length + u.limit.toNat ≤ u.fuel) :
    Follows (Frame.outermost hlast hlimit hfuel) 0 [] (fun _ => True)
      (Reading.query (Reading.level u.limit u.limit.toNat) (Stream.start u.words u.last))
        (parse u) := by
  have hlevels : (Frame.outermost hlast hlimit hfuel).depth + u.limit.toNat = u.limit := by
    show 0 + (u.limit.toNat : Int) = u.limit
    omega
  have hcalls : u.limit.toNat < u.fuel := by
    have hlength : 0 < u.tokens.length := by simp [Setup.tokens]
    omega
  have h := takes_query (takes_level hlevels hcalls) [] (shows_start u) trivial
  rw [pos_start] at h
  exact h

/-- A run of the machine follows the reading of the whole query. -/
theorem follows_parse {limit : Int} {query : String} {fuel : Nat} (hlimit : 0 ≤ limit)
    (hfuel : (Setup.ofQuery limit query fuel).tokens.length + limit.toNat ≤ fuel) :
    Follows (Frame.ofQuery hlimit hfuel) 0 [] (fun _ => True)
      (Reading.query (Reading.level limit limit.toNat)
        (Stream.start (scan query).tokens (.ending (scan query).stop)))
      (parse (Setup.ofQuery limit query fuel)) :=
  follows_tokens (u := Setup.ofQuery limit query fuel) rfl hlimit hfuel

end Machine

open Machine in
/--
The parser ends, and it stays within bounds until then. Its machine form ends by itself, as the
parser does, with all fuel that is not less than the tokens and the nesting limit. Its position
never decreases. Neither the position nor a token that it asks for is ever out of range, and its
depth lies between zero and one past the limit. Every routine that is done has taken a token and is
as deep as it was at its start. At the end of a query that is well formed the parser has come to the
last token, at depth zero. Otherwise it is past the limit exactly if this is the error.
-/
theorem parse_bounded (p : Parser) (query : String) (book : Log.Book) (fuel : Nat)
    (hscan : (scan query).error? = none) (hlimit : 0 ≤ p.maxDepth)
    (hfuel : (Setup.ofQuery p.maxDepth query fuel).tokens.length + p.maxDepth.toNat ≤ fuel) :
    let u := Setup.ofQuery p.maxDepth query fuel
    ∃ result after stop m, ((p.parse query).run book).1 = (result, after) ∧
      Machine.parse u = (stop, m) ∧
      after.tokens = u.tokens ∧ after.pos = m.pos ∧ after.depth = m.depth ∧
      (∀ e ∈ m.trace, e.Sound u ∧ e.pos ≤ m.pos) ∧ (m.trace.map Event.pos).Pairwise (· ≤ ·) ∧
      ((∃ node, result = .ok node ∧ stop = .ok node ∧ m.pos + 1 = u.tokens.length ∧ m.depth = 0) ∨
        ∃ e, result = .error (.grammatical e) ∧ stop = .error (.failed e) ∧
          m.pos < u.tokens.length ∧
          0 ≤ m.depth ∧ m.depth ≤ p.maxDepth + 1 ∧
          (m.depth = p.maxDepth + 1 ↔ e.fault = .tooDeep p.maxDepth)) := by
  intro u
  have hrun := run_parse p hscan book
  have hstored : (scan query).stored = u.tokens := by
    rw [Scan.stored, hscan]
    rfl
  have hfollows := follows_parse hlimit hfuel
  simp only [parseStream_ample] at hrun
  generalize hx : Reading.query (Reading.level p.maxDepth p.maxDepth.toNat)
    (Stream.start (scan query).tokens (.ending (scan query).stop)) = x at hrun hfollows
  generalize hy : Machine.parse (Setup.ofQuery p.maxDepth query fuel) = y at hfollows
  cases hfollows with
  | @ok node s es hs he hm =>
    have hend := pos_of_end hs (scan_kind_ne_end query) (Reading.query_end hx)
    refine ⟨_, _, _, _, hrun, rfl, hstored, rfl, rfl, ?_, he.sorted,
      .inl ⟨node, rfl, rfl, hend, rfl⟩⟩
    exact fun e hmem => ⟨he.sound e hmem, (he.between e hmem).2⟩
  | @error f es he hf =>
    obtain ⟨hpos, hdepth⟩ := hf
    have hzero : (Frame.ofQuery hlimit hfuel).depth + f.depth = f.depth := Int.zero_add _
    rw [hzero] at hdepth ⊢
    refine ⟨_, _, _, _, hrun, rfl, hstored, rfl, rfl, ?_, he.sorted,
      .inr ⟨f.error, rfl, rfl, hpos, ?_⟩⟩
    · exact fun e hmem => ⟨he.sound e hmem, (he.between e hmem).2⟩
    · refine ⟨Int.natCast_nonneg _, ?_⟩
      change if f.error.fault = .tooDeep p.maxDepth then (f.depth : Int) = p.maxDepth + 1
        else f.depth ≤ p.maxDepth at hdepth
      split at hdepth
      · exact ⟨Int.le_of_eq hdepth, iff_of_true hdepth ‹_›⟩
      · have hlt : (f.depth : Int) < p.maxDepth + 1 := by omega
        exact ⟨Int.le_of_lt hlt, iff_of_false (Int.ne_of_lt hlt) ‹_›⟩

open Machine in
/-- A sign nests one level too deep, behind an item of the select list that is done. -/
theorem parse_bounded_sign :
    ∃ u e after, u = Setup.ofQuery 2 "SELECT a, -b FROM C" 10 ∧
      ((({ maxDepth := 2 } : Parser).parse "SELECT a, -b FROM C").run []).1 =
      (.error (.grammatical e), after) ∧ e.fault = .tooDeep 2 ∧ after.pos = 4 ∧ after.depth = 3 ∧
      ⟨.finish .selectItem 1 1, 2, 1⟩ ∈ (Machine.parse u).2.trace ∧ ∀ e ∈ (Machine.parse u).2.trace,
        e.Sound u := by
  obtain ⟨result, after, stop, m, hrun, hparse, -, hpos, hdepth, hsound, -, hend⟩ :=
    parse_bounded { maxDepth := 2 } "SELECT a, -b FROM C" [] 10 (by decide +kernel) (by decide)
      (by decide +kernel)
  have hm : m = (Machine.parse (Setup.ofQuery 2 "SELECT a, -b FROM C" 10)).2 :=
    congrArg Prod.snd hparse.symm
  have hm4 : m.pos = 4 := by rw [hm]; decide +kernel
  have hm3 : m.depth = 3 := by rw [hm]; decide +kernel
  rcases hend with ⟨node, -, -, -, hzero⟩ | ⟨e, rfl, -, -, -, -, hfault⟩
  · omega
  · refine ⟨_, e, after, rfl, hrun, hfault.mp hm3, hpos.trans hm4, by omega, ?_, ?_⟩
    · decide +kernel
    · rw [← hm]
      exact fun e he => (hsound e he).1

end EntityQuery
