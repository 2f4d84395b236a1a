import EntityQuery.Grammar.Name

/-!
# Expressions

The tiers of the expression grammar, loosest first: `OR`, `AND`, `NOT`, predicates and equality,
comparison, addition, multiplication, sign, primary. Every binary tier groups to the left and takes
its right operands from the next tighter tier.

A query nests in four places only: at a whole expression, at a select statement, behind `NOT` and
behind a sign. The tiers take the readings of these places one level further in as an argument,
`inner`. Nothing here is recursive; the levels are tied together in `EntityQuery.Grammar.Statement`.
-/

namespace EntityQuery

/-- The places where a query nests. -/
inductive Entry where
  | expression
  | select
  | negation
  | sign
  deriving DecidableEq, Repr

namespace Reading

variable (inner : Entry → Reading Node)

/-- A chain of operands, grouped to the left. -/
def chain (isOperator : TokenKind → Bool) (operator : Token → String) (operand : Reading Node) :
    Reading Node := do
  let first ← operand
  loop (fun left => do
    let t ← current
    if isOperator t.kind then
      let t ← advance
      let right ← operand
      pure (some (.binary left (operator t) right))
    else pure none) first

/-! ## Calls -/

/-- The arguments of a call, the opening parenthesis being read. -/
def arguments (fault : GrammarFault) : Reading (List Node) := do
  if ← accept (.symbol .rightParen) then pure []
  else
    let args ← commaSeparated (inner .expression)
    let _ ← expect (.symbol .rightParen) fault
    pure args

/-- A plain call of a function that is known by its name. -/
def knownCall (name : String) (args : List Node) : Node :=
  .call name args false true none none none

/-- The words that say from which end to trim. -/
def isTrimSide (word : String) : Bool :=
  ["LEADING", "TRAILING", "BOTH"].contains word

/-- The end from which to trim, unless the word is a name: alone in the parentheses, or with a point
behind it. -/
def trimSide? : Reading (Option String) := do
  let t ← current
  let after ← next
  let side := Text.upper t.text
  if t.kind = .identifier ∧ isTrimSide side ∧ after.kind ≠ .symbol .rightParen ∧
    after.kind ≠ .symbol .dot then
    let _ ← advance
    pure (some side)
  else pure none

/-- What to trim and the character to trim, behind the side. -/
def trimOperands (side : Option String) : Reading (Node × Option Node) := do
  if ← accept (.reserved .fromWord) then
    let arg ← inner .expression
    pure (arg, none)
  else
    let first ← inner .expression
    if ← accept (.reserved .fromWord) then
      let arg ← inner .expression
      pure (arg, some first)
    else if side.isSome then fail .noFromInTrim
    else pure (first, none)

/-- `TRIM([[side] [character] FROM] operand)`, the opening parenthesis being read. -/
def trimCall : Reading Node := do
  let side ← trimSide?
  let (arg, char) ← trimOperands inner side
  let _ ← expect (.symbol .rightParen) .noTrimClose
  pure (.call "TRIM" [arg] false true side char none)

/-- `CAST(operand AS type)`, the opening parenthesis being read. -/
def castCall : Reading Node := do
  let arg ← inner .expression
  let _ ← expect (.reserved .asWord) .noAsInCast
  let type ← typeName
  let _ ← expect (.symbol .rightParen) .noCastClose
  pure (.call "CAST" [arg] false true none none (some type))

/-- A function over a group of rows, the opening parenthesis being read. -/
def aggregateCall (f : Function) : Reading Node := do
  let t ← current
  if f = .count ∧ t.kind = .symbol .star then
    let _ ← advance
    let _ ← expect (.symbol .rightParen) .noCountClose
    pure (knownCall (TokenKind.function f).name [.star])
  else
    let distinct ← accept (.reserved .distinct)
    let arg ← inner .expression
    let _ ← expect (.symbol .rightParen) (.noAggregateClose f)
    pure (.call (TokenKind.function f).name [arg] distinct true none none none)

/-- A call of a function with a name of its own, the name and the opening parenthesis being the next
two tokens. -/
def functionCall (f : Function) : Reading Node := do
  let nameToken ← advance
  let _ ← expect (.symbol .leftParen) (.noToken (.symbol .leftParen))
  if f.isAggregate then aggregateCall inner f
  else if f = .trim then trimCall inner
  else if f = .cast then castCall inner
  else
    let args ← arguments inner .noArgumentsClose
    if f = .substring ∧ args.length ≠ 2 ∧ args.length ≠ 3 then failAt .substringArity nameToken
    else pure (knownCall (TokenKind.function f).name args)

/-- A call of any other function. -/
def otherCall : Reading Node := do
  let t ← advance
  let _ ← expect (.symbol .leftParen) (.noToken (.symbol .leftParen))
  let args ← arguments inner .noArgumentsClose
  pure (.call t.text args false false none none none)

/-! ## Primary expressions -/

/-- A sub-query or an expression in parentheses, the opening one being next. -/
def parenthesized : Reading Node := do
  let _ ← advance
  if ← at? (.reserved .select) then
    let query ← inner .select
    let _ ← expect (.symbol .rightParen) .noSubqueryClose
    pure (.subquery query)
  else
    let e ← inner .expression
    let _ ← expect (.symbol .rightParen) .noParenClose
    pure (.paren e)

/-- `EXISTS (query)`, the word being next. -/
def existsExpression : Reading Node := do
  let _ ← advance
  let _ ← expect (.symbol .leftParen) .noExistsOpen
  if ← at? (.reserved .select) then
    let query ← inner .select
    let _ ← expect (.symbol .rightParen) .noExistsClose
    pure (.existsQuery query)
  else fail .noExistsQuery

/-- The branches of a case expression. -/
def branches : Reading (List Node) :=
  loop (fun done => do
    if ← accept (.reserved .whenWord) then
      let condition ← inner .expression
      let _ ← expect (.reserved .thenWord) .noThen
      let result ← inner .expression
      pure (some (done ++ [.branch condition result]))
    else pure none) []

/-- A case expression, the word `CASE` being next. -/
def caseExpression : Reading Node := do
  let _ ← advance
  let searched ← at? (.reserved .whenWord)
  let operand ← if searched then pure none else some <$> inner .expression
  let branches ← branches inner
  if branches.isEmpty then fail .noWhen
  else
    let otherwise ← behind (.reserved .elseWord) (inner .expression)
    let _ ← expect (.reserved .endWord) .noEnd
    pure (.caseOf operand branches otherwise)

/-- A literal that is kept as it is written. -/
def spelledLiteral (kind : LiteralKind) : Reading Node := do
  let t ← advance
  pure (.literal t.text kind)

/-- A name that is called when a parenthesis follows it, and starts a path otherwise. -/
def callOrPath (call : Reading Node) : Reading Node := do
  let after ← next
  if after.kind = .symbol .leftParen then call else path

/-- A primary expression. -/
def primary : Reading Node := do
  let t ← current
  match t.kind with
  | .symbol .leftParen => parenthesized inner
  | .integer => spelledLiteral .integer
  | .decimal => spelledLiteral .decimal
  | .string => spelledLiteral .string
  | .reserved .trueWord => do
    let _ ← advance
    pure (.literal "true" .boolean)
  | .reserved .falseWord => do
    let _ ← advance
    pure (.literal "false" .boolean)
  | .reserved .null => do
    let _ ← advance
    pure (.literal "NULL" .null)
  | .namedParameter => parameter
  | .positionalParameter => parameter
  | .reserved .case => caseExpression inner
  | .reserved .exists => existsExpression inner
  | .clock c => do
    let _ ← advance
    pure (knownCall (TokenKind.clock c).name [])
  | .function f => callOrPath (functionCall inner f)
  | .identifier => callOrPath (otherCall inner)
  | _ => fail .unexpectedToken

/-! ## Arithmetic and comparison -/

/-- The two signs. -/
def isSign : TokenKind → Bool
  | .symbol .plus | .symbol .minus => true
  | _ => false

/-- Multiplication, division and remainder. -/
def isMultiplicative : TokenKind → Bool
  | .symbol .star | .symbol .divide | .symbol .modulo => true
  | _ => false

/-- Addition, subtraction and concatenation. -/
def isAdditive : TokenKind → Bool
  | .symbol .plus | .symbol .minus | .symbol .concat => true
  | _ => false

/-- The four order relations. -/
def isComparison : TokenKind → Bool
  | .symbol .lessThan | .symbol .lessEqual | .symbol .greaterThan | .symbol .greaterEqual => true
  | _ => false

/-- Equality and its negation. -/
def isEquality : TokenKind → Bool
  | .symbol .equals | .symbol .notEquals => true
  | _ => false

/-- A sign and its operand, or a primary expression. -/
def signed : Reading Node := do
  let t ← current
  if isSign t.kind then
    let t ← advance
    let operand ← inner .sign
    pure (.unary t.text operand)
  else primary inner

/-- Products. -/
def multiplicative : Reading Node :=
  chain isMultiplicative Token.text (signed inner)

/-- Sums. -/
def additive : Reading Node :=
  chain isAdditive Token.text (multiplicative inner)

/-- Comparisons. -/
def comparison : Reading Node :=
  chain isComparison Token.text (additive inner)

/-! ## Predicates -/

/-- Words that may be negated by a `NOT` in front of them. -/
def isNegatable : TokenKind → Bool
  | .reserved .between | .reserved .inWord | .reserved .like | .reserved .member => true
  | _ => false

/-- Takes a `NOT` that negates the predicate behind it. -/
def negation? : Reading Bool := do
  let t ← current
  let after ← next
  if t.kind = .reserved .not ∧ isNegatable after.kind then
    let _ ← advance
    pure true
  else pure false

/-- The set behind `IN`: a parameter, a sub-query or a list. -/
def inSet (left : Node) (negated : Bool) : Reading Node := do
  let t ← current
  if t.kind.isParameter then
    let p ← parameter
    pure (.inSet left [] none (some p) negated)
  else
    let _ ← expect (.symbol .leftParen) .noInOpen
    if ← at? (.reserved .select) then
      let query ← inner .select
      let _ ← expect (.symbol .rightParen) .noInQueryClose
      pure (.inSet left [] (some query) none negated)
    else
      let values ← commaSeparated (inner .expression)
      let _ ← expect (.symbol .rightParen) .noInListClose
      pure (.inSet left values none none negated)

/-- The bounds behind `BETWEEN`. -/
def between (left : Node) (negated : Bool) : Reading Node := do
  let lower ← comparison inner
  let _ ← expect (.reserved .and) .noAndInBetween
  let upper ← comparison inner
  pure (.between left lower upper negated)

/-- The pattern behind `LIKE`. -/
def like (left : Node) (negated : Bool) : Reading Node := do
  let pattern ← comparison inner
  let escape ← behind (.reserved .escape) (comparison inner)
  pure (.like left pattern escape negated)

/-- The collection behind `MEMBER`. -/
def memberOf (left : Node) (negated : Bool) : Reading Node := do
  let _ ← accept (.reserved .of)
  let collection ← path
  pure (.memberOf left collection negated)

/-- The predicates that may be negated, if one of them comes next. -/
def negatablePredicate? (left : Node) (negated : Bool) : Reading (Option Node) := do
  if ← accept (.reserved .between) then some <$> between inner left negated
  else if ← accept (.reserved .inWord) then some <$> inSet inner left negated
  else if ← accept (.reserved .like) then some <$> like inner left negated
  else if ← accept (.reserved .member) then some <$> memberOf left negated
  else pure none

/-- One equality or predicate with `left` as its first operand. -/
def predicateStep (left : Node) : Reading (Option Node) := do
  let t ← current
  if isEquality t.kind then
    let t ← advance
    let right ← comparison inner
    pure (some (.binary left t.text right))
  else if ← accept (.reserved .is) then
    let negated ← accept (.reserved .not)
    let _ ← expect (.reserved .null) .noNullAfterIs
    pure (some (.isNull left negated))
  else
    let negated ← negation?
    negatablePredicate? inner left negated

/-- Equalities and predicates. -/
def predicate : Reading Node := do
  let left ← comparison inner
  loop (predicateStep inner) left

/-! ## Logic -/

/-- `NOT` and its operand, or a predicate. -/
def negatable : Reading Node := do
  if ← accept (.reserved .not) then
    let operand ← inner .negation
    pure (.unary "NOT" operand)
  else predicate inner

/-- Conjunctions. -/
def conjunction : Reading Node :=
  chain (fun k => decide (k = .reserved .and)) (fun _ => "AND") (negatable inner)

/-- Disjunctions, the loosest tier. -/
def disjunction : Reading Node :=
  chain (fun k => decide (k = .reserved .or)) (fun _ => "OR") (conjunction inner)

end Reading

end EntityQuery
