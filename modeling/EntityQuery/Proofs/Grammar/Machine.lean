import EntityQuery.Grammar.Statement

/-!
# The grammar as a machine

A reading has the tokens that are left in front of it, and knows its depth only when it fails. Here
the same grammar is run by a machine with an explicit state: a position in a list of tokens, which
it may look at or beyond, and a depth that it counts up and down and compares with a limit. Loops go
on until a round gives nothing, and recursion until it comes back; both burn fuel, and a machine
whose fuel is spent has not ended.

The machine keeps a trace of all that it does. Every routine that has to take a token leaves a mark
there when it is done, with the position and the depth at which it had started.

`EntityQuery.Proofs.Grammar.Tracking` shows that the machine ends as the reading does, and what its
trace looks like.
-/

namespace EntityQuery

namespace Machine

/-! ## State -/

/-- What a run is given: the tokens, the last of them apart, the nesting limit, and the fuel of its
loops and recursions. -/
structure Setup where
  words : List Token
  last : Token
  limit : Int
  fuel : Nat

/-- All tokens of a run. -/
def Setup.tokens (u : Setup) : List Token := u.words ++ [u.last]

/-- The routines that take at least one token. -/
inductive Routine where
  | statement | selectStatement | updateStatement | deleteStatement | insertStatement
  | selectItem | fromItem | join | orderItem | assignment
  | expression | disjunction | conjunction | negatable | predicate | comparison | additive
  | multiplicative | signed | primary
  | inSet | caseExpression | functionCall | otherCall | arguments | trimCall
  | path | entityName | typeName | wordAfterDot | parameter
  deriving DecidableEq, Repr

/-- One thing that a machine does. -/
inductive Action where
  /-- Asks for the token with an index. -/
  | look (index : Nat)
  | advance
  | enter
  | leave
  /-- Ends a routine that started at a position and a depth. -/
  | finish (routine : Routine) (pos : Nat) (depth : Int)
  deriving DecidableEq, Repr

/-- An action, and the position and depth after it. -/
structure Event where
  action : Action
  pos : Nat
  depth : Int
  deriving DecidableEq, Repr

/-- The state of a machine, and what it has done so far. -/
structure Memory where
  pos : Nat
  depth : Int
  trace : List Event
  deriving DecidableEq, Repr

/-- Why a machine stops without a value. -/
inductive Stop where
  | failed (e : GrammarError)
  /-- It has not ended with the fuel that it was given. -/
  | spent
  deriving DecidableEq, Repr

end Machine

/-- Programs of the machine. -/
abbrev Machine := ReaderT Machine.Setup (ExceptT Machine.Stop (StateM Machine.Memory))

namespace Machine

variable {α : Type}

/-! ## Instructions -/

/-- Enters an action into the trace. -/
def record (action : Action) : Machine Unit :=
  modify fun m => { m with trace := m.trace ++ [⟨action, m.pos, m.depth⟩] }

/-- The token some places ahead. Out of range it is the last token. -/
def look (offset : Nat) : Machine Token := do
  let u ← read
  let m ← get
  record (.look (m.pos + offset))
  pure (u.tokens.getD (m.pos + offset) u.last)

/-- The current token. -/
def current : Machine Token := look 0

/-- The token after the current one. -/
def next : Machine Token := look 1

/-- Moves to the next token, but not past the last one. -/
def move : Machine Unit := do
  let u ← read
  modify fun m => if m.pos < u.tokens.length - 1 then { m with pos := m.pos + 1 } else m
  record .advance

/-- Takes the current token. -/
def advance : Machine Token := do
  let t ← current
  move
  pure t

/-- Fails with an error about a given token. -/
def failAt (fault : GrammarFault) (t : Token) : Machine α :=
  throw (.failed ⟨fault, t⟩)

/-- Fails at the current token. -/
def fail (fault : GrammarFault) : Machine α := do
  let t ← current
  failAt fault t

/-- Whether the current token has a given kind. -/
def at? (kind : TokenKind) : Machine Bool := do
  let t ← current
  pure (decide (t.kind = kind))

/-- Takes the current token if it has a given kind, and says whether it did. -/
def accept (kind : TokenKind) : Machine Bool := do
  if ← at? kind then
    let _ ← advance
    pure true
  else pure false

/-- Takes a token of a given kind, or fails. -/
def expect (kind : TokenKind) (fault : GrammarFault) : Machine Token := do
  if ← at? kind then advance else fail fault

/-- Goes one nesting level further in, and fails if that is too deep. -/
def enter : Machine Unit := do
  let u ← read
  modify fun m => { m with depth := m.depth + 1 }
  record .enter
  let m ← get
  if u.limit < m.depth then fail (.tooDeep u.limit)

/-- Goes one nesting level further out. -/
def leave : Machine Unit := do
  modify fun m => { m with depth := m.depth - 1 }
  record .leave

/-- Does something one nesting level further in. -/
def nested (inner : Machine α) : Machine α := do
  enter
  let a ← inner
  leave
  pure a

/-- Runs a routine, and marks its end. -/
def routine (r : Routine) (body : Machine α) : Machine α := do
  let m ← get
  let a ← body
  record (.finish r m.pos m.depth)
  pure a

/-- Runs a step until it has nothing more to give, with fuel for some rounds. -/
def iterate (step : α → Machine (Option α)) : Nat → α → Machine α
  | 0, _ => throw .spent
  | n + 1, a => do
    match ← step a with
    | some b => iterate step n b
    | none => pure a

/-- Runs a step until it has nothing more to give. -/
def loop (step : α → Machine (Option α)) (a : α) : Machine α := do
  let u ← read
  iterate step u.fuel a

/-- One or more items with commas between them. -/
def commaSeparated (item : Machine α) : Machine (List α) := do
  let first ← item
  loop (fun items => do
    if ← accept (.symbol .comma) then
      let a ← item
      pure (some (items ++ [a]))
    else pure none) [first]

/-- A program that is run only behind a word. -/
def behind (kind : TokenKind) (inner : Machine α) : Machine (Option α) := do
  if ← accept kind then
    let a ← inner
    pure (some a)
  else pure none

/-! ## Names -/

/-- A name without points. -/
def name (role : String) : Machine String := do
  let t ← current
  if t.kind.isName then
    let t ← advance
    pure t.text
  else fail (.noName role)

/-- The word after a point. -/
def wordAfterDot : Machine String :=
  routine .wordAfterDot do
    let t ← current
    if t.kind.isWord then
      let t ← advance
      pure t.text
    else fail .noWordAfterDot

/-- Names joined by points. -/
def dottedName (role : String) : Machine (List String) := do
  let first ← name role
  loop (fun parts => do
    if ← accept (.symbol .dot) then
      let word ← wordAfterDot
      pure (some (parts ++ [word]))
    else pure none) [first]

/-- An entity name. -/
def entityName : Machine String :=
  routine .entityName do
    let parts ← dottedName "entity name"
    pure (dotted parts)

/-- A path. -/
def path : Machine Node :=
  routine .path do
    let parts ← dottedName "identifier"
    pure (.path parts)

/-- An alias, if there is one. -/
def alias? : Machine (Option String) := do
  if ← accept (.reserved .asWord) then
    let a ← name "alias after AS"
    pure (some a)
  else if ← at? .identifier then
    let t ← advance
    pure (some t.text)
  else pure none

/-- A type. -/
def typeName : Machine String :=
  routine .typeName do
    let base ← entityName
    if ← accept (.symbol .leftParen) then
      let sizes ← commaSeparated (expect .integer .noTypeSize)
      let _ ← expect (.symbol .rightParen) (.noToken (.symbol .rightParen))
      pure (base ++ "(" ++ ", ".intercalate (sizes.map Token.text) ++ ")")
    else pure base

/-- A parameter. -/
def parameter : Machine Node :=
  routine .parameter do
    let t ← advance
    if t.kind = .namedParameter then pure (.parameter (String.ofList t.text.toList.tail) false)
    else pure (.parameter t.text true)

section Inner

variable (inner : Entry → Machine Node)

/-! ## Expressions -/

/-- A chain of operands, grouped to the left. -/
def chain (isOperator : TokenKind → Bool) (operator : Token → String) (operand : Machine Node) :
    Machine Node := do
  let first ← operand
  loop (fun left => do
    let t ← current
    if isOperator t.kind then
      let t ← advance
      let right ← operand
      pure (some (.binary left (operator t) right))
    else pure none) first

/-- Arguments and the closing parenthesis. -/
def argumentsTo (fault : GrammarFault) : Machine (List Node) := do
  if ← accept (.symbol .rightParen) then pure []
  else
    let args ← commaSeparated (inner .expression)
    let _ ← expect (.symbol .rightParen) fault
    pure args

/-- The arguments of a call. -/
def arguments : Machine (List Node) :=
  routine .arguments (argumentsTo inner .noArgumentsClose)

/-- The end from which to trim. The token behind the word is looked at only where the word can be a
side. -/
def trimSide? : Machine (Option String) := do
  let t ← current
  if t.kind = .identifier ∧ Reading.isTrimSide (Text.upper t.text) then
    let after ← next
    if after.kind ≠ .symbol .rightParen ∧ after.kind ≠ .symbol .dot then
      let _ ← advance
      pure (some (Text.upper t.text))
    else pure none
  else pure none

/-- What to trim and the character to trim. -/
def trimOperands (side : Option String) : Machine (Node × Option Node) := do
  if ← accept (.reserved .fromWord) then
    let arg ← inner .expression
    pure (arg, none)
  else
    let first ← inner .expression
    if ← accept (.reserved .fromWord) then
      let arg ← inner .expression
      pure (arg, some first)
    else if side.isSome then fail .noFromInTrim
    else pure (first, none)

/-- What stands in the parentheses of a trim, and the closing one. -/
def trimCall : Machine Node :=
  routine .trimCall do
    let side ← trimSide?
    let (arg, char) ← trimOperands inner side
    let _ ← expect (.symbol .rightParen) .noTrimClose
    pure (.call "TRIM" [arg] false true side char none)

/-- What stands in the parentheses of a cast, and the closing one. -/
def castCall : Machine Node := do
  let arg ← inner .expression
  let _ ← expect (.reserved .asWord) .noAsInCast
  let type ← typeName
  let _ ← expect (.symbol .rightParen) .noCastClose
  pure (.call "CAST" [arg] false true none none (some type))

/-- What stands in the parentheses of a function over a group of rows, and the closing one. -/
def aggregateCall (f : Function) : Machine Node := do
  let t ← current
  if f = .count ∧ t.kind = .symbol .star then
    let _ ← advance
    let _ ← expect (.symbol .rightParen) .noCountClose
    pure (Reading.knownCall (TokenKind.function f).name [.star])
  else
    let distinct ← accept (.reserved .distinct)
    let arg ← inner .expression
    let _ ← expect (.symbol .rightParen) (.noAggregateClose f)
    pure (.call (TokenKind.function f).name [arg] distinct true none none none)

/-- A call of a function with a name of its own. -/
def functionCall (f : Function) : Machine Node :=
  routine .functionCall do
    let nameToken ← advance
    let _ ← expect (.symbol .leftParen) (.noToken (.symbol .leftParen))
    if f.isAggregate then aggregateCall inner f
    else if f = .trim then trimCall inner
    else if f = .cast then castCall inner
    else
      let args ← arguments inner
      if f = .substring ∧ args.length ≠ 2 ∧ args.length ≠ 3 then failAt .substringArity nameToken
      else pure (Reading.knownCall (TokenKind.function f).name args)

/-- A call of any other function. -/
def otherCall : Machine Node :=
  routine .otherCall do
    let t ← advance
    let _ ← expect (.symbol .leftParen) (.noToken (.symbol .leftParen))
    let args ← arguments inner
    pure (.call t.text args false false none none none)

/-- A sub-query or an expression in parentheses. -/
def parenthesized : Machine Node := do
  let _ ← advance
  if ← at? (.reserved .select) then
    let query ← inner .select
    let _ ← expect (.symbol .rightParen) .noSubqueryClose
    pure (.subquery query)
  else
    let e ← inner .expression
    let _ ← expect (.symbol .rightParen) .noParenClose
    pure (.paren e)

/-- `EXISTS (query)`. -/
def existsExpression : Machine Node := do
  let _ ← advance
  let _ ← expect (.symbol .leftParen) .noExistsOpen
  if ← at? (.reserved .select) then
    let query ← inner .select
    let _ ← expect (.symbol .rightParen) .noExistsClose
    pure (.existsQuery query)
  else fail .noExistsQuery

/-- The branches of a case expression. -/
def branches : Machine (List Node) :=
  loop (fun done => do
    if ← accept (.reserved .whenWord) then
      let condition ← inner .expression
      let _ ← expect (.reserved .thenWord) .noThen
      let result ← inner .expression
      pure (some (done ++ [.branch condition result]))
    else pure none) []

/-- A case expression. -/
def caseExpression : Machine Node :=
  routine .caseExpression do
    let _ ← advance
    let searched ← at? (.reserved .whenWord)
    let operand ← if searched then pure none else some <$> inner .expression
    let branches ← branches inner
    if branches.isEmpty then fail .noWhen
    else
      let otherwise ← behind (.reserved .elseWord) (inner .expression)
      let _ ← expect (.reserved .endWord) .noEnd
      pure (.caseOf operand branches otherwise)

/-- A literal that is kept as it is written. -/
def spelledLiteral (kind : LiteralKind) : Machine Node := do
  let t ← advance
  pure (.literal t.text kind)

/-- A word that stands for a value. -/
def keyword (value : Node) : Machine Node := do
  let _ ← advance
  pure value

/-- A name that is called when a parenthesis follows it, and starts a path otherwise. -/
def callOrPath (call : Machine Node) : Machine Node := do
  let after ← next
  if after.kind = .symbol .leftParen then call else path

/-- A primary expression. -/
def primary : Machine Node :=
  routine .primary do
    let t ← current
    match t.kind with
    | .symbol .leftParen => parenthesized inner
    | .integer => spelledLiteral .integer
    | .decimal => spelledLiteral .decimal
    | .string => spelledLiteral .string
    | .reserved .trueWord => keyword (.literal "true" .boolean)
    | .reserved .falseWord => keyword (.literal "false" .boolean)
    | .reserved .null => keyword (.literal "NULL" .null)
    | .namedParameter => parameter
    | .positionalParameter => parameter
    | .reserved .case => caseExpression inner
    | .reserved .exists => existsExpression inner
    | .clock c => keyword (Reading.knownCall (TokenKind.clock c).name [])
    | .function f => callOrPath (functionCall inner f)
    | .identifier => callOrPath (otherCall inner)
    | _ => fail .unexpectedToken

/-- A sign and its operand, or a primary expression. -/
def signed : Machine Node :=
  routine .signed do
    let t ← current
    if Reading.isSign t.kind then
      let t ← advance
      let operand ← inner .sign
      pure (.unary t.text operand)
    else primary inner

/-- Products. -/
def multiplicative : Machine Node :=
  routine .multiplicative (chain Reading.isMultiplicative Token.text (signed inner))

/-- Sums. -/
def additive : Machine Node :=
  routine .additive (chain Reading.isAdditive Token.text (multiplicative inner))

/-- Comparisons. -/
def comparison : Machine Node :=
  routine .comparison (chain Reading.isComparison Token.text (additive inner))

/-- Takes a `NOT` that negates the predicate behind it. Only behind a `NOT` the next token
is looked at. -/
def negation? : Machine Bool := do
  if ← at? (.reserved .not) then
    let after ← next
    if Reading.isNegatable after.kind then
      let _ ← advance
      pure true
    else pure false
  else pure false

/-- The set behind `IN`. -/
def inSet (left : Node) (negated : Bool) : Machine Node :=
  routine .inSet do
    let t ← current
    if t.kind.isParameter then
      let p ← parameter
      pure (.inSet left [] none (some p) negated)
    else
      let _ ← expect (.symbol .leftParen) .noInOpen
      if ← at? (.reserved .select) then
        let query ← inner .select
        let _ ← expect (.symbol .rightParen) .noInQueryClose
        pure (.inSet left [] (some query) none negated)
      else
        let values ← commaSeparated (inner .expression)
        let _ ← expect (.symbol .rightParen) .noInListClose
        pure (.inSet left values none none negated)

/-- The bounds behind `BETWEEN`. -/
def between (left : Node) (negated : Bool) : Machine Node := do
  let lower ← comparison inner
  let _ ← expect (.reserved .and) .noAndInBetween
  let upper ← comparison inner
  pure (.between left lower upper negated)

/-- The pattern behind `LIKE`. -/
def like (left : Node) (negated : Bool) : Machine Node := do
  let pattern ← comparison inner
  let escape ← behind (.reserved .escape) (comparison inner)
  pure (.like left pattern escape negated)

/-- The collection behind `MEMBER`. -/
def memberOf (left : Node) (negated : Bool) : Machine Node := do
  let _ ← accept (.reserved .of)
  let collection ← path
  pure (.memberOf left collection negated)

/-- The predicates that may be negated, if one of them comes next. -/
def negatablePredicate? (left : Node) (negated : Bool) : Machine (Option Node) := do
  if ← accept (.reserved .between) then some <$> between inner left negated
  else if ← accept (.reserved .inWord) then some <$> inSet inner left negated
  else if ← accept (.reserved .like) then some <$> like inner left negated
  else if ← accept (.reserved .member) then some <$> memberOf left negated
  else pure none

/-- One equality or predicate. -/
def predicateStep (left : Node) : Machine (Option Node) := do
  let t ← current
  if Reading.isEquality t.kind then
    let t ← advance
    let right ← comparison inner
    pure (some (.binary left t.text right))
  else if ← accept (.reserved .is) then
    let negated ← accept (.reserved .not)
    let _ ← expect (.reserved .null) .noNullAfterIs
    pure (some (.isNull left negated))
  else
    let negated ← negation?
    negatablePredicate? inner left negated

/-- Equalities and predicates. -/
def predicate : Machine Node :=
  routine .predicate do
    let left ← comparison inner
    loop (predicateStep inner) left

/-- `NOT` and its operand, or a predicate. -/
def negatable : Machine Node :=
  routine .negatable do
    if ← accept (.reserved .not) then
      let operand ← inner .negation
      pure (.unary "NOT" operand)
    else predicate inner

/-- Conjunctions. -/
def conjunction : Machine Node :=
  routine .conjunction
    (chain (fun k => decide (k = .reserved .and)) (fun _ => "AND") (negatable inner))

/-- Disjunctions. -/
def disjunction : Machine Node :=
  routine .disjunction
    (chain (fun k => decide (k = .reserved .or)) (fun _ => "OR") (conjunction inner))

/-! ## Clauses -/

/-- An item of a select list. -/
def selectItem : Machine Node :=
  routine .selectItem do
    if ← accept (.reserved .new) then
      let className ← entityName
      let _ ← expect (.symbol .leftParen) .noConstructorOpen
      let args ← argumentsTo inner .noConstructorClose
      let asName ← alias?
      pure (.constructor className args asName)
    else
      let e ← inner .expression
      let asName ← alias?
      pure (.selectItem e asName)

/-- The words before `JOIN`. -/
def joinKind : Machine JoinKind := do
  if ← accept (.reserved .inner) then pure .inner
  else if ← accept (.reserved .left) then
    if ← accept (.reserved .outer) then pure .leftOuter else pure .left
  else if ← accept (.reserved .right) then
    if ← accept (.reserved .outer) then pure .rightOuter else pure .right
  else pure .plain

/-- A join. -/
def join : Machine Node :=
  routine .join do
    let kind ← joinKind
    let _ ← expect (.reserved .join) (.noToken (.reserved .join))
    let fetch ← accept (.reserved .fetch)
    let along ← path
    let asName ← alias?
    let condition ← behind (.reserved .on) (inner .expression)
    pure (.join kind along asName fetch condition)

/-- The joins of an item of a from list. -/
def joins : Machine (List Node) :=
  loop (fun done => do
    let t ← current
    if Reading.startsJoin t.kind then
      let j ← join inner
      pure (some (done ++ [j]))
    else pure none) []

/-- An item of a from list. -/
def fromItem : Machine Node :=
  routine .fromItem do
    let entity ← entityName
    let asName ← alias?
    let joins ← joins inner
    pure (.fromItem entity asName joins)

/-- The direction of an ordering. -/
def direction? : Machine (Option Direction) := do
  if ← accept (.reserved .asc) then pure (some .ascending)
  else if ← accept (.reserved .desc) then pure (some .descending)
  else pure none

/-- The place of nulls in an ordering. -/
def nullsPlace? : Machine (Option String) := do
  if ← accept (.reserved .nulls) then
    if ← accept (.reserved .first) then pure (some "FIRST")
    else if ← accept (.reserved .last) then pure (some "LAST")
    else fail .noNullsPlace
  else pure none

/-- An item of an ordering. -/
def orderItem : Machine Node :=
  routine .orderItem do
    let e ← inner .expression
    let direction ← direction?
    let nulls ← nullsPlace?
    pure (.orderItem e direction nulls)

/-- The grouping of a select statement. -/
def grouping : Machine (List Node) := do
  if ← accept (.reserved .group) then
    let _ ← expect (.reserved .byWord) .noByAfterGroup
    commaSeparated (inner .expression)
  else pure []

/-- The ordering of a select statement. -/
def ordering : Machine (List Node) := do
  if ← accept (.reserved .order) then
    let _ ← expect (.reserved .byWord) .noByAfterOrder
    commaSeparated (orderItem inner)
  else pure []

/-- A condition, if there is one. -/
def condition? : Machine (Option Node) :=
  behind (.reserved .whereWord) (inner .expression)

/-- An assignment of an update. -/
def assignment : Machine Node :=
  routine .assignment do
    let target ← path
    let _ ← expect (.symbol .equals) .noEqualsInSet
    let value ← inner .expression
    pure (.assignment target value)

/-! ## Statements -/

/-- A select statement, one level further in. -/
def selectStatement : Machine Node := do
  let _ ← expect (.reserved .select) (.noToken (.reserved .select))
  let distinct ← accept (.reserved .distinct)
  let items ← commaSeparated (selectItem inner)
  let _ ← expect (.reserved .fromWord) (.noToken (.reserved .fromWord))
  let sources ← commaSeparated (fromItem inner)
  let condition ← condition? inner
  let grouping ← grouping inner
  let having ← behind (.reserved .having) (inner .expression)
  let ordering ← ordering inner
  pure (.select items sources distinct condition grouping having ordering)

/-- An update statement. -/
def updateStatement : Machine Node :=
  routine .updateStatement do
    let _ ← expect (.reserved .update) (.noToken (.reserved .update))
    let entity ← entityName
    let asName ← alias?
    let _ ← expect (.reserved .set) (.noToken (.reserved .set))
    let assignments ← commaSeparated (assignment inner)
    let condition ← condition? inner
    pure (.update entity asName assignments condition)

/-- A delete statement. -/
def deleteStatement : Machine Node :=
  routine .deleteStatement do
    let _ ← expect (.reserved .delete) (.noToken (.reserved .delete))
    let _ ← accept (.reserved .fromWord)
    let entity ← entityName
    let asName ← alias?
    let condition ← condition? inner
    pure (.delete entity asName condition)

/-- An insert statement. -/
def insertStatement : Machine Node :=
  routine .insertStatement do
    let _ ← expect (.reserved .insert) (.noToken (.reserved .insert))
    let _ ← expect (.reserved .into) .noInto
    let entity ← entityName
    let _ ← expect (.symbol .leftParen) .noTargetsOpen
    let targets ← commaSeparated path
    let _ ← expect (.symbol .rightParen) .noTargetsClose
    if ← at? (.reserved .select) then
      let source ← inner .select
      pure (.insert entity targets (some source))
    else fail .noInsertSource

/-- A statement, chosen by its first word. -/
def statement : Machine Node :=
  routine .statement do
    let t ← current
    match t.kind with
    | .reserved .select => inner .select
    | .reserved .update => updateStatement inner
    | .reserved .delete => deleteStatement inner
    | .reserved .insert => insertStatement inner
    | _ => fail .noStatement

/-- A whole query. -/
def query : Machine Node := do
  let node ← statement inner
  let _ ← accept (.symbol .semicolon)
  if ← at? .endOfInput then pure node else fail .trailingToken

/-- What is done at a place where a query nests. -/
def atEntry : Entry → Machine Node
  | .expression => routine .expression (nested (disjunction inner))
  | .select => routine .selectStatement (nested (selectStatement inner))
  | .negation => nested (negatable inner)
  | .sign => nested (signed inner)

end Inner

/-- The programs of the places where a query nests. They call each other, with fuel for some calls
within each other. -/
def level : Nat → Entry → Machine Node
  | 0, _ => throw .spent
  | n + 1, entry => atEntry (level n) entry

/-- Runs the machine on a query, from the first token at depth zero. -/
def parse (u : Setup) : Except Stop Node × Memory :=
  query (level u.fuel) u ⟨0, 0, []⟩

end Machine

end EntityQuery
