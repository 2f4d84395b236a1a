import EntityQuery.Token

/-!
# Reading tokens

A stream of tokens always has a current token: its last token ends the input, and reading does not
move past it. A reading takes tokens off a stream and gives a value, or fails at the current token.

A failure knows how deep it lies: it starts at depth zero, and each nesting level that it leaves on
its way out adds one (`Reading.nested`). No reading has to carry the depth along.
-/

namespace EntityQuery

/-! ## Streams -/

/-- The current token, the tokens after it, and the number of tokens before it. -/
structure Stream where
  current : Token
  ahead : List Token
  pos : Nat
  deriving DecidableEq, Repr

namespace Stream

/-- The stream of a list of tokens that is followed by `last`. -/
def start (tokens : List Token) (last : Token) : Stream :=
  match tokens with
  | [] => ⟨last, [], 0⟩
  | t :: rest => ⟨t, rest ++ [last], 0⟩

/-- The token after the current one; at the end, the last token. -/
def next (s : Stream) : Token :=
  s.ahead.headD s.current

/-- One token further, except at the end. -/
def tail (s : Stream) : Stream :=
  match s.ahead with
  | [] => s
  | t :: rest => ⟨t, rest, s.pos + 1⟩

/-- A number of tokens further, but not beyond the end. -/
def drop (s : Stream) (n : Nat) : Stream :=
  n.repeat tail s

end Stream

/-! ## Failures -/

/-- What a reading missed, or could not go on with. -/
inductive GrammarFault where
  | noStatement
  | noToken (kind : TokenKind)
  | noName (role : String)
  | noWordAfterDot
  | noByAfterGroup
  | noByAfterOrder
  | noEqualsInSet
  | noInto
  | noTargetsOpen
  | noTargetsClose
  | noInsertSource
  | noConstructorOpen
  | noConstructorClose
  | noNullsPlace
  | noNullAfterIs
  | noAndInBetween
  | noInOpen
  | noInQueryClose
  | noInListClose
  | noSubqueryClose
  | noParenClose
  | noExistsOpen
  | noExistsQuery
  | noExistsClose
  | noArgumentsClose
  | noCountClose
  | noAggregateClose (f : Function)
  | noAsInCast
  | noCastClose
  | noFromInTrim
  | noTrimClose
  | noTypeSize
  | noThen
  | noWhen
  | noEnd
  | substringArity
  | unexpectedToken
  | trailingToken
  | tooDeep (limit : Int)
  | nestedTooDeeply
  deriving DecidableEq, Repr

/-- The wording of a failure at a token. -/
def GrammarFault.message (t : Token) : GrammarFault → String
  | .noStatement => "Expected SELECT, UPDATE, DELETE or INSERT but found " ++ t.describe
  | .noToken kind => "Expected " ++ kind.name ++ " but found " ++ t.describe
  | .noName role => "Expected " ++ role ++ " but found " ++ t.describe
  | .noWordAfterDot => "Expected identifier after '.' but found " ++ t.describe
  | .noByAfterGroup => "Expected BY after GROUP"
  | .noByAfterOrder => "Expected BY after ORDER"
  | .noEqualsInSet => "Expected '=' in SET clause"
  | .noInto => "Expected INTO after INSERT"
  | .noTargetsOpen => "Expected '(' before INSERT target list"
  | .noTargetsClose => "Expected ')' after INSERT target list"
  | .noInsertSource => "INSERT requires a SELECT source"
  | .noConstructorOpen => "Expected '(' after constructor class name"
  | .noConstructorClose => "Expected ')' to close constructor arguments but found " ++ t.describe
  | .noNullsPlace => "Expected FIRST or LAST after NULLS"
  | .noNullAfterIs => "Expected NULL after IS"
  | .noAndInBetween => "Expected AND in BETWEEN"
  | .noInOpen => "Expected '(' after IN"
  | .noInQueryClose => "Expected ')' after IN sub-query"
  | .noInListClose => "Expected ')' to close IN list"
  | .noSubqueryClose => "Expected ')' after sub-query"
  | .noParenClose => "Expected ')' but found " ++ t.describe
  | .noExistsOpen => "Expected '(' after EXISTS"
  | .noExistsQuery => "Expected sub-query after EXISTS"
  | .noExistsClose => "Expected ')' after EXISTS sub-query"
  | .noArgumentsClose => "Expected ')' to close function arguments but found " ++ t.describe
  | .noCountClose => "Expected ')' after COUNT(*"
  | .noAggregateClose f => "Expected ')' to close " ++ (TokenKind.function f).name
  | .noAsInCast => "Expected AS in CAST"
  | .noCastClose => "Expected ')' to close CAST"
  | .noFromInTrim => "Expected FROM in TRIM"
  | .noTrimClose => "Expected ')' to close TRIM"
  | .noTypeSize => "Expected type size"
  | .noThen => "Expected THEN in CASE"
  | .noWhen => "CASE requires at least one WHEN"
  | .noEnd => "Expected END to close CASE"
  | .substringArity => "SUBSTRING expects 2 or 3 arguments"
  | .unexpectedToken => "Unexpected token " ++ t.describe
  | .trailingToken => "Unexpected token " ++ t.describe ++ " after end of statement"
  | .tooDeep limit => "Maximum nesting depth of " ++ toString limit ++ " exceeded"
  | .nestedTooDeeply => "Query is nested too deeply"

/-- A grammatical error and the token it is about. -/
structure GrammarError where
  fault : GrammarFault
  token : Token
  deriving DecidableEq, Repr

/-- A failed reading: the error, the number of tokens before the place where it stopped, and how
deep it lay. -/
structure Failure where
  error : GrammarError
  pos : Nat
  depth : Nat
  deriving DecidableEq, Repr

/-! ## Readings -/

/-- Takes tokens off a stream and gives a value, or fails. -/
abbrev Reading := StateT Stream (Except Failure)

namespace Reading

/-- The current token. -/
def current : Reading Token := fun s => .ok (s.current, s)

/-- The token after the current one. -/
def next : Reading Token := fun s => .ok (s.next, s)

/-- Takes the current token. -/
def advance : Reading Token := fun s => .ok (s.current, s.tail)

/-- Fails with an error about a given token. -/
def failAt {α : Type} (fault : GrammarFault) (t : Token) : Reading α :=
  fun s => .error ⟨⟨fault, t⟩, s.pos, 0⟩

/-- Fails at the current token. -/
def fail {α : Type} (fault : GrammarFault) : Reading α :=
  fun s => failAt fault s.current s

/-- Whether the current token has a given kind. -/
def at? (kind : TokenKind) : Reading Bool :=
  fun s => .ok (decide (s.current.kind = kind), s)

/-- Takes the current token if it has a given kind, and says whether it did. -/
def accept (kind : TokenKind) : Reading Bool :=
  fun s => if s.current.kind = kind then .ok (true, s.tail) else .ok (false, s)

/-- Takes a token of a given kind, or fails. -/
def expect (kind : TokenKind) (fault : GrammarFault) : Reading Token :=
  fun s => if s.current.kind = kind then .ok (s.current, s.tail) else fail fault s

/-- One nesting level further in: a failure inside lies one level deeper. -/
def nested {α : Type} (inner : Reading α) : Reading α :=
  fun s =>
    match inner s with
    | .ok r => .ok r
    | .error f => .error { f with depth := f.depth + 1 }

/-- The failure of a reading that would have to go deeper than the limit allows. -/
def tooDeep {α : Type} (limit : Int) : Reading α :=
  nested (fail (.tooDeep limit))

/-! ## Repetition -/

/-- Runs a step until it has nothing more to give, at most `n` times. -/
def iterate {α : Type} (step : α → Reading (Option α)) : Nat → α → Reading α
  | 0, a => pure a
  | n + 1, a => do
    match ← step a with
    | some b => iterate step n b
    | none => pure a

/--
Runs a step until it has nothing more to give. A step that gives something takes at least one token,
so there are no more rounds than tokens ahead.
-/
def loop {α : Type} (step : α → Reading (Option α)) (a : α) : Reading α :=
  fun s => iterate step s.ahead.length a s

/-- One or more items with a separator between them. -/
def separated {α : Type} (separator : TokenKind) (item : Reading α) : Reading (List α) := do
  let first ← item
  loop (fun items => do
    if ← accept separator then
      let a ← item
      pure (some (items ++ [a]))
    else pure none) [first]

/-- One or more items with commas between them. -/
def commaSeparated {α : Type} (item : Reading α) : Reading (List α) :=
  separated (.symbol .comma) item

/-- A reading that is tried only behind a word. -/
def behind {α : Type} (kind : TokenKind) (inner : Reading α) : Reading (Option α) := do
  if ← accept kind then
    let a ← inner
    pure (some a)
  else pure none

end Reading

end EntityQuery
