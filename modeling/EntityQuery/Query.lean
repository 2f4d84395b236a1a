import EntityQuery.Grammar.Statement
import EntityQuery.Token.Scan

/-!
# Queries

From the text of a query to its tree. A query is malformed in one of two ways: its text is no list
of tokens, or its tokens are no statement.

The nesting levels of a query are levels of calls, so a run also needs a call stack. The stack is a
parameter: a run that exhausts it fails where it stands. A run for which no stack is named has an
ample one.
-/

namespace EntityQuery

/-- Why a query is malformed. -/
inductive QueryError where
  | lexical (e : LexicalError)
  | grammatical (e : GrammarError)
  deriving DecidableEq, Repr

/-- A message with the place it is about. -/
def located (message : String) (pos : Position) : String :=
  message ++ " at line " ++ toString pos.line ++ ", column " ++ toString pos.column

namespace QueryError

/-- The wording of an error, without its place. -/
def wording : QueryError → String
  | .lexical e => e.fault.message
  | .grammatical e => e.fault.message e.token

/-- The place of an error. -/
def pos : QueryError → Position
  | .lexical e => e.pos
  | .grammatical e => e.token.pos

/-- The full text of an error. -/
def message (e : QueryError) : String :=
  located e.wording e.pos

end QueryError

/-! ## One run over a list of tokens -/

/-- The nesting limit unless another one is asked for. -/
def defaultMaxDepth : Int := 64

/-- How a run over a list of tokens ended: its result, the number of tokens before its last place,
and its depth there. -/
structure ParseRun where
  result : Except GrammarError Node
  pos : Nat
  depth : Nat

/-- Where a call stack was exhausted: the number of tokens that had been taken, and the nesting
depth. -/
structure Exhaustion where
  taken : Nat
  depth : Nat

/--
The call stack of a run, seen from the run: whether and where reading a stream under a nesting limit
exhausts it. How many calls a nesting level takes and how many were open before is left to the
stack.
-/
structure CallStack where
  exhaustion? : Int → Stream → Option Exhaustion

/-- A stack that is never exhausted. -/
def CallStack.ample : CallStack := ⟨fun _ _ => none⟩

/-- Reads a stream of tokens as a query, with at most `maxDepth` nesting levels. -/
def parseStream (maxDepth : Int) (s : Stream) (stack : CallStack := .ample) : ParseRun :=
  match stack.exhaustion? maxDepth s with
  | some x =>
    let rest := s.drop x.taken
    ⟨.error ⟨.nestedTooDeeply, rest.current⟩, rest.pos, x.depth⟩
  | none =>
    match Reading.query (Reading.level maxDepth maxDepth.toNat) s with
    | .ok (node, rest) => ⟨.ok node, rest.pos, 0⟩
    | .error f => ⟨.error f.error, f.pos, f.depth⟩

theorem parseStream_ample (maxDepth : Int) (s : Stream) :
    parseStream maxDepth s =
      match Reading.query (Reading.level maxDepth maxDepth.toNat) s with
      | .ok (node, rest) => ⟨.ok node, rest.pos, 0⟩
      | .error f => ⟨.error f.error, f.pos, f.depth⟩ :=
  rfl

/-- Parses a query. -/
def parse (maxDepth : Int) (query : String) (stack : CallStack := .ample) :
    Except QueryError Node :=
  let scan := scan query
  match scan.error? with
  | some e => .error (.lexical e)
  | none =>
    match (parseStream maxDepth (Stream.start scan.tokens (.ending scan.stop)) stack).result with
    | .ok node => .ok node
    | .error e => .error (.grammatical e)

/-! ## A parser that is used again -/

/-- A nesting limit with what the last run left behind: its tokens, its place and its depth. -/
structure Parser where
  maxDepth : Int := defaultMaxDepth
  tokens : List Token := []
  pos : Nat := 0
  depth : Nat := 0

namespace Parser

/-- Parses a query. A lexical error leaves everything as the run before left it. -/
def parse (p : Parser) (query : String) (stack : CallStack := .ample) :
    Log.Logging (Except QueryError Node × Parser) := do
  let scan := scan query
  scan.report query
  match scan.error? with
  | some e => pure (.error (.lexical e), p)
  | none =>
    let run := parseStream p.maxDepth (Stream.start scan.tokens (.ending scan.stop)) stack
    let after := { p with tokens := scan.stored, pos := run.pos, depth := run.depth }
    match run.result with
    | .ok node => do
      Log.write .parsing .debug ("Parsed " ++ node.kindName)
      pure (.ok node, after)
    | .error e => pure (.error (.grammatical e), after)

/-- Whether a query is well formed. -/
def isValid (p : Parser) (query : String) (stack : CallStack := .ample) :
    Log.Logging (Bool × Parser) := do
  let (result, after) ← p.parse query stack
  match result with
  | .ok _ => pure (true, after)
  | .error e => do
    Log.write .parsing .debug ("Invalid query: " ++ e.message)
    pure (false, after)

end Parser

end EntityQuery
