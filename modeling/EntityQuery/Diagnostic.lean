import EntityQuery.Sql.Converter

/-!
# Diagnostics

What is reported about a query that is malformed or cannot be converted: a message with the place it
is about, or with the statement.
-/

namespace EntityQuery

/-- A report. -/
inductive Diagnostic where
  /-- A malformed query. -/
  | malformed (message : String) (line column : Option Int)
  /-- A malformed query, found while reading tokens. -/
  | lexical (message : String) (line column : Option Int)
  /-- A malformed query, found at a token. -/
  | syntactic (message : String) (token : Option Token)
  /-- A query that cannot be converted. -/
  | conversion (message : String) (statement : Option String)
  /-- A construct that has no counterpart in SQL. -/
  | unsupported (feature : String) (statement : Option String)

namespace Diagnostic

/-- The place that a report is about. -/
def place : Diagnostic → Option Int × Option Int
  | .malformed _ line column => (line, column)
  | .lexical _ line column => (line, column)
  | .syntactic _ (some token) => (some token.pos.line, some token.pos.column)
  | .syntactic _ none => (none, none)
  | .conversion .. => (none, none)
  | .unsupported .. => (none, none)

/-- The message alone. -/
def message : Diagnostic → String
  | .malformed message _ _ => message
  | .lexical message _ _ => message
  | .syntactic message _ => message
  | .conversion message _ => message
  | .unsupported feature _ => (Sql.RenderFault.unsupported feature).message

/-- The message with its place, if a line is known. -/
def text (d : Diagnostic) : String :=
  match d.place with
  | (some line, column) =>
    let shown := match column with
      | some c => toString c
      | none => "None"
    d.message ++ " at line " ++ toString line ++ ", column " ++ shown
  | (none, _) => d.message

end Diagnostic

/-- The report of a malformed query. -/
def QueryError.diagnostic (e : QueryError) : Diagnostic :=
  match e with
  | .lexical l => .lexical e.wording (some l.pos.line) (some l.pos.column)
  | .grammatical g => .syntactic e.wording (some g.token)

end EntityQuery
