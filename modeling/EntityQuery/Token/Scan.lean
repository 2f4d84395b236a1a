import EntityQuery.Log
import EntityQuery.Token.Lexeme

/-!
# Scanning a query

The list of tokens of a text. Blanks and comments are dropped, every token knows its place, and the
list ends in one ending token. Scanning stops at the first lexical error; the tokens read before it
are kept.

The scan ends because whatever stands at the front of a text takes at least one character
(`Lexeme.length_lt_of_skip`, `Lexeme.length_lt_of_token`).
-/

namespace EntityQuery

/-- A lexical error with the place of the construct that it is about. -/
structure LexicalError where
  fault : LexicalFault
  pos : Position
  deriving DecidableEq, Repr

/-- How far a scan came: the tokens read, the place where it stopped, and the error that
stopped it. -/
structure Scan where
  tokens : List Token
  stop : Position
  error? : Option LexicalError
  deriving DecidableEq, Repr

/-- A scan with one more token in front. -/
def Scan.cons (t : Token) (s : Scan) : Scan :=
  { s with tokens := t :: s.tokens }

/-- Scans a text whose first character stands at `pos`. -/
def scanFrom (pos : Position) (cs : List Char) : Scan :=
  match cs with
  | [] => ⟨[], pos, none⟩
  | c :: rest =>
    match _h : Lexeme.front c rest with
    | .skip text rest' => scanFrom (pos.after text) rest'
    | .token kind text rest' =>
      (scanFrom (pos.after text) rest').cons ⟨kind, String.ofList text, pos⟩
    | .fault reason read => ⟨[], pos.after read, some ⟨reason, pos⟩⟩
termination_by cs.length
decreasing_by
  · exact Lexeme.length_lt_of_skip _h
  · exact Lexeme.length_lt_of_token _h

/-- Scans a query. -/
def scan (query : String) : Scan :=
  scanFrom {} query.toList

namespace Scan

/-- The tokens that a scan leaves behind: those read before an error, or all of them and the
ending. -/
def stored (s : Scan) : List Token :=
  match s.error? with
  | some _ => s.tokens
  | none => s.tokens ++ [.ending s.stop]

/-- The complete list of tokens, or the error. -/
def result (s : Scan) : Except LexicalError (List Token) :=
  match s.error? with
  | some e => .error e
  | none => .ok s.stored

end Scan

/-- The tokens of a query. -/
def tokenize (query : String) : Except LexicalError (List Token) :=
  (scan query).result

/-- What a scan has to say: the size of a complete list. -/
def Scan.report (query : String) (s : Scan) : Log.Logging Unit :=
  match s.error? with
  | some _ => pure ()
  | none =>
    Log.write .tokens .debug
      ("Tokenized " ++ toString query.length ++ " characters into " ++ toString s.stored.length ++
        " tokens")

/-! ## A scanner that is used again -/

/-- A query with the tokens of its last scan and the place where that scan stopped. -/
structure Scanner where
  query : String
  stored : List Token := []
  pos : Position := {}

namespace Scanner

/-- Scans the query afresh. -/
def tokenize (s : Scanner) : Log.Logging (Except LexicalError (List Token) × Scanner) := do
  let scan := scan s.query
  scan.report s.query
  pure (scan.result, { s with stored := scan.stored, pos := scan.stop })

/-- The stored tokens; the query is scanned only when there are none. -/
def tokens (s : Scanner) : Log.Logging (Except LexicalError (List Token) × Scanner) :=
  if s.stored.isEmpty then s.tokenize else pure (.ok s.stored, s)

end Scanner

end EntityQuery
