import EntityQuery.Json
import EntityQuery.Token

/-!
# The listing of tokens

Tokens as a JSON value: one object each, the ending left out.
-/

namespace EntityQuery.Token

/-- The object of one token. -/
def entry (t : Token) : Json :=
  .obj [("type", .str t.kind.name), ("value", .str t.text), ("line", .int t.pos.line),
    ("column", .int t.pos.column)]

/-- The objects of a list of tokens, without the ending. -/
def listing (tokens : List Token) : Json :=
  .arr ((tokens.filter fun t => decide (t.kind ≠ .endOfInput)).map entry)

end EntityQuery.Token
