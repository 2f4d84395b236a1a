import EntityQuery.Text.LetterCase

/-!
# Snake case

The column name that a field name stands for when nobody has said otherwise: `userName` becomes
`user_name` and `HTTPServer` becomes `http_server`.
-/

namespace EntityQuery.Text

/--
Whether an upper case letter opens a new part of a name. It does not at the very start; after that
it does when a lower case letter or a digit stands before it, or a lower case letter after it.
-/
def opensPart (previous : Option Char) (rest : List Char) : Bool :=
  match previous with
  | none => false
  | some p => isLower p || isDigit p || rest.head?.any isLower

/-- Snake case of the characters that follow `previous`. -/
def snakeAfter (previous : Option Char) : List Char → List Char
  | [] => []
  | c :: rest =>
    (if isUpper c then (if opensPart previous rest then ['_'] else []) ++ lowerChar c else [c]) ++
      snakeAfter (some c) rest

/-- Snake case of a name. A name that holds an underscore, or no upper case at all, stays as
it is. -/
def snakeCase (name : String) : String :=
  if name.toList.contains '_' || name == lower name then name
  else String.ofList (snakeAfter none name.toList)

end EntityQuery.Text
