import EntityQuery.Json
import EntityQuery.Node

/-!
# Pieces of SQL

A rendered piece is a text, or the value that a mapping gives when that is no text. Where a piece is
put into a larger text by formatting, any value will do. Where pieces are strung together, each has
to be a text.

A list that a mapping gives for a column stays with the mapping: the piece only says which column it
is. Words put after such a piece go to the end of the list, letter by letter, and every later look
at that column shows them.
-/

namespace EntityQuery.Sql

/-- A rendered piece. -/
inductive Fragment where
  | text (s : String)
  /-- A value that is no text. -/
  | value (v : Json)
  /-- The list of a column. -/
  | column (entity field : String)

/-- Why a tree cannot be rendered. -/
inductive RenderFault where
  /-- A construct that has no counterpart in SQL. -/
  | unsupported (feature : String)
  /-- A piece at some place of a list that is no text. -/
  | notText (index : Nat) (typeName : String)
  /-- A piece after a keyword that is no text. -/
  | notAppendable (typeName : String)
  /-- A piece before a keyword that is no text. -/
  | notExtendable (typeName : String)
  /-- The target of a relation is no name. -/
  | notAName (typeName : String)
  /-- The tree makes no sense. -/
  | tree (fault : TreeFault)
  deriving DecidableEq, Repr

/-- The wording of a fault. -/
def RenderFault.message : RenderFault → String
  | .unsupported feature => feature ++ " is not supported for SQL conversion"
  | .notText index typeName =>
    "sequence item " ++ toString index ++ ": expected str instance, " ++ typeName ++ " found"
  | .notAppendable typeName => "can only concatenate str (not \"" ++ typeName ++ "\") to str"
  | .notExtendable typeName => "unsupported operand type(s) for +=: '" ++ typeName ++ "' and 'str'"
  | .notAName typeName => "unhashable type: '" ++ typeName ++ "'"
  | .tree .notAPath => "a path is needed"
  | .tree .emptyPath => "list index out of range"
  | .tree .missingArgument => "list index out of range"

namespace Fragment

/-- The piece of a value that stays as it is. -/
def ofJson : Json → Fragment
  | .str s => .text s
  | v => .value v

/-- The name of a piece's type in messages. -/
def typeName : Fragment → String
  | .text s => (Json.str s).typeName
  | .value v => v.typeName
  | .column _ _ => (Json.arr []).typeName

/-- The texts of a list of pieces, the first of them at the given place. -/
def texts (index : Nat) : List Fragment → Except RenderFault (List String)
  | [] => .ok []
  | .text s :: rest =>
    match texts (index + 1) rest with
    | .ok more => .ok (s :: more)
    | .error f => .error f
  | piece :: _ => .error (.notText index piece.typeName)

/-- Pieces strung together. -/
def strung (separator : String) (pieces : List Fragment) : Except RenderFault String :=
  match texts 0 pieces with
  | .ok all => .ok (separator.intercalate all)
  | .error f => .error f

/-- A keyword with a piece after it. -/
def after (keyword : String) (piece : Fragment) : Except RenderFault String :=
  match piece with
  | .text s => .ok (keyword ++ s)
  | _ => .error (.notAppendable piece.typeName)

end Fragment

end EntityQuery.Sql
