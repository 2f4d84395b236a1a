import EntityQuery.Double
import EntityQuery.Registry
import EntityQuery.Text.Quoted

/-!
# JSON values

Mapping files and exported documents are JSON. Object fields keep the order in which they were
written. A number is an integer of any size, or a double if it has a fraction or an exponent. Values
are compared by what they are and not by how they are written: `1`, `1.0` and `true` are equal, and
so they are one key.
-/

namespace EntityQuery

/-- A JSON value with ordered object fields. -/
inductive Json where
  | null
  | bool (b : Bool)
  | int (n : Int)
  | decimal (value : Double)
  | str (s : String)
  | arr (items : List Json)
  | obj (fields : List (String × Json))
  deriving Inhabited

namespace Json

/-! ## Equality -/

/-- The integer that a value counts as in a comparison: truth values count as 0 and 1, a double
without a fraction as the integer that it is. -/
def asInt? : Json → Option Int
  | .bool b => some (if b then 1 else 0)
  | .int n => some n
  | .decimal x => x.int?
  | _ => none

/-- Whether two integers are there and are the same. -/
def sameInt : Option Int → Option Int → Bool
  | some m, some n => m == n
  | _, _ => false

@[simp] theorem sameInt_none (m? : Option Int) : sameInt m? none = false := by
  cases m? <;> rfl

mutual

/-- Equality of values. Numbers and truth values are equal if they count as the same number, and the
order of object fields does not count. -/
def equal : Json → Json → Bool
  | .null, .null => true
  | .decimal a, .decimal b => a.equal b
  | .str a, .str b => a == b
  | .arr xs, .arr ys => equalItems xs ys
  | .obj xs, .obj ys => xs.length == ys.length && equalFields xs ys
  | x, y => sameInt x.asInt? y.asInt?

/-- Equality of lists, place by place. -/
def equalItems : List Json → List Json → Bool
  | [], [] => true
  | x :: xs, y :: ys => equal x y && equalItems xs ys
  | _, _ => false

/-- Each field of the first list has an equal one in the second. -/
def equalFields : List (String × Json) → List (String × Json) → Bool
  | [], _ => true
  | (k, v) :: rest, ys =>
    (match ys.find? fun e => e.1 == k with
      | some e => equal v e.2
      | none => false) && equalFields rest ys

end

/-! ## Views -/

/-- A text, or null if there is none. -/
def textOrNull (value : Option String) : Json :=
  match value with
  | some s => .str s
  | none => .null

/-- The value of an object field. -/
def field? (fields : List (String × Json)) (key : String) : Option Json :=
  (Registry.mk fields).get? key

/-- Whether a value counts as present: null, false, zero and everything empty do not. -/
def truthy : Json → Bool
  | .null => false
  | .bool b => b
  | .int n => n != 0
  | .decimal x => !x.isZero
  | .str s => s != ""
  | .arr items => !items.isEmpty
  | .obj fields => !fields.isEmpty

/-- The name of a value's type in messages. -/
def typeName : Json → String
  | .null => "NoneType"
  | .bool _ => "bool"
  | .int _ => "int"
  | .decimal _ => "float"
  | .str _ => "str"
  | .arr _ => "list"
  | .obj _ => "dict"

/-! ## The form of a value in messages and formatted text -/

mutual

/-- A value as a message quotes it. -/
def quoted : Json → String
  | .null => "None"
  | .bool b => if b then "True" else "False"
  | .int n => toString n
  | .decimal x => x.text
  | .str s => Text.quoted s
  | .arr items => "[" ++ ", ".intercalate (quotedItems items) ++ "]"
  | .obj fields => "\x7b" ++ ", ".intercalate (quotedFields fields) ++ "\x7d"

/-- The quoted forms of a list of values. -/
def quotedItems : List Json → List String
  | [] => []
  | x :: xs => quoted x :: quotedItems xs

/-- The quoted forms of object fields. -/
def quotedFields : List (String × Json) → List String
  | [] => []
  | (k, v) :: rest => (Text.quoted k ++ ": " ++ quoted v) :: quotedFields rest

end

/-- A value put into a text by formatting: a string as it is, anything else as a message
quotes it. -/
def display : Json → String
  | .str s => s
  | v => v.quoted

end Json

end EntityQuery
