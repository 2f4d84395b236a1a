import EntityQuery.Json

/-!
# JSON text

A document is written on one line, or with one item a line and a fixed indentation for each level.
Characters beyond ASCII are written as they are.
-/

namespace EntityQuery.Json

/-- How a document is laid out: `none` is one line, `some n` is `n` spaces for each level. -/
structure Layout where
  indent : Option Nat

/-- Why an indentation gives no layout. -/
inductive LayoutFault where
  /-- The indentation is no machine integer. -/
  | outOfRange
  /-- There is no room for so many spaces. -/
  | tooWide
  deriving DecidableEq, Repr

namespace Layout

/-- A document on one line. -/
def oneLine : Layout := ⟨none⟩

/-- The machine integers have 64 bits, one of them for the sign. -/
def isMachineInteger (n : Int) : Bool :=
  decide (-Int.pow 2 63 ≤ n) && decide (n < Int.pow 2 63)

/-- The number of spaces from which on there is no room for them. -/
def roomLimit : Int := Int.pow 2 36

/-- The layout that an indentation asks for. A negative one breaks lines and indents nothing. -/
def ofIndent : Option Int → Except LayoutFault Layout
  | none => .ok oneLine
  | some n =>
    if !isMachineInteger n then .error .outOfRange
    else if roomLimit ≤ n then .error .tooWide
    else .ok ⟨some n.toNat⟩

/-- What stands between an opening bracket and the first item of `level`, or the last item and the
closing bracket. -/
def lineBreak (l : Layout) (level : Nat) : String :=
  match l.indent with
  | none => ""
  | some n => "\n" ++ String.ofList (List.replicate (n * level) ' ')

/-- What stands between two items of `level`. -/
def separator (l : Layout) (level : Nat) : String :=
  match l.indent with
  | none => ", "
  | some _ => "," ++ l.lineBreak level

end Layout

/-- A character inside a JSON string. -/
def escapedChar (c : Char) : List Char :=
  if c = Text.doubleQuote || c = '\\' then ['\\', c]
  else if c = '\n' then ['\\', 'n']
  else if c = '\r' then ['\\', 'r']
  else if c = '\t' then ['\\', 't']
  else if c.toNat = 0x08 then ['\\', 'b']
  else if c.toNat = 0x0C then ['\\', 'f']
  else if c.toNat < 0x20 then ['\\', 'u'] ++ Text.hexDigits 4 c.toNat
  else [c]

/-- A JSON string with its quotes. -/
def stringText (s : String) : String :=
  String.ofList ([Text.doubleQuote] ++ s.toList.flatMap escapedChar ++ [Text.doubleQuote])

/-- Items between brackets; nothing stands between the brackets of an empty container. -/
def bracketed (l : Layout) (level : Nat) (opening closing : String) (items : List String) :
    String :=
  if items.isEmpty then opening ++ closing
  else
    opening ++ l.lineBreak (level + 1) ++ (l.separator (level + 1)).intercalate items ++
      l.lineBreak level ++ closing

mutual

/-- The text of a value whose containers stand at `level`. -/
def textAt (l : Layout) (level : Nat) : Json → String
  | .null => "null"
  | .bool b => if b then "true" else "false"
  | .int n => toString n
  | .decimal x => x.textWith "Infinity" "NaN"
  | .str s => stringText s
  | .arr items => bracketed l level "[" "]" (itemTexts l (level + 1) items)
  | .obj fields => bracketed l level "\x7b" "\x7d" (fieldTexts l (level + 1) fields)

/-- The texts of array items. -/
def itemTexts (l : Layout) (level : Nat) : List Json → List String
  | [] => []
  | x :: xs => textAt l level x :: itemTexts l level xs

/-- The texts of object fields. -/
def fieldTexts (l : Layout) (level : Nat) : List (String × Json) → List String
  | [] => []
  | (k, v) :: rest => (stringText k ++ ": " ++ textAt l level v) :: fieldTexts l level rest

end

/-- The text of a document. -/
def text (l : Layout) (v : Json) : String :=
  textAt l 0 v

end EntityQuery.Json
