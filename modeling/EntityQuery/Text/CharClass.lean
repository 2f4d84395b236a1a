import EntityQuery.Text.Table.Letter
import EntityQuery.Text.Table.Number
import EntityQuery.Text.Table.Printable
import EntityQuery.Text.Table.Cased

/-!
# Character classes

The classes that decide where a word, a number or a gap ends, and which characters are written as
they are in a quoted text. Each class is a rule for ASCII and a table for everything else, so a
statement about ASCII text never touches a table.
-/

namespace EntityQuery.Text

/-- The ASCII range. -/
def isAscii (c : Char) : Bool :=
  decide (c.toNat < 0x80)

/--
White space: tab, line feed, vertical tab, form feed, carriage return, the four information
separators, the space, and beyond ASCII U+0085, U+00A0, U+1680, U+2000 to U+200A, U+2028, U+2029,
U+202F, U+205F and U+3000.
-/
def isBlank (c : Char) : Bool :=
  let n := c.toNat
  if isAscii c then
    n == 0x20 || (decide (0x09 ≤ n) && decide (n ≤ 0x0D)) ||
      (decide (0x1C ≤ n) && decide (n ≤ 0x1F))
  else
    n == 0x85 || n == 0xA0 || n == 0x1680 || (decide (0x2000 ≤ n) && decide (n ≤ 0x200A)) ||
      n == 0x2028 || n == 0x2029 || n == 0x202F || n == 0x205F || n == 0x3000

/-- A letter of any script. -/
def isLetter (c : Char) : Bool :=
  if isAscii c then c.isAlpha else inRuns letterRuns c.toNat

/-- A digit in the wide sense: decimal digits of any script, superscripts, circled digits. -/
def isDigit (c : Char) : Bool :=
  if isAscii c then c.isDigit else inRuns digitRuns c.toNat

/-- A letter or any character with a numeric value. -/
def isAlphanumeric (c : Char) : Bool :=
  if isAscii c then c.isAlphanum else inRuns letterRuns c.toNat || inRuns numericRuns c.toNat

/-- The property Uppercase. -/
def isUpper (c : Char) : Bool :=
  if isAscii c then c.isUpper else inRuns upperRuns c.toNat

/-- The property Lowercase. -/
def isLower (c : Char) : Bool :=
  if isAscii c then c.isLower else inRuns lowerRuns c.toNat

/-- A character that a quoted text shows as it is: neither a control nor unassigned, and no space
but the plain one. -/
def isPrintable (c : Char) : Bool :=
  if isAscii c then decide (0x20 ≤ c.toNat) && decide (c.toNat < 0x7F)
    else inRuns printableRuns c.toNat

/-- The value of a decimal digit of any script. -/
def decimalValue? (c : Char) : Option Nat :=
  if isAscii c then
    if c.isDigit then some (c.toNat - 0x30) else none
  else
    (decimalZeros.find? fun z => decide (z ≤ c.toNat) && decide (c.toNat < z + 10)).map fun z =>
      c.toNat - z

/-- A text of white space only. -/
def isBlankText (s : String) : Bool :=
  s.toList.all isBlank

end EntityQuery.Text
