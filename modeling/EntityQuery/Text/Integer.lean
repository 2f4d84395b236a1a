import EntityQuery.Text.CharClass

/-!
# Integers in arguments

An integer may have blanks around it and a sign before it. Its digits may be of any script, with
single underscores between them. The information separators do not count as blanks here, and there
is a limit to the number of digits.
-/

namespace EntityQuery.Text

/-- A blank that may stand around an integer. -/
def isMargin (c : Char) : Bool :=
  isBlank c && !(decide (0x1C ≤ c.toNat) && decide (c.toNat ≤ 0x1F))

/-- Characters without blanks at either end. -/
def withoutMargins (cs : List Char) : List Char :=
  ((cs.dropWhile isMargin).reverse.dropWhile isMargin).reverse

/-- The values of the digits after one that has been read: each may have an underscore before it. -/
def moreDigits? : List Char → Option (List Nat)
  | [] => some []
  | '_' :: c :: rest => do
    let d ← decimalValue? c
    let ds ← moreDigits? rest
    pure (d :: ds)
  | c :: rest => do
    let d ← decimalValue? c
    let ds ← moreDigits? rest
    pure (d :: ds)

/-- The values of the digits of a number. -/
def digits? : List Char → Option (List Nat)
  | [] => none
  | c :: rest => do
    let d ← decimalValue? c
    let ds ← moreDigits? rest
    pure (d :: ds)

/-- The largest number of digits that is accepted. -/
def maxDigits : Nat := 4300

/-- The number of a list of digits. -/
def natural? (cs : List Char) : Option Nat := do
  let ds ← digits? cs
  if ds.length ≤ maxDigits then some (ds.foldl (fun n d => 10 * n + d) 0) else none

/-- The integer that a text stands for. -/
def integer? (s : String) : Option Int :=
  match withoutMargins s.toList with
  | '-' :: rest => (natural? rest).map fun n => -Int.ofNat n
  | '+' :: rest => (natural? rest).map Int.ofNat
  | rest => (natural? rest).map Int.ofNat

end EntityQuery.Text
