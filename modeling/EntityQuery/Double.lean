/-!
# Doubles

A number with a fraction or an exponent is a double precision float. `Float.Model` is the logical
model of such floats: its values are bit patterns, with one pattern for what is not a number.

A double is written with the fewest digits that are read as the same double, and among these with
the digits nearest to it. Seventeen digits are always enough.
-/

namespace EntityQuery

/-- A double precision float. -/
abbrev Double := Float.Model

namespace Double

/-- The double nearest to `digits * 10 ^ exponent`, or to the negative of it. -/
def ofDecimal (negative : Bool) (digits : Nat) (exponent : Int) : Double :=
  let magnitude := Float.Model.ofScientific digits exponent
  if negative then magnitude.neg else magnitude

/-- What is not a number. -/
def notANumber : Double :=
  Float.Model.pack .notANumber

/-- What is beyond all numbers, on either side. -/
def infinity (negative : Bool) : Double :=
  Float.Model.pack (.infinity (if negative then .negative else .positive))

/-! ## Comparison -/

/-- Whether a double is one of the two zeros. -/
def isZero (x : Double) : Bool :=
  match x.unpack with
  | .zero _ => true
  | _ => false

/-- The integer that a double is, if it has no fraction. -/
def int? (x : Double) : Option Int :=
  match x.unpack with
  | .zero _ => some 0
  | .finite sign mantissa exponent _ =>
    let unit := Nat.pow 2 (-exponent).toNat
    if mantissa % unit = 0 then some (sign.apply (mantissa * Nat.pow 2 exponent.toNat / unit))
      else none
  | _ => none

/-- Equality. The two zeros are equal, and what is not a number is equal to itself: there is only
one such value. -/
def equal (x y : Double) : Bool :=
  decide (x = y) || (x.isZero && y.isZero)

/-! ## Digits -/

/-- The number of digits of `num / den` before its point. It is negative if zeros follow the
point. -/
def point (num den : Nat) : Int :=
  if den ≤ num then (Nat.toDigits 10 (num / den)).length
  else 1 - (Nat.toDigits 10 ((den - 1) / num)).length

/-- The two natural numbers around `num / den * 10 ^ shift`, the nearer one first. Of two equally
near ones it is the even one. -/
def neighbours (num den : Nat) (shift : Int) : List Nat :=
  let num := num * Nat.pow 10 shift.toNat
  let den := den * Nat.pow 10 (-shift).toNat
  let below := num / den
  let rest := 2 * (num % den)
  if rest < den ∨ rest = den ∧ below % 2 = 0 then [below, below + 1] else [below + 1, below]

/-- The number `n * 10 ^ e` with the fewest digits that is read as the double `x`, whose value is
`num / den`. -/
def shortest (x : Double) (num den : Nat) : Nat × Int :=
  let point := point num den
  let candidates (count : Nat) :=
    (neighbours num den (count - point)).map fun n => (n, point - count)
  let found := (List.range' 1 17).findSome? fun count =>
    (candidates count).find? fun c => decide (Float.Model.ofScientific c.1 c.2 = x)
  found.getD ((candidates 17).headD (0, 0))

/-- Digits with a point behind the first `point` of them, and with the zeros that this takes. -/
def plainText (digits : List Char) (point : Int) : List Char :=
  let digits := List.replicate (1 - point).toNat '0' ++ digits
  let whole := point.toNat.max 1
  let fraction := digits.drop whole
  digits.take whole ++ List.replicate (whole - digits.length) '0' ++ ['.'] ++ if fraction.isEmpty
    then ['0'] else fraction

/-- Digits with a point behind the first of them, and an exponent of two digits or more. -/
def exponentText (digits : List Char) (point : Int) : List Char :=
  let fraction := digits.drop 1
  let exponent := point - 1
  let size := Nat.toDigits 10 exponent.natAbs
  digits.take 1 ++ (if fraction.isEmpty then [] else '.' :: fraction) ++
    ['e', if exponent < 0 then '-' else '+'] ++ List.replicate (2 - size.length) '0' ++ size

/-- The text of `n * 10 ^ e`. Very small and very large numbers have an exponent. -/
def decimalText (n : Nat) (e : Int) : String :=
  let digits := Nat.toDigits 10 n
  let point := digits.length + e
  let digits := (digits.reverse.dropWhile (· == '0')).reverse
  String.ofList (if -4 < point ∧ point ≤ 16 then plainText digits point
    else exponentText digits point)

/-- A text with a sign before it, if it is negative. -/
def signed (sign : Float.Model.UnpackedFloat.Sign) (text : String) : String :=
  match sign with
  | .negative => "-" ++ text
  | .positive => text

/-- The text of a double, with given names for what is beyond all numbers and what is no number. -/
def textWith (infinity notANumber : String) (x : Double) : String :=
  match x.unpack with
  | .notANumber => notANumber
  | .infinity sign => signed sign infinity
  | .zero sign => signed sign "0.0"
  | .finite sign mantissa exponent _ =>
    let (n, e) := shortest x.abs (mantissa * Nat.pow 2 exponent.toNat) (Nat.pow 2 (-exponent).toNat)
    signed sign (decimalText n e)

/-- The text of a double in messages. -/
def text (x : Double) : String :=
  textWith "inf" "nan" x

end Double

end EntityQuery
