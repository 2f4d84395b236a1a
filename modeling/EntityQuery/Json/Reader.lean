import EntityQuery.Json
import EntityQuery.Text.Integer

/-!
# Reading JSON text

The reader works on the list of characters that are still to come and hands back what follows the
value. A complaint carries the characters from the place where it arose, so its position is found by
counting what is left.

Nesting is bounded by the length of the text: each bracket that opens takes one character, and two
steps lead from one bracket to the next. The reader is therefore recursive in a number of steps that
starts at twice the length.
-/

namespace EntityQuery.Json

/-- What can be wrong with a JSON text. -/
inductive Complaint where
  | expectedValue
  | expectedKey
  | expectedColon
  | expectedComma
  | extraData
  | unterminatedString
  | controlCharacter
  | badEscape
  | badUnicodeEscape
  | byteOrderMark
  /-- An integer with more digits than are accepted. -/
  | tooManyDigits (count : Nat)
  deriving DecidableEq, Repr

/-- The wording of a complaint, without its position. -/
def Complaint.wording : Complaint → String
  | .expectedValue => "Expecting value"
  | .expectedKey => "Expecting property name enclosed in double quotes"
  | .expectedColon => "Expecting ':' delimiter"
  | .expectedComma => "Expecting ',' delimiter"
  | .extraData => "Extra data"
  | .unterminatedString => "Unterminated string starting at"
  | .controlCharacter => "Invalid control character at"
  | .badEscape => "Invalid \\escape"
  | .badUnicodeEscape => "Invalid \\uXXXX escape"
  | .byteOrderMark => "Unexpected UTF-8 BOM (decode using utf-8-sig)"
  | .tooManyDigits count =>
    "Exceeds the limit (" ++ toString Text.maxDigits ++
      " digits) for integer string conversion: value has " ++
      toString count ++ " digits; use sys.set_int_max_str_digits() to increase the limit"

/-- Whether a complaint is told with its position. The one about an integer is not. -/
def Complaint.isPlaced : Complaint → Bool
  | .tooManyDigits _ => false
  | _ => true

/-- A complaint about the text from `rest` on. -/
structure ReadError where
  complaint : Complaint
  rest : List Char

/-- A complaint with the offset of its place. -/
structure SyntaxFault where
  complaint : Complaint
  line : Nat
  column : Nat
  offset : Nat
  deriving DecidableEq, Repr

/-- The full text of a complaint. -/
def SyntaxFault.message (f : SyntaxFault) : String :=
  let place := ": line " ++ toString f.line ++ " column " ++ toString f.column ++ " (char " ++
    toString f.offset ++ ")"
  f.complaint.wording ++ (if f.complaint.isPlaced then place else "")

/-- The place of a complaint in the whole text: lines end in line feeds, columns count from one. -/
def SyntaxFault.locate (whole : List Char) (e : ReadError) : SyntaxFault :=
  let offset := whole.length - e.rest.length
  let before := whole.take offset
  { complaint := e.complaint
    line := before.count '\n' + 1
    column := (before.reverse.takeWhile fun c => c != '\n').length + 1
    offset := offset }

/-! ## Leaves -/

/-- White space between the parts of a document. -/
def isGap (c : Char) : Bool :=
  c == ' ' || c == '\t' || c == '\n' || c == '\r'

/-- The text after white space. -/
def skipGap (cs : List Char) : List Char :=
  cs.dropWhile isGap

/-- The value of a hexadecimal digit of either case. -/
def hexValue? (c : Char) : Option Nat :=
  let n := c.toNat
  if 0x30 ≤ n && n ≤ 0x39 then some (n - 0x30)
  else if 0x61 ≤ n && n ≤ 0x66 then some (n - 0x57)
  else if 0x41 ≤ n && n ≤ 0x46 then some (n - 0x37)
  else none

/-- The number that four hexadecimal digits stand for. -/
def hex4? : List Char → Option (Nat × List Char)
  | a :: b :: c :: d :: rest => do
    let a ← hexValue? a
    let b ← hexValue? b
    let c ← hexValue? c
    let d ← hexValue? d
    some (((a * 16 + b) * 16 + c) * 16 + d, rest)
  | _ => none

/-- The second half of a surrogate pair, if it follows. It is no such half at the very end of the
text. -/
def lowSurrogate? : List Char → Option (Nat × List Char)
  | '\\' :: 'u' :: rest =>
    match hex4? rest with
    | some (_, []) => none
    | some (n, rest) => if 0xDC00 ≤ n && n ≤ 0xDFFF then some (n, rest) else none
    | none => none
  | _ => none

/-- The character after a backslash. -/
def escape? (c : Char) : Option Char :=
  if c = Text.doubleQuote || c = '\\' || c = '/' then some c
  else if c = 'b' then some (Char.ofNat 0x08)
  else if c = 'f' then some (Char.ofNat 0x0C)
  else if c = 'n' then some '\n'
  else if c = 'r' then some '\r'
  else if c = 't' then some '\t'
  else none

/-- The rest of a string whose opening quote starts `opening`; `fuel` bounds the number of
characters. -/
def stringBody (opening : List Char) : Nat → List Char → Except ReadError (List Char × List Char)
  | 0, _ => .error ⟨.unterminatedString, opening⟩
  | _ + 1, [] => .error ⟨.unterminatedString, opening⟩
  | fuel + 1, c :: rest =>
    if c = Text.doubleQuote then .ok ([], rest)
    else if c.toNat < 0x20 then .error ⟨.controlCharacter, c :: rest⟩
    else if c = '\\' then
      match rest with
      | [] => .error ⟨.unterminatedString, opening⟩
      | 'u' :: digits =>
        match hex4? digits with
        | none => .error ⟨.badUnicodeEscape, rest⟩
        | some (_, []) => .error ⟨.badUnicodeEscape, rest⟩
        | some (n, after) =>
          let (code, after) :=
            if 0xD800 ≤ n && n ≤ 0xDBFF then
              match lowSurrogate? after with
              | some (m, after) => (0x10000 + (n - 0xD800) * 0x400 + (m - 0xDC00), after)
              | none => (n, after)
            else (n, after)
          do
            let (cs, rest) ← stringBody opening fuel after
            .ok (Char.ofNat code :: cs, rest)
      | e :: after =>
        match escape? e with
        | none => .error ⟨.badEscape, c :: rest⟩
        | some d => do
          let (cs, rest) ← stringBody opening fuel after
          .ok (d :: cs, rest)
    else do
      let (cs, rest) ← stringBody opening fuel rest
      .ok (c :: cs, rest)

/-- A string, the text after its opening quote being `body`. -/
def string (opening body : List Char) : Except ReadError (String × List Char) := do
  let (cs, rest) ← stringBody opening (body.length + 1) body
  .ok (String.ofList cs, rest)

/-- An ASCII digit. -/
def isPlainDigit (c : Char) : Bool :=
  c.isDigit

/-- The integer part of a number: a zero alone, or digits that do not start with one. -/
def integerPart? : List Char → Option (List Char × List Char)
  | '0' :: rest => some (['0'], rest)
  | c :: rest =>
    if isPlainDigit c then some (c :: rest.takeWhile isPlainDigit, rest.dropWhile isPlainDigit)
      else none
  | [] => none

/-- The fraction of a number, empty if there is none. -/
def fractionPart : List Char → List Char × List Char
  | '.' :: d :: rest =>
    if isPlainDigit d then ('.' :: d :: rest.takeWhile isPlainDigit, rest.dropWhile isPlainDigit)
    else ([], '.' :: d :: rest)
  | cs => ([], cs)

/-- The exponent of a number, empty if there is none. -/
def exponentPart (cs : List Char) : List Char × List Char :=
  match cs with
  | e :: rest =>
    if e = 'e' || e = 'E' then
      let (sign, digits) :=
        match rest with
        | s :: more => if s = '+' || s = '-' then ([s], more) else ([], rest)
        | [] => ([], [])
      let run := digits.takeWhile isPlainDigit
      if run.isEmpty then ([], cs) else (e :: sign ++ run, digits.dropWhile isPlainDigit)
    else ([], cs)
  | [] => ([], [])

/-- The number that decimal digits stand for. -/
def decimalNumber (digits : List Char) : Nat :=
  digits.foldl (fun n c => n * 10 + (c.toNat - 0x30)) 0

/-- An integer of the given digits. -/
def integer (negative : Bool) (digits : List Char) : Except Complaint Json :=
  let n : Int := decimalNumber digits
  if digits.length ≤ Text.maxDigits then .ok (.int (if negative then -n else n))
  else .error (.tooManyDigits digits.length)

/-- The number that the digits of an exponent stand for, with a sign before them or not. -/
def exponentNumber : List Char → Int
  | '-' :: digits => -decimalNumber digits
  | '+' :: digits => decimalNumber digits
  | digits => decimalNumber digits

/-- A double of the given digits, the point and the letter being the first characters of its
fraction and its exponent. -/
def double (negative : Bool) (digits fraction exponent : List Char) : Double :=
  let fraction := fraction.drop 1
  .ofDecimal negative (decimalNumber (digits ++ fraction))
    (exponentNumber (exponent.drop 1) - fraction.length)

/-- A number, or the complaint about it, and what follows. -/
def number? (cs : List Char) : Option (Except Complaint Json × List Char) :=
  let (negative, body) :=
    match cs with
    | '-' :: rest => (true, rest)
    | _ => (false, cs)
  match integerPart? body with
  | none => none
  | some (digits, rest) =>
    let (fraction, rest) := fractionPart rest
    let (exponent, rest) := exponentPart rest
    if fraction.isEmpty && exponent.isEmpty then some (integer negative digits, rest)
    else some (.ok (.decimal (double negative digits fraction exponent)), rest)

/-- The text after a given word, if it starts with that word. -/
def afterWord? (word : String) (cs : List Char) : Option (List Char) :=
  if word.toList.isPrefixOf cs then some (cs.drop word.length) else none

/-- The values that are spelled as words. -/
def wordValues : List (String × Json) :=
  [("null", .null), ("true", .bool true), ("false", .bool false),
   ("NaN", .decimal .notANumber), ("Infinity", .decimal (.infinity false)),
   ("-Infinity", .decimal (.infinity true))]

/-- A value that is spelled as a word. -/
def wordValue? (cs : List Char) : Option (Json × List Char) :=
  wordValues.findSome? fun w => (afterWord? w.1 cs).map fun rest => (w.2, rest)

/-! ## Values -/

mutual

/-- A value at the very start of the text. -/
def value : Nat → List Char → Except ReadError (Json × List Char)
  | 0, cs => .error ⟨.expectedValue, cs⟩
  | _ + 1, [] => .error ⟨.expectedValue, []⟩
  | fuel + 1, c :: rest =>
    if c = Text.doubleQuote then do
      let (s, rest) ← string (c :: rest) rest
      .ok (.str s, rest)
    else if c = '\x7b' then
      match skipGap rest with
      | '\x7d' :: rest => .ok (.obj [], rest)
      | rest => do
        let (fields, rest) ← members fuel rest
        .ok (.obj (Registry.ofList fields).entries, rest)
    else if c = '[' then
      match skipGap rest with
      | ']' :: rest => .ok (.arr [], rest)
      | rest => do
        let (items, rest) ← elements fuel rest
        .ok (.arr items, rest)
    else
      match wordValue? (c :: rest) with
      | some (v, rest) => .ok (v, rest)
      | none =>
        match number? (c :: rest) with
        | some (.ok v, rest) => .ok (v, rest)
        | some (.error complaint, _) => .error ⟨complaint, c :: rest⟩
        | none => .error ⟨.expectedValue, c :: rest⟩

/-- The items of an array up to its closing bracket. -/
def elements : Nat → List Char → Except ReadError (List Json × List Char)
  | 0, cs => .error ⟨.expectedValue, cs⟩
  | fuel + 1, cs => do
    let (v, rest) ← value fuel cs
    match skipGap rest with
    | ']' :: rest => .ok ([v], rest)
    | ',' :: rest =>
      let (vs, rest) ← elements fuel (skipGap rest)
      .ok (v :: vs, rest)
    | rest => .error ⟨.expectedComma, rest⟩

/-- The fields of an object up to its closing brace. -/
def members : Nat → List Char → Except ReadError (List (String × Json) × List Char)
  | 0, cs => .error ⟨.expectedKey, cs⟩
  | _ + 1, [] => .error ⟨.expectedKey, []⟩
  | fuel + 1, c :: cs =>
    if c = Text.doubleQuote then do
      let (k, rest) ← string (c :: cs) cs
      match skipGap rest with
      | ':' :: rest =>
        let (v, rest) ← value fuel (skipGap rest)
        match skipGap rest with
        | '\x7d' :: rest => .ok ([(k, v)], rest)
        | ',' :: rest =>
          let (fields, rest) ← members fuel (skipGap rest)
          .ok ((k, v) :: fields, rest)
        | rest => .error ⟨.expectedComma, rest⟩
      | rest => .error ⟨.expectedColon, rest⟩
    else .error ⟨.expectedKey, c :: cs⟩

end

/-- A whole document: one value with white space around it. -/
def document (cs : List Char) : Except ReadError Json :=
  if cs.head?.any fun c => c.toNat == 0xFEFF then .error ⟨.byteOrderMark, cs⟩
  else do
    let (v, rest) ← value (2 * cs.length + 2) (skipGap cs)
    match skipGap rest with
    | [] => .ok v
    | rest => .error ⟨.extraData, rest⟩

/-- Reads a document. -/
def parse (s : String) : Except SyntaxFault Json :=
  match document s.toList with
  | .ok v => .ok v
  | .error e => .error (SyntaxFault.locate s.toList e)

end EntityQuery.Json
