import EntityQuery.Text.CharClass
import EntityQuery.Text.Table.CaseMap
import EntityQuery.Text.Table.CaseContext

/-!
# Letter case

Full case mappings: an image may be longer than one character. Lower case depends on the place in
one instance only, the capital sigma, which has its own form at the end of a word.
-/

namespace EntityQuery.Text

/-- The shifted code point of the first run that holds `n`, or `n` itself. -/
def shiftBy (runs : List CaseRun) (n : Nat) : Nat :=
  (runs.findSome? fun r => r.apply? n).getD n

/-- The image of a character beyond ASCII: an expansion if it has one, else a shift. -/
def mapBeyondAscii (expansions : List (Nat × List Nat)) (runs : List CaseRun) (c : Char) :
    List Char :=
  match expansions.find? fun e => e.1 == c.toNat with
  | some e => e.2.map Char.ofNat
  | none => [Char.ofNat (shiftBy runs c.toNat)]

/-- Lower case of a character that stands alone. -/
def lowerChar (c : Char) : List Char :=
  if isAscii c then [c.toLower] else mapBeyondAscii lowerExpansions toLowerRuns c

/-- Upper case of a character. -/
def upperChar (c : Char) : List Char :=
  if isAscii c then [c.toUpper] else mapBeyondAscii upperExpansions toUpperRuns c

/-- A character that is passed over in the search for the end of a word: apostrophes, points, marks,
modifiers. -/
def isCaseIgnorable (c : Char) : Bool :=
  if isAscii c then [0x27, 0x2E, 0x3A, 0x5E, 0x60].contains c.toNat
    else inRuns caseIgnorableRuns c.toNat

/-- A letter with case that is not passed over. -/
def isCased (c : Char) : Bool :=
  if isAscii c then c.isAlpha else inRuns casedRuns c.toNat

/--
Whether a capital sigma ends its word: the nearest character before it that is not passed over has
case, and the nearest one after it has none. `before` lists the preceding characters, nearest first.
-/
def endsWord (before after : List Char) : Bool :=
  ((before.dropWhile isCaseIgnorable).head?.any isCased) &&
    !((after.dropWhile isCaseIgnorable).head?.any isCased)

/-- Lower case of a list of characters that follows `before`, nearest first. -/
def lowerAfter (before : List Char) : List Char → List Char
  | [] => []
  | c :: rest =>
    (if c = 'Σ' then [if endsWord before rest then 'ς' else 'σ'] else lowerChar c) ++
      lowerAfter (c :: before) rest

/-- Lower case of a text. -/
def lower (s : String) : String :=
  String.ofList (lowerAfter [] s.toList)

/-- Upper case of a text. -/
def upper (s : String) : String :=
  String.ofList (s.toList.flatMap upperChar)

end EntityQuery.Text
