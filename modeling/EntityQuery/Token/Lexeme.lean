import EntityQuery.Token

/-!
# Lexemes

What stands at the front of a text. Each reader takes the characters still to come and gives back
the characters it took and the rest, so that the two together are always the text it was given;
`Lexeme.front` chooses the reader by the first one or two characters.
-/

namespace EntityQuery

/-- Lexical errors. -/
inductive LexicalFault where
  | unterminatedString
  | unterminatedComment
  | missingParameterName
  | unexpectedCharacter (c : Char)
  deriving DecidableEq, Repr

/-- The wording of a lexical error. -/
def LexicalFault.message : LexicalFault → String
  | .unterminatedString => "Unterminated string literal"
  | .unterminatedComment => "Unterminated block comment"
  | .missingParameterName => "Expected parameter name after ':'"
  | .unexpectedCharacter c => "Unexpected character " ++ Text.quoted (String.singleton c)

/-- What stands at the front of a text: something to skip, a token, or an error that shows after
`read`. -/
inductive Lexeme where
  | skip (text rest : List Char)
  | token (kind : TokenKind) (text rest : List Char)
  | fault (reason : LexicalFault) (read : List Char)
  deriving Repr

namespace Lexeme

/-! ## Character classes of words -/

/-- A character that a word may start with. -/
def isWordStart (c : Char) : Bool :=
  Text.isLetter c || c == '_' || c == '$'

/-- A character that a word may go on with. -/
def isWordPart (c : Char) : Bool :=
  Text.isAlphanumeric c || c == '_' || c == '$'

/-! ## Comments and strings -/

/-- The rest of a block comment: everything up to and including the first closing sign. -/
def commentBody : List Char → Option (List Char × List Char)
  | [] => none
  | [_] => none
  | c :: d :: rest =>
    if c = '*' ∧ d = '/' then some (['*', '/'], rest)
    else (commentBody (d :: rest)).map fun r => (c :: r.1, r.2)

/-- The rest of a string: everything up to and including the closing quote. A doubled quote does not
close. -/
def stringBody : List Char → Option (List Char × List Char)
  | [] => none
  | [c] => if c = Text.singleQuote then some ([c], []) else none
  | c :: d :: rest =>
    if c = Text.singleQuote then
      if d = Text.singleQuote then (stringBody rest).map fun r => (c :: d :: r.1, r.2)
      else some ([c], d :: rest)
    else (stringBody (d :: rest)).map fun r => (c :: r.1, r.2)

/-! ## Numbers -/

/-- The fraction of a number: a point with a digit behind it, and further digits. Empty if there is
none. -/
def fraction : List Char → List Char × List Char
  | '.' :: d :: rest =>
    if Text.isDigit d then ('.' :: d :: rest.takeWhile Text.isDigit, rest.dropWhile Text.isDigit)
    else ([], '.' :: d :: rest)
  | cs => ([], cs)

/-- The exponent of a number: the mark, an optional sign and at least one digit. Empty if there is
none. -/
def exponent : List Char → List Char × List Char
  | e :: d :: rest =>
    if e = 'e' ∨ e = 'E' then
      if Text.isDigit d then (e :: d :: rest.takeWhile Text.isDigit, rest.dropWhile Text.isDigit)
      else if (d = '+' ∨ d = '-') ∧ rest.head?.any Text.isDigit then
        (e :: d :: rest.takeWhile Text.isDigit, rest.dropWhile Text.isDigit)
      else ([], e :: d :: rest)
    else ([], e :: d :: rest)
  | cs => ([], cs)

/-- Type suffixes that make a number a decimal one. -/
def isDecimalSuffix (c : Char) : Bool :=
  c == 'd' || c == 'D' || c == 'f' || c == 'F'

/-- The type suffix of a number, unless a word goes on behind it. Empty if there is none. -/
def suffix : List Char → List Char × List Char
  | [] => ([], [])
  | c :: rest =>
    if (c = 'l' ∨ c = 'L' ∨ isDecimalSuffix c) ∧ ¬ rest.head?.any isWordPart then ([c], rest)
      else ([], c :: rest)

/-- A number that starts with the digit `c`. -/
def number (c : Char) (rest : List Char) : Lexeme :=
  let whole := c :: rest.takeWhile Text.isDigit
  let (frac, rest) := fraction (rest.dropWhile Text.isDigit)
  let (exp, rest) := exponent rest
  let (suff, rest) := suffix rest
  let kind :=
    if frac.isEmpty && exp.isEmpty && !suff.any isDecimalSuffix then .integer else .decimal
  .token kind (whole ++ frac ++ exp ++ suff) rest

/-! ## Words, parameters and signs -/

/-- A word that starts with `c`. -/
def word (c : Char) (rest : List Char) : Lexeme :=
  let text := c :: rest.takeWhile isWordPart
  .token (.ofWord (String.ofList text)) text (rest.dropWhile isWordPart)

/-- A named parameter, the colon being read. -/
def named (rest : List Char) : Lexeme :=
  if rest.head?.any isWordStart then
    .token .namedParameter (':' :: rest.takeWhile isWordPart) (rest.dropWhile isWordPart)
  else .fault .missingParameterName [':']

/-- A positional parameter, the question mark being read. -/
def positional (rest : List Char) : Lexeme :=
  .token .positionalParameter ('?' :: rest.takeWhile Text.isDigit) (rest.dropWhile Text.isDigit)

/-- Signs of two characters. -/
def doubleSymbol? (c d : Char) : Option Symbol :=
  if c = '<' ∧ d = '>' then some .notEquals
  else if c = '!' ∧ d = '=' then some .notEquals
  else if c = '<' ∧ d = '=' then some .lessEqual
  else if c = '>' ∧ d = '=' then some .greaterEqual
  else if c = '|' ∧ d = '|' then some .concat
  else none

/-- Signs of one character. -/
def singleSymbol? (c : Char) : Option Symbol :=
  match c with
  | '=' => some .equals | '<' => some .lessThan | '>' => some .greaterThan
  | '+' =>
    some .plus | '-' => some .minus | '*' => some .star | '/' => some .divide | '%' => some .modulo
  | ',' => some .comma | '.' => some .dot | ';' => some .semicolon | '(' => some .leftParen | ')' =>
      some .rightParen
  | _ => none

/-- A sign of one character. -/
def single (c : Char) (rest : List Char) : Lexeme :=
  match singleSymbol? c with
  | some s => .token (.symbol s) [c] rest
  | none => .fault (.unexpectedCharacter c) []

/-- A sign; two characters are taken together where they can be. -/
def sign (c : Char) (rest : List Char) : Lexeme :=
  match rest with
  | [] => single c []
  | d :: more =>
    match doubleSymbol? c d with
    | some s => .token (.symbol s) [c, d] more
    | none => single c rest

/-! ## The front of a text -/

/-- A block comment, its opening sign being read. -/
def blockComment (body : List Char) : Lexeme :=
  match commentBody body with
  | some (text, rest) => .skip ('/' :: '*' :: text) rest
  | none => .fault .unterminatedComment ('/' :: '*' :: body)

/-- A string, its opening quote being read. -/
def quotedString (body : List Char) : Lexeme :=
  match stringBody body with
  | some (text, rest) => .token .string (Text.singleQuote :: text) rest
  | none => .fault .unterminatedString (Text.singleQuote :: body)

/-- What stands at the front of the text `c :: rest`. -/
def front (c : Char) (rest : List Char) : Lexeme :=
  if Text.isBlank c then .skip (c :: rest.takeWhile Text.isBlank) (rest.dropWhile Text.isBlank)
  else if c = '-' ∧ rest.head? = some '-' then
    .skip (c :: rest.takeWhile (· != '\n')) (rest.dropWhile (· != '\n'))
  else if c = '/' ∧ rest.head? = some '*' then blockComment rest.tail
  else if c = Text.singleQuote then quotedString rest
  else if Text.isDigit c then number c rest
  else if isWordStart c then word c rest
  else if c = ':' then named rest
  else if c = '?' then positional rest
  else sign c rest

/-! ## Nothing is lost

Every reader splits the text it is given: what it took and what it left make up the text again.
-/

theorem commentBody_append {cs text rest : List Char} (h : commentBody cs = some (text, rest)) :
    text ++ rest = cs := by
  fun_induction commentBody cs generalizing text with
  | case1 => simp at h
  | case2 => simp at h
  | case3 c d more hcd =>
    obtain ⟨rfl, rfl⟩ := hcd
    simp only [Option.some.injEq, Prod.mk.injEq] at h
    obtain ⟨rfl, rfl⟩ := h
    rfl
  | case4 c d more _ ih =>
    obtain ⟨⟨t, r⟩, hr, he⟩ := Option.map_eq_some_iff.mp h
    simp only [Prod.mk.injEq] at he
    obtain ⟨rfl, rfl⟩ := he
    rw [List.cons_append, ih hr]

theorem stringBody_append {cs text rest : List Char} (h : stringBody cs = some (text, rest)) :
    text ++ rest = cs := by
  fun_induction stringBody cs generalizing text with
  | case1 => simp at h
  | case2 =>
    simp only [Option.some.injEq, Prod.mk.injEq] at h
    obtain ⟨rfl, rfl⟩ := h
    rfl
  | case3 => simp at h
  | case4 more ih =>
    obtain ⟨⟨t, r⟩, hr, he⟩ := Option.map_eq_some_iff.mp h
    simp only [Prod.mk.injEq] at he
    obtain ⟨rfl, rfl⟩ := he
    rw [List.cons_append, List.cons_append, ih hr]
  | case5 d more _ =>
    simp only [Option.some.injEq, Prod.mk.injEq] at h
    obtain ⟨rfl, rfl⟩ := h
    rfl
  | case6 c d more _ ih =>
    obtain ⟨⟨t, r⟩, hr, he⟩ := Option.map_eq_some_iff.mp h
    simp only [Prod.mk.injEq] at he
    obtain ⟨rfl, rfl⟩ := he
    rw [List.cons_append, ih hr]

theorem fraction_append (cs : List Char) : (fraction cs).1 ++ (fraction cs).2 = cs := by
  fun_cases fraction cs <;> simp

theorem exponent_append (cs : List Char) : (exponent cs).1 ++ (exponent cs).2 = cs := by
  fun_cases exponent cs <;> simp

theorem suffix_append (cs : List Char) : (suffix cs).1 ++ (suffix cs).2 = cs := by
  fun_cases suffix cs <;> simp

/-- A lexeme splits a text: what is skipped or made a token, and what is left, are the text, and
something is taken. -/
def Splits (input : List Char) : Lexeme → Prop
  | .skip text rest => text ++ rest = input ∧ text ≠ []
  | .token _ text rest => text ++ rest = input ∧ text ≠ []
  | .fault _ _ => True

theorem splits_number (c : Char) (rest : List Char) : Splits (c :: rest) (number c rest) := by
  have hs := suffix_append (exponent (fraction (rest.dropWhile Text.isDigit)).2).2
  have he := exponent_append (fraction (rest.dropWhile Text.isDigit)).2
  have hf := fraction_append (rest.dropWhile Text.isDigit)
  simp only [number, Splits, List.append_assoc, List.cons_append, hs, he, hf,
    List.takeWhile_append_dropWhile]
  simp

theorem splits_single (c : Char) (rest : List Char) : Splits (c :: rest) (single c rest) := by
  unfold single
  split <;> simp [Splits]

theorem splits_sign (c : Char) (rest : List Char) : Splits (c :: rest) (sign c rest) := by
  unfold sign
  split
  · exact splits_single c []
  · split
    · simp [Splits]
    · exact splits_single c _

theorem splits_blockComment (body : List Char) :
    Splits ('/' :: '*' :: body) (blockComment body) := by
  unfold blockComment
  split
  · next text rest h => simp [Splits, commentBody_append h]
  · trivial

theorem splits_quotedString (body : List Char) :
    Splits (Text.singleQuote :: body) (quotedString body) := by
  unfold quotedString
  split
  · next text rest h => simp [Splits, stringBody_append h]
  · trivial

theorem splits_named (rest : List Char) : Splits (':' :: rest) (named rest) := by
  unfold named
  split <;> simp [Splits, List.takeWhile_append_dropWhile]

/-- The front of a text splits it. -/
theorem splits_front (c : Char) (rest : List Char) : Splits (c :: rest) (front c rest) := by
  unfold front
  split
  · simp [Splits, List.takeWhile_append_dropWhile]
  · split
    · simp [Splits, List.takeWhile_append_dropWhile]
    · split
      · next h =>
        obtain ⟨rfl, h⟩ := h
        obtain ⟨body, rfl⟩ : ∃ body, rest = '*' :: body := by
          cases rest with
          | nil => simp at h
          | cons d body => exact ⟨body, by simpa using h⟩
        exact splits_blockComment body
      · split
        · next h => subst h; exact splits_quotedString rest
        · split
          · exact splits_number c rest
          · split
            · simp [Splits, word, List.takeWhile_append_dropWhile]
            · split
              · next h => subst h; exact splits_named rest
              · split
                · next h => subst h; simp [Splits, positional, List.takeWhile_append_dropWhile]
                · exact splits_sign c rest

/-- What follows something skipped is shorter than the text. -/
theorem length_lt_of_skip {c : Char} {rest text rest' : List Char}
    (h : front c rest = .skip text rest') :
    rest'.length < (c :: rest).length := by
  have hs := splits_front c rest
  rw [h] at hs
  rw [← hs.1, List.length_append]
  have := List.length_pos_iff.mpr hs.2
  omega

/-- What follows a token is shorter than the text. -/
theorem length_lt_of_token {c : Char} {rest text rest' : List Char} {kind : TokenKind}
    (h : front c rest = .token kind text rest') : rest'.length < (c :: rest).length := by
  have hs := splits_front c rest
  rw [h] at hs
  rw [← hs.1, List.length_append]
  have := List.length_pos_iff.mpr hs.2
  omega

end Lexeme

end EntityQuery
