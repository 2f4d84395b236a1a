import EntityQuery.Proofs.Token.Spelling

/-!
# The lexical class of a token

`LexicalClass kind` are the texts of the tokens of a kind, one rule for each kind, in terms of
characters alone.

1. `spelling_lexicalClass`: every token that is read belongs to the class of its kind.
2. `front_longest`: no reader stops early. What stands at the front of a text and is spelled like a
   token of any kind is covered by the token that is read there; a number alone leaves a type suffix
   to the word that goes on behind it.
-/

namespace EntityQuery

/-! ## Classes -/

/-- The spellings of a sign. -/
def Symbol.spellings : Symbol → List String
  | .equals => ["="] | .notEquals => ["<>", "!="] | .lessThan => ["<"] | .greaterThan => [">"]
  | .lessEqual =>
    ["<="] | .greaterEqual => [">="] | .plus => ["+"] | .minus => ["-"] | .star => ["*"]
  | .divide => ["/"] | .modulo => ["%"] | .concat => ["||"] | .comma => [","] | .dot => ["."]
  | .semicolon => [";"] | .leftParen => ["("] | .rightParen => [")"]

/-- The word of a kind that has only one. -/
def TokenKind.keyword? : TokenKind → Option String
  | .reserved w => some w.word
  | .function f => some f.word
  | .clock c => some c.word
  | _ => none

namespace Lexeme

/-- A letter, an underscore or a dollar sign, and word characters behind it. -/
def IsWord (text : List Char) : Prop :=
  ∃ c cs, text = c :: cs ∧ isWordStart c = true ∧ ∀ x ∈ cs, isWordPart x = true

/-- Digits only. -/
def IsDigits (text : List Char) : Prop :=
  ∀ d ∈ text, Text.isDigit d = true

/-- A text between quotes, with every quote inside doubled. -/
def quotedText (inner : List Char) : List Char :=
  Text.singleQuote ::
    inner.flatMap (fun c => if c = Text.singleQuote then [Text.singleQuote, Text.singleQuote]
      else [c]) ++ [Text.singleQuote]

/-- The texts of the tokens of a kind. -/
def LexicalClass (kind : TokenKind) (text : List Char) : Prop :=
  match kind with
  | .string => ∃ inner, text = quotedText inner
  | .integer => ∃ ds suff, ds ≠ [] ∧ IsDigits ds ∧ suff ∈ [[], ['l'], ['L']] ∧ text = ds ++ suff
  | .decimal =>
      ∃ ds frac exp suff, ds ≠ [] ∧ IsDigits ds ∧ Fraction frac ∧ Exponent exp ∧ Suffix suff ∧
      (frac ≠ [] ∨ exp ≠ [] ∨ suff.any isDecimalSuffix = true) ∧ text = ds ++ frac ++ exp ++ suff
  | .namedParameter => ∃ name, IsWord name ∧ text = ':' :: name
  | .positionalParameter => ∃ ds, IsDigits ds ∧ text = '?' :: ds
  | .symbol s => String.ofList text ∈ s.spellings
  | .identifier =>
    IsWord text ∧ ∀ k : TokenKind, k.keyword? ≠ some (Text.lower (String.ofList text))
  | .reserved _ | .function _ | .clock _ =>
    IsWord text ∧ kind.keyword? = some (Text.lower (String.ofList text))
  | .endOfInput => text = []

/-! ## What is read belongs to its class -/

theorem quotedText_of_quoted {cs : List Char} (h : Quoted cs) :
    ∃ inner, Text.singleQuote :: cs = quotedText inner := by
  suffices hinner : ∃ inner : List Char, cs =
      inner.flatMap (fun c => if c = Text.singleQuote then [Text.singleQuote, Text.singleQuote]
        else [c]) ++ [Text.singleQuote] by
    obtain ⟨inner, rfl⟩ := hinner
    exact ⟨inner, rfl⟩
  induction h with
  | close => exact ⟨[], rfl⟩
  | doubled _ ih =>
    obtain ⟨inner, rfl⟩ := ih
    exact ⟨Text.singleQuote :: inner, by simp⟩
  | @plain c _ hc _ ih =>
    obtain ⟨inner, rfl⟩ := ih
    exact ⟨c :: inner, by simp [hc]⟩

theorem keyword_of_ofLowerWord (w : String) :
    (TokenKind.ofLowerWord w).keyword? = some w ∨
      TokenKind.ofLowerWord w = .identifier ∧ ∀ k : TokenKind, k.keyword? ≠ some w := by
  unfold TokenKind.ofLowerWord
  split
  · next r hr => exact .inl (congrArg some (by simpa using List.find?_some hr))
  · next hr =>
    split
    · next f hf => exact .inl (congrArg some (by simpa using List.find?_some hf))
    · next hf =>
      split
      · next c hc => exact .inl (congrArg some (by simpa using List.find?_some hc))
      · next hc =>
        -- None of the three tables has the word, and they have all words that there are.
        refine .inr ⟨rfl, ?_⟩
        intro k hk
        simp only [List.find?_eq_none, beq_iff_eq] at hr hf hc
        cases k with
        | reserved r => exact hr r (by cases r <;> decide) (Option.some.inj hk)
        | function f => exact hf f (by cases f <;> decide) (Option.some.inj hk)
        | clock c => exact hc c (by cases c <;> decide) (Option.some.inj hk)
        | _ => cases hk

/-- A word belongs to the keyword that it spells in lower case, or it is an identifier. -/
theorem wordClass {text : List Char} (h : IsWord text) :
    LexicalClass (.ofWord (String.ofList text)) text := by
  rcases keyword_of_ofLowerWord (Text.lower (String.ofList text)) with hk | ⟨hk, hnone⟩
  · show LexicalClass (.ofLowerWord (Text.lower (String.ofList text))) text
    generalize TokenKind.ofLowerWord (Text.lower (String.ofList text)) = kind at hk ⊢
    cases kind with
    | reserved | function | clock => exact ⟨h, hk⟩
    | _ => cases hk
  · have hkind : TokenKind.ofWord (String.ofList text) = .identifier := hk
    rw [hkind]
    exact ⟨h, hnone⟩

theorem numberClass {d : Char} {ds frac exp suff : List Char} (hd : Text.isDigit d = true)
    (hds : IsDigits ds) (hf : Fraction frac) (he : Exponent exp) (hs : Suffix suff) :
    LexicalClass (numberKind frac exp suff) (d :: ds ++ frac ++ exp ++ suff) := by
  have hdigits : IsDigits (d :: ds) := List.forall_mem_cons.mpr ⟨hd, hds⟩
  unfold numberKind
  split
  · next hplain =>
    simp only [Bool.and_eq_true, List.isEmpty_iff, Bool.not_eq_true'] at hplain
    obtain ⟨⟨rfl, rfl⟩, hsuff⟩ := hplain
    refine ⟨d :: ds, suff, by simp, hdigits, ?_, by simp⟩
    cases hs with
    | absent => simp
    | present hc =>
      rcases hc with rfl | rfl | hc
      · simp
      · simp
      · simp [hc] at hsuff
  · next hplain =>
    refine ⟨d :: ds, frac, exp, suff, by simp, hdigits, hf, he, hs, ?_, rfl⟩
    by_cases hfrac : frac = []
    · by_cases hexp : exp = []
      · exact .inr (.inr (by simpa [hfrac, hexp] using hplain))
      · exact .inr (.inl hexp)
    · exact .inl hfrac

theorem singleClass {c : Char} {s : Symbol} (h : singleSymbol? c = some s) :
    LexicalClass (.symbol s) [c] := by
  unfold singleSymbol? at h
  split at h
  case h_14 => cases h
  all_goals
    cases h
    show String.ofList _ ∈ Symbol.spellings _
    decide

theorem doubleClass {c d : Char} {s : Symbol} (h : doubleSymbol? c d = some s) :
    LexicalClass (.symbol s) [c, d] := by
  unfold doubleSymbol? at h
  repeat' split at h
  case isFalse => cases h
  all_goals
    next hcd =>
      obtain ⟨rfl, rfl⟩ := hcd
      cases h
      show String.ofList _ ∈ Symbol.spellings _
      decide

/-- Every token that is read belongs to the class of its kind. -/
theorem spelling_lexicalClass {kind : TokenKind} {text : List Char} (h : Spelling kind text) :
    LexicalClass kind text := by
  cases h with
  | word _ _ hc hcs => exact wordClass ⟨_, _, rfl, hc, hcs⟩
  | named hc hcs => exact ⟨_, ⟨_, _, rfl, hc, hcs⟩, rfl⟩
  | positional hds => exact ⟨_, hds, rfl⟩
  | string h => exact quotedText_of_quoted h
  | number _ hd hds hf he hs => exact numberClass hd hds hf he hs
  | single h => exact singleClass h
  | double h => exact doubleClass h

/-! ## The longest token -/

/-- A number leaves a letter that could be its type suffix to the word that goes on behind it. -/
def LeavesSuffix (kind : TokenKind) (text longer rest : List Char) : Prop :=
  (kind = .integer ∨ kind = .decimal) ∧
    ∃ s d ds, longer = text ++ [s] ∧ Suffix [s] ∧ rest = s :: d :: ds ∧ isWordPart d = true

/-- Nothing at the front of a text that is spelled like a token is longer than the token that is
read there. -/
def Longest (kind : TokenKind) (text rest : List Char) : Prop :=
  ∀ other longer, Spelling other longer → longer <+: text ++ rest →
    longer.length ≤ text.length ∨ LeavesSuffix kind text longer rest

/-- A run of characters is read to its end. -/
theorem prefix_takeWhile {p : Char → Bool} {cs : List Char} (h : ∀ x ∈ cs, p x = true)
    (rest : List Char) :
    cs <+: (cs ++ rest).takeWhile p := by
  rw [List.takeWhile_append_of_pos h]
  exact List.prefix_append _ _

/-- A string is read at least up to a quote that may close it. -/
theorem prefix_stringBody {cs rest body left : List Char} (hq : Quoted cs)
    (h : stringBody (cs ++ rest) = some (body, left)) :
    cs <+: body := by
  induction hq generalizing body with
  | close =>
    cases rest with
    | nil =>
      simp only [List.append_nil, stringBody, if_true, Option.some.injEq, Prod.mk.injEq] at h
      exact h.1 ▸ List.prefix_rfl
    | cons d ds =>
      rw [List.cons_append, List.nil_append, stringBody, if_pos rfl] at h
      split at h
      · obtain ⟨r, -, he⟩ := Option.map_eq_some_iff.mp h
        cases he
        exact ⟨_, rfl⟩
      · cases h
        exact List.prefix_rfl
  | doubled _ ih =>
    rw [List.cons_append, List.cons_append, stringBody, if_pos rfl, if_pos rfl] at h
    obtain ⟨r, hr, he⟩ := Option.map_eq_some_iff.mp h
    cases he
    simpa using ih hr
  | @plain c cs hc hq ih =>
    obtain ⟨d, ds, rfl⟩ : ∃ d ds, cs = d :: ds := by
      cases hq <;> exact ⟨_, _, rfl⟩
    rw [List.cons_append, List.cons_append, stringBody, if_neg hc] at h
    obtain ⟨r, hr, he⟩ := Option.map_eq_some_iff.mp h
    cases he
    exact (List.prefix_cons_inj c).mpr (ih hr)

/-- A type suffix is no digit, no point and no mark of an exponent. -/
theorem ne_of_suffix {s : Char} (h : Suffix [s]) :
    Text.isDigit s = false ∧ s ≠ '.' ∧ ¬(s = 'e' ∨ s = 'E') := by
  cases h with
  | present hc =>
    simp only [isDecimalSuffix, Bool.or_eq_true, beq_iff_eq] at hc
    rcases hc with rfl | rfl | ((rfl | rfl) | rfl) | rfl <;> decide

/-- An exponent opens with its mark, which is no digit and no point. -/
theorem head_of_exponent {exp : List Char} (h : Exponent exp) (hne : exp ≠ []) (rest : List Char) :
    ∀ d, (exp ++ rest).head? = some d → Text.isDigit d = false ∧ d ≠ '.' := by
  cases h with
  | absent => exact absurd rfl hne
  | plain he | signed he =>
    rintro d ⟨⟩
    rcases he with rfl | rfl <;> decide

/-- Digits are read up to a fraction, or to what follows if there is none. -/
theorem digits_append {ds frac rest : List Char} (hds : IsDigits ds) (hf : Fraction frac)
    (hrest : frac = [] → ∀ d, rest.head? = some d → Text.isDigit d = false) :
    (ds ++ (frac ++ rest)).takeWhile Text.isDigit = ds ∧
      (ds ++ (frac ++ rest)).dropWhile Text.isDigit = frac ++ rest := by
  refine takeWhile_append_of_all hds ?_
  cases hf with
  | absent => exact hrest rfl
  | present =>
    rintro d ⟨⟩
    decide

/-- A number is read at least as far as it is spelled; only a type suffix may be left out, if a word
goes on behind it. -/
theorem number_longest {d : Char} {ds frac exp suff more text rest : List Char} {kind : TokenKind}
    (hds : IsDigits ds) (hf : Fraction frac) (he : Exponent exp) (hs : Suffix suff)
    (h : number d (ds ++ (frac ++ (exp ++ (suff ++ more)))) = .token kind text rest) :
    (d :: ds ++ frac ++ exp ++ suff) <+: text ∨
      LeavesSuffix kind text (d :: ds ++ frac ++ exp ++ suff) rest := by
  -- The last part that is there is read with what goes on behind it, the parts before it are read
  -- as they are.
  cases hs with
  | absent =>
    left
    simp only [List.nil_append, List.append_nil] at h ⊢
    by_cases hexp : exp = []
    · subst hexp
      simp only [List.nil_append, List.append_nil] at h ⊢
      by_cases hfrac : frac = []
      · subst hfrac
        simp only [number, List.nil_append, List.takeWhile_append_of_pos hds,
          Lexeme.token.injEq] at h
        rw [← h.2.1]
        simp
      · obtain ⟨htake, hdrop⟩ := @digits_append ds frac more hds hf fun h => absurd h hfrac
        simp only [number, htake, hdrop, fraction_of_spelling hf hfrac, Lexeme.token.injEq] at h
        rw [← h.2.1]
        simp
    · have hhead := head_of_exponent he hexp more
      obtain ⟨htake, hdrop⟩ := digits_append hds hf fun _ d hd => (hhead d hd).1
      simp only [number, htake, hdrop, fraction_append_of_spelling hf hhead,
        exponent_of_spelling he hexp, Lexeme.token.injEq] at h
      rw [← h.2.1]
      simp
  | @present s hc =>
    obtain ⟨hdigit, hpoint, hmark⟩ := ne_of_suffix (.present hc)
    have hbehind : ∀ x, ([s] ++ more).head? = some x →
        Text.isDigit x = false ∧ x ≠ 'e' ∧ x ≠ 'E' := by
      rintro x ⟨⟩
      exact ⟨hdigit, not_or.mp hmark⟩
    have hhead : ∀ x, (exp ++ ([s] ++ more)).head? = some x → Text.isDigit x = false ∧ x ≠ '.' := by
      by_cases hexp : exp = []
      · subst hexp
        rintro x ⟨⟩
        exact ⟨hdigit, hpoint⟩
      · exact head_of_exponent he hexp _
    obtain ⟨htake, hdrop⟩ := digits_append hds hf fun _ d hd => (hhead d hd).1
    simp only [number, htake, hdrop, fraction_append_of_spelling hf hhead,
      exponent_append_of_spelling he hbehind, Lexeme.token.injEq] at h
    obtain ⟨hkind, htext, hrest⟩ := h
    by_cases hword : more.head?.any isWordPart = true
    · right
      obtain ⟨x, xs, rfl⟩ : ∃ x xs, more = x :: xs := by
        cases more with
        | nil => cases hword
        | cons x xs => exact ⟨x, xs, rfl⟩
      have hsuffix : suffix ([s] ++ x :: xs) = ([], s :: x :: xs) := by
        rw [List.cons_append, List.nil_append, suffix, if_neg (fun hcond => hcond.2 hword)]
      rw [hsuffix] at htext hrest hkind
      refine ⟨?_, s, x, xs, by simp [← htext], .present hc, hrest.symm, by simpa using hword⟩
      rw [← hkind]
      split
      · exact .inl rfl
      · exact .inr rfl
    · left
      have hsuffix : suffix ([s] ++ more) = ([s], more) := by
        rw [List.cons_append, List.nil_append, suffix, if_pos ⟨hc, hword⟩]
      rw [hsuffix] at htext
      exact htext ▸ List.prefix_rfl

/-- What is spelled like a token at the front of a text is covered by the token that is read
there. -/
theorem front_covers {kind other : TokenKind} {c : Char} {cs more text rest : List Char}
    (hs : Spelling other (c :: cs)) (h : front c (cs ++ more) = .token kind text rest) :
    (c :: cs) <+: text ∨ LeavesSuffix kind text (c :: cs) rest := by
  generalize hlonger : c :: cs = longer at hs
  cases hs with
  | word hb hd hc hcs =>
    cases hlonger
    rw [front_word hb hd hc] at h
    cases h
    exact .inl ((List.prefix_cons_inj c).mpr (prefix_takeWhile hcs more))
  | @named x xs hx hxs =>
    cases hlonger
    have hall : ∀ y ∈ x :: xs, isWordPart y = true :=
      List.forall_mem_cons.mpr ⟨isWordPart_of_isWordStart hx, hxs⟩
    rw [front, if_neg (by decide), if_neg (by simp), if_neg (by simp), if_neg (by decide),
      if_neg (by decide), if_neg (by decide), if_pos rfl, Lexeme.named,
      if_pos (by simpa using hx)] at h
    cases h
    exact .inl ((List.prefix_cons_inj _).mpr (prefix_takeWhile hall more))
  | positional hds =>
    cases hlonger
    rw [front, if_neg (by decide), if_neg (by simp), if_neg (by simp), if_neg (by decide),
      if_neg (by decide), if_neg (by decide), if_neg (by decide), if_pos rfl] at h
    cases h
    exact .inl ((List.prefix_cons_inj _).mpr (prefix_takeWhile hds more))
  | string hq =>
    cases hlonger
    rw [front, if_neg (by decide), if_neg (fun h => absurd h.1 (by decide)),
      if_neg (fun h => absurd h.1 (by decide)), if_pos rfl, quotedString] at h
    split at h
    · next hbody =>
      cases h
      exact .inl ((List.prefix_cons_inj _).mpr (prefix_stringBody hq hbody))
    · cases h
  | number hb hd hds hf he hsuff =>
    simp only [List.cons_append, List.cons.injEq] at hlonger
    obtain ⟨rfl, rfl⟩ := hlonger
    rw [front_number hb hd] at h
    simp only [List.append_assoc] at h
    simpa using number_longest hds hf he hsuff h
  | single hc =>
    cases hlonger
    obtain ⟨hsplit, hne⟩ : text ++ rest = c :: ([] ++ more) ∧ text ≠ [] := by
      have := splits_front c ([] ++ more)
      rwa [h] at this
    obtain ⟨x, xs, rfl⟩ := List.exists_cons_of_ne_nil hne
    obtain rfl : x = c := (List.cons.inj hsplit).1
    exact .inl ⟨xs, rfl⟩
  | double hcd =>
    cases hlonger
    rw [List.cons_append, front_double_append hcd] at h
    cases h
    exact .inl List.prefix_rfl

/-- The token at the front of a text is the longest one that stands there. -/
theorem front_longest {kind : TokenKind} {c : Char} {cs text rest : List Char}
    (h : front c cs = .token kind text rest) :
    Longest kind text rest := by
  obtain ⟨hsplit, -⟩ : text ++ rest = c :: cs ∧ text ≠ [] := by
    have := splits_front c cs
    rwa [h] at this
  intro other longer hs hp
  obtain ⟨x, xs, rfl⟩ := hs.exists_cons
  rw [hsplit] at hp
  obtain ⟨more, hmore⟩ := hp
  obtain ⟨rfl, rfl⟩ := List.cons.inj hmore
  exact (front_covers hs h).imp_left List.IsPrefix.length_le

/-- Whether a token of a kind takes in every word character behind it. -/
def isWordLike (kind : TokenKind) : Bool :=
  kind.isWord || decide (kind = .namedParameter)

/-- A word or a named parameter ends where no word character follows. -/
theorem isWordPart_of_longest {kind : TokenKind} {text rest : List Char} (hs : Spelling kind text)
    (hk : isWordLike kind = true) (h : Longest kind text rest) :
    ∀ d, rest.head? = some d → isWordPart d = false := by
  rintro d hd
  obtain ⟨ds, rfl⟩ : ∃ ds, rest = d :: ds := by
    cases rest with
    | nil => cases hd
    | cons x ds => exact ⟨ds, by rw [Option.some.inj hd]⟩
  by_cases hpart : isWordPart d = true
  · -- One character more would be a longer token.
    have hlonger : ∃ other, Spelling other (text ++ [d]) := by
      have hall : ∀ {cs : List Char}, (∀ x ∈ cs, isWordPart x = true) → ∀ x ∈ cs ++ [d],
          isWordPart x = true := by
        intro cs hcs x hx
        rcases List.mem_append.mp hx with hx | hx
        · exact hcs x hx
        · rwa [List.mem_singleton.mp hx]
      cases hs with
      | word hb hd hc hcs => exact ⟨_, .word hb hd hc (hall hcs)⟩
      | named hc hcs => exact ⟨_, .named hc (hall hcs)⟩
      | number =>
        unfold numberKind at hk
        split at hk <;> cases hk
      | _ => cases hk
    obtain ⟨other, hspelling⟩ := hlonger
    rcases h other (text ++ [d]) hspelling ⟨ds, by simp⟩ with hlength | ⟨hnumber, -⟩
    · rw [List.length_append, List.length_singleton] at hlength
      omega
    · rcases hnumber with rfl | rfl <;> cases hk
  · simpa using hpart

end Lexeme

end EntityQuery
