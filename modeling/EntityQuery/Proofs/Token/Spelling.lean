import EntityQuery.Token.Scan

/-!
# How tokens are spelled

`Spelling kind text` says that a text is a token of a kind, without a reader. It is tied to
`Lexeme.front` in both directions:

* `front_spelling`: the text of every token is spelled like its kind.
* `front_append`: a text that is spelled like a token is read as that token, provided that the next
  character breaks it off (`breaksOff`).

So a token that was read once is read again wherever it is written down, as long as it does not run
into its neighbour.
-/

namespace EntityQuery

namespace Lexeme

/-! ## Spellings -/

/-- What follows the opening quote of a string: every quote inside is doubled, and a single one
closes. -/
inductive Quoted : List Char → Prop
  | close : Quoted [Text.singleQuote]
  | doubled {cs : List Char} (h : Quoted cs) : Quoted (Text.singleQuote :: Text.singleQuote :: cs)
  | plain {c : Char} {cs : List Char} (hc : c ≠ Text.singleQuote) (h : Quoted cs) : Quoted (c :: cs)

/-- A fraction, which may be left out: a point and digits. -/
inductive Fraction : List Char → Prop
  | absent : Fraction []
  | present {d : Char} {ds : List Char} (hd : Text.isDigit d = true)
      (hds : ∀ x ∈ ds, Text.isDigit x = true) :
      Fraction ('.' :: d :: ds)

/-- An exponent, which may be left out: its mark, a sign if there is one, and digits. -/
inductive Exponent : List Char → Prop
  | absent : Exponent []
  | plain {e d : Char} {ds : List Char} (he : e = 'e' ∨ e = 'E') (hd : Text.isDigit d = true)
      (hds : ∀ x ∈ ds, Text.isDigit x = true) : Exponent (e :: d :: ds)
  | signed {e s d : Char} {ds : List Char} (he : e = 'e' ∨ e = 'E') (hs : s = '+' ∨ s = '-')
      (hd : Text.isDigit d = true)
      (hds : ∀ x ∈ ds, Text.isDigit x = true) : Exponent (e :: s :: d :: ds)

/-- A type suffix, which may be left out. -/
inductive Suffix : List Char → Prop
  | absent : Suffix []
  | present {c : Char} (hc : c = 'l' ∨ c = 'L' ∨ isDecimalSuffix c = true) : Suffix [c]

/-- The kind of a number by its parts. -/
def numberKind (frac exp suff : List Char) : TokenKind :=
  if frac.isEmpty && exp.isEmpty && !suff.any isDecimalSuffix then .integer else .decimal

/-- The texts of the tokens of each kind. -/
inductive Spelling : TokenKind → List Char → Prop
  | word {c : Char} {cs : List Char} (hb : Text.isBlank c = false) (hd : Text.isDigit c = false)
      (hc : isWordStart c = true) (hcs : ∀ x ∈ cs, isWordPart x = true) :
      Spelling (.ofWord (String.ofList (c :: cs))) (c :: cs)
  | named {c : Char} {cs : List Char} (hc : isWordStart c = true)
      (hcs : ∀ x ∈ cs, isWordPart x = true) :
      Spelling .namedParameter (':' :: c :: cs)
  | positional {ds : List Char} (hds : ∀ x ∈ ds, Text.isDigit x = true) : Spelling
      .positionalParameter ('?' :: ds)
  | string {cs : List Char} (h : Quoted cs) : Spelling .string (Text.singleQuote :: cs)
  | number {d : Char} {ds frac exp suff : List Char} (hb : Text.isBlank d = false)
      (hd : Text.isDigit d = true)
      (hds : ∀ x ∈ ds, Text.isDigit x = true) (hf : Fraction frac) (he : Exponent exp)
      (hs : Suffix suff) :
      Spelling (numberKind frac exp suff) (d :: ds ++ frac ++ exp ++ suff)
  | single {c : Char} {s : Symbol} (h : singleSymbol? c = some s) : Spelling (.symbol s) [c]
  | double {c d : Char} {s : Symbol} (h : doubleSymbol? c d = some s) : Spelling (.symbol s) [c, d]

/-- A character that may stand directly behind a token of a kind without becoming part of it. -/
def breaksOff (kind : TokenKind) (d : Char) : Bool :=
  match kind with
  | .symbol .minus => d != '-'
  | .symbol .divide => d != '*'
  | .symbol .lessThan => d != '>' && d != '='
  | .symbol .greaterThan => d != '='
  | .symbol _ => true
  | .string => d != Text.singleQuote
  | .positionalParameter => !Text.isDigit d
  | .integer | .decimal => !Text.isDigit d && !isWordPart d && d != '.'
  | _ => !isWordPart d

/-! ## What is read is spelled like its kind -/

theorem isWordPart_of_isWordStart {c : Char} (h : isWordStart c = true) : isWordPart c = true := by
  simp only [isWordStart, isWordPart, Text.isLetter, Text.isAlphanumeric, Char.isAlphanum,
    Bool.or_eq_true] at h ⊢
  rcases h with (h | h) | h
  · refine .inl (.inl ?_)
    split at h
    · next ha => rw [if_pos ha]; simp [h]
    · next ha => rw [if_neg ha]; simp [h]
  · exact .inl (.inr h)
  · exact .inr h

theorem quoted_of_stringBody {cs text rest : List Char} (h : stringBody cs = some (text, rest)) :
    Quoted text := by
  fun_induction stringBody cs generalizing text with
  | case1 => cases h
  | case2 =>
    cases h
    exact .close
  | case3 => cases h
  | case4 more ih =>
    obtain ⟨⟨t, r⟩, hr, he⟩ := Option.map_eq_some_iff.mp h
    cases he
    exact .doubled (ih hr)
  | case5 d more _ =>
    cases h
    exact .close
  | case6 c d more hc ih =>
    obtain ⟨⟨t, r⟩, hr, he⟩ := Option.map_eq_some_iff.mp h
    cases he
    exact .plain hc (ih hr)

theorem mem_takeWhile {p : Char → Bool} {cs : List Char} : ∀ x ∈ cs.takeWhile p, p x = true := by
  intro x hx
  exact List.all_eq_true.mp (List.all_takeWhile (l := cs)) x hx

theorem fraction_spelling (cs : List Char) : Fraction (fraction cs).1 := by
  fun_cases fraction cs with
  | case1 d rest hd => exact .present hd mem_takeWhile
  | case2 => exact .absent
  | case3 => exact .absent

theorem exponent_spelling (cs : List Char) : Exponent (exponent cs).1 := by
  fun_cases exponent cs with
  | case1 e d rest he hd => exact .plain he hd mem_takeWhile
  | case2 e d rest he hd hs =>
    obtain ⟨x, xs, rfl⟩ : ∃ x xs, rest = x :: xs := by
      cases rest with
      | nil => exact absurd hs.2 (by simp)
      | cons x xs => exact ⟨x, xs, rfl⟩
    have hx : Text.isDigit x = true := by simpa using hs.2
    rw [List.takeWhile_cons_of_pos hx]
    exact .signed he hs.1 hx mem_takeWhile
  | case3 => exact .absent
  | case4 => exact .absent
  | case5 => exact .absent

theorem suffix_spelling (cs : List Char) : Suffix (suffix cs).1 := by
  fun_cases suffix cs with
  | case1 => exact .absent
  | case2 c rest h => exact .present h.1
  | case3 => exact .absent

theorem number_spelling {c : Char} {rest text rest' : List Char} {kind : TokenKind}
    (hb : Text.isBlank c = false) (hc : Text.isDigit c = true)
    (h : number c rest = .token kind text rest') : Spelling kind text := by
  simp only [number, Lexeme.token.injEq] at h
  obtain ⟨rfl, rfl, -⟩ := h
  exact .number hb hc mem_takeWhile (fraction_spelling _) (exponent_spelling _) (suffix_spelling _)

theorem sign_spelling {c : Char} {rest text rest' : List Char} {kind : TokenKind}
    (h : sign c rest = .token kind text rest') : Spelling kind text := by
  have hsingle : ∀ {rest : List Char}, single c rest = .token kind text rest' →
      Spelling kind text := by
    intro rest h
    unfold single at h
    split at h
    · next s hs => cases h; exact .single hs
    · cases h
  unfold sign at h
  split at h
  · exact hsingle h
  · split at h
    · next s hs => cases h; exact .double hs
    · exact hsingle h

/-- The text of every token is spelled like its kind. -/
theorem front_spelling {c : Char} {rest text rest' : List Char} {kind : TokenKind}
    (h : front c rest = .token kind text rest') : Spelling kind text := by
  unfold front at h
  split at h
  · cases h
  · next hb =>
    have hb : Text.isBlank c = false := by simpa using hb
    split at h
    · cases h
    · split at h
      · unfold blockComment at h
        split at h <;> cases h
      · split at h
        · unfold quotedString at h
          split at h
          · next hs => cases h; exact .string (quoted_of_stringBody hs)
          · cases h
        · split at h
          · next hd => exact number_spelling hb hd h
          · next hd =>
            split at h
            · next hw =>
              simp only [word, Lexeme.token.injEq] at h
              obtain ⟨rfl, rfl, -⟩ := h
              exact .word hb (by simpa using hd) hw mem_takeWhile
            · split at h
              · unfold named at h
                split at h
                · next hw =>
                  cases h
                  cases rest with
                  | nil => simp at hw
                  | cons d ds =>
                    have hd : isWordStart d = true := by simpa using hw
                    rw [List.takeWhile_cons_of_pos (isWordPart_of_isWordStart hd)]
                    exact .named hd mem_takeWhile
                · cases h
              · split at h
                · cases h; exact .positional mem_takeWhile
                · exact sign_spelling h

theorem Spelling.exists_cons {kind : TokenKind} {text : List Char} (h : Spelling kind text) :
    ∃ c cs, text = c :: cs := by
  cases h <;> exact ⟨_, _, rfl⟩

/-- No token that is spelled out ends the input. -/
theorem Spelling.kind_ne_end {kind : TokenKind} {text : List Char} (h : Spelling kind text) :
    kind ≠ .endOfInput := by
  cases h with
  | word =>
    unfold TokenKind.ofWord TokenKind.ofLowerWord
    repeat' split
    all_goals simp
  | number =>
    unfold numberKind
    split <;> simp
  | _ => simp

/-! ## What is spelled like a kind is read -/

theorem takeWhile_append_of_all {p : Char → Bool} {cs rest : List Char} (hcs : ∀ x ∈ cs, p x = true)
    (hrest : ∀ d, rest.head? = some d → p d = false) :
    (cs ++ rest).takeWhile p = cs ∧ (cs ++ rest).dropWhile p = rest := by
  have hstop : rest.takeWhile p = [] ∧ rest.dropWhile p = rest := by
    cases rest with
    | nil => exact ⟨rfl, rfl⟩
    | cons d ds =>
      have hd := hrest d rfl
      exact ⟨List.takeWhile_cons_of_neg (by simp [hd]), List.dropWhile_cons_of_neg (by simp [hd])⟩
  rw [List.takeWhile_append_of_pos hcs, List.dropWhile_append_of_pos hcs, hstop.1, hstop.2,
    List.append_nil]
  exact ⟨rfl, rfl⟩

theorem stringBody_append_of_quoted {cs rest : List Char} (h : Quoted cs)
    (hrest : ∀ d, rest.head? = some d → d ≠ Text.singleQuote) :
    stringBody (cs ++ rest) = some (cs, rest) := by
  induction h with
  | close =>
    cases rest with
    | nil => simp [stringBody]
    | cons d ds => simp [stringBody, hrest d rfl]
  | doubled h ih => simp [stringBody, ih]
  | @plain c cs hc h ih =>
    obtain ⟨d, ds, hd⟩ : ∃ d ds, cs = d :: ds := by
      cases h <;> exact ⟨_, _, rfl⟩
    subst hd
    rw [List.cons_append, List.cons_append, stringBody, if_neg hc, ← List.cons_append, ih]
    rfl

/-- What may stand behind the parts of a number: neither digits, nor a point, nor a letter that a
word goes on with. -/
def EndsNumber (rest : List Char) : Prop :=
  ∀ d, rest.head? = some d → Text.isDigit d = false ∧ isWordPart d = false ∧ d ≠ '.'

theorem suffix_append_of_spelling {suff rest : List Char} (h : Suffix suff)
    (hrest : EndsNumber rest) :
    suffix (suff ++ rest) = (suff, rest) := by
  cases h with
  | absent =>
    cases rest with
    | nil => rfl
    | cons d ds =>
      have hd := (hrest d rfl).2.1
      have hne :
          ¬((d = 'l' ∨ d = 'L' ∨ isDecimalSuffix d = true) ∧ ¬ds.head?.any isWordPart = true) := by
        rintro ⟨h, -⟩
        simp only [isDecimalSuffix, Bool.or_eq_true, beq_iff_eq] at h
        rcases h with rfl | rfl | ((rfl | rfl) | rfl) | rfl <;> cases hd
      rw [List.nil_append, suffix, if_neg hne]
  | @present c hc =>
    have hne : ¬rest.head?.any isWordPart = true := by
      cases rest with
      | nil => simp
      | cons d ds => simp [(hrest d rfl).2.1]
    rw [List.cons_append, List.nil_append, suffix, if_pos ⟨hc, hne⟩]

/-- A type suffix, or what follows a number, is no digit, no point and no mark of an exponent. -/
theorem head_suffix {suff rest : List Char} (h : Suffix suff) (hrest : EndsNumber rest) :
    ∀ d, (suff ++ rest).head? = some d → Text.isDigit d = false ∧ d ≠ '.' ∧ d ≠ 'e' ∧ d ≠ 'E' := by
  cases h with
  | absent =>
    intro d hd
    obtain ⟨h1, h2, h3⟩ := hrest d hd
    refine ⟨h1, h3, ?_, ?_⟩ <;> rintro rfl <;> cases h2
  | present hc =>
    rintro d ⟨⟩
    simp only [isDecimalSuffix, Bool.or_eq_true, beq_iff_eq] at hc
    rcases hc with rfl | rfl | ((rfl | rfl) | rfl) | rfl <;> decide

/-- An exponent is read with all digits behind it. -/
theorem exponent_of_spelling {exp : List Char} (h : Exponent exp) (hne : exp ≠ [])
    (rest : List Char) :
    exponent (exp ++ rest) = (exp ++ rest.takeWhile Text.isDigit, rest.dropWhile Text.isDigit) := by
  cases h with
  | absent => exact absurd rfl hne
  | plain he hd hds =>
    rw [List.cons_append, List.cons_append, exponent, if_pos he, if_pos hd,
      List.takeWhile_append_of_pos hds, List.dropWhile_append_of_pos hds]
    rfl
  | @signed e s d ds he hs hd hds =>
    have hsign : ¬Text.isDigit s = true := by
      rcases hs with rfl | rfl <;> decide
    have hall : ∀ x ∈ d :: ds, Text.isDigit x = true := List.forall_mem_cons.mpr ⟨hd, hds⟩
    rw [List.cons_append, List.cons_append, exponent, if_pos he, if_neg hsign,
      if_pos ⟨hs, by simp [hd]⟩, List.takeWhile_append_of_pos hall,
      List.dropWhile_append_of_pos hall]
    rfl

theorem exponent_append_of_spelling {exp rest : List Char} (h : Exponent exp)
    (hrest : ∀ d, rest.head? = some d → Text.isDigit d = false ∧ d ≠ 'e' ∧ d ≠ 'E') :
    exponent (exp ++ rest) = (exp, rest) := by
  by_cases hne : exp = []
  · subst hne
    match rest with
    | [] => rfl
    | [d] => rfl
    | d :: x :: xs =>
      have hd := hrest d rfl
      rw [List.nil_append, exponent, if_neg (by simp [hd.2])]
  · obtain ⟨htake, hdrop⟩ := @takeWhile_append_of_all Text.isDigit [] rest (by simp) fun d hd =>
      (hrest d hd).1
    rw [List.nil_append] at htake hdrop
    rw [exponent_of_spelling h hne, htake, hdrop, List.append_nil]

/-- An exponent, or what follows it, is no digit and no point. -/
theorem head_exponent {exp suff rest : List Char} (h : Exponent exp) (hs : Suffix suff)
    (hrest : EndsNumber rest) :
    ∀ d, (exp ++ (suff ++ rest)).head? = some d → Text.isDigit d = false ∧ d ≠ '.' := by
  cases h with
  | absent =>
    intro d hd
    have := head_suffix hs hrest d hd
    exact ⟨this.1, this.2.1⟩
  | plain he =>
    rintro d ⟨⟩
    rcases he with rfl | rfl <;> decide
  | signed he =>
    rintro d ⟨⟩
    rcases he with rfl | rfl <;> decide

/-- A fraction is read with all digits behind it. -/
theorem fraction_of_spelling {frac : List Char} (h : Fraction frac) (hne : frac ≠ [])
    (rest : List Char) :
    fraction (frac ++ rest) = (frac ++ rest.takeWhile Text.isDigit,
      rest.dropWhile Text.isDigit) := by
  cases h with
  | absent => exact absurd rfl hne
  | present hd hds =>
    rw [List.cons_append, List.cons_append, fraction, if_pos hd, List.takeWhile_append_of_pos hds,
      List.dropWhile_append_of_pos hds]
    rfl

theorem fraction_append_of_spelling {frac rest : List Char} (h : Fraction frac)
    (hrest : ∀ d, rest.head? = some d → Text.isDigit d = false ∧ d ≠ '.') :
    fraction (frac ++ rest) = (frac, rest) := by
  by_cases hne : frac = []
  · subst hne
    unfold fraction
    split
    · next heq => exact absurd rfl (hrest _ (congrArg List.head? heq)).2
    · rfl
  · obtain ⟨htake, hdrop⟩ := @takeWhile_append_of_all Text.isDigit [] rest (by simp) fun d hd =>
      (hrest d hd).1
    rw [List.nil_append] at htake hdrop
    rw [fraction_of_spelling h hne, htake, hdrop, List.append_nil]

theorem number_append {d : Char} {ds frac exp suff rest : List Char}
    (hds : ∀ x ∈ ds, Text.isDigit x = true) (hf : Fraction frac) (he : Exponent exp)
    (hs : Suffix suff) (hrest : EndsNumber rest) :
    number d (ds ++ (frac ++ (exp ++ (suff ++ rest)))) =
      .token (numberKind frac exp suff) (d :: ds ++ frac ++ exp ++ suff) rest := by
  have hhead : ∀ x, (frac ++ (exp ++ (suff ++ rest))).head? = some x → Text.isDigit x = false := by
    cases hf with
    | absent => exact fun x hx => (head_exponent he hs hrest x hx).1
    | present => rintro x ⟨⟩; decide
  have htake := takeWhile_append_of_all hds hhead
  simp only [number, htake.1, htake.2, fraction_append_of_spelling hf (head_exponent he hs hrest),
    exponent_append_of_spelling he fun d hd =>
    ⟨(head_suffix hs hrest d hd).1, (head_suffix hs hrest d hd).2.2⟩,
    suffix_append_of_spelling hs hrest]
  rfl

/-- A sign of one character is none of the characters that start something else. -/
theorem front_of_single {c : Char} {s : Symbol} (h : singleSymbol? c = some s) {rest : List Char}
    (hcomment : ¬(c = '-' ∧ rest.head? = some '-') ∧ ¬(c = '/' ∧ rest.head? = some '*')) :
    front c rest = sign c rest := by
  unfold singleSymbol? at h
  split at h
  case h_14 => cases h
  all_goals
    rw [front, if_neg (by decide), if_neg hcomment.1, if_neg hcomment.2, if_neg (by decide),
      if_neg (by decide), if_neg (by decide), if_neg (by decide), if_neg (by decide)]

theorem sign_of_single {c : Char} {s : Symbol} (h : singleSymbol? c = some s) {rest : List Char}
    (hrest : ∀ d, rest.head? = some d → doubleSymbol? c d = none) :
    sign c rest = .token (.symbol s) [c] rest := by
  have hsingle : single c rest = .token (.symbol s) [c] rest := by rw [single, h]
  cases rest with
  | nil => exact hsingle
  | cons d ds => rw [sign, hrest d rfl]; exact hsingle

theorem doubleSymbol_of_breaksOff {c d : Char} {s : Symbol} (h : singleSymbol? c = some s)
    (hd : breaksOff (.symbol s) d = true) : doubleSymbol? c d = none := by
  unfold singleSymbol? at h
  split at h
  case h_14 => cases h
  all_goals
    cases h
    simp_all [breaksOff, doubleSymbol?]

theorem front_single_append {c : Char} {s : Symbol} (h : singleSymbol? c = some s)
    {rest : List Char} (hrest : ∀ d, rest.head? = some d → breaksOff (.symbol s) d = true) :
    front c rest = .token (.symbol s) [c] rest := by
  rw [front_of_single h ⟨?_, ?_⟩]
  · exact sign_of_single h fun d hd => doubleSymbol_of_breaksOff h (hrest d hd)
  · rintro ⟨rfl, hd⟩
    cases h
    exact absurd (hrest _ hd) (by decide)
  · rintro ⟨rfl, hd⟩
    cases h
    exact absurd (hrest _ hd) (by decide)

theorem front_double_append {c d : Char} {s : Symbol} (h : doubleSymbol? c d = some s)
    (rest : List Char) :
    front c (d :: rest) = .token (.symbol s) [c, d] rest := by
  have hsign : sign c (d :: rest) = .token (.symbol s) [c, d] rest := by rw [sign, h]
  rw [← hsign]
  unfold doubleSymbol? at h
  repeat' split at h
  case isFalse => cases h
  all_goals
    next hcd =>
      obtain ⟨rfl, rfl⟩ := hcd
      rw [front, if_neg (by decide), if_neg (by simp), if_neg (by simp), if_neg (by decide),
        if_neg (by decide), if_neg (by decide), if_neg (by decide), if_neg (by decide)]

theorem front_word {c : Char} {rest : List Char} (hb : Text.isBlank c = false)
    (hd : Text.isDigit c = false) (hc : isWordStart c = true) : front c rest = word c rest := by
  have hne : ∀ {x : Char}, isWordStart x = false → c ≠ x := by
    rintro x hx rfl
    rw [hx] at hc
    cases hc
  rw [front, if_neg (by simp [hb]), if_neg (fun h => hne (by decide) h.1),
    if_neg (fun h => hne (by decide) h.1), if_neg (hne (by decide)), if_neg (by simp [hd]),
    if_pos hc]

theorem front_number {c : Char} {rest : List Char} (hb : Text.isBlank c = false)
    (hd : Text.isDigit c = true) :
    front c rest = number c rest := by
  have hne : ∀ {x : Char}, Text.isDigit x = false → c ≠ x := by
    rintro x hx rfl
    rw [hx] at hd
    cases hd
  rw [front, if_neg (by simp [hb]), if_neg (fun h => hne (by decide) h.1),
    if_neg (fun h => hne (by decide) h.1), if_neg (hne (by decide)), if_pos hd]

theorem breaksOff_ofWord {text : String} {d : Char} (h : breaksOff (.ofWord text) d = true) :
    isWordPart d = false := by
  unfold TokenKind.ofWord TokenKind.ofLowerWord at h
  repeat' split at h
  all_goals simpa [breaksOff] using h

theorem breaksOff_number {frac exp suff : List Char} {d : Char}
    (h : breaksOff (numberKind frac exp suff) d = true) :
    Text.isDigit d = false ∧ isWordPart d = false ∧ d ≠ '.' := by
  unfold numberKind at h
  split at h
  all_goals
    simp only [breaksOff, Bool.and_eq_true, Bool.not_eq_true', bne_iff_ne] at h
    exact ⟨h.1.1, h.1.2, h.2⟩

/-- A text that is spelled like a token is read as that token, if what follows breaks it off. -/
theorem front_append {kind : TokenKind} {c : Char} {cs rest : List Char}
    (h : Spelling kind (c :: cs)) (hrest : ∀ d, rest.head? = some d → breaksOff kind d = true) :
    front c (cs ++ rest) = .token kind (c :: cs) rest := by
  generalize htext : c :: cs = text at h
  cases h with
  | @word c' cs' hb hd hc hcs =>
    cases htext
    have htake := takeWhile_append_of_all hcs fun d h => breaksOff_ofWord (hrest d h)
    rw [front_word hb hd hc, word, htake.1, htake.2]
  | @named d ds hc hcs =>
    cases htext
    have htake := takeWhile_append_of_all
      (fun x hx => (List.mem_cons.mp hx).elim (fun h => h ▸ isWordPart_of_isWordStart hc) (hcs x))
      fun d h => by simpa [breaksOff] using hrest d h
    have hhead : (d :: ds ++ rest).head?.any isWordStart = true := by simpa using hc
    rw [front, if_neg (by decide), if_neg (by simp), if_neg (by simp), if_neg (by decide),
      if_neg (by decide), if_neg (by decide), if_pos rfl, Lexeme.named, if_pos hhead,
      htake.1, htake.2]
  | @positional ds hds =>
    cases htext
    have htake := takeWhile_append_of_all hds fun d h => by simpa [breaksOff] using hrest d h
    rw [front, if_neg (by decide), if_neg (by simp), if_neg (by simp), if_neg (by decide),
      if_neg (by decide), if_neg (by decide), if_neg (by decide), if_pos rfl, Lexeme.positional,
      htake.1, htake.2]
  | @string cs' hq =>
    cases htext
    have hbody := stringBody_append_of_quoted hq fun d h => by simpa [breaksOff] using hrest d h
    rw [front, if_neg (by decide), if_neg (fun h => absurd h.1 (by decide)),
      if_neg (fun h => absurd h.1 (by decide)), if_pos rfl, quotedString, hbody]
  | @number d ds frac exp suff hb hd hds hf he hs =>
    simp only [List.cons_append, List.cons.injEq] at htext
    obtain ⟨rfl, rfl⟩ := htext
    rw [front_number hb hd]
    simp only [List.append_assoc]
    rw [number_append hds hf he hs fun d h => breaksOff_number (hrest d h)]
    simp only [List.cons_append, List.append_assoc]
  | single h =>
    cases htext
    exact front_single_append h hrest
  | double h =>
    cases htext
    exact front_double_append h rest

end Lexeme

/-! ## The tokens of a scan -/

/-- Every token of a scan is spelled like its kind. -/
theorem scanFrom_spelling (pos : Position) (cs : List Char) :
    ∀ t ∈ (scanFrom pos cs).tokens, Lexeme.Spelling t.kind t.text.toList := by
  fun_induction scanFrom pos cs with
  | case1 pos => simp
  | case2 pos c rest text rest' _ ih => exact ih
  | case3 pos c rest kind text rest' h ih =>
    intro t ht
    rcases List.mem_cons.mp ht with rfl | ht
    · simpa using Lexeme.front_spelling h
    · exact ih t ht
  | case4 pos c rest reason read => simp

/-- A complete list of tokens is what a scan without an error read, and the ending. -/
theorem tokenize_eq_ok {query : String} {ts : List Token} :
    tokenize query = .ok ts ↔
      (scan query).error? = none ∧ (scan query).tokens ++ [.ending (scan query).stop] = ts := by
  unfold tokenize Scan.result Scan.stored
  cases (scan query).error? <;> simp

end EntityQuery
