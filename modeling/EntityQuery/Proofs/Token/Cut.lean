import EntityQuery.Proofs.Token.Separator

/-!
# Texts that are cut off

A reader looks at what follows, up to three characters behind what it takes. If the rest of a text
is cut off where something has been read completely, it may therefore be read differently: `10l½` is
a number and a word, `10l` is one number.

`front_cut_skip`, `front_cut_token`: nothing changes if the rest opens with a character that
continues neither a number nor a comment (`Barrier`), and if it does not continue a word either
where a lone letter stands before it, which could be the suffix of a number. There is one lemma for
each reader.
-/

namespace EntityQuery.Lexeme

/-! ## The reader at the front -/

/-- The reader that is chosen at the front of a text, and what it gives. -/
inductive Chosen (c : Char) (cs : List Char) (x : Lexeme) : Prop
  | blank (hc : Text.isBlank c = true)
      (hx : .skip (c :: cs.takeWhile Text.isBlank) (cs.dropWhile Text.isBlank) = x)
  | line (hc : c = '-') (hd : cs.head? = some '-')
      (hx : .skip (c :: cs.takeWhile (· != '\n')) (cs.dropWhile (· != '\n')) = x)
  | block (hc : c = '/') (hd : cs.head? = some '*') (hx : blockComment cs.tail = x)
  | string (hc : c = Text.singleQuote) (hx : quotedString cs = x)
  | number (hb : Text.isBlank c = false) (hc : Text.isDigit c = true) (hx : number c cs = x)
  | word (hb : Text.isBlank c = false) (hd : Text.isDigit c = false) (hc : isWordStart c = true)
      (hx : word c cs = x)
  | named (hc : c = ':') (hx : named cs = x)
  | positional (hc : c = '?') (hx : positional cs = x)
  | sign (hb : Text.isBlank c = false) (hline : ¬(c = '-' ∧ cs.head? = some '-'))
      (hblock : ¬(c = '/' ∧ cs.head? = some '*'))
      (hq : c ≠ Text.singleQuote) (hd : Text.isDigit c = false) (hw : isWordStart c = false)
      (hn : c ≠ ':') (hp : c ≠ '?') (hx : sign c cs = x)

theorem front_iff {c : Char} {cs : List Char} {x : Lexeme} : front c cs = x ↔ Chosen c cs x := by
  constructor
  · intro h
    unfold front at h
    split at h
    · exact .blank ‹_› h
    · split at h
      · next hc => exact .line hc.1 hc.2 h
      · split at h
        · next hc => exact .block hc.1 hc.2 h
        · split at h
          · exact .string ‹_› h
          · split at h
            · exact .number (by simpa using ‹¬Text.isBlank c = true›) ‹_› h
            · split at h
              · exact .word (by simpa using ‹¬Text.isBlank c = true›)
                  (by simpa using ‹¬Text.isDigit c = true›) ‹_› h
              · split at h
                · exact .named ‹_› h
                · split at h
                  · exact .positional ‹_› h
                  · simp only [Bool.not_eq_true] at *
                    exact .sign ‹_› ‹_› ‹_› ‹_› ‹_› ‹_› ‹_› ‹_› h
  · rintro (⟨hc, rfl⟩ | ⟨rfl, hd, rfl⟩ | ⟨rfl, hd, rfl⟩ | ⟨rfl, rfl⟩ | ⟨hb, hc, rfl⟩
      | ⟨hb, hd, hc, rfl⟩ | ⟨rfl, rfl⟩ | ⟨rfl, rfl⟩ |
      ⟨hb, hline, hblock, hq, hd, hw, hn, hp, rfl⟩)
    · rw [front, if_pos hc]
    · rw [front, if_neg (by decide), if_pos ⟨rfl, hd⟩]
    · rw [front, if_neg (by decide), if_neg (by simp), if_pos ⟨rfl, hd⟩]
    · rw [front, if_neg (by decide), if_neg (fun h => absurd h.1 (by decide)),
        if_neg (fun h => absurd h.1 (by decide)), if_pos rfl]
    · exact front_number hb hc
    · exact front_word hb hd hc
    · rw [front, if_neg (by decide), if_neg (by simp), if_neg (by simp), if_neg (by decide),
        if_neg (by decide), if_neg (by decide), if_pos rfl]
    · rw [front, if_neg (by decide), if_neg (by simp), if_neg (by simp), if_neg (by decide),
        if_neg (by decide), if_neg (by decide), if_neg (by decide), if_pos rfl]
    · rw [front, if_neg (by simp [hb]), if_neg hline, if_neg hblock, if_neg hq,
        if_neg (by simp [hd]), if_neg (by simp [hw]), if_neg hn, if_neg hp]

/-- A rest that opens with a character with which neither a number nor a comment goes on. -/
def Barrier (rest : List Char) : Prop :=
  ∀ d, rest.head? = some d →
    Text.isDigit d = false ∧ isWordStart d = false ∧ d ≠ '.' ∧ d ≠ '+' ∧ d ≠ '-' ∧ d ≠ '*'

/-! ## Runs, strings and comments -/

/-- A run of characters that ends before the rest, or further in front, ends there without
the rest. -/
theorem takeWhile_cut {p : Char → Bool} {cs left rest : List Char}
    (h : (cs ++ rest).dropWhile p = left ++ rest) :
    cs.takeWhile p = (cs ++ rest).takeWhile p ∧ cs.dropWhile p = left := by
  induction cs with
  | nil =>
    rw [List.nil_append] at h ⊢
    have hsplit : rest.takeWhile p ++ (left ++ rest) = rest := by
      rw [← h]
      exact List.takeWhile_append_dropWhile
    have hlength := congrArg List.length hsplit
    simp only [List.length_append] at hlength
    have htake : rest.takeWhile p = [] := List.eq_nil_of_length_eq_zero (by omega)
    have hleft : left = [] := List.eq_nil_of_length_eq_zero (by omega)
    exact ⟨htake.symm, hleft.symm⟩
  | cons c cs ih =>
    rw [List.cons_append] at h ⊢
    by_cases hc : p c = true
    · rw [List.dropWhile_cons_of_pos hc] at h
      obtain ⟨htake, hdrop⟩ := ih h
      rw [List.takeWhile_cons_of_pos hc, List.takeWhile_cons_of_pos hc,
        List.dropWhile_cons_of_pos hc, htake]
      exact ⟨rfl, hdrop⟩
    · rw [List.dropWhile_cons_of_neg hc, ← List.cons_append] at h
      rw [List.takeWhile_cons_of_neg hc, List.takeWhile_cons_of_neg hc,
        List.dropWhile_cons_of_neg hc]
      exact ⟨rfl, List.append_cancel_right h⟩

/-- A string ends where no further quote follows. -/
theorem stringBody_stops {cs text rest : List Char} (h : stringBody cs = some (text, rest)) :
    rest.head? ≠ some Text.singleQuote := by
  fun_induction stringBody cs generalizing text with
  | case1 => cases h
  | case2 =>
    cases h
    simp
  | case3 => cases h
  | case4 more ih =>
    obtain ⟨⟨t, r⟩, hr, he⟩ := Option.map_eq_some_iff.mp h
    cases he
    exact ih hr
  | case5 d more hd =>
    cases h
    simpa using hd
  | case6 c d more _ ih =>
    obtain ⟨⟨t, r⟩, hr, he⟩ := Option.map_eq_some_iff.mp h
    cases he
    exact ih hr

theorem stringBody_cut {cs text left rest : List Char}
    (h : stringBody (cs ++ rest) = some (text, left ++ rest)) :
    stringBody cs = some (text, left) := by
  obtain rfl : text ++ left = cs :=
    List.append_cancel_right ((List.append_assoc ..).trans (stringBody_append h))
  refine stringBody_append_of_quoted (quoted_of_stringBody h) fun d hd hquote =>
    stringBody_stops h ?_
  rw [List.head?_append, hd, hquote]
  rfl

theorem commentBody_cut {cs text left rest : List Char}
    (h : commentBody (cs ++ rest) = some (text, left ++ rest)) :
    commentBody cs = some (text, left) := by
  obtain rfl : text ++ left = cs :=
    List.append_cancel_right ((List.append_assoc ..).trans (commentBody_append h))
  obtain ⟨body, rfl, hfirst⟩ := closesFirst_of_commentBody h
  exact commentBody_of_closesFirst hfirst left

/-! ## Numbers -/

theorem digits_barrier (cs : List Char) {rest : List Char} (hr : Barrier rest) :
    (cs ++ rest).takeWhile Text.isDigit = cs.takeWhile Text.isDigit ∧
      (cs ++ rest).dropWhile Text.isDigit = cs.dropWhile Text.isDigit ++ rest := by
  have hdrop : (cs ++ rest).dropWhile Text.isDigit = cs.dropWhile Text.isDigit ++ rest := by
    rw [List.dropWhile_append]
    split
    · next hnil =>
      rw [List.isEmpty_iff.mp hnil, List.nil_append]
      cases rest with
      | nil => rfl
      | cons d rest => rw [List.dropWhile_cons_of_neg (by simp [(hr d rfl).1])]
    · rfl
  exact ⟨(takeWhile_cut hdrop).1.symm, hdrop⟩

theorem fraction_barrier {cs rest : List Char} (hr : Barrier rest) :
    fraction (cs ++ rest) = ((fraction cs).1, (fraction cs).2 ++ rest) := by
  cases cs with
  | nil =>
    cases rest with
    | nil => rfl
    | cons d rest =>
      obtain ⟨-, -, hpoint, -⟩ := hr d rfl
      rw [List.nil_append, fraction]
      · rfl
      · rintro _ _ ⟨⟩
        exact hpoint rfl
  | cons c cs =>
    by_cases hc : c = '.'
    · subst hc
      cases cs with
      | nil =>
        cases rest with
        | nil => rfl
        | cons d rest =>
          rw [List.cons_append, List.nil_append, fraction, if_neg (by simp [(hr d rfl).1])]
          rfl
      | cons d cs =>
        obtain ⟨htake, hdrop⟩ := digits_barrier cs hr
        rw [List.cons_append, List.cons_append, fraction, fraction]
        split
        · rw [htake, hdrop]
        · rfl
    · have hnone : ∀ cs, fraction (c :: cs) = ([], c :: cs) := by
        intro cs
        rw [fraction]
        rintro _ _ ⟨⟩
        exact hc rfl
      rw [List.cons_append, hnone, hnone, List.cons_append]

theorem exponent_of_ne {c : Char} (h : ¬(c = 'e' ∨ c = 'E')) (cs : List Char) :
    exponent (c :: cs) = ([], c :: cs) := by
  cases cs with
  | nil => rfl
  | cons d cs => rw [exponent, if_neg h]

theorem Barrier.no_mark {d : Char} {rest : List Char} (hr : Barrier (d :: rest)) :
    ¬(d = 'e' ∨ d = 'E') := by
  rintro (rfl | rfl)
  · exact absurd (hr _ rfl).2.1 (by decide)
  · exact absurd (hr _ rfl).2.1 (by decide)

theorem exponent_barrier {cs rest : List Char} (hr : Barrier rest) :
    exponent (cs ++ rest) = ((exponent cs).1, (exponent cs).2 ++ rest) := by
  cases cs with
  | nil =>
    cases rest with
    | nil => rfl
    | cons d rest =>
      rw [List.nil_append, exponent_of_ne hr.no_mark]
      rfl
  | cons e cs =>
    by_cases he : e = 'e' ∨ e = 'E'
    · cases cs with
      | nil =>
        cases rest with
        | nil => rfl
        | cons d rest =>
          obtain ⟨hdigit, -, -, hplus, hminus, -⟩ := hr d rfl
          rw [List.cons_append, List.nil_append, exponent, if_pos he, if_neg (by simp [hdigit]),
            if_neg (by simp [hplus, hminus])]
          rfl
      | cons d cs =>
        obtain ⟨htake, hdrop⟩ := digits_barrier cs hr
        -- Whether a digit follows the sign does not depend on the rest, which opens with none.
        have hhead : (cs ++ rest).head?.any Text.isDigit = cs.head?.any Text.isDigit := by
          cases cs with
          | nil =>
            cases rest with
            | nil => rfl
            | cons x rest => exact (hr x rfl).1
          | cons x cs => rfl
        rw [List.cons_append, List.cons_append, exponent, exponent, if_pos he, if_pos he, htake,
          hdrop, hhead]
        split
        · rfl
        · split <;> rfl
    · rw [List.cons_append, exponent_of_ne he, exponent_of_ne he, List.cons_append]

theorem suffix_barrier {cs rest : List Char} (hr : Barrier rest)
    (hword : ∀ s, Suffix [s] → cs = [s] → rest.head?.any isWordPart = false) :
    suffix (cs ++ rest) = ((suffix cs).1, (suffix cs).2 ++ rest) := by
  cases cs with
  | nil =>
    cases rest with
    | nil => rfl
    | cons d rest =>
      -- The letters that may be suffixes are letters that a word may start with.
      have hletter : ¬(d = 'l' ∨ d = 'L' ∨ isDecimalSuffix d = true) := by
        intro hd
        have hstart := (hr d rfl).2.1
        simp only [isDecimalSuffix, Bool.or_eq_true, beq_iff_eq] at hd
        rcases hd with rfl | rfl | ((rfl | rfl) | rfl) | rfl <;> exact absurd hstart (by decide)
      have hnone : suffix (d :: rest) = ([], d :: rest) := if_neg fun h => hletter h.1
      rw [List.nil_append, hnone]
      rfl
  | cons c cs =>
    rw [List.cons_append, suffix, suffix]
    by_cases hc : c = 'l' ∨ c = 'L' ∨ isDecimalSuffix c = true
    · have hhead : (cs ++ rest).head?.any isWordPart = cs.head?.any isWordPart := by
        cases cs with
        | nil => rw [List.nil_append, hword c (.present hc) rfl]; rfl
        | cons x cs => rfl
      rw [hhead]
      split <;> rfl
    · rw [if_neg fun h => hc h.1, if_neg fun h => hc h.1]
      rfl

theorem number_cut {c : Char} {cs text left rest : List Char} {kind : TokenKind} (hr : Barrier rest)
    (hword : ∀ s, Suffix [s] → left = [s] → rest.head?.any isWordPart = false)
    (h : number c (cs ++ rest) = .token kind text (left ++ rest)) :
    number c cs = .token kind text left := by
  obtain ⟨htake, hdrop⟩ := digits_barrier cs hr
  simp only [number, htake, hdrop, fraction_barrier hr, exponent_barrier hr] at h ⊢
  generalize exponent (fraction (cs.dropWhile Text.isDigit)).2 = exp at h ⊢
  have hsuffix : suffix (exp.2 ++ rest) = ((suffix exp.2).1, (suffix exp.2).2 ++ rest) := by
    refine suffix_barrier hr fun s hs hexp => ?_
    by_cases hhead : rest.head?.any isWordPart = true
    · -- The letter is left to the word, so it is all that is left before the rest.
      have hnone : suffix ([s] ++ rest) = ([], [s] ++ rest) := if_neg fun h => h.2 hhead
      rw [hexp, hnone] at h
      simp only [Lexeme.token.injEq] at h
      exact hword s hs (List.append_cancel_right h.2.2).symm
    · simpa using hhead
  rw [hsuffix] at h
  simp only [Lexeme.token.injEq] at h ⊢
  exact ⟨h.1, h.2.1, List.append_cancel_right h.2.2⟩

/-! ## The front of a text -/

theorem named_cut {cs text left rest : List Char} {kind : TokenKind}
    (hhead : (cs ++ rest).head? = cs.head?)
    (h : named (cs ++ rest) = .token kind text (left ++ rest)) :
    named cs = .token kind text left := by
  unfold named at h ⊢
  rw [hhead] at h
  split at h
  · next hstart =>
    simp only [Lexeme.token.injEq] at h
    obtain ⟨htake, hdrop⟩ := takeWhile_cut h.2.2
    rw [if_pos hstart, htake, hdrop, h.1, h.2.1]
  · cases h

theorem sign_cut {c : Char} {cs text left rest : List Char} {kind : TokenKind} (hcs : cs ≠ [])
    (h : sign c (cs ++ rest) = .token kind text (left ++ rest)) :
    sign c cs = .token kind text left := by
  obtain ⟨x, xs, rfl⟩ := List.exists_cons_of_ne_nil hcs
  unfold sign at h ⊢
  simp only [List.cons_append] at h ⊢
  split at h
  · simp only [Lexeme.token.injEq] at h
    rw [h.1, h.2.1, List.append_cancel_right h.2.2]
  · unfold single at h ⊢
    split at h
    · simp only [Lexeme.token.injEq, ← List.cons_append] at h
      rw [h.1, h.2.1, List.append_cancel_right h.2.2]
    · cases h

theorem sign_ne_skip {c : Char} {cs text rest : List Char} : sign c cs ≠ .skip text rest := by
  unfold sign single
  repeat' split
  all_goals simp

/-- Only blanks and comments are passed over. -/
theorem skip_cases {c : Char} {cs text rest : List Char} (h : front c cs = .skip text rest) :
    (Text.isBlank c = true ∧ c :: cs.takeWhile Text.isBlank = text ∧
      cs.dropWhile Text.isBlank = rest) ∨
      (c = '-' ∧ cs.head? = some '-' ∧ c :: cs.takeWhile (· != '\n') = text ∧
        cs.dropWhile (· != '\n') = rest) ∨
      (c = '/' ∧ cs.head? = some '*' ∧ blockComment cs.tail = .skip text rest) := by
  cases front_iff.mp h with
  | blank hc hx =>
    cases hx
    exact .inl ⟨hc, rfl, rfl⟩
  | line hc hd hx =>
    cases hx
    exact .inr (.inl ⟨hc, hd, rfl, rfl⟩)
  | block hc hd hx => exact .inr (.inr ⟨hc, hd, hx⟩)
  | string hc hx =>
    unfold quotedString at hx
    split at hx <;> cases hx
  | number hb hc hx => simp [number] at hx
  | word hb hd hc hx => cases hx
  | named hc hx =>
    unfold named at hx
    split at hx <;> cases hx
  | positional hc hx => cases hx
  | sign hb hline hblock hq hd hw hn hp hx => exact absurd hx sign_ne_skip

/-- Without the rest, the same is passed over. -/
theorem front_cut_skip {c : Char} {cs text left rest : List Char} (hr : Barrier rest)
    (h : front c (cs ++ rest) = .skip text (left ++ rest)) : front c cs = .skip text left := by
  -- A comment does not open with the rest.
  have hhead : ∀ {d : Char}, d = '-' ∨ d = '*' → (cs ++ rest).head? = some d →
      cs.head? = some d := by
    intro d hd hcs
    cases cs with
    | nil =>
      obtain ⟨-, -, -, -, hminus, hstar⟩ := hr d hcs
      rcases hd with rfl | rfl
      · exact absurd rfl hminus
      · exact absurd rfl hstar
    | cons x xs => exact hcs
  rcases skip_cases h with ⟨hc, htext, hleft⟩ | ⟨hc, hd, htext, hleft⟩ | ⟨hc, hd, hx⟩
  · obtain ⟨htake, hdrop⟩ := takeWhile_cut hleft
    exact front_iff.mpr (.blank hc (by rw [htake, hdrop, htext]))
  · obtain ⟨htake, hdrop⟩ := takeWhile_cut hleft
    exact front_iff.mpr (.line hc (hhead (.inl rfl) hd) (by rw [htake, hdrop, htext]))
  · have hd' := hhead (.inr rfl) hd
    have htail : (cs ++ rest).tail = cs.tail ++ rest := by
      cases cs with
      | nil => cases hd'
      | cons x xs => rfl
    refine front_iff.mpr (.block hc hd' ?_)
    unfold blockComment at hx ⊢
    rw [htail] at hx
    split at hx
    · next hbody =>
      cases hx
      rw [commentBody_cut hbody]
    · cases hx

/-- Without the rest, the same token is read. -/
theorem front_cut_token {c : Char} {cs text left rest : List Char} {kind : TokenKind}
    (hr : Barrier rest) (hword : ∀ s, Suffix [s] → left = [s] → rest.head?.any isWordPart = false)
    (h : front c (cs ++ rest) = .token kind text (left ++ rest)) :
    front c cs = .token kind text left := by
  by_cases hcs : cs = []
  · -- The one character is all of the token.
    subst hcs
    obtain ⟨hsplit, hne⟩ : text ++ (left ++ rest) = c :: rest ∧ text ≠ [] := by
      have := splits_front c ([] ++ rest)
      rwa [h] at this
    obtain ⟨x, xs, rfl⟩ := List.exists_cons_of_ne_nil hne
    have htext : x :: xs ++ left = [c] :=
      List.append_cancel_right ((List.append_assoc ..).trans hsplit)
    obtain ⟨rfl, hnil⟩ := List.cons.inj htext
    obtain ⟨rfl, rfl⟩ := List.append_eq_nil_iff.mp hnil
    exact front_append (front_spelling h) (by simp)
  have hhead : (cs ++ rest).head? = cs.head? := by
    obtain ⟨x, xs, rfl⟩ := List.exists_cons_of_ne_nil hcs
    rfl
  cases front_iff.mp h with
  | blank hc hx => cases hx
  | line hc hd hx => cases hx
  | block hc hd hx =>
    unfold blockComment at hx
    split at hx <;> cases hx
  | string hc hx =>
    refine front_iff.mpr (.string hc ?_)
    unfold quotedString at hx ⊢
    split at hx
    · next hbody =>
      cases hx
      rw [stringBody_cut hbody]
    · cases hx
  | number hb hc hx => exact front_iff.mpr (.number hb hc (number_cut hr hword hx))
  | word hb hd hc hx =>
    simp only [word, Lexeme.token.injEq] at hx
    obtain ⟨htake, hdrop⟩ := takeWhile_cut hx.2.2
    exact front_iff.mpr (.word hb hd hc (by rw [word, htake, hdrop, hx.1, hx.2.1]))
  | named hc hx => exact front_iff.mpr (.named hc (named_cut hhead hx))
  | positional hc hx =>
    simp only [positional, Lexeme.token.injEq] at hx
    obtain ⟨htake, hdrop⟩ := takeWhile_cut hx.2.2
    exact front_iff.mpr (.positional hc (by rw [positional, htake, hdrop, hx.1, hx.2.1]))
  | sign hb hline hblock hq hd hw hn hp hx =>
    rw [hhead] at hline hblock
    exact front_iff.mpr (.sign hb hline hblock hq hd hw hn hp (sign_cut hcs hx))

end EntityQuery.Lexeme
