import EntityQuery.Proofs.Sql.WellFormed
import EntityQuery.Proofs.Text.Quiet

/-!
# Comments and parameters in SQL text

`signals` goes through a text and takes note of what a reader of SQL would see there outside of
strings: places where a comment opens, and parameters. A quote opens or closes a string, so that a
doubled quote inside a string leaves it open.

`Signals behind w P` says that a text has the signals `P`, whatever stands behind it, as long as the
first character there satisfies `behind`. It is put together from left to right. Quiet texts have no
signals (`Signals.quiet`); of the tokens only parameters have one (`signals_token`,
`signals_parameter`).
-/

namespace EntityQuery.Sql

open Text

/-! ## Scanning -/

/-- What a reader of SQL takes note of. -/
inductive Signal where
  /-- The opening of a comment. -/
  | comment
  /-- A parameter: the name behind a colon, or a question mark with its number. -/
  | parameter (name : String)
  deriving DecidableEq, Repr

/-- What a character opens outside of strings, with the text behind it. -/
def signalAt (c : Char) (rest : List Char) : Option Signal :=
  if c = '-' ∧ rest.head? = some '-' ∨ c = '/' ∧ rest.head? = some '*' then some .comment
  else if c = ':' ∧ rest.head?.any Lexeme.isWordStart then
    some (.parameter (String.ofList (rest.takeWhile Lexeme.isWordPart)))
  else if c = '?' then some (.parameter (String.ofList (c :: rest.takeWhile isDigit)))
  else none

/-- What a reader of SQL sees in a text, which begins inside or outside of a string. -/
def signals (quoted : Bool) : List Char → List Signal
  | [] => []
  | c :: rest =>
    (if quoted then [] else (signalAt c rest).toList) ++ signals (quoted != (c == singleQuote)) rest

theorem signals_cons {c : Char} (hc : c ≠ singleQuote) (rest : List Char) :
    signals false (c :: rest) = (signalAt c rest).toList ++ signals false rest := by
  have hq : (c == singleQuote) = false := by simpa using hc
  rw [signals, hq]
  rfl

theorem signals_of_none {c : Char} {rest : List Char} (h : signalAt c rest = none)
    (hc : c ≠ singleQuote) :
    signals false (c :: rest) = signals false rest := by
  rw [signals_cons hc, h]
  rfl

theorem isQuietChar_iff {c : Char} :
    isQuietChar c = true ↔ c ≠ singleQuote ∧ c ≠ '-' ∧ c ≠ '/' ∧ c ≠ ':' ∧ c ≠ '?' := by
  simp [isQuietChar, loudChars]

theorem signalAt_quiet {c : Char} (h : isQuietChar c = true) (rest : List Char) :
    signalAt c rest = none := by
  obtain ⟨-, hminus, hslash, hcolon, hmark⟩ := isQuietChar_iff.mp h
  simp [signalAt, hminus, hslash, hcolon, hmark]

theorem signals_quiet {cs : List Char} (h : ∀ c ∈ cs, isQuietChar c = true) (rest : List Char) :
    signals false (cs ++ rest) = signals false rest := by
  induction cs with
  | nil => rfl
  | cons c cs ih =>
    obtain ⟨hc, hcs⟩ := List.forall_mem_cons.mp h
    rw [List.cons_append, signals_of_none (signalAt_quiet hc _) (isQuietChar_iff.mp hc).1, ih hcs]

/-! ## Texts with their signals -/

/-- A text has certain signals, wherever it stands, before characters that satisfy `behind`. -/
def Signals (behind : Char → Bool) (w : String) (P : Signal → Prop) : Prop :=
  ∃ ss, (∀ s, s ∈ ss ↔ P s) ∧ ∀ rest : List Char, (∀ d, rest.head? = some d → behind d = true) →
    signals false (w.toList ++ rest) = ss ++ signals false rest

/-- Any character may follow. -/
def anyChar (_ : Char) : Bool :=
  true

/-- No signal at all. -/
def noSignal (_ : Signal) : Prop :=
  False

namespace Signals

variable {b : Char → Bool} {v w : String} {P Q : Signal → Prop}

theorem congr (h : Signals b w P) (hPQ : ∀ s, P s ↔ Q s) : Signals b w Q := by
  obtain ⟨ss, hss, hw⟩ := h
  exact ⟨ss, fun s => (hss s).trans (hPQ s), hw⟩

theorem quiet (h : isQuiet w = true) : Signals anyChar w noSignal :=
  ⟨[], fun _ => by simp [noSignal], fun rest _ => signals_quiet (isQuiet_iff.mp h) rest⟩

/-- Fewer characters may follow. -/
theorem before (h : Signals anyChar w P) : Signals b w P := by
  obtain ⟨ss, hss, hw⟩ := h
  exact ⟨ss, hss, fun rest _ => hw rest fun _ _ => rfl⟩

theorem silent (h : isQuiet w = true) : Signals b w noSignal :=
  (quiet h).before

/-- A text behind one that anything may follow. -/
theorem next (h : Signals anyChar v P) (h' : Signals b w Q) :
    Signals b (v ++ w) fun s => P s ∨ Q s := by
  obtain ⟨ss, hss, hv⟩ := h
  obtain ⟨ss', hss', hw⟩ := h'
  refine ⟨ss ++ ss', fun s => by rw [List.mem_append, hss, hss'], fun rest hrest => ?_⟩
  rw [String.toList_append, List.append_assoc, hv _ (fun _ _ => rfl), hw rest hrest,
    List.append_assoc]

/-- A text behind a quiet one. -/
theorem behind (h : Signals b w P) (hv : isQuiet v = true) : Signals b (v ++ w) P :=
  ((quiet hv).next h).congr fun s => by simp [noSignal]

/-- A quiet text behind another text, which it breaks off. -/
theorem gap (h : Signals isGap v P) (hw : isQuiet w = true) (ho : w.toList.head?.any isGap = true) :
    Signals anyChar (v ++ w) P := by
  obtain ⟨ss, hss, hv⟩ := h
  refine ⟨ss, hss, fun rest _ => ?_⟩
  have hopen : ∀ d, (w.toList ++ rest).head? = some d → isGap d = true := by
    cases hcs : w.toList with
    | nil =>
      rw [hcs] at ho
      cases ho
    | cons c cs =>
      rw [hcs] at ho
      rintro d ⟨⟩
      exact ho
  rw [String.toList_append, List.append_assoc, hv _ hopen, signals_quiet (isQuiet_iff.mp hw)]

/-- A quiet text behind another text, which may be empty. -/
theorem trail (h : Signals isGap v P) (hw : isQuiet w = true)
    (ho : w.toList.head?.all isGap = true) :
    Signals isGap (v ++ w) P := by
  by_cases he : w = ""
  · rwa [he, String.append_empty]
  · refine (h.gap hw ?_).before
    cases hcs : w.toList with
    | nil => exact absurd (String.toList_eq_nil_iff.mp hcs) he
    | cons c cs =>
      rw [hcs] at ho
      exact ho

/-- A text between a quiet text and a closing parenthesis. -/
theorem closed (h : Signals isGap w P) (hv : isQuiet v = true) : Signals isGap (v ++ w ++ ")") P :=
  (h.behind hv).trail (by decide) (by decide)

theorem empty (h : Signals b "" P) (s : Signal) : ¬P s := by
  obtain ⟨ss, hss, hw⟩ := h
  have hnil : ss = [] := by simpa using hw [] nofun
  rw [← hss, hnil]
  exact List.not_mem_nil

/-- A blank behind a text. -/
theorem blank (h : Signals isGap v P) : Signals anyChar (v ++ " ") P :=
  h.gap (by decide) (by decide)

/-- A text without signals behind one that anything may follow. -/
theorem plain (h : Signals anyChar v P) (h' : Signals b w noSignal) : Signals b (v ++ w) P :=
  (h.next h').congr fun s => by simp [noSignal]

end Signals

/-- Texts that are strung together, with the signals of all of them. -/
inductive SignalsAll : List String → (Signal → Prop) → Prop
  | nil : SignalsAll [] noSignal
  | cons {w : String} {ws : List String} {P Q : Signal → Prop} (h : Signals isGap w P)
      (hs : SignalsAll ws Q) :
      SignalsAll (w :: ws) fun s => P s ∨ Q s

namespace SignalsAll

variable {v w : String} {vs ws : List String} {P Q : Signal → Prop}

theorem congr (h : SignalsAll ws P) (hPQ : ∀ s, P s ↔ Q s) : SignalsAll ws Q := by
  rwa [funext fun s => propext (hPQ s)] at h

theorem single (h : Signals isGap w P) : SignalsAll [w] P :=
  (cons h nil).congr fun s => by simp [noSignal]

theorem append (h : SignalsAll vs P) (h' : SignalsAll ws Q) :
    SignalsAll (vs ++ ws) fun s => P s ∨ Q s := by
  induction h with
  | nil => exact h'.congr fun s => by simp [noSignal]
  | cons hv _ ih => exact (cons hv ih).congr fun s => or_assoc.symm

/-- Texts of the items of a list. -/
theorem map {α : Type} {xs : List α} {f : α → String} {R : α → Signal → Prop}
    (h : ∀ x ∈ xs, Signals isGap (f x) (R x)) :
    SignalsAll (xs.map f) fun s => ∃ x ∈ xs, R x s := by
  induction xs with
  | nil => exact nil.congr fun s => by simp [noSignal]
  | cons x xs ih =>
    obtain ⟨hx, hxs⟩ := List.forall_mem_cons.mp h
    exact (cons hx (ih hxs)).congr fun s => by simp

/-- Texts with a separator between them that breaks each of them off. -/
theorem intercalate {sep : String} (h : SignalsAll ws P) (hq : isQuiet sep = true)
    (ho : sep.toList.head?.any isGap = true) :
    Signals isGap (sep.intercalate ws) P := by
  induction h with
  | nil => exact .silent rfl
  | @cons w ws P Q hw hs ih =>
    cases ws with
    | nil =>
      cases hs
      rw [String.intercalate_singleton]
      exact hw.congr fun s => by simp [noSignal]
    | cons v ws =>
      rw [String.intercalate_cons_of_ne_nil (by simp)]
      exact (hw.gap hq ho).next ih

theorem spaced (h : SignalsAll ws P) : Signals isGap (" ".intercalate ws) P :=
  h.intercalate (by decide) (by decide)

theorem listed (h : SignalsAll ws P) : Signals isGap (", ".intercalate ws) P :=
  h.intercalate (by decide) (by decide)

end SignalsAll

/-! ## Tokens -/

/-- Nothing is seen inside of a string, and what is behind it is seen again. -/
theorem signals_quoted {cs : List Char} (h : Lexeme.Quoted cs) (rest : List Char) :
    signals true (cs ++ rest) = signals false rest := by
  induction h with
  | close => simp [signals]
  | doubled _ ih =>
    -- Between the two quotes the string is left, but the second one opens it again at once.
    simpa [signals, signalAt, singleQuote] using ih
  | @plain c cs hc _ ih =>
    have hq : (c == singleQuote) = false := by simpa using hc
    rw [List.cons_append, signals, hq]
    exact ih

/-- A minus or a slash before a gap opens nothing. -/
theorem signalAt_gap {c : Char} (hc : c = '-' ∨ c = '/') {rest : List Char}
    (h : ∀ d, rest.head? = some d → isGap d = true) :
    signalAt c rest = none := by
  have hminus : rest.head? ≠ some '-' := fun hd => absurd (h _ hd) (by decide)
  have hstar : rest.head? ≠ some '*' := fun hd => absurd (h _ hd) (by decide)
  rcases hc with rfl | rfl <;> simp [signalAt, hminus, hstar]

theorem quiet_fraction {cs : List Char} (h : Lexeme.Fraction cs) :
    ∀ c ∈ cs, isQuietChar c = true := by
  cases h with
  | absent => exact nofun
  | present hd hds =>
    simp only [List.forall_mem_cons]
    exact ⟨by decide, quiet_of_isDigit hd, fun c hc => quiet_of_isDigit (hds c hc)⟩

theorem quiet_suffix {cs : List Char} (h : Lexeme.Suffix cs) : ∀ c ∈ cs, isQuietChar c = true := by
  cases h with
  | absent => exact nofun
  | @present c hc =>
    rw [List.forall_mem_singleton]
    simp only [Lexeme.isDecimalSuffix, Bool.or_eq_true, beq_iff_eq] at hc
    rcases hc with rfl | rfl | ((rfl | rfl) | rfl) | rfl <;> decide

/-- The sign of an exponent has a digit behind it. -/
theorem signals_exponent {cs : List Char} (h : Lexeme.Exponent cs) (rest : List Char) :
    signals false (cs ++ rest) = signals false rest := by
  have hmark : ∀ {e : Char}, e = 'e' ∨ e = 'E' → isQuietChar e = true := by
    rintro e (rfl | rfl) <;> decide
  cases h with
  | absent => rfl
  | plain he hd hds =>
    refine signals_quiet ?_ rest
    simp only [List.forall_mem_cons]
    exact ⟨hmark he, quiet_of_isDigit hd, fun c hc => quiet_of_isDigit (hds c hc)⟩
  | @signed e s d ds he hs hd hds =>
    have hdigits : ∀ c ∈ d :: ds, isQuietChar c = true := by
      simp only [List.forall_mem_cons]
      exact ⟨quiet_of_isDigit hd, fun c hc => quiet_of_isDigit (hds c hc)⟩
    have hminus : d ≠ '-' := (isQuietChar_iff.mp (quiet_of_isDigit hd)).2.1
    have hnone : signalAt s (d :: (ds ++ rest)) = none := by
      rcases hs with rfl | rfl
      · exact signalAt_quiet (by decide) _
      · simp [signalAt, hminus]
    have hquote : s ≠ singleQuote := by rcases hs with rfl | rfl <;> decide
    rw [List.cons_append, signals_of_none (signalAt_quiet (hmark he) _)
      (isQuietChar_iff.mp (hmark he)).1, List.cons_append,
      List.cons_append, signals_of_none hnone hquote, ← List.cons_append, signals_quiet hdigits]

theorem quiet_of_singleSymbol {c : Char} {s : Symbol} (h : Lexeme.singleSymbol? c = some s)
    (hc : ¬(c = '-' ∨ c = '/')) :
    isQuietChar c = true := by
  obtain ⟨hminus, hslash⟩ := not_or.mp hc
  refine isQuietChar_iff.mpr ⟨?_, hminus, hslash, ?_, ?_⟩
  all_goals
    rintro rfl
    cases h

theorem quiet_of_doubleSymbol {c d : Char} {s : Symbol} (h : Lexeme.doubleSymbol? c d = some s) :
    isQuietChar c = true ∧ isQuietChar d = true := by
  unfold Lexeme.doubleSymbol? at h
  repeat' split at h
  case isFalse => cases h
  all_goals
    next hcd =>
    obtain ⟨rfl, rfl⟩ := hcd
    decide

/-- A token that is no parameter has no signals, if a gap stands behind it. -/
theorem signals_token {kind : TokenKind} {w : String} (h : Lexeme.Spelling kind w.toList)
    (hk : kind.isParameter = false) :
    Signals isGap w noSignal := by
  refine ⟨[], fun s => by simp [noSignal], fun rest hrest => ?_⟩
  generalize w.toList = text at h
  rw [List.nil_append]
  cases h with
  | @word c cs _ _ hc hcs =>
    refine signals_quiet ?_ rest
    rw [List.forall_mem_cons]
    exact ⟨quiet_of_isWordPart (Lexeme.isWordPart_of_isWordStart hc),
      fun x hx => quiet_of_isWordPart (hcs x hx)⟩
  | named => cases hk
  | positional => cases hk
  | string hq =>
    rw [List.cons_append, signals]
    simpa [signalAt, singleQuote] using signals_quoted hq rest
  | number _ hd hds hf he hs =>
    have hwhole : ∀ c ∈ _ :: _, isQuietChar c = true :=
      List.forall_mem_cons.mpr ⟨quiet_of_isDigit hd, fun c hc => quiet_of_isDigit (hds c hc)⟩
    simp only [List.append_assoc]
    rw [signals_quiet hwhole, signals_quiet (quiet_fraction hf), signals_exponent he,
      signals_quiet (quiet_suffix hs)]
  | @single c s hs =>
    by_cases hc : c = '-' ∨ c = '/'
    · exact signals_of_none (signalAt_gap hc hrest) (by rcases hc with rfl | rfl <;> decide)
    · have hquiet := quiet_of_singleSymbol hs hc
      exact signals_of_none (signalAt_quiet hquiet _) (isQuietChar_iff.mp hquiet).1
  | double hs => exact signals_quiet (by simpa using quiet_of_doubleSymbol hs) rest

theorem isParameter_of_isWord {kind : TokenKind} (h : kind.isWord = true) :
    kind.isParameter = false := by
  cases kind <;> first | rfl | cases h

/-- A parameter is spelled with a colon and a name, or with a question mark and a number. -/
theorem spelling_parameter {kind : TokenKind} {cs : List Char} (h : Lexeme.Spelling kind cs)
    (hk : kind.isParameter = true) :
    (kind = .namedParameter ∧
        ∃ c ds, cs = ':' :: c :: ds ∧ Lexeme.isWordStart c = true ∧ ∀ x ∈ c :: ds,
          Lexeme.isWordPart x = true) ∨
      (kind = .positionalParameter ∧ ∃ ds, cs = '?' :: ds ∧ ∀ x ∈ ds, isDigit x = true) := by
  cases h with
  | @named c ds hc hds =>
    exact .inl ⟨rfl, c, ds, rfl, hc,
      List.forall_mem_cons.mpr ⟨Lexeme.isWordPart_of_isWordStart hc, hds⟩⟩
  | positional hds => exact .inr ⟨rfl, _, rfl, hds⟩
  | word =>
    rw [isParameter_of_isWord (isWord_ofWord _)] at hk
    cases hk
  | number =>
    unfold Lexeme.numberKind at hk
    split at hk <;> cases hk
  | _ => cases hk

/-- A gap ends the name and the number of a parameter. -/
theorem not_of_isGap {d : Char} (h : isGap d = true) :
    Lexeme.isWordPart d = false ∧ isDigit d = false := by
  simp only [isGap, Bool.or_eq_true, beq_iff_eq] at h
  rcases h with (rfl | rfl) | rfl <;> decide +kernel

theorem signalAt_colon {c : Char} {ds rest : List Char} (hc : Lexeme.isWordStart c = true)
    (hds : ∀ x ∈ c :: ds, Lexeme.isWordPart x = true)
    (hrest : ∀ d, rest.head? = some d → isGap d = true) :
    signalAt ':' (c :: ds ++ rest) = some (.parameter (String.ofList (c :: ds))) := by
  have hstop : ∀ d, rest.head? = some d → Lexeme.isWordPart d = false :=
    fun d hd => (not_of_isGap (hrest d hd)).1
  rw [signalAt, if_neg (by simp), if_pos ⟨rfl, hc⟩, (Lexeme.takeWhile_append_of_all hds hstop).1]

theorem signalAt_questionMark {ds rest : List Char} (hds : ∀ x ∈ ds, isDigit x = true)
    (hrest : ∀ d, rest.head? = some d → isGap d = true) :
    signalAt '?' (ds ++ rest) = some (.parameter (String.ofList ('?' :: ds))) := by
  have hstop : ∀ d, rest.head? = some d → isDigit d = false :=
    fun d hd => (not_of_isGap (hrest d hd)).2
  rw [signalAt, if_neg (by simp), if_neg (by simp), if_pos rfl,
    (Lexeme.takeWhile_append_of_all hds hstop).1]

/-- A parameter is the only signal of its text. -/
theorem signals_parameter {name : String} {positional : Bool} (h : ParameterText name positional) :
    Signals isGap (parameterText name positional) (· = .parameter name) := by
  refine ⟨[.parameter name], fun s => List.mem_singleton, fun rest hrest => ?_⟩
  unfold ParameterText at h
  cases positional with
  | false =>
    have htext : (parameterText name false).toList = ':' :: name.toList := String.toList_append
    obtain ⟨-, c, ds, hcs, hc, hds⟩ | ⟨hkind, -⟩ := spelling_parameter h rfl
    · rw [htext] at hcs ⊢
      obtain ⟨-, hname⟩ := List.cons.inj hcs
      rw [List.cons_append, signals_cons (by decide), hname, signalAt_colon hc hds hrest,
        signals_quiet fun x hx => quiet_of_isWordPart (hds x hx), ← hname, String.ofList_toList]
      rfl
    · cases hkind
  | true =>
    have htext : (parameterText name true).toList = name.toList := rfl
    obtain ⟨hkind, -⟩ | ⟨-, ds, hcs, hds⟩ := spelling_parameter h rfl
    · cases hkind
    · rw [htext] at hcs ⊢
      rw [hcs, List.cons_append, signals_cons (by decide), signalAt_questionMark hds hrest,
        signals_quiet fun x hx => quiet_of_isDigit (hds x hx), ← hcs, String.ofList_toList]
      rfl

/-- A minus opens a comment if another one stands directly behind it. -/
theorem signals_minus {w : String} {P : Signal → Prop} (h : Signals isGap w P) :
    Signals isGap ("-" ++ w) fun s => s = .comment ∧ w.toList.head? = some '-' ∨ P s := by
  obtain ⟨ss, hss, hw⟩ := h
  refine ⟨(if w.toList.head? = some '-' then [.comment] else []) ++ ss, fun s => ?_,
    fun rest hrest => ?_⟩
  · rw [List.mem_append, hss]
    split <;> simp_all
  · rw [String.toList_append, List.append_assoc, List.append_assoc]
    have hhead : signalAt '-' (w.toList ++ rest) = if w.toList.head? = some '-' then some .comment
        else none := by
      cases hcs : w.toList with
      | nil => exact signalAt_gap (.inl rfl) hrest
      | cons c cs => simp [signalAt]
    show signals false ('-' :: (w.toList ++ rest)) = _
    rw [signals_cons (by decide), hhead, hw rest hrest]
    split <;> rfl

end EntityQuery.Sql
