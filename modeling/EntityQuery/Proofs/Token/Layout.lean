import EntityQuery.Proofs.Grammar.Derivation
import EntityQuery.Proofs.Token.Spelling

/-!
# Texts that are put together

When a text is put together from pieces, its tokens are those of the pieces, provided that no token
runs into the next piece. `Spells behind text P` says that a text is read as tokens with `P`,
wherever it stands, as long as the character behind it satisfies `behind`. Pieces are joined by
`Spells.append`; what has to be checked is only whether the second one opens with a character that
may stand behind the first.

Blanks, closing parentheses and commas may stand behind every token (`isGap`); behind a word there
may also be an opening parenthesis or a point (`isWordGap`); behind a blank there may be anything.
-/

namespace EntityQuery

/-- A scan with tokens in front. -/
def Scan.prepend (ts : List Token) (s : Scan) : Scan :=
  { s with tokens := ts ++ s.tokens }

theorem Position.after_append (p : Position) (cs ds : List Char) :
    p.after (cs ++ ds) = (p.after cs).after ds := by
  rw [Position.after, List.foldl_append]
  rfl

/-! ## One step of a scan -/

theorem scanFrom_token {pos : Position} {c : Char} {cs text rest : List Char} {kind : TokenKind}
    (h : Lexeme.front c cs = .token kind text rest) :
    scanFrom pos (c :: cs) = (scanFrom (pos.after text) rest).cons ⟨kind, String.ofList text,
      pos⟩ := by
  rw [scanFrom]
  split
  · next h' => rw [h] at h'; cases h'
  · next h' => rw [h] at h'; cases h'; rfl
  · next h' => rw [h] at h'; cases h'

theorem scanFrom_skip {pos : Position} {c : Char} {cs text rest : List Char}
    (h : Lexeme.front c cs = .skip text rest) :
    scanFrom pos (c :: cs) = scanFrom (pos.after text) rest := by
  rw [scanFrom]
  split
  · next h' => rw [h] at h'; cases h'; rfl
  · next h' => rw [h] at h'; cases h'
  · next h' => rw [h] at h'; cases h'

/-- A blank is passed over, whatever follows. -/
theorem scanFrom_blank (pos : Position) {b : Char} (hb : Text.isBlank b = true) (cs : List Char) :
    scanFrom pos (b :: cs) = scanFrom (pos.next b) cs := by
  have hskip : ∀ {c : Char} {rest : List Char}, Text.isBlank c = true →
      Lexeme.front c rest = .skip (c :: rest.takeWhile Text.isBlank)
      (rest.dropWhile Text.isBlank) := by
    intro c rest hc
    rw [Lexeme.front, if_pos hc]
  rw [scanFrom_skip (hskip hb)]
  cases cs with
  | nil => rfl
  | cons c rest =>
    by_cases hc : Text.isBlank c = true
    · -- The first step takes all blanks at once, the others are left to the second one.
      rw [List.takeWhile_cons_of_pos hc, List.dropWhile_cons_of_pos hc, scanFrom_skip (hskip hc)]
      rfl
    · rw [List.takeWhile_cons_of_neg hc, List.dropWhile_cons_of_neg hc]
      rfl

/-! ## Pieces -/

/-- Characters that break off every token. -/
def isGap (c : Char) : Bool :=
  c == ' ' || c == ')' || c == ','

/-- Characters that break off every word. -/
def isWordGap (c : Char) : Bool :=
  isGap c || c == '(' || c == '.'

/-- A text is read as tokens with `P`, wherever it stands, before characters that satisfy
`behind`. -/
def Spells (behind : Char → Bool) (text : String) (P : List Token → Prop) : Prop :=
  ∀ pos : Position, ∃ ts, P ts ∧ ∀ rest, (∀ d, rest.head? = some d → behind d = true) →
    scanFrom pos (text.toList ++ rest) = (scanFrom (pos.after text.toList) rest).prepend ts

/-- A text opens with a character that satisfies a test. -/
def Opens (test : Char → Bool) (text : String) : Prop :=
  ∃ c cs, text.toList = c :: cs ∧ test c = true

/-- Tokens in two parts. -/
def Both (P Q : List Token → Prop) (ts : List Token) : Prop :=
  ∃ us vs, ts = us ++ vs ∧ P us ∧ Q vs

/-- A single token. -/
def One (p : Token → Prop) (ts : List Token) : Prop :=
  ∃ t, ts = [t] ∧ p t

theorem Opens.append {test : Char → Bool} {a : String} (h : Opens test a) (b : String) :
    Opens test (a ++ b) := by
  obtain ⟨c, cs, hc, ht⟩ := h
  exact ⟨c, cs ++ b.toList, by rw [String.toList_append, hc]; rfl, ht⟩

/-! ### Words and gaps -/

namespace Lexeme

theorem breaksOff_of_isGap (kind : TokenKind) {d : Char} (h : isGap d = true) :
    breaksOff kind d = true := by
  simp only [isGap, Bool.or_eq_true, beq_iff_eq] at h
  unfold breaksOff
  rcases h with (rfl | rfl) | rfl <;> split <;> rfl

theorem breaksOff_of_isWordGap {kind : TokenKind} (hk : kind.isWord = true) {d : Char}
    (h : isWordGap d = true) :
    breaksOff kind d = true := by
  simp only [isWordGap, isGap, Bool.or_eq_true, beq_iff_eq] at h
  unfold TokenKind.isWord at hk
  split at hk
  case h_5 => cases hk
  all_goals rcases h with (((rfl | rfl) | rfl) | rfl) | rfl <;> rfl

/-- A text that is read as a word. -/
def isWordText (text : List Char) : Bool :=
  match text with
  | [] => false
  | c :: cs => !Text.isBlank c && !Text.isDigit c && isWordStart c && cs.all isWordPart

theorem spelling_of_isWordText {text : String} (h : isWordText text.toList = true) :
    Spelling (.ofWord text) text.toList := by
  unfold isWordText at h
  split at h
  · cases h
  · next c cs hc =>
    simp only [Bool.and_eq_true, Bool.not_eq_true', List.all_eq_true] at h
    obtain ⟨⟨⟨hb, hd⟩, hs⟩, hcs⟩ := h
    rw [hc, ← String.ofList_toList (s := text), hc]
    exact .word hb hd hs hcs

theorem isWordText_capitals (k : Reserved) :
    isWordText (TokenKind.capitals k.word).toList = true := by
  cases k <;> decide +kernel

/-- Every reserved word is known in capitals. -/
theorem ofWord_capitals (k : Reserved) :
    TokenKind.ofWord (TokenKind.capitals k.word) = .reserved k := by
  cases k <;> decide +kernel

end Lexeme

namespace Spells

variable {b b' : Char → Bool} {a w : String} {P Q : List Token → Prop}

theorem mono (h : Spells b w P) (hPQ : ∀ ts, P ts → Q ts) : Spells b w Q := by
  intro pos
  obtain ⟨ts, hP, hs⟩ := h pos
  exact ⟨ts, hPQ ts hP, hs⟩

/-- Fewer characters may stand behind. -/
theorem before (h : Spells b w P) (hb : ∀ d, b' d = true → b d = true) : Spells b' w P := by
  intro pos
  obtain ⟨ts, hP, hs⟩ := h pos
  exact ⟨ts, hP, fun rest hr => hs rest fun d hd => hb d (hr d hd)⟩

/-- Two pieces, the second of which opens with a character that may stand behind the first. -/
theorem append (h : Spells b a P) (h' : Spells b' w Q) (ho : Opens b w) :
    Spells b' (a ++ w) (Both P Q) := by
  intro pos
  obtain ⟨ts, hP, hs⟩ := h pos
  obtain ⟨us, hQ, hs'⟩ := h' (pos.after a.toList)
  obtain ⟨c, cs, hc, hbc⟩ := ho
  refine ⟨ts ++ us, ⟨ts, us, rfl, hP, hQ⟩, ?_⟩
  intro rest hr
  rw [String.toList_append, List.append_assoc, hs _ ?_, hs' rest hr, Position.after_append]
  · simp [Scan.prepend]
  · rw [hc]
    rintro d ⟨⟩
    exact hbc

/-- Nothing at all. -/
theorem nil : Spells b "" fun ts => ts = [] := by
  intro pos
  refine ⟨[], rfl, fun rest _ => ?_⟩
  simp [Scan.prepend, Position.after]

/-- A blank, with anything behind it. -/
theorem blank : Spells (fun _ => true) " " fun ts => ts = [] := by
  intro pos
  refine ⟨[], rfl, fun rest _ => ?_⟩
  have htext : " ".toList = [' '] := rfl
  rw [htext, List.cons_append, List.nil_append, scanFrom_blank pos rfl]
  rfl

/-- A single token. -/
theorem token {kind : TokenKind} (h : Lexeme.Spelling kind w.toList) :
    Spells (Lexeme.breaksOff kind) w (One fun t => t.kind = kind ∧ t.text = w) := by
  intro pos
  refine ⟨[⟨kind, w, pos⟩], ⟨_, rfl, rfl, rfl⟩, fun rest hr => ?_⟩
  obtain ⟨c, cs, hc⟩ := h.exists_cons
  rw [hc] at h ⊢
  rw [List.cons_append, scanFrom_token (Lexeme.front_append h hr), ← hc, String.ofList_toList]
  rfl

/-! ### Behind a token -/

/-- Behind a piece that anything may follow, the next piece may open as it likes. -/
theorem next (h : Spells (fun _ => true) a P) (h' : Spells b w Q) :
    Spells b (a ++ w) (Both P Q) := by
  by_cases hw : w.toList = []
  · intro pos
    obtain ⟨ts, hP, hs⟩ := h pos
    obtain ⟨us, hQ, hs'⟩ := h' (pos.after a.toList)
    refine ⟨ts ++ us, ⟨ts, us, rfl, hP, hQ⟩, fun rest hr => ?_⟩
    rw [String.toList_append, List.append_assoc, hs _ fun _ _ => rfl, hs' rest hr,
      Position.after_append]
    simp [Scan.prepend]
  · obtain ⟨c, cs, hc⟩ := List.exists_cons_of_ne_nil hw
    exact h.append h' ⟨c, cs, hc, rfl⟩

theorem ofGap {kind : TokenKind} (h : Lexeme.Spelling kind w.toList) :
    Spells isGap w (One fun t => t.kind = kind ∧ t.text = w) :=
  (token h).before fun _ => Lexeme.breaksOff_of_isGap kind

theorem ofWord {kind : TokenKind} (h : Lexeme.Spelling kind w.toList) (hk : kind.isWord = true) :
    Spells isWordGap w (One fun t => t.kind = kind ∧ t.text = w) :=
  (token h).before fun _ => Lexeme.breaksOff_of_isWordGap hk

/-- What may stand before a point or a parenthesis may stand before a gap. -/
theorem gap (h : Spells isWordGap w P) : Spells isGap w P :=
  h.before fun d hd => by simp [isWordGap, hd]

/-- A sign that runs into nothing. -/
theorem symbol {s : Symbol} {c : Char} (hw : w.toList = [c]) (hc : Lexeme.singleSymbol? c = some s)
    (hs : ∀ d, Lexeme.breaksOff (.symbol s) d = true) :
    Spells (fun _ => true) w (One fun t => t.Sign s) := by
  have h : Lexeme.Spelling (.symbol s) w.toList := by
    rw [hw]
    exact .single hc
  refine ((token h).before fun d _ => hs d).mono ?_
  rintro ts ⟨t, rfl, ht, -⟩
  exact ⟨t, rfl, ht⟩

theorem leftParen : Spells (fun _ => true) "(" (One fun t => t.Sign .leftParen) :=
  symbol rfl rfl fun _ => rfl

theorem rightParen : Spells (fun _ => true) ")" (One fun t => t.Sign .rightParen) :=
  symbol rfl rfl fun _ => rfl

theorem comma : Spells (fun _ => true) ", " (One fun t => t.Sign .comma) := by
  refine ((symbol (w := ",") rfl rfl fun _ => rfl).next blank).mono ?_
  rintro ts ⟨us, vs, rfl, h, rfl⟩
  simpa using h

/-! ### Reserved words -/

theorem reserved (k : Reserved) :
    Spells isWordGap (TokenKind.capitals k.word) (One fun t => t.Word k) := by
  have h := Lexeme.spelling_of_isWordText (Lexeme.isWordText_capitals k)
  rw [Lexeme.ofWord_capitals] at h
  refine (ofWord h rfl).mono ?_
  rintro ts ⟨t, rfl, ht, -⟩
  exact ⟨t, rfl, ht⟩

/-- A reserved word between blanks, behind a piece. -/
theorem keyword (h : Spells isGap a P) (k : Reserved)
    (hw : w = " " ++ (TokenKind.capitals k.word ++ " ")) :
    Spells (fun _ => true) (a ++ w) (Both P (One fun t => t.Word k)) := by
  subst hw
  have hword : Spells (fun _ => true) (TokenKind.capitals k.word ++ " ")
      (One fun t => t.Word k) := by
    refine ((reserved k).append blank ⟨' ', [], rfl, rfl⟩).mono ?_
    rintro ts ⟨us, vs, rfl, h, rfl⟩
    simpa using h
  have hspaced : Spells (fun _ => true) (" " ++ (TokenKind.capitals k.word ++ " "))
      (One fun t => t.Word k) := by
    refine (blank.next hword).mono ?_
    rintro ts ⟨us, vs, rfl, rfl, h⟩
    exact h
  exact h.append hspaced (Opens.append ⟨' ', [], rfl, rfl⟩ _)

/-- A reserved word at the end of a piece. -/
theorem lastWord (h : Spells isGap a P) (k : Reserved) (hw : w = " " ++ TokenKind.capitals k.word) :
    Spells isGap (a ++ w) (Both P (One fun t => t.Word k)) := by
  subst hw
  have hspaced : Spells isGap (" " ++ TokenKind.capitals k.word) (One fun t => t.Word k) := by
    refine (blank.next (reserved k).gap).mono ?_
    rintro ts ⟨us, vs, rfl, rfl, h⟩
    exact h
  exact h.append hspaced (Opens.append ⟨' ', [], rfl, rfl⟩ _)

/-- A reserved word that a piece starts with. -/
theorem firstWord (k : Reserved) (hw : w = TokenKind.capitals k.word ++ " ") :
    Spells (fun _ => true) w (One fun t => t.Word k) := by
  subst hw
  refine ((reserved k).append blank ⟨' ', [], rfl, rfl⟩).mono ?_
  rintro ts ⟨us, vs, rfl, h, rfl⟩
  simpa using h

/-- What anything may follow, a gap may follow. -/
theorem ofAny (h : Spells (fun _ => true) w P) : Spells b w P :=
  h.before fun _ _ => rfl

/-- A piece with a blank behind it. -/
theorem space (h : Spells isGap a P) : Spells (fun _ => true) (a ++ " ") P := by
  refine (h.append blank ⟨' ', [], rfl, rfl⟩).mono ?_
  rintro ts ⟨us, vs, rfl, h, rfl⟩
  rwa [List.append_nil]

/-- A piece with a closing parenthesis behind it. -/
theorem closed (h : Spells isGap a P) :
    Spells (fun _ => true) (a ++ ")") (Both P (One fun t => t.Sign .rightParen)) :=
  h.append rightParen ⟨')', [], rfl, rfl⟩

/-- A word with an opening parenthesis behind it. -/
theorem opened (h : Spells isWordGap a P) :
    Spells (fun _ => true) (a ++ "(") (Both P (One fun t => t.Sign .leftParen)) :=
  h.append leftParen ⟨'(', [], rfl, rfl⟩

end Spells

/-! ## Optional pieces -/

/-- A piece that may be left out; otherwise it opens with a gap. -/
def Trailing (text : String) (P : List Token → Prop) : Prop :=
  Spells isGap text P ∧ (text = "" ∨ Opens isGap text)

namespace Trailing

variable {a t u : String} {P Q : List Token → Prop}

theorem mono (h : Trailing t P) (hPQ : ∀ ts, P ts → Q ts) : Trailing t Q :=
  ⟨h.1.mono hPQ, h.2⟩

theorem nil : Trailing "" fun ts => ts = [] :=
  ⟨.nil, .inl rfl⟩

theorem blank (h : Spells isGap t P) : Trailing (" " ++ t) P := by
  refine ⟨(Spells.blank.next h).mono ?_, .inr (Opens.append ⟨' ', [], rfl, rfl⟩ t)⟩
  rintro ts ⟨us, vs, rfl, rfl, h⟩
  exact h

end Trailing

/-- A piece with an optional one behind it. -/
theorem Spells.trail {a t : String} {P Q : List Token → Prop} (h : Spells isGap a P)
    (ht : Trailing t Q) :
    Spells isGap (a ++ t) (Both P Q) := by
  obtain ⟨ht, rfl | ho⟩ := ht
  · intro pos
    obtain ⟨ts, hP, hs⟩ := h pos
    obtain ⟨us, hQ, hs'⟩ := ht (pos.after a.toList)
    refine ⟨ts ++ us, ⟨ts, us, rfl, hP, hQ⟩, fun rest hr => ?_⟩
    rw [String.append_empty, hs rest hr]
    refine (congrArg (Scan.prepend ts) (hs' rest hr)).trans ?_
    simp [Scan.prepend, Position.after]
  · exact h.append ht ho

theorem Trailing.append {t u : String} {P Q : List Token → Prop} (h : Trailing t P)
    (h' : Trailing u Q) :
    Trailing (t ++ u) (Both P Q) := by
  refine ⟨h.1.trail h', ?_⟩
  rcases h.2 with rfl | ho
  · rw [String.empty_append]
    exact h'.2
  · exact .inr (ho.append u)

/-- Pieces with a blank before each. -/
def spaced : List String → String
  | [] => ""
  | w :: ws => " " ++ w ++ spaced ws

theorem spaced_append (ws us : List String) : spaced (ws ++ us) = spaced ws ++ spaced us := by
  induction ws with
  | nil => rw [List.nil_append, spaced, String.empty_append]
  | cons w ws ih =>
    rw [List.cons_append, spaced, spaced, ih, String.append_assoc, String.append_assoc,
      String.append_assoc]

/-- Pieces with blanks between them. -/
theorem intercalate_blank (w : String) (ws : List String) :
    " ".intercalate (w :: ws) = w ++ spaced ws := by
  induction ws generalizing w with
  | nil => rw [String.intercalate_singleton, spaced, String.append_empty]
  | cons v ws ih =>
    rw [String.intercalate_cons_of_ne_nil (by simp), ih, spaced]
    simp only [String.append_assoc]

/-- A text that is read completely. -/
theorem Spells.scan {b : Char → Bool} {text : String} {P : List Token → Prop}
    (h : Spells b text P) :
    ∃ ts stop, P ts ∧ tokenize text = .ok (ts ++ [.ending stop]) := by
  obtain ⟨ts, hP, hs⟩ := h {}
  have hscan := hs [] fun _ h => by cases h
  rw [List.append_nil, scanFrom] at hscan
  refine ⟨ts, ({} : Position).after text.toList, hP, tokenize_eq_ok.mpr ?_⟩
  rw [EntityQuery.scan, hscan]
  exact ⟨rfl, by simp [Scan.prepend]⟩

end EntityQuery
