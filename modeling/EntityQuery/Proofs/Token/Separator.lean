import EntityQuery.Proofs.Token.Layout
import EntityQuery.Proofs.Token.Tiling

/-!
# Tokens in another layout

What stands between the tokens of a query does not count. The tokens can be written down again with
other blanks and comments between them, and the same tokens are read, although every one of them now
stands before another character.

1. `breaksOff_of_isBlank`: a blank ends every token, whatever was behind it before.
2. `scanFrom_separator`: blanks and complete comments are passed over, whatever follows.
3. `scanFrom_laidOut`: words with separators behind them are read as these words, by induction on
   the words.
-/

namespace EntityQuery

open Lexeme

/-! ## Blanks end tokens -/

/-- The code points of white space. -/
def blankCodes : List Nat :=
  List.range' 0x09 5 ++ List.range' 0x1C 5 ++ [0x85, 0xA0, 0x1680] ++ List.range' 0x2000 11 ++
    [0x2028, 0x2029, 0x202F, 0x205F, 0x3000]

theorem mem_blankCodes {c : Char} (h : Text.isBlank c = true) : c.toNat ∈ blankCodes := by
  simp only [blankCodes, List.mem_append, List.mem_range'_1, List.mem_cons,
    List.not_mem_nil, or_false]
  unfold Text.isBlank at h
  split at h
  · simp only [Bool.or_eq_true, Bool.and_eq_true, decide_eq_true_eq, beq_iff_eq] at h
    omega
  · simp only [Bool.or_eq_true, Bool.and_eq_true, decide_eq_true_eq, beq_iff_eq] at h
    omega

/-- A blank is neither part of a word nor a digit. -/
theorem isWordPart_of_isBlank {c : Char} (h : Text.isBlank c = true) :
    isWordPart c = false ∧ Text.isDigit c = false := by
  have hall : (blankCodes.all fun n => !isWordPart (Char.ofNat n) && !Text.isDigit (Char.ofNat n)) =
      true := by
    decide +kernel
  have hc := List.all_eq_true.mp hall c.toNat (mem_blankCodes h)
  rw [Char.ofNat_toNat] at hc
  simpa using hc

/-- A blank ends every token. -/
theorem breaksOff_of_isBlank (kind : TokenKind) {d : Char} (h : Text.isBlank d = true) :
    breaksOff kind d = true := by
  obtain ⟨hword, hdigit⟩ := isWordPart_of_isBlank h
  have hne : ∀ {x : Char}, Text.isBlank x = false → d ≠ x := by
    rintro x hx rfl
    rw [hx] at h
    cases h
  unfold breaksOff
  split
  · simpa using hne (x := '-') (by decide)
  · simpa using hne (x := '*') (by decide)
  · simpa using ⟨hne (x := '>') (by decide), hne (x := '=') (by decide)⟩
  · simpa using hne (x := '=') (by decide)
  · rfl
  · simpa using hne (x := Text.singleQuote) (by decide)
  · simpa using hdigit
  · simpa [hword, hdigit] using hne (x := '.') (by decide)
  · simpa [hword, hdigit] using hne (x := '.') (by decide)
  · simpa using hword

/-! ## Separators -/

/-- Blanks and complete comments: a comment to the end of a line has its line feed, a block comment
its closing sign. -/
inductive Separator : List Char → Prop
  | nil : Separator []
  | blank {c : Char} {cs : List Char} (hc : Text.isBlank c = true)
      (h : Separator cs) : Separator (c :: cs)
  | line {body cs : List Char} (hb : '\n' ∉ body) (h : Separator cs) : Separator
      ('-' :: '-' :: body ++ '\n' :: cs)
  | block {body cs : List Char} (hb : ClosesFirst body) (h : Separator cs) :
      Separator ('/' :: '*' :: body ++ ['*', '/'] ++ cs)

/-- A block comment is read up to its first closing sign, whatever follows. -/
theorem commentBody_of_closesFirst {body : List Char} (h : ClosesFirst body) (rest : List Char) :
    commentBody (body ++ ['*', '/'] ++ rest) = some (body ++ ['*', '/'], rest) := by
  induction body with
  | nil => rfl
  | cons c body ih =>
    have hbody : ClosesFirst body := fun hi => h (List.infix_cons_iff.mpr (.inr hi))
    obtain ⟨d, ds, hd⟩ : ∃ d ds, body ++ ['*', '/'] ++ rest = d :: ds :=
      List.exists_cons_of_ne_nil (by simp)
    -- A closing sign over the first two characters would be one inside of the body.
    have hopen : ¬(c = '*' ∧ d = '/') := by
      rintro ⟨rfl, rfl⟩
      cases body with
      | nil => simp at hd
      | cons b bs =>
        obtain ⟨rfl, -⟩ := List.cons.inj hd
        exact h (List.IsPrefix.isInfix ⟨bs ++ ['*'], rfl⟩)
    have hrest := ih hbody
    rw [hd] at hrest
    rw [List.cons_append, List.cons_append, hd, commentBody, if_neg hopen, hrest]
    rfl

/-- Separators are passed over, whatever follows. -/
theorem scanFrom_separator {sep : List Char} (h : Separator sep) (pos : Position)
    (rest : List Char) :
    scanFrom pos (sep ++ rest) = scanFrom (pos.after sep) rest := by
  induction h generalizing pos with
  | nil => rfl
  | @blank c cs hc h ih =>
    rw [List.cons_append, scanFrom_blank pos hc, ih]
    rfl
  | @line body cs hb h ih =>
    have hall : ∀ x ∈ '-' :: body, (x != '\n') = true := by
      refine List.forall_mem_cons.mpr ⟨rfl, fun x hx => ?_⟩
      rw [bne_iff_ne]
      rintro rfl
      exact hb hx
    have hfeed : ∀ x, ('\n' :: (cs ++ rest)).head? = some x → (x != '\n') = false := by
      rintro x ⟨⟩
      rfl
    obtain ⟨htake, hdrop⟩ := takeWhile_append_of_all hall hfeed
    have hfront : front '-' ('-' :: body ++ '\n' :: (cs ++ rest)) =
        .skip ('-' :: '-' :: body) ('\n' :: (cs ++ rest)) := by
      rw [front, if_neg (by decide), if_pos ⟨rfl, rfl⟩, htake, hdrop]
    have htext : '-' :: '-' :: body ++ '\n' :: cs ++ rest =
        '-' :: ('-' :: body ++ '\n' :: (cs ++ rest)) := by simp
    rw [htext, scanFrom_skip hfront, scanFrom_blank _ (by decide), ih, Position.after_append]
    rfl
  | @block body cs hb h ih =>
    have hfront : front '/' ('*' :: (body ++ ['*', '/'] ++ (cs ++ rest))) =
        .skip ('/' :: '*' :: (body ++ ['*', '/'])) (cs ++ rest) := by
      rw [front, if_neg (by decide), if_neg (by simp), if_pos ⟨rfl, rfl⟩, List.tail_cons,
        blockComment, commentBody_of_closesFirst hb]
    have htext : '/' :: '*' :: body ++ ['*', '/'] ++ cs ++ rest =
        '/' :: '*' :: (body ++ ['*', '/'] ++ (cs ++ rest)) := by
      simp
    rw [htext, scanFrom_skip hfront, ih, ← Position.after_append]
    simp

/-! ## Words and separators -/

/-- Words with a separator behind each of them. -/
def laidOut : List String → List String → String
  | w :: ws, s :: ss => w ++ s ++ laidOut ws ss
  | _, _ => ""

/-- A separator that opens with a blank, or the end of the text, ends every token. -/
theorem breaksOff_of_opens (kind : TokenKind) {s : String} {rest : List Char}
    (h : Opens Text.isBlank s ∨ s = "" ∧ rest = []) :
    ∀ d, (s.toList ++ rest).head? = some d → breaksOff kind d = true := by
  rcases h with ⟨c, cs, hs, hc⟩ | ⟨rfl, rfl⟩
  · rw [hs]
    rintro d ⟨⟩
    exact breaksOff_of_isBlank kind hc
  · rintro d ⟨⟩

/-- Words that are spelled like tokens are read as these tokens, with separators between them. -/
theorem scanFrom_laidOut {ts : List Token} (hts : ∀ t ∈ ts, Spelling t.kind t.text.toList)
    {seps : List String} (hlength : seps.length = ts.length)
    (hseps : ∀ s ∈ seps, Separator s.toList) (hinner : ∀ s ∈ seps.dropLast, Opens Text.isBlank s)
    (hlast : ∀ s ∈ seps.getLast?, s = "" ∨ Opens Text.isBlank s) (pos : Position) :
    (scanFrom pos (laidOut (ts.map Token.text) seps).toList).error? = none ∧
      (scanFrom pos (laidOut (ts.map Token.text) seps).toList).tokens.map
        (fun t => (t.kind, t.text)) = ts.map fun t => (t.kind, t.text) := by
  induction ts generalizing seps pos with
  | nil =>
    obtain rfl := List.eq_nil_of_length_eq_zero hlength
    have hscan : scanFrom pos (laidOut ([].map Token.text) []).toList = ⟨[], pos, none⟩ := by
      show scanFrom pos [] = _
      rw [scanFrom]
    rw [hscan]
    exact ⟨rfl, rfl⟩
  | cons t ts ih =>
    obtain ⟨s, ss, rfl⟩ := List.exists_cons_of_length_eq_add_one hlength
    obtain ⟨ht, hts⟩ := List.forall_mem_cons.mp hts
    obtain ⟨hs, hss⟩ := List.forall_mem_cons.mp hseps
    have hlength' : ss.length = ts.length := Nat.succ.inj hlength
    -- The last separator may be empty, and then nothing follows it.
    have hopen : Opens Text.isBlank s ∨ s = "" ∧ (laidOut (ts.map Token.text) ss).toList = [] := by
      cases ss with
      | nil =>
        obtain rfl := List.eq_nil_of_length_eq_zero hlength'.symm
        exact (hlast s rfl).symm.imp_right fun h => ⟨h, rfl⟩
      | cons s' ss => exact .inl (hinner s (by simp))
    have hinner' : ∀ x ∈ ss.dropLast, Opens Text.isBlank x := by
      cases ss with
      | nil => simp
      | cons s' ss => exact fun x hx => hinner x (by simpa using .inr hx)
    have hlast' : ∀ x ∈ ss.getLast?, x = "" ∨ Opens Text.isBlank x := by
      cases ss with
      | nil => simp
      | cons s' ss => exact fun x hx => hlast x (by rwa [List.getLast?_cons_cons])
    obtain ⟨c, cs, hc⟩ := ht.exists_cons
    rw [hc] at ht
    have hfront := front_append ht (breaksOff_of_opens t.kind hopen)
    have htext : (laidOut ((t :: ts).map Token.text) (s :: ss)).toList =
        c :: (cs ++ (s.toList ++ (laidOut (ts.map Token.text) ss).toList)) := by
      simp only [List.map_cons, laidOut, String.toList_append, hc, List.append_assoc,
        List.cons_append]
    obtain ⟨herror, htokens⟩ :=
      ih hts hlength' hss hinner' hlast' ((pos.after (c :: cs)).after s.toList)
    rw [htext, scanFrom_token hfront, scanFrom_separator hs]
    refine ⟨herror, ?_⟩
    rw [Scan.cons, List.map_cons, htokens, ← hc, String.ofList_toList]
    rfl

/-- Kind and text of the tokens of a query do not depend on its layout: written down again behind
any separator, and with separators that open with a blank between them, its tokens are read as the
same tokens. -/
theorem tokenize_laidOut (query : String) (ts : List Token) (h : tokenize query = .ok ts)
    (lead : String) (seps : List String) (hlength : seps.length + 1 = ts.length)
    (hlead : Separator lead.toList) (hseps : ∀ s ∈ seps, Separator s.toList)
    (hinner : ∀ s ∈ seps.dropLast, Opens Text.isBlank s)
    (hlast : ∀ s ∈ seps.getLast?, s = "" ∨ Opens Text.isBlank s) :
    ∃ us, tokenize (lead ++ laidOut (ts.dropLast.map Token.text) seps) = .ok us ∧
      us.map (fun t => (t.kind, t.text)) = ts.map fun t => (t.kind, t.text) := by
  obtain ⟨-, rfl⟩ := tokenize_eq_ok.mp h
  rw [List.dropLast_concat]
  have hcount : seps.length = (scan query).tokens.length := by simpa using hlength
  obtain ⟨herror, htokens⟩ :=
    scanFrom_laidOut (scanFrom_spelling {} query.toList) hcount hseps hinner hlast
    (({} : Position).after lead.toList)
  have hscan : scan (lead ++ laidOut ((scan query).tokens.map Token.text) seps) =
      scanFrom (({} : Position).after lead.toList)
      (laidOut ((scan query).tokens.map Token.text) seps).toList := by
    rw [scan, String.toList_append, scanFrom_separator hlead]
  refine ⟨_, tokenize_eq_ok.mpr ⟨hscan ▸ herror, rfl⟩, ?_⟩
  rw [hscan, List.map_append, List.map_append]
  exact congrArg (· ++ _) htokens

/-- A number before a word that starts like its suffix, and signs that could run together, with
comments between them. -/
theorem tokenize_laidOut_suffix :
    ∃ us, tokenize "/**/10\nla - --c\n- '>'\t" = .ok us ∧
      us.map (fun t => (t.kind, t.text)) =
        [(.integer, "10"), (.identifier, "la"), (.symbol .minus, "-"),
        (.symbol .minus, "-"), (.string, "'>'"), (.endOfInput, "")] := by
  have hquery : tokenize "10la-/**/-'>'" =
      .ok [⟨.integer, "10", ⟨1, 1, 0⟩⟩, ⟨.identifier, "la", ⟨1, 3, 2⟩⟩,
        ⟨.symbol .minus, "-", ⟨1, 5, 4⟩⟩, ⟨.symbol .minus, "-", ⟨1, 10, 9⟩⟩,
        ⟨.string, "'>'", ⟨1, 11, 10⟩⟩, ⟨.endOfInput, "", ⟨1, 14, 13⟩⟩] := by
    with_unfolding_all rfl
  have hspace : Opens Text.isBlank " " := ⟨' ', [], rfl, rfl⟩
  have hfeed : Opens Text.isBlank "\n" := ⟨'\n', [], rfl, rfl⟩
  have htab : Opens Text.isBlank "\t" := ⟨'\t', [], rfl, rfl⟩
  have hcomment : Opens Text.isBlank " --c\n" := ⟨' ', "--c\n".toList, rfl, rfl⟩
  have hline : '\n' ∉ ['c'] := by decide
  have hblock : ClosesFirst [] := by simp [ClosesFirst, List.infix_cons_iff]
  have hseps : ∀ s ∈ ["\n", " ", " --c\n", " ", "\t"], Separator s.toList := by
    simp only [List.forall_mem_cons]
    exact ⟨.blank rfl .nil, .blank rfl .nil, .blank rfl (.line hline .nil), .blank rfl .nil,
      .blank rfl .nil, by simp⟩
  have hlead : Separator "/**/".toList := .block hblock .nil
  exact tokenize_laidOut _ _ hquery "/**/" ["\n", " ", " --c\n", " ", "\t"] rfl hlead hseps
    (by simp [hspace, hfeed, hcomment]) (by simp [htab])

end EntityQuery
