import EntityQuery.Proofs.Token.LexicalClass
import Mathlib.Data.List.Forall2

/-!
# The tokens of a query tile its text

Nothing of a query is lost when it is read as tokens, and nothing is read twice. Between two tokens,
before the first and behind the last there are gaps of blanks and comments (`Gap`), and each token
stands at its offset.

1. `gap_of_skip`: what is passed over at the front of a text is a blank or a comment.
2. `scanFrom_tiles`: gaps and tokens in turn are the whole text, by induction on the scan; `Tiles`
   keeps the offset.
3. `tokenize_tiles`: offsets, gaps and lexical classes of the tokens of a query.
-/

namespace EntityQuery

open Lexeme

/-! ## Gaps -/

/-- No closing sign stands in the body of a block comment, nor over its end. -/
def ClosesFirst (body : List Char) : Prop :=
  ¬['*', '/'] <:+: body ++ ['*']

/-- Blanks and comments before a given rest. A comment to the end of the line ends before a line
feed, or with the text. -/
inductive Gap (rest : List Char) : List Char → Prop
  | nil : Gap rest []
  | blank {c : Char} {cs : List Char} (hc : Text.isBlank c = true) (h : Gap rest cs) : Gap
      rest (c :: cs)
  | line {body cs : List Char} (hb : '\n' ∉ body)
      (hend : ∀ d, (cs ++ rest).head? = some d → d = '\n')
      (h : Gap rest cs) : Gap rest ('-' :: '-' :: body ++ cs)
  | block {body cs : List Char} (hb : ClosesFirst body) (h : Gap rest cs) :
      Gap rest ('/' :: '*' :: body ++ ['*', '/'] ++ cs)

theorem Gap.blanks {rest bs cs : List Char} (hbs : ∀ b ∈ bs, Text.isBlank b = true)
    (h : Gap rest cs) :
    Gap rest (bs ++ cs) := by
  induction bs with
  | nil => exact h
  | cons b bs ih =>
    obtain ⟨hb, hbs⟩ := List.forall_mem_cons.mp hbs
    exact .blank hb (ih hbs)

/-- A block comment ends with the first closing sign. -/
theorem closesFirst_of_commentBody {cs text rest : List Char}
    (h : commentBody cs = some (text, rest)) :
    ∃ body, text = body ++ ['*', '/'] ∧ ClosesFirst body := by
  fun_induction commentBody cs generalizing text with
  | case1 => cases h
  | case2 => cases h
  | case3 c d more hcd =>
    cases h
    exact ⟨[], rfl, by simp [ClosesFirst, List.infix_cons_iff]⟩
  | case4 c d more hcd ih =>
    obtain ⟨⟨t, r⟩, hr, he⟩ := Option.map_eq_some_iff.mp h
    cases he
    obtain ⟨body, rfl, hfirst⟩ := ih hr
    refine ⟨c :: body, rfl, ?_⟩
    -- A closing sign over the first two characters is the one that was looked for.
    have happend := commentBody_append hr
    intro hinfix
    rcases List.infix_cons_iff.mp hinfix with hp | hi
    · obtain ⟨hc, hp⟩ := List.cons_prefix_cons.mp hp
      cases body with
      | nil => simp at hp
      | cons b body =>
        obtain ⟨hb, -⟩ := List.cons_prefix_cons.mp hp
        obtain ⟨rfl, -⟩ := List.cons.inj happend
        exact hcd ⟨hc.symm, hb.symm⟩
    · exact hfirst hi

/-- What is passed over at the front of a text widens the gap behind it. -/
theorem gap_of_skip {c : Char} {cs text gap rest : List Char}
    (h : front c cs = .skip text (gap ++ rest)) (hg : Gap rest gap) :
    Gap rest (text ++ gap) := by
  unfold front at h
  split at h
  · next hc =>
    simp only [Lexeme.skip.injEq] at h
    rw [← h.1]
    exact .blanks (List.forall_mem_cons.mpr ⟨hc, mem_takeWhile⟩) hg
  · split at h
    · next hc =>
      obtain ⟨rfl, hhead⟩ := hc
      obtain ⟨body, rfl⟩ : ∃ body, cs = '-' :: body := by
        cases cs with
        | nil => cases hhead
        | cons d body => exact ⟨body, by rw [Option.some.inj hhead]⟩
      simp only [Lexeme.skip.injEq, List.takeWhile_cons_of_pos, List.dropWhile_cons_of_pos,
        show ('-' != '\n') = true from rfl] at h
      rw [← h.1]
      refine .line ?_ ?_ hg
      · intro hmem
        simpa using mem_takeWhile '\n' hmem
      · intro d hd
        have hstop := List.head?_dropWhile_not (· != '\n') body
        rw [h.2, hd] at hstop
        simpa using hstop
    · split at h
      · next hc =>
        obtain ⟨rfl, hhead⟩ := hc
        unfold blockComment at h
        split at h
        · next hbody =>
          obtain ⟨body, rfl, hfirst⟩ := closesFirst_of_commentBody hbody
          simp only [Lexeme.skip.injEq] at h
          rw [← h.1]
          exact .block hfirst hg
        · cases h
      · split at h
        · unfold quotedString at h
          split at h <;> cases h
        · split at h
          · simp [number] at h
          · split at h
            · cases h
            · split at h
              · unfold named at h
                split at h <;> cases h
              · split at h
                · cases h
                · unfold sign at h
                  repeat' split at h
                  all_goals first
                    | cases h
                    | (unfold single at h; split at h <;> cases h)

/-! ## Tiles -/

/-- A comment opens at the front of a text. -/
def OpensComment (text : List Char) : Prop :=
  ['-', '-'] <+: text ∨ ['/', '*'] <+: text

/-- Tokens tile a text whose first character has an offset: a gap before each of them and behind the
last one, and nothing more. Each token is the longest one at its place. -/
inductive Tiles : Nat → List Token → List Char → Prop
  | done {offset : Nat} {gap : List Char} (h : Gap [] gap) : Tiles offset [] gap
  | token {offset : Nat} {t : Token} {ts : List Token} {gap rest : List Char}
      (hg : Gap (t.text.toList ++ rest) gap)
      (hp : t.pos.offset = offset + gap.length) (hs : Spelling t.kind t.text.toList)
      (hl : Longest t.kind t.text.toList rest) (hc : ¬OpensComment (t.text.toList ++ rest))
      (h : Tiles (t.pos.offset + t.text.length) ts rest) : Tiles offset (t :: ts)
      (gap ++ (t.text.toList ++ rest))

/-- A comment is passed over before it can be taken for a token. -/
theorem not_opensComment_of_token {c : Char} {cs text rest : List Char} {kind : TokenKind}
    (h : front c cs = .token kind text rest) : ¬OpensComment (c :: cs) := by
  rintro (⟨more, hp⟩ | ⟨more, hp⟩)
  · obtain ⟨rfl, rfl⟩ := List.cons.inj hp
    rw [front, if_neg (by decide), if_pos ⟨rfl, rfl⟩] at h
    cases h
  · obtain ⟨rfl, rfl⟩ := List.cons.inj hp
    rw [front, if_neg (by decide), if_neg (by simp), if_pos ⟨rfl, rfl⟩, blockComment] at h
    split at h <;> cases h

theorem Position.offset_after (p : Position) (cs : List Char) :
    (p.after cs).offset = p.offset + cs.length := by
  induction cs generalizing p with
  | nil => rfl
  | cons c cs ih =>
    have hnext : (p.next c).offset = p.offset + 1 := by
      unfold Position.next
      split <;> rfl
    have hafter : (p.after (c :: cs)).offset = ((p.next c).after cs).offset := rfl
    rw [hafter, ih, hnext, List.length_cons]
    omega

/-- A piece that widens every gap behind it can be put before tiles. -/
theorem Tiles.skip {offset : Nat} {ts : List Token} {text cs : List Char}
    (h : Tiles (offset + text.length) ts cs)
    (hskip : ∀ gap rest, cs = gap ++ rest → Gap rest gap → Gap rest (text ++ gap)) :
    Tiles offset ts (text ++ cs) := by
  cases h with
  | done hg => exact .done (hskip _ [] (by simp) hg)
  | token hg hp hs hl hc h =>
    rw [← List.append_assoc]
    refine .token (hskip _ _ rfl hg) ?_ hs hl hc h
    rw [hp, List.length_append]
    omega

/-- A token without a gap before it. -/
theorem Tiles.cons {t : Token} {ts : List Token} {rest : List Char}
    (hs : Spelling t.kind t.text.toList) (hl : Longest t.kind t.text.toList rest)
    (hc : ¬OpensComment (t.text.toList ++ rest))
    (h : Tiles (t.pos.offset + t.text.length) ts rest) :
    Tiles t.pos.offset (t :: ts) (t.text.toList ++ rest) :=
  .token .nil rfl hs hl hc h

/-- A scan without an error tiles its text, and stops at the end of it. -/
theorem scanFrom_tiles (pos : Position) (cs : List Char) (h : (scanFrom pos cs).error? = none) :
    Tiles pos.offset (scanFrom pos cs).tokens cs ∧
      (scanFrom pos cs).stop.offset = pos.offset + cs.length := by
  fun_induction scanFrom pos cs with
  | case1 pos => exact ⟨.done .nil, rfl⟩
  | case2 pos c rest text rest' hfront ih =>
    obtain ⟨hsplit, -⟩ : text ++ rest' = c :: rest ∧ text ≠ [] := by
      have := splits_front c rest
      rwa [hfront] at this
    obtain ⟨htiles, hstop⟩ := ih h
    rw [Position.offset_after] at htiles hstop
    rw [← hsplit]
    refine ⟨htiles.skip ?_, ?_⟩
    · rintro gap more rfl hg
      exact gap_of_skip hfront hg
    · rw [hstop, List.length_append]
      omega
  | case3 pos c rest kind text rest' hfront ih =>
    obtain ⟨hsplit, -⟩ : text ++ rest' = c :: rest ∧ text ≠ [] := by
      have := splits_front c rest
      rwa [hfront] at this
    obtain ⟨htiles, hstop⟩ := ih h
    rw [Position.offset_after] at htiles hstop
    have hcomment := not_opensComment_of_token hfront
    rw [← hsplit] at hcomment ⊢
    have htext : (String.ofList text).toList = text := String.toList_ofList
    refine ⟨?_, ?_⟩
    · have htoken : Tiles pos.offset
          (⟨kind, String.ofList text, pos⟩ :: (scanFrom (pos.after text) rest').tokens)
          ((String.ofList text).toList ++ rest') := by
        refine Tiles.cons (t := ⟨kind, String.ofList text, pos⟩) ?_ ?_ ?_ ?_
        · rw [htext]
          exact front_spelling hfront
        · rw [htext]
          exact front_longest hfront
        · rwa [htext]
        · rwa [String.length_ofList]
      rwa [htext] at htoken
    · show (scanFrom (pos.after text) rest').stop.offset = pos.offset + (text ++ rest').length
      rw [hstop, List.length_append]
      omega
  | case4 => cases h

/-! ## Offsets -/

/-- The offset behind a token. -/
def Token.endOffset (t : Token) : Nat :=
  t.pos.offset + t.text.length

/-- The characters of a text from one offset up to another. -/
def slice (cs : List Char) (first last : Nat) : List Char :=
  (cs.take last).drop first

theorem slice_append (before cs rest : List Char) :
    slice (before ++ (cs ++ rest)) before.length (before.length + cs.length) = cs := by
  unfold slice
  rw [← List.append_assoc, ← List.length_append, List.take_left', List.drop_left']
  all_goals rfl

/-- A token of a text: it has a kind other than the ending, and is what the text has at its place.
It belongs to the lexical class of its kind, and no longer token stands there, nor a comment. -/
structure Token.StandsIn (cs : List Char) (t : Token) : Prop where
  kind_ne : t.kind ≠ .endOfInput
  text_ne : t.text ≠ ""
  slice_eq : slice cs t.pos.offset t.endOffset = t.text.toList
  lexicalClass : LexicalClass t.kind t.text.toList
  longest : Longest t.kind t.text.toList (cs.drop t.endOffset)
  wordEnds : isWordLike t.kind = true → ∀ d, (cs.drop t.endOffset).head? = some d →
    isWordPart d = false
  noComment : ¬OpensComment (cs.drop t.pos.offset)

/-- The token behind a gap stands in the text. -/
theorem standsIn_of_token {before gap rest : List Char} {t : Token}
    (hp : t.pos.offset = before.length + gap.length) (hs : Spelling t.kind t.text.toList)
    (hl : Longest t.kind t.text.toList rest) (hc : ¬OpensComment (t.text.toList ++ rest)) :
    t.StandsIn (before ++ (gap ++ (t.text.toList ++ rest))) := by
  have hoffset : t.pos.offset = (before ++ gap).length := by rw [hp, List.length_append]
  have hend : t.endOffset = (before ++ gap ++ t.text.toList).length := by
    rw [Token.endOffset, hoffset, ← String.length_toList, ← List.length_append]
  have hrest : (before ++ (gap ++ (t.text.toList ++ rest))).drop t.endOffset = rest := by
    rw [← List.append_assoc, ← List.append_assoc, List.drop_left' hend.symm]
  have htext : (before ++ (gap ++ (t.text.toList ++ rest))).drop t.pos.offset =
      t.text.toList ++ rest := by
    rw [← List.append_assoc, List.drop_left' hoffset.symm]
  refine ⟨hs.kind_ne_end, ?_, ?_, spelling_lexicalClass hs, ?_, ?_, ?_⟩
  · intro hempty
    obtain ⟨c, cs, hcons⟩ := hs.exists_cons
    rw [hempty] at hcons
    cases hcons
  · rw [← List.append_assoc, Token.endOffset, hoffset, ← String.length_toList]
    exact slice_append _ _ _
  · rwa [hrest]
  · rw [hrest]
    exact fun hk => isWordPart_of_longest hs hk hl
  · rwa [htext]

theorem Tiles.standsIn {offset : Nat} {ts : List Token} {cs : List Char} (h : Tiles offset ts cs)
    (before : List Char) (hb : before.length = offset) : ∀ t ∈ ts, t.StandsIn (before ++ cs) := by
  induction h generalizing before with
  | done => simp
  | @token offset t ts gap rest hg hp hs hl hc h ih =>
    subst hb
    refine List.forall_mem_cons.mpr ⟨standsIn_of_token hp hs hl hc, ?_⟩
    have hbefore : (before ++ (gap ++ t.text.toList)).length = t.pos.offset + t.text.length := by
      rw [hp, List.length_append, List.length_append, String.length_toList]
      omega
    simpa using ih _ hbefore

/-- Tokens stand one behind the other. -/
theorem Tiles.pairwise {offset : Nat} {ts : List Token} {cs : List Char} (h : Tiles offset ts cs) :
    (∀ t ∈ ts, offset ≤ t.pos.offset) ∧ ts.Pairwise fun t u => t.endOffset ≤ u.pos.offset := by
  induction h with
  | done => simp
  | @token offset t ts gap rest _ hp _ _ _ _ ih =>
    refine ⟨List.forall_mem_cons.mpr ⟨by omega, fun u hu => ?_⟩, .cons ih.1 ih.2⟩
    have := ih.1 u hu
    omega

/-- From the offset behind a token to that of the next one there is a gap. -/
def GapBetween (cs : List Char) (first last : Nat) : Prop :=
  first ≤ last ∧ Gap (cs.drop last) (slice cs first last)

theorem gapBetween_append (before : List Char) {gap rest : List Char} (h : Gap rest gap) :
    GapBetween (before ++ (gap ++ rest)) before.length (before.length + gap.length) := by
  refine ⟨by omega, ?_⟩
  rw [slice_append, ← List.append_assoc, ← List.length_append, List.drop_left]
  exact h

theorem Tiles.gaps {offset : Nat} {ts : List Token} {cs : List Char} (h : Tiles offset ts cs)
    (before : List Char) (hb : before.length = offset) :
    List.Forall₂ (GapBetween (before ++ cs)) (offset :: ts.map Token.endOffset)
      (ts.map (fun t => t.pos.offset) ++ [(before ++ cs).length]) := by
  induction h generalizing before with
  | done hg =>
    subst hb
    have hgap := gapBetween_append before hg
    rw [List.append_nil, ← List.length_append] at hgap
    exact .cons hgap .nil
  | @token offset t ts gap rest hg hp hs hl hc h ih =>
    subst hb
    have hbefore : (before ++ (gap ++ t.text.toList)).length = t.endOffset := by
      rw [Token.endOffset, hp, List.length_append, List.length_append, String.length_toList]
      omega
    have hgap := gapBetween_append before hg
    rw [← hp] at hgap
    refine .cons hgap ?_
    have hgaps := ih _ hbefore
    rwa [List.append_assoc, List.append_assoc] at hgaps

/-! ## Queries -/

/--
The tokens of a query and its ending. The ending stands behind the last character. Every other token
is a piece of the query at its place, of the lexical class of its kind and the longest there; tokens
follow one another, and what is between them, before the first and behind the last are blanks and
comments.
-/
theorem tokenize_tiles (query : String) (ts : List Token) (h : tokenize query = .ok ts) :
    ∃ body last, ts = body ++ [last] ∧ last.kind = .endOfInput ∧ last.text = "" ∧
      last.pos.offset = query.length ∧ (∀ t ∈ body, t.StandsIn query.toList) ∧
      body.Pairwise (fun t u => t.endOffset ≤ u.pos.offset) ∧
      List.Forall₂ (GapBetween query.toList) (0 :: body.map Token.endOffset)
        (body.map (fun t => t.pos.offset) ++ [query.length]) := by
  obtain ⟨herror, rfl⟩ := tokenize_eq_ok.mp h
  obtain ⟨htiles, hstop⟩ := scanFrom_tiles {} query.toList herror
  refine ⟨(scan query).tokens, .ending (scan query).stop, rfl, rfl, rfl, ?_, ?_,
    htiles.pairwise.2, ?_⟩
  · rw [← String.length_toList]
    exact hstop.trans (Nat.zero_add _)
  · exact htiles.standsIn [] rfl
  · have hgaps := htiles.gaps [] rfl
    rwa [List.nil_append, String.length_toList] at hgaps

/-- Comments of both forms, a number before a word that starts like its suffix, and a
doubled quote. -/
theorem tokenize_tiles_comments :
    ∃ ts body last, tokenize "/*a**/10la -- b\n'it''s'" = .ok ts ∧
      ts.map (fun t => (t.text, t.pos.offset)) = [("10", 6), ("la", 8), ("'it''s'", 16), ("", 23)] ∧
      ts = body ++ [last] ∧ last.pos.offset = 23 ∧
      (∀ t ∈ body, t.StandsIn "/*a**/10la -- b\n'it''s'".toList) ∧
      List.Forall₂ (GapBetween "/*a**/10la -- b\n'it''s'".toList) (0 :: body.map Token.endOffset)
        (body.map (fun t => t.pos.offset) ++ [23]) := by
  have hscan : tokenize "/*a**/10la -- b\n'it''s'" =
      .ok [⟨.integer, "10", ⟨1, 7, 6⟩⟩, ⟨.identifier, "la", ⟨1, 9, 8⟩⟩,
        ⟨.string, "'it''s'", ⟨2, 1, 16⟩⟩,
        ⟨.endOfInput, "", ⟨2, 8, 23⟩⟩] := by with_unfolding_all rfl
  obtain ⟨body, last, hts, -, -, hlast, hbody, -, hgaps⟩ := tokenize_tiles _ _ hscan
  exact ⟨_, body, last, hscan, rfl, hts, hlast, hbody, hgaps⟩

end EntityQuery
