import EntityQuery.Proofs.Token.Coordinates
import EntityQuery.Proofs.Token.Cut
import EntityQuery.Proofs.Token.Reuse

/-!
# Lexical errors

A text cannot be read as tokens exactly if, behind a part that is read completely, something
malformed stands: a string or a comment that is never closed, a colon without a name, or a character
with which nothing starts.

1. `Malformed`: what is malformed and how it is reported, in terms of characters and lexical classes
   alone.
2. `front_fault`, `Malformed.fault`: the front of a text is refused exactly if it is malformed.
3. `Reaches`: the rests of a text that a scan comes to. `Reaches.scan_cut`: what was read on the way
   to something malformed is read in the same way if the text is cut off there.
-/

namespace EntityQuery

namespace Lexeme

/-! ## What is malformed -/

/-- The quote before a text opens a string that is never closed: wherever a string could end, a
further quote follows. -/
def NeverClosed (body : List Char) : Prop :=
  ∀ text rest, LexicalClass .string text → Text.singleQuote :: body = text ++ rest →
    rest.head? = some Text.singleQuote

/-- Texts with something malformed at their front, and the message about it. -/
inductive Malformed : List Char → String → Prop
  | string {body : List Char} (h : NeverClosed body) :
      Malformed (Text.singleQuote :: body) "Unterminated string literal"
  | comment {body : List Char} (h : ¬['*', '/'] <:+: body) :
      Malformed ('/' :: '*' :: body) "Unterminated block comment"
  | parameter {rest : List Char} (h : rest.head?.any isWordStart = false) :
      Malformed (':' :: rest) "Expected parameter name after ':'"
  | character {c : Char} {rest : List Char} (hquote : c ≠ Text.singleQuote) (hcolon : c ≠ ':')
      (hblank : Text.isBlank c = false) (hcomment : ¬OpensComment (c :: rest))
      (h : ∀ kind text, kind ≠ .endOfInput → LexicalClass kind text → ¬text <+: c :: rest) :
      Malformed (c :: rest) ("Unexpected character " ++ Text.quoted (String.singleton c))

/-! ## Strings and comments without an end -/

theorem quoted_of_lexicalClass {text : List Char} (h : LexicalClass .string text) :
    ∃ cs, text = Text.singleQuote :: cs ∧ Quoted cs := by
  obtain ⟨inner, rfl⟩ := h
  refine ⟨_, rfl, ?_⟩
  induction inner with
  | nil => exact .close
  | cons c inner ih =>
    by_cases hc : c = Text.singleQuote
    · rw [List.flatMap_cons, if_pos hc]
      exact .doubled ih
    · rw [List.flatMap_cons, if_neg hc]
      exact .plain hc ih

theorem stringBody_eq_none_iff {body : List Char} : stringBody body = none ↔ NeverClosed body := by
  constructor
  · intro hnone text rest htext hsplit
    obtain ⟨cs, rfl, hq⟩ := quoted_of_lexicalClass htext
    obtain rfl : body = cs ++ rest := (List.cons.inj hsplit).2
    by_cases hrest : rest.head? = some Text.singleQuote
    · exact hrest
    · rw [stringBody_append_of_quoted hq fun d hd hquote => hrest (hquote ▸ hd)] at hnone
      cases hnone
  · intro hnever
    cases hbody : stringBody body with
    | none => rfl
    | some x =>
      obtain ⟨text, rest⟩ := x
      have hsplit : Text.singleQuote :: body = Text.singleQuote :: text ++ rest := by
        rw [List.cons_append, stringBody_append hbody]
      exact absurd (hnever _ rest (quotedText_of_quoted (quoted_of_stringBody hbody)) hsplit)
        (stringBody_stops hbody)

theorem commentBody_eq_none_iff {body : List Char} :
    commentBody body = none ↔ ¬['*', '/'] <:+: body := by
  fun_induction commentBody body with
  | case1 => simp
  | case2 c => simp [List.infix_cons_iff]
  | case3 c d rest h =>
    obtain ⟨rfl, rfl⟩ := h
    simp [List.infix_cons_iff]
  | case4 c d rest h ih =>
    have hopen : ¬['*', '/'] <+: c :: d :: rest := by
      intro hp
      obtain ⟨hc, hp⟩ := List.cons_prefix_cons.mp hp
      exact h ⟨hc.symm, (List.cons_prefix_cons.mp hp).1.symm⟩
    rw [Option.map_eq_none_iff, ih, @List.infix_cons_iff _ _ c, not_or]
    exact (and_iff_right hopen).symm

/-! ## What is refused -/

theorem symbol_of_lexicalClass {s : Symbol} {text : List Char} (h : LexicalClass (.symbol s) text) :
    (∃ c, text = [c] ∧ singleSymbol? c = some s) ∨ ∃ c d, text = [c, d] ∧
      doubleSymbol? c d = some s := by
  have htext : ∃ w ∈ s.spellings, text = w.toList := ⟨_, h, String.toList_ofList.symm⟩
  obtain ⟨w, hw, rfl⟩ := htext
  cases s with
  | notEquals =>
    rcases List.mem_pair.mp hw with rfl | rfl
    · exact .inr ⟨_, _, rfl, rfl⟩
    · exact .inr ⟨_, _, rfl, rfl⟩
  | lessEqual | greaterEqual | concat =>
    obtain rfl := List.mem_singleton.mp hw
    exact .inr ⟨_, _, rfl, rfl⟩
  | _ =>
    obtain rfl := List.mem_singleton.mp hw
    exact .inl ⟨_, rfl, rfl⟩

theorem sign_fault {c : Char} {cs read : List Char} {reason : LexicalFault}
    (h : sign c cs = .fault reason read) :
    reason = .unexpectedCharacter c ∧ singleSymbol? c = none ∧ ∀ d, cs.head? = some d →
      doubleSymbol? c d = none := by
  have hsingle : ∀ {rest : List Char}, single c rest = .fault reason read →
      reason = .unexpectedCharacter c ∧ singleSymbol? c = none := by
    intro rest h
    unfold single at h
    split at h
    · cases h
    · next hnone =>
      cases h
      exact ⟨rfl, hnone⟩
  unfold sign at h
  split at h
  · obtain ⟨hreason, hnone⟩ := hsingle h
    exact ⟨hreason, hnone, by simp⟩
  · split at h
    · cases h
    · next hdouble =>
      obtain ⟨hreason, hnone⟩ := hsingle h
      refine ⟨hreason, hnone, ?_⟩
      rintro d ⟨⟩
      exact hdouble

/-- Where no reader takes the first character, no token stands. -/
theorem not_lexicalClass_of_sign {c : Char} {cs : List Char} (hq : c ≠ Text.singleQuote)
    (hd : Text.isDigit c = false) (hw : isWordStart c = false) (hn : c ≠ ':') (hp : c ≠ '?')
    (hsingle : singleSymbol? c = none) (hdouble : ∀ d, cs.head? = some d → doubleSymbol? c d = none)
    {kind : TokenKind} {text : List Char} (hkind : kind ≠ .endOfInput)
    (hclass : LexicalClass kind text) : ¬text <+: c :: cs := by
  have hdigits : ∀ {ds more : List Char}, ds ≠ [] → IsDigits ds → ¬ds ++ more <+: c :: cs := by
    intro ds more hne hds hprefix
    obtain ⟨d, ds, rfl⟩ := List.exists_cons_of_ne_nil hne
    obtain ⟨rfl, -⟩ := List.cons_prefix_cons.mp hprefix
    rw [hds d List.mem_cons_self] at hd
    cases hd
  have hword : ∀ {text : List Char}, IsWord text → ¬text <+: c :: cs := by
    rintro _ ⟨x, xs, rfl, hx, -⟩ hprefix
    obtain ⟨rfl, -⟩ := List.cons_prefix_cons.mp hprefix
    rw [hx] at hw
    cases hw
  intro hprefix
  cases kind with
  | string =>
    obtain ⟨inner, rfl⟩ := hclass
    exact hq (List.cons_prefix_cons.mp hprefix).1.symm
  | integer =>
    obtain ⟨ds, suff, hne, hds, -, rfl⟩ := hclass
    exact hdigits hne hds hprefix
  | decimal =>
    obtain ⟨ds, frac, exp, suff, hne, hds, -, -, -, -, rfl⟩ := hclass
    rw [List.append_assoc, List.append_assoc] at hprefix
    exact hdigits hne hds hprefix
  | namedParameter =>
    obtain ⟨name, -, rfl⟩ := hclass
    exact hn (List.cons_prefix_cons.mp hprefix).1.symm
  | positionalParameter =>
    obtain ⟨ds, -, rfl⟩ := hclass
    exact hp (List.cons_prefix_cons.mp hprefix).1.symm
  | symbol s =>
    rcases symbol_of_lexicalClass hclass with ⟨x, rfl, hx⟩ | ⟨x, y, rfl, hxy⟩
    · obtain ⟨rfl, -⟩ := List.cons_prefix_cons.mp hprefix
      rw [hx] at hsingle
      cases hsingle
    · obtain ⟨rfl, htail⟩ := List.cons_prefix_cons.mp hprefix
      obtain ⟨more, rfl⟩ := htail
      rw [hdouble y rfl] at hxy
      cases hxy
  | identifier => exact hword hclass.1 hprefix
  | reserved w => exact hword hclass.1 hprefix
  | function f => exact hword hclass.1 hprefix
  | clock k => exact hword hclass.1 hprefix
  | endOfInput => exact hkind rfl

/-- What is refused is malformed, and reported as such. Neither a number nor a comment goes
on with it. -/
theorem front_fault {c : Char} {cs read : List Char} {reason : LexicalFault}
    (h : front c cs = .fault reason read) :
    Malformed (c :: cs) reason.message ∧ Barrier (c :: cs) := by
  cases front_iff.mp h with
  | blank hc hx => cases hx
  | line hc hd hx => cases hx
  | block hc hd hx =>
    subst hc
    obtain ⟨body, rfl⟩ := List.head?_eq_some_iff.mp hd
    unfold blockComment at hx
    split at hx
    · cases hx
    · next hnone =>
      cases hx
      refine ⟨.comment (commentBody_eq_none_iff.mp hnone), ?_⟩
      rintro d ⟨⟩
      decide
  | string hc hx =>
    subst hc
    unfold quotedString at hx
    split at hx
    · cases hx
    · next hnone =>
      cases hx
      refine ⟨.string (stringBody_eq_none_iff.mp hnone), ?_⟩
      rintro d ⟨⟩
      decide
  | number hb hc hx => simp [number] at hx
  | word hb hd hc hx => cases hx
  | named hc hx =>
    subst hc
    unfold named at hx
    split at hx
    · cases hx
    · next hhead =>
      cases hx
      refine ⟨.parameter (by simpa using hhead), ?_⟩
      rintro d ⟨⟩
      decide
  | positional hc hx => cases hx
  | sign hb hline hblock hq hd hw hn hp hx =>
    obtain ⟨rfl, hsingle, hdouble⟩ := sign_fault hx
    have hne : ∀ {x : Char}, (singleSymbol? x).isSome = true → c ≠ x := by
      rintro x hx rfl
      rw [hsingle] at hx
      cases hx
    refine ⟨.character hq hn hb ?_ fun kind text hkind hclass =>
      not_lexicalClass_of_sign hq hd hw hn hp hsingle hdouble hkind hclass, ?_⟩
    · rintro (⟨more, hmore⟩ | ⟨more, hmore⟩)
      · exact hne (x := '-') rfl (List.cons.inj hmore).1.symm
      · exact hne (x := '/') rfl (List.cons.inj hmore).1.symm
    · rintro d ⟨⟩
      exact ⟨hd, hw, hne rfl, hne rfl, hne rfl, hne rfl⟩

/-- What is passed over opens with a blank or is a comment. -/
theorem opens_of_skip {c : Char} {cs text rest : List Char} (h : front c cs = .skip text rest) :
    Text.isBlank c = true ∨ OpensComment (c :: cs) := by
  rcases skip_cases h with ⟨hc, -, -⟩ | ⟨rfl, hd, -, -⟩ | ⟨rfl, hd, -⟩
  · exact .inl hc
  · obtain ⟨more, rfl⟩ := List.head?_eq_some_iff.mp hd
    exact .inr (.inl ⟨more, rfl⟩)
  · obtain ⟨more, rfl⟩ := List.head?_eq_some_iff.mp hd
    exact .inr (.inr ⟨more, rfl⟩)

/-- What is malformed is refused. -/
theorem Malformed.fault {c : Char} {cs : List Char} {message : String}
    (h : Malformed (c :: cs) message) :
    ∃ reason read, front c cs = .fault reason read ∧ reason.message = message := by
  generalize htext : c :: cs = text at h
  cases h with
  | string h =>
    cases htext
    refine ⟨.unterminatedString, Text.singleQuote :: cs, front_iff.mpr (.string rfl ?_), rfl⟩
    rw [quotedString, stringBody_eq_none_iff.mpr h]
  | @comment body h =>
    cases htext
    refine ⟨.unterminatedComment, '/' :: '*' :: body, front_iff.mpr (.block rfl rfl ?_), rfl⟩
    rw [List.tail_cons, blockComment, commentBody_eq_none_iff.mpr h]
  | parameter h =>
    cases htext
    refine ⟨.missingParameterName, [':'], front_iff.mpr (.named rfl ?_), rfl⟩
    rw [named, if_neg (by simp [h])]
  | character hquote hcolon hblank hcomment h =>
    cases htext
    cases hfront : front c cs with
    | skip text rest =>
      rcases opens_of_skip hfront with hc | hc
      · rw [hc] at hblank
        cases hblank
      · exact absurd hc hcomment
    | token kind text rest =>
      obtain ⟨hsplit, -⟩ : text ++ rest = c :: cs ∧ text ≠ [] := by
        have := splits_front c cs
        rwa [hfront] at this
      have hspelling := front_spelling hfront
      exact absurd ⟨rest, hsplit⟩
        (h kind text hspelling.kind_ne_end (spelling_lexicalClass hspelling))
    | fault reason read =>
      -- The other three faults are about characters that are left out here.
      refine ⟨reason, read, rfl, ?_⟩
      obtain ⟨hmalformed, -⟩ := front_fault hfront
      generalize reason.message = message at hmalformed
      cases hmalformed with
      | string => exact absurd rfl hquote
      | comment => exact absurd (.inr ⟨_, rfl⟩) hcomment
      | parameter => exact absurd rfl hcolon
      | character => rfl

/-! ## Where a scan comes to -/

/-- The rests that a scan of a text comes to, one token, comment or run of blanks after the
other. -/
inductive Reaches : List Char → List Char → Prop
  | here {r : List Char} : Reaches r r
  | skip {c : Char} {cs text rest r : List Char} (h : front c cs = .skip text rest)
      (hr : Reaches rest r) : Reaches (c :: cs) r
  | token {c : Char} {cs text rest r : List Char} {kind : TokenKind}
      (h : front c cs = .token kind text rest) (hr : Reaches rest r) : Reaches (c :: cs) r

theorem Reaches.length_le {cs r : List Char} (h : Reaches cs r) : r.length ≤ cs.length := by
  induction h with
  | here => exact Nat.le_refl _
  | skip h _ ih => exact Nat.le_trans ih (Nat.le_of_lt (length_lt_of_skip h))
  | token h _ ih => exact Nat.le_trans ih (Nat.le_of_lt (length_lt_of_token h))

/-- A lone letter is not left behind if the rest goes on with its word. -/
theorem Reaches.not_isWordPart {s : Char} {r : List Char} (hs : Suffix [s])
    (h : Reaches (s :: r) r) :
    r.head?.any isWordPart = false := by
  have hword : front s r = word s r := by
    cases hs with
    | present hc =>
      simp only [isDecimalSuffix, Bool.or_eq_true, beq_iff_eq] at hc
      rcases hc with rfl | rfl | ((rfl | rfl) | rfl) | rfl <;> exact front_word (by decide)
        (by decide) (by decide)
  have hle : r.length ≤ (r.dropWhile isWordPart).length := by
    generalize hcs : s :: r = cs at h
    cases h with
    | here => exact absurd hcs (List.cons_ne_self s r)
    | skip h hr =>
      cases hcs
      rw [hword] at h
      cases h
    | token h hr =>
      cases hcs
      rw [hword] at h
      cases h
      exact hr.length_le
  cases r with
  | nil => rfl
  | cons d r =>
    by_cases hd : isWordPart d = true
    · rw [List.dropWhile_cons_of_pos hd] at hle
      have hdrop := (List.dropWhile_suffix isWordPart (l := r)).length_le
      rw [List.length_cons] at hle
      omega
    · simpa using hd

theorem exists_tail_of_split {c : Char} {cs text p r : List Char} (h : text ++ (p ++ r) = c :: cs)
    (hne : text ≠ []) :
    ∃ tail, text = c :: tail ∧ cs = tail ++ p ++ r := by
  obtain ⟨d, tail, rfl⟩ := List.exists_cons_of_ne_nil hne
  obtain ⟨rfl, hcs⟩ := List.cons.inj h
  exact ⟨tail, rfl, by rw [List.append_assoc, ← hcs]; rfl⟩

/-- What is read on the way to something malformed is read in the same way if the text ends
there. -/
theorem Reaches.scan_cut {cs r : List Char} (h : Reaches cs r) (hbarrier : Barrier r) :
    ∃ p, cs = p ++ r ∧ ∀ pos, ∃ ts, scanFrom pos p = ⟨ts, pos.after p, none⟩ ∧
      scanFrom pos cs = (scanFrom (pos.after p) r).prepend ts := by
  induction h with
  | here =>
    refine ⟨[], rfl, fun pos => ⟨[], ?_, rfl⟩⟩
    rw [scanFrom]
    rfl
  | @skip c cs text rest r h hr ih =>
    obtain ⟨p, rfl, ih⟩ := ih hbarrier
    obtain ⟨text, rfl, rfl⟩ : ∃ tail, text = c :: tail ∧ cs = tail ++ p ++ r := by
      have hsplits := splits_front c cs
      rw [h] at hsplits
      exact exists_tail_of_split hsplits.1 hsplits.2
    have hcut := front_cut_skip hbarrier h
    refine ⟨c :: text ++ p, rfl, fun pos => ?_⟩
    obtain ⟨ts, hp, hcs⟩ := ih (pos.after (c :: text))
    refine ⟨ts, ?_, ?_⟩
    · rw [List.cons_append, scanFrom_skip hcut, hp, ← Position.after_append, List.cons_append]
    · rw [scanFrom_skip h, hcs, ← Position.after_append]
  | @token c cs text rest r kind h hr ih =>
    obtain ⟨p, rfl, ih⟩ := ih hbarrier
    obtain ⟨text, rfl, rfl⟩ : ∃ tail, text = c :: tail ∧ cs = tail ++ p ++ r := by
      have hsplits := splits_front c cs
      rw [h] at hsplits
      exact exists_tail_of_split hsplits.1 hsplits.2
    have hword : ∀ s, Suffix [s] → p = [s] → r.head?.any isWordPart = false := by
      rintro s hs rfl
      exact hr.not_isWordPart hs
    have hcut := front_cut_token hbarrier hword h
    refine ⟨c :: text ++ p, rfl, fun pos => ?_⟩
    obtain ⟨ts, hp, hcs⟩ := ih (pos.after (c :: text))
    refine ⟨⟨kind, String.ofList (c :: text), pos⟩ :: ts, ?_, ?_⟩
    · rw [List.cons_append, scanFrom_token hcut, hp, ← Position.after_append, List.cons_append]
      rfl
    · rw [scanFrom_token h, hcs, ← Position.after_append]
      rfl

/-- A scan with an error came to something malformed. -/
theorem reaches_of_error (pos : Position) (cs : List Char) (h : (scanFrom pos cs).error? ≠ none) :
    ∃ r message, Reaches cs r ∧ Malformed r message := by
  fun_induction scanFrom pos cs with
  | case1 pos => exact absurd rfl h
  | case2 pos c rest text rest' hfront ih =>
    obtain ⟨r, message, hr, hmalformed⟩ := ih h
    exact ⟨r, message, .skip hfront hr, hmalformed⟩
  | case3 pos c rest kind text rest' hfront ih =>
    obtain ⟨r, message, hr, hmalformed⟩ := ih h
    exact ⟨r, message, .token hfront hr, hmalformed⟩
  | case4 pos c rest reason read hfront => exact ⟨_, _, .here, (front_fault hfront).1⟩

end Lexeme

/-! ## Lexical errors -/

/-- A query splits into a part that is read completely and a rest with something malformed at its
front, where the scan comes to. -/
structure BreaksAt (query p r message : String) : Prop where
  split : query = p ++ r
  complete : ∃ ts, tokenize p = .ok ts
  reached : Lexeme.Reaches query.toList r.toList
  malformed : Lexeme.Malformed r.toList message

theorem scanFrom_fault {pos : Position} {c : Char} {cs read : List Char} {reason : LexicalFault}
    (h : Lexeme.front c cs = .fault reason read) :
    scanFrom pos (c :: cs) = ⟨[], pos.after read, some ⟨reason, pos⟩⟩ := by
  rw [scanFrom]
  split
  · next h' => rw [h] at h'; cases h'
  · next h' => rw [h] at h'; cases h'
  · next h' => rw [h] at h'; cases h'; rfl

/-- The scan of something malformed ends at once, with its error. -/
theorem scanFrom_malformed {r : List Char} {message : String} (h : Lexeme.Malformed r message)
    (pos : Position) :
    ∃ reason stop, scanFrom pos r = ⟨[], stop, some ⟨reason, pos⟩⟩ ∧ reason.message = message ∧
      Lexeme.Barrier r := by
  cases r with
  | nil => cases h
  | cons c cs =>
    obtain ⟨reason, read, hfront, hmessage⟩ := h.fault
    exact ⟨reason, pos.after read, scanFrom_fault hfront, hmessage, (Lexeme.front_fault hfront).2⟩

/-- What the scan of a broken query gives: the tokens of the complete part and the error about the
rest. -/
theorem BreaksAt.scan {query p r message : String} (h : BreaksAt query p r message) :
    ∃ ts stop reason, scan p = ⟨ts, ({} : Position).after p.toList, none⟩ ∧
      scan query = ⟨ts, stop, some ⟨reason, ({} : Position).after p.toList⟩⟩ ∧
      reason.message = message := by
  obtain ⟨reason, stop, hr, hmessage, hbarrier⟩ :=
    scanFrom_malformed h.malformed (({} : Position).after p.toList)
  obtain ⟨q, hquery, hscan⟩ := h.reached.scan_cut hbarrier
  obtain rfl : q = p.toList := by
    rw [h.split, String.toList_append] at hquery
    exact (List.append_cancel_right hquery).symm
  obtain ⟨ts, hp, hq⟩ := hscan {}
  refine ⟨ts, stop, reason, hp, ?_, hmessage⟩
  rw [EntityQuery.scan, hq, hr]
  exact congrArg (Scan.mk · _ _) (List.append_nil ts)

/-- A query that cannot be read breaks somewhere. -/
theorem exists_breaksAt_of_error {query : String} {e : LexicalError}
    (h : tokenize query = .error e) :
    ∃ p r message, BreaksAt query p r message := by
  have herror : (scan query).error? ≠ none := by
    intro hnone
    rw [tokenize, Scan.result, hnone] at h
    cases h
  obtain ⟨r, message, hreached, hmalformed⟩ := Lexeme.reaches_of_error {} query.toList herror
  obtain ⟨-, -, -, -, hbarrier⟩ := scanFrom_malformed hmalformed {}
  obtain ⟨p, hquery, hscan⟩ := hreached.scan_cut hbarrier
  obtain ⟨ts, hp, -⟩ := hscan {}
  refine ⟨String.ofList p, String.ofList r, message, ?_, ?_, ?_, ?_⟩
  · rw [← String.ofList_append, ← hquery, String.ofList_toList]
  · refine ⟨_, tokenize_eq_ok.mpr ⟨?_, rfl⟩⟩
    rw [EntityQuery.scan, String.toList_ofList, hp]
  · rwa [String.toList_ofList]
  · rwa [String.toList_ofList]

/--
A query is refused exactly if it breaks somewhere: it splits into a part that is read completely and
a rest at whose front, where the scan comes to, stands a string or a comment that is never closed, a
colon without a name, or a character with which nothing starts. There is one such split. The error
carries the message about what stands there and the coordinates of the first character of the rest,
and a scanner is left with the tokens of the complete part without their ending.
-/
theorem tokenize_error_iff_breaksAt (query : String) :
    ((∃ e, tokenize query = .error e) ↔ ∃ p r message, BreaksAt query p r message) ∧
      ∀ p r message, BreaksAt query p r message →
        (∀ p' r' message', BreaksAt query p' r' message' → p' = p ∧ r' = r ∧ message' = message) ∧
        ∃ e ts stop line, tokenize query = .error e ∧ e.fault.message = message ∧
          e.pos.offset = p.length ∧ e.pos.line = 1 + p.toList.count '\n' ∧
          IsLastLine p.toList line ∧ e.pos.column = 1 + line.length ∧
          tokenize p = .ok (ts ++ [.ending stop]) ∧
          ∀ (s : Scanner) (book : Log.Book), s.query = query →
          (s.tokenize.run book).1.2.stored = ts := by
  refine ⟨⟨fun ⟨e, he⟩ => exists_breaksAt_of_error he, ?_⟩, fun p r message h => ?_⟩
  · rintro ⟨p, r, message, h⟩
    obtain ⟨ts, stop, reason, -, hscan, -⟩ := h.scan
    exact ⟨_, by rw [tokenize, hscan]; rfl⟩
  · obtain ⟨ts, stop, reason, hp, hscan, hmessage⟩ := h.scan
    obtain ⟨hoffset, hline, line, hlast, hcolumn⟩ := Position.behind_after p.toList
    refine ⟨fun p' r' message' h' => ?_, ?_⟩
    · -- The error is the same one, so that both parts have its length.
      obtain ⟨ts', stop', reason', hp', hscan', hmessage'⟩ := h'.scan
      rw [hscan] at hscan'
      injection hscan' with _ _ herror
      injection herror with herror
      injection herror with hreason hpos
      have hlength : p.toList.length = p'.toList.length := by
        rw [← hoffset, hpos, (Position.behind_after p'.toList).offset]
      have hquery : p'.toList ++ r'.toList = p.toList ++ r.toList := by
        rw [← String.toList_append, ← String.toList_append, ← h.split, ← h'.split]
      obtain ⟨hpp, hrr⟩ := List.append_inj hquery hlength.symm
      exact ⟨String.toList_inj.mp hpp, String.toList_inj.mp hrr,
        by rw [← hmessage, ← hmessage', hreason]⟩
    · refine ⟨⟨reason, ({} : Position).after p.toList⟩, ts, ({} : Position).after p.toList, line,
        ?_, hmessage, ?_, hline, hlast, hcolumn, ?_, ?_⟩
      · rw [tokenize, hscan]
        rfl
      · rw [hoffset, String.length_toList]
      · rw [tokenize, hp]
        rfl
      · rintro s book rfl
        rw [Scanner.run_tokenize, Scanner.used, hscan]
        rfl

/-- A lone exclamation mark breaks a query, here behind a string that looks like a comment. -/
theorem tokenize_error_lone_mark :
    tokenize "a\n'--' !" = .error ⟨.unexpectedCharacter '!', ⟨2, 6, 7⟩⟩ ∧
      BreaksAt "a\n'--' !" "a\n'--' " "!" "Unexpected character '!'" := by
  have herror : tokenize "a\n'--' !" = .error ⟨.unexpectedCharacter '!', ⟨2, 6, 7⟩⟩ := by
    with_unfolding_all rfl
  obtain ⟨p, r, message, h⟩ := (tokenize_error_iff_breaksAt "a\n'--' !").1.mp ⟨_, herror⟩
  obtain ⟨-, e, -, -, -, he, hmessage, hoffset, -⟩ :=
    (tokenize_error_iff_breaksAt "a\n'--' !").2 p r message h
  obtain rfl : e = ⟨.unexpectedCharacter '!', ⟨2, 6, 7⟩⟩ := Except.error.inj (he.symm.trans herror)
  have hsplit : "a\n'--' ".toList ++ "!".toList = p.toList ++ r.toList := by
    rw [← String.toList_append, ← String.toList_append, ← h.split]
    rfl
  obtain ⟨hp, hr⟩ := List.append_inj hsplit (hoffset.trans String.length_toList.symm)
  rw [← String.toList_inj.mp hp, ← String.toList_inj.mp hr, ← hmessage] at h
  exact ⟨herror, h⟩

end EntityQuery
