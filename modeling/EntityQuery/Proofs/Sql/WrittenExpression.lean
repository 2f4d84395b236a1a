import EntityQuery.Proofs.Sql.Written

/-!
# Expressions that are written

One statement for each rule of the grammar: an expression is written as the translated one if its
parts are. Here are the tiers, the predicates and the expressions that are names or single tokens.
-/

namespace EntityQuery.Sql

open Grammar

variable {q : Place}

/-! ## Texts of tokens -/

theorem isWord_ofWord (text : String) : (TokenKind.ofWord text).isWord = true := by
  unfold TokenKind.ofWord TokenKind.ofLowerWord
  repeat' split
  all_goals rfl

theorem text_of_sign {s : Symbol} {c : Char} {text : String}
    (h : Lexeme.Spelling (.symbol s) text.toList)
    (hs : s = .plus ∧ c = '+' ∨ s = .minus ∧ c = '-') : text = String.singleton c := by
  rw [← String.toList_inj, String.toList_singleton]
  generalize hk : TokenKind.symbol s = kind at h
  generalize text.toList = cs at h
  cases h with
  | @word d ds =>
    have hw := isWord_ofWord (String.ofList (d :: ds))
    rw [← hk] at hw
    cases hw
  | number =>
    unfold Lexeme.numberKind at hk
    split at hk <;> cases hk
  | @single d _ hd =>
    cases hk
    unfold Lexeme.singleSymbol? at hd
    rcases hs with ⟨rfl, rfl⟩ | ⟨rfl, rfl⟩
    · split at hd <;> cases hd
      rfl
    · split at hd <;> cases hd
      rfl
  | @double d e _ hd =>
    cases hk
    unfold Lexeme.doubleSymbol? at hd
    rcases hs with ⟨rfl, rfl⟩ | ⟨rfl, rfl⟩
    · repeat' split at hd
      all_goals cases hd
    · repeat' split at hd
      all_goals cases hd
  | _ => cases hk

theorem text_of_namedParameter {text : String} (h : Lexeme.Spelling .namedParameter text.toList) :
    ":" ++ String.ofList text.toList.tail = text := by
  rw [← String.toList_inj, String.toList_append]
  generalize hk : TokenKind.namedParameter = kind at h
  generalize text.toList = cs at h ⊢
  cases h with
  | named => simp
  | @word d ds =>
    have hw := isWord_ofWord (String.ofList (d :: ds))
    rw [← hk] at hw
    cases hw
  | number =>
    unfold Lexeme.numberKind at hk
    split at hk <;> cases hk
  | _ => cases hk

/-- Tokens that are no signs may stand directly behind a minus sign. -/
theorem opens_of_spelling {kind : TokenKind} {w : String} (h : Lexeme.Spelling kind w.toList)
    (hk : ∀ s, kind ≠ .symbol s) : Opens (Lexeme.breaksOff (.symbol .minus)) w := by
  have hne : ∀ {c : Char} {p : Char → Bool}, p c = true → p '-' = false →
      Lexeme.breaksOff (.symbol .minus) c = true := by
    intro c p hc hm
    refine bne_iff_ne.mpr ?_
    rintro rfl
    rw [hc] at hm
    cases hm
  generalize hw : w.toList = cs at h
  cases h with
  | word _ _ hc _ => exact ⟨_, _, hw, hne hc (by decide)⟩
  | named _ _ => exact ⟨_, _, hw, rfl⟩
  | positional _ => exact ⟨_, _, hw, rfl⟩
  | string _ => exact ⟨_, _, hw, rfl⟩
  | number _ hd _ _ _ _ => exact ⟨_, _, hw, hne hd (by decide)⟩
  | single _ => exact absurd rfl (hk _)
  | double _ => exact absurd rfl (hk _)

/-! ## Tiers -/

theorem Written.spelled {t : Tier} {e : Node} {p : Fragment} (h : Written q t e p) :
    Spelled (Derives false (.expression t (translate q e))) p := by
  obtain ⟨w, hw, hs, -⟩ := h
  exact ⟨w, hw, hs⟩

theorem ExpressionWrites.spelled {t : Tier} {e : Node} (h : ExpressionWrites t e)
    (hw : everywhere isWritableHere q e = true) :
    Yields q (render q.scope e) (Spelled (Derives false (.expression t (translate q e)))) :=
  (h hw).mono fun _ hp => hp.spelled

/-- An expression of a tier that may open with an operand. -/
theorem written_loose {t : Tier} {e : Node} {w : String} (ht : isTight t = false)
    (h : Spells isGap w (Derives false (.expression t (translate q e)))) :
    Written q t e (.text w) :=
  ⟨w, .text, h, fun h' => by rw [ht] at h'; cases h'⟩

/-- A primary expression. -/
theorem written_primary {e : Node} {w : String}
    (h : Spells isGap w (Derives false (.expression .primary (translate q e))))
    (ho : Opens (Lexeme.breaksOff (.symbol .minus)) w) : Written q .primary e (.text w) :=
  ⟨w, .text, h, fun _ _ => ho⟩

theorem writes_tighter {t : Tier} {e : Node} (h : ExpressionWrites t.tighter e) :
    ExpressionWrites t e := by
  intro q hw
  refine (h hw).mono fun p hp => ?_
  obtain ⟨w, hpw, hs, ho⟩ := hp
  refine ⟨w, hpw, hs.mono fun _ => .tighter, fun ht => ho ?_⟩
  cases t with
  | sign => rfl
  | primary => rfl
  | _ => cases ht

theorem writes_argument {e : Node} (h : ExpressionWrites .disjunction e) :
    PartWrites .argument e := by
  intro q hw
  exact (h.spelled hw).mono fun p hp => hp.mono fun _ => .argument

/-- The operator of a tier, between blanks. -/
theorem spells_operator {t : Tier} {op : Token} (ho : t.joins op.kind = true)
    (hop : Lexeme.Spelling op.kind op.text.toList) :
    Spells isGap (t.spelling op) (One fun u => t.joins u.kind = true ∧
      t.spelling u = t.spelling op) := by
  have hword : ∀ (k : Reserved) (w : String), TokenKind.capitals k.word = w →
      Spells isGap w (One fun u => u.Word k) := by
    rintro k w rfl
    exact (Spells.reserved k).gap
  have hsame : Spells isGap op.text (One fun u => u.kind = op.kind ∧ u.text = op.text) :=
    Spells.ofGap hop
  cases t with
  | disjunction =>
    refine (hword .or "OR" rfl).mono ?_
    rintro ts ⟨u, rfl, hu⟩
    exact ⟨u, rfl, by rw [hu]; rfl, rfl⟩
  | conjunction =>
    refine (hword .and "AND" rfl).mono ?_
    rintro ts ⟨u, rfl, hu⟩
    exact ⟨u, rfl, by rw [hu]; rfl, rfl⟩
  | _ =>
    refine hsame.mono ?_
    rintro ts ⟨u, rfl, hk, ht⟩
    exact ⟨u, rfl, by rw [hk]; exact ho, ht⟩

theorem writes_binary {t : Tier} {l r : Node} {op : Token} (ho : t.joins op.kind = true)
    (hop : Lexeme.Spelling op.kind op.text.toList) (hl : ExpressionWrites t l)
    (hr : ExpressionWrites t.tighter r) :
    ExpressionWrites t (.binary l (t.spelling op) r) := by
  intro q hw
  simp only [everywhere, Bool.and_eq_true] at hw
  have ht : isTight t = false := by
    cases t with
    | sign => cases ho
    | primary => cases ho
    | _ => rfl
  rw [render]
  refine (hl.spelled hw.1.2).display fun wl hl => ?_
  refine (hr.spelled hw.2).display fun wr hr => .pure (written_loose ht ?_)
  rw [translate]
  refine ((hl.space.next (spells_operator ho hop)).space.next hr).mono ?_
  rintro ts ⟨_, us, rfl, ⟨ls, _, rfl, hls, u, rfl, hu, hsame⟩, hus⟩
  rw [← hsame, List.append_assoc]
  exact .binary hu hls hus

theorem writes_not {e : Node} (h : ExpressionWrites .negation e) :
    ExpressionWrites .negation (.unary "NOT" e) := by
  intro q hw
  simp only [everywhere, Bool.and_eq_true] at hw
  rw [render]
  refine (h.spelled hw.2).display fun w hs => .pure (written_loose rfl ?_)
  rw [translate, if_pos (by rfl)]
  refine ((Spells.firstWord .not rfl).next hs).mono ?_
  rintro ts ⟨_, us, rfl, ⟨t, rfl, ht⟩, hus⟩
  exact .not ht hus

theorem hasSingleMinus_of_writable {op : String} {e : Node}
    (h : isWritableHere q (.unary op e) = true) (hop : op = "-") : isMinus e = false := by
  simp only [isWritableHere, Bool.and_eq_true] at h
  subst hop
  cases e with
  | unary op' e => simpa [hasSingleMinus, isMinus] using h.1.2
  | _ => rfl

/-- A sign is written directly before its operand. -/
theorem writes_sign {e : Node} {op : Token} (ho : op.Sign .plus ∨ op.Sign .minus)
    (hop : Lexeme.Spelling op.kind op.text.toList) (h : ExpressionWrites .sign e) :
    ExpressionWrites .sign (.unary op.text e) := by
  intro q hw
  simp only [everywhere, Bool.and_eq_true] at hw
  rw [render]
  refine (h hw.2).bind fun p hp => ?_
  obtain ⟨w, hpw, hs, hopens⟩ := hp
  refine (Yields.shown hpw).bind fun v hv => .pure ?_
  subst hv
  rcases ho with ho | ho
  · rw [ho] at hop
    have htext : op.text = "+" := text_of_sign hop (.inl ⟨rfl, rfl⟩)
    rw [htext] at hop ⊢
    refine ⟨_, .text, ?_, fun _ _ => Opens.append ⟨'+', [], rfl, rfl⟩ _⟩
    rw [translate]
    refine (((Spells.token hop).before fun _ _ => rfl).next hs).mono ?_
    rintro ts ⟨_, us, rfl, ⟨t, rfl, hk, ht⟩, hus⟩
    rw [← ht]
    exact .sign (.inl hk) hus
  · rw [ho] at hop
    have htext : op.text = "-" := text_of_sign hop (.inr ⟨rfl, rfl⟩)
    have hminus := hasSingleMinus_of_writable hw.1 htext
    rw [htext] at hop ⊢
    refine ⟨_, .text, ?_, fun _ h => by cases h⟩
    rw [translate]
    refine ((Spells.token hop).append hs (hopens rfl hminus)).mono ?_
    rintro ts ⟨_, us, rfl, ⟨t, rfl, hk, ht⟩, hus⟩
    rw [← ht]
    exact .sign (.inr hk) hus

/-! ## Predicates -/

/-- `NOT`, if it is there. -/
theorem trailing_notWord (negated : Bool) :
    Trailing (notWord negated) (Mark (.reserved .not) negated) := by
  cases negated with
  | false =>
    refine Trailing.nil.mono ?_
    rintro ts rfl
    exact .absent
  | true =>
    refine (Trailing.blank (Spells.reserved .not).gap).mono ?_
    rintro ts ⟨t, rfl, ht⟩
    exact .present ht

theorem writes_isNull {e : Node} (h : ExpressionWrites .predicate e) (negated : Bool) :
    ExpressionWrites .predicate (.isNull e negated) := by
  intro q hw
  simp only [everywhere, Bool.and_eq_true] at hw
  rw [render]
  refine (h.spelled hw.2).display fun w hs => .pure (written_loose rfl ?_)
  rw [translate]
  refine (((hs.lastWord .is rfl).trail (trailing_notWord negated)).lastWord .null rfl).mono ?_
  rintro ts ⟨_, _, rfl, ⟨_, ms, rfl, ⟨es, _, rfl, hes, i, rfl, hi⟩, hms⟩, n, rfl, hn⟩
  rw [List.append_assoc es]
  exact .isNull hes hi hms hn

theorem writes_between {e lower upper : Node} (h : ExpressionWrites .predicate e)
    (hl : ExpressionWrites .comparison lower) (hu : ExpressionWrites .comparison upper)
    (negated : Bool) :
    ExpressionWrites .predicate (.between e lower upper negated) := by
  intro q hw
  simp only [everywhere, Bool.and_eq_true] at hw
  rw [render]
  refine (h.spelled hw.1.1.2).display fun we he => ?_
  refine (hl.spelled hw.1.2).display fun wl hl => ?_
  refine (hu.spelled hw.2).display fun wu hu => .pure (written_loose rfl ?_)
  rw [translate]
  refine (((((he.trail (trailing_notWord negated)).keyword .between rfl).next hl).keyword .and
    rfl).next hu).mono ?_
  rintro ts ⟨_, vs, rfl,
    ⟨_, _, rfl, ⟨_, us, rfl, ⟨_, _, rfl, ⟨es, ms, rfl, hes, hms⟩, w, rfl, hw⟩, hus⟩, a, rfl, ha⟩,
    hvs⟩
  simp only [List.append_assoc, List.cons_append, List.nil_append]
  simpa using Derives.between hes hms hw hus ha hvs

/-- Something in parentheses behind `IN`. -/
theorem spells_in {a w : String} {P Q : List Token → Prop} {negated : Bool} (h : Spells isGap a P)
    (hw : Spells isGap w Q) :
    Spells isGap (a ++ notWord negated ++ " IN (" ++ w ++ ")") fun ts =>
      ∃ es ms us i o c, ts = es ++ ms ++ i :: o :: us ++ [c] ∧ P es ∧
        Mark (.reserved .not) negated ms ∧
        i.Word .inWord ∧ o.Sign .leftParen ∧ Q us ∧ c.Sign .rightParen := by
  have hin : (a ++ notWord negated ++ " IN (" ++ w ++ ")") =
      (a ++ notWord negated ++ " IN " ++ "(" ++ w ++ ")") := by
    simp only [String.append_assoc]
    rfl
  rw [hin]
  have hparen := ((h.trail (trailing_notWord negated)).keyword .inWord rfl).next Spells.leftParen
  refine (hparen.next hw).closed.ofAny.mono ?_
  rintro ts ⟨_, _, rfl,
    ⟨_, us, rfl, ⟨_, _, rfl, ⟨_, _, rfl, ⟨es, ms, rfl, hes, hms⟩, i, rfl, hi⟩, o, rfl, ho⟩, hus⟩,
    c, rfl, hc⟩
  exact ⟨es, ms, us, i, o, c, by simp, hes, hms, hi, ho, hus, hc⟩

theorem writes_inQuery {e query : Node} (h : ExpressionWrites .predicate e)
    (hq : PartWrites .select query) (negated : Bool) :
    ExpressionWrites .predicate (.inSet e [] (some query) none negated) := by
  intro q hw
  simp only [everywhere, everywhereOption, Bool.and_eq_true] at hw
  rw [render]
  refine (hq hw.1.2).bind fun p hp => ?_
  obtain ⟨wq, hpq, hq⟩ := hp
  refine (h.spelled hw.1.1.1.2).display fun we he => ?_
  refine (Yields.shown hpq).bind fun v hv => .pure (written_loose rfl ?_)
  subst hv
  rw [translate, translateList, translateOption, translateOption]
  refine (spells_in he hq).mono ?_
  rintro ts ⟨es, ms, us, i, o, c, rfl, hes, hms, hi, ho, hus, hc⟩
  exact .inQuery hes hms hi ho hus hc

theorem writes_inList {e : Node} {values : List Node} (h : ExpressionWrites .predicate e)
    (hv : PhraseWrites (.list .argument values)) (negated : Bool) :
    ExpressionWrites .predicate (.inSet e values none none negated) := by
  intro q hw
  simp only [everywhere, everywhereOption, Bool.and_eq_true] at hw
  rw [render]
  refine Yields.commas hv rfl hw.1.1.2 fun wv hv => ?_
  refine (h.spelled hw.1.1.1.2).display fun we he => .pure (written_loose rfl ?_)
  rw [translate, translateOption, Option.toList_none, List.append_nil]
  refine (spells_in he hv).mono ?_
  rintro ts ⟨es, ms, us, i, o, c, rfl, hes, hms, hi, ho, hus, hc⟩
  exact .inList hes hms hi ho hus hc

/-- A parameter behind `IN` is written as a list of one. -/
theorem writes_inParameter {e p : Node} (h : ExpressionWrites .predicate e)
    (hp : ExpressionWrites .primary p) (negated : Bool) :
    ExpressionWrites .predicate (.inSet e [] none (some p) negated) := by
  intro q hw
  simp only [everywhere, everywhereOption, Bool.and_eq_true] at hw
  rw [render]
  refine (hp.spelled hw.2).bind fun piece hpiece => ?_
  obtain ⟨wp, hpp, hp⟩ := hpiece
  refine (h.spelled hw.1.1.1.2).display fun we he => ?_
  refine (Yields.shown hpp).bind fun v hv => .pure (written_loose rfl ?_)
  subst hv
  rw [translate, translateList, translateOption, translateOption]
  refine (spells_in he hp).mono ?_
  rintro ts ⟨es, ms, us, i, o, c, rfl, hes, hms, hi, ho, hus, hc⟩
  exact .inList hes hms hi ho (.one (.argument (hus.ofPrimary _))) hc

theorem writes_like {e pattern : Node} (h : ExpressionWrites .predicate e)
    (hp : ExpressionWrites .comparison pattern) (negated : Bool) :
    ExpressionWrites .predicate (.like e pattern none negated) := by
  intro q hw
  simp only [everywhere, Bool.and_eq_true] at hw
  rw [render]
  refine (h.spelled hw.1.1.2).display fun we he => ?_
  refine (hp.spelled hw.1.2).display fun wp hp => ?_
  rw [renderOption]
  refine .pure (written_loose rfl ?_)
  rw [translate, translateOption]
  refine (((he.trail (trailing_notWord negated)).keyword .like rfl).next hp).mono ?_
  rintro ts ⟨_, us, rfl, ⟨_, _, rfl, ⟨es, ms, rfl, hes, hms⟩, l, rfl, hl⟩, hus⟩
  rw [List.append_assoc (es ++ ms)]
  exact .like hes hms hl hus

theorem writes_likeEscape {e pattern escape : Node} (h : ExpressionWrites .predicate e)
    (hp : ExpressionWrites .comparison pattern) (hc : ExpressionWrites .comparison escape)
    (negated : Bool) :
    ExpressionWrites .predicate (.like e pattern (some escape) negated) := by
  intro q hw
  simp only [everywhere, everywhereOption, Bool.and_eq_true] at hw
  rw [render]
  refine (h.spelled hw.1.1.2).display fun we he => ?_
  refine (hp.spelled hw.1.2).display fun wp hp => ?_
  rw [renderOption, bind_assoc]
  refine (hc.spelled hw.2).bind fun piece hpiece => ?_
  obtain ⟨wc, hpc, hc⟩ := hpiece
  rw [pure_bind]
  refine (Yields.shown hpc).bind fun v hv => .pure (written_loose rfl ?_)
  subst hv
  rw [translate, translateOption]
  refine (((((he.trail (trailing_notWord negated)).keyword .like rfl).next hp).keyword .escape
    rfl).next hc).mono ?_
  rintro ts ⟨_, vs, rfl,
    ⟨_, _, rfl, ⟨_, us, rfl, ⟨_, _, rfl, ⟨es, ms, rfl, hes, hms⟩, l, rfl, hl⟩, hus⟩, k, rfl, hk⟩,
    hvs⟩
  simpa using Derives.likeEscape hes hms hl hus hk hvs

/-- `MEMBER OF` is refused. -/
theorem writes_memberOf (e collection : Node) (negated : Bool) :
    ExpressionWrites .predicate (.memberOf e collection negated) := by
  intro q _
  rw [render]
  exact .throw

/-! ## Atoms and paths -/

/-- An expression that is written as a single token. -/
theorem writes_token {kind : TokenKind} {w : String} {e : Node} (hw : Lexeme.Spelling kind w.toList)
    (hk : ∀ s, kind ≠ .symbol s) (hrender : ∀ z, render z e = pure (.text w))
    (htr : ∀ q, translate q e = e) (ha : ∀ pos, atom? ⟨kind, w, pos⟩ = some e) :
    ExpressionWrites .primary e := by
  intro q _
  rw [hrender]
  refine .pure (written_primary ?_ (opens_of_spelling hw hk))
  rw [htr]
  refine (Spells.ofGap hw).mono ?_
  rintro ts ⟨t, rfl, rfl, rfl⟩
  exact .atom (ha t.pos)

theorem spelling_of_word {w : String} {kind : TokenKind} (h : Lexeme.isWordText w.toList = true)
    (hk : TokenKind.ofWord w = kind) : Lexeme.Spelling kind w.toList := by
  rw [← hk]
  exact Lexeme.spelling_of_isWordText h

theorem writes_clock (c : Clock) :
    ExpressionWrites .primary (plainCall (TokenKind.clock c).name []) := by
  have hw : Lexeme.isWordText (TokenKind.clock c).name.toList = true := by
    cases c <;> decide +kernel
  have hk : TokenKind.ofWord (TokenKind.clock c).name = .clock c := by cases c <;> decide +kernel
  refine writes_token (spelling_of_word hw hk) nofun ?_ ?_ fun _ => rfl
  · intro z
    rw [plainCall, render]
    cases c <;> rfl
  · intro q
    rw [plainCall, translate, translateList, translateOption]

theorem writes_literal {kind : TokenKind} {w : String} {type : LiteralKind}
    (hw : Lexeme.Spelling kind w.toList) (hk : ∀ s, kind ≠ .symbol s)
    (ha : ∀ pos, atom? ⟨kind, w, pos⟩ = some (.literal w type)) :
    ExpressionWrites .primary (.literal w type) :=
  writes_token hw hk (fun _ => by rw [render]) (fun _ => by rw [translate]) ha

theorem writes_atom {t : Token} {e : Node} (h : atom? t = some e)
    (ht : Lexeme.Spelling t.kind t.text.toList) :
    ExpressionWrites .primary e := by
  unfold atom? at h
  split at h
  · next hk =>
    rw [hk] at ht
    cases h
    exact writes_literal ht nofun fun _ => rfl
  · next hk =>
    rw [hk] at ht
    cases h
    exact writes_literal ht nofun fun _ => rfl
  · next hk =>
    rw [hk] at ht
    cases h
    exact writes_literal ht nofun fun _ => rfl
  · cases h
    have hword : Lexeme.Spelling (.reserved .trueWord) "true".toList :=
      spelling_of_word (by decide +kernel) (by decide +kernel)
    exact writes_literal hword nofun fun _ => rfl
  · cases h
    have hword : Lexeme.Spelling (.reserved .falseWord) "false".toList :=
      spelling_of_word (by decide +kernel) (by decide +kernel)
    exact writes_literal hword nofun fun _ => rfl
  · cases h
    have hword : Lexeme.Spelling (.reserved .null) "NULL".toList :=
      spelling_of_word (by decide +kernel) (by decide +kernel)
    exact writes_literal hword nofun fun _ => rfl
  · next hk =>
    rw [hk] at ht
    cases h
    refine writes_token ht nofun (fun _ => ?_) (fun _ => by rw [translate]) fun _ => rfl
    rw [render, parameterText, if_neg Bool.false_ne_true, text_of_namedParameter ht]
  · next hk =>
    rw [hk] at ht
    cases h
    exact writes_token ht nofun (fun _ => by rw [render]; rfl) (fun _ => by rw [translate]) fun _ =>
      rfl
  · cases h
    exact writes_clock _
  · cases h

theorem opens_pathText {parts : List String} (h : PathText parts) :
    Opens (Lexeme.breaksOff (.symbol .minus)) (dotted parts) := by
  obtain ⟨first, rest, rfl, ⟨kind, hk, hs⟩, -⟩ := h
  have hfirst := opens_of_spelling hs (by rintro s rfl; cases hk)
  cases rest with
  | nil =>
    rw [dotted, String.intercalate_singleton]
    exact hfirst
  | cons second rest =>
    rw [dotted_cons (by simp), String.append_assoc]
    exact hfirst.append _

theorem writes_path {parts : List String} (h : PathText parts) :
    ExpressionWrites .primary (.path parts) := by
  intro q hw
  simp only [everywhere, isWritableHere, writesPlainNames, Bool.and_eq_true] at hw
  have hne : parts ≠ [] := by
    obtain ⟨first, rest, rfl, -⟩ := h
    simp
  have hpath := pathText_path h hw.1.1.1
  rw [render]
  refine (yields_path hne hw.1.1.1).mono fun p hp => ⟨_, hp, ?_, fun _ _ => opens_pathText hpath⟩
  rw [translate]
  exact (spells_dotted hpath).gap.mono fun _ => .path

end EntityQuery.Sql
