import EntityQuery.Query
import EntityQuery.Proofs.Grammar.Take
import EntityQuery.Proofs.Token.Spelling

/-!
# What is read follows the grammar

Every reading is sound for the rules of `Grammar.Derives`: the tokens that it took spell the tree
that it gave. There is one lemma per reading, and each follows the reading from left to right. A
reading that starts in the middle of a rule says what is missing: the tokens that have been read
already are arguments of its statement.

The readings of the places where a query nests are assumed sound, as `inner`; `sound_level`
discharges the assumption by induction on the nesting levels.

Nothing here depends on whether the grammar is the whole one: a reader never takes the name of a
side for a name.
-/

namespace EntityQuery

/-- What stands at a place where a query nests. -/
def Entry.phrase : Entry → Node → Grammar.Phrase
  | .expression, e => .part .argument e
  | .select, e => .part .select e
  | .negation, e => .expression .negation e
  | .sign, e => .expression .sign e

namespace Reading

open Grammar

section Names

variable {α : Type} {whole : Bool}

/-- A token that passes a test is taken, and what follows may use the test. -/
theorem sound_taking {c : Token → Prop} [DecidablePred c] {f : Token → Reading α}
    {other : Reading α} {P : α → List Token → Prop} (hc : ∀ t, c t → t.kind ≠ .endOfInput)
    (hf : ∀ t, c t → Sound whole (f t) fun a us => P a (t :: us)) (ho : Sound whole other P) :
    Sound whole (current >>= fun t => if c t then advance >>= f else other) P := by
  refine .looking fun t => ?_
  split
  · next h =>
    refine (SoundOn.advance (c := c) (fun s hs => by rw [hs.2]; exact h) hc).bind fun u us hu => ?_
    obtain ⟨rfl, hu⟩ := hu
    exact hf u hu
  · exact ho.on

/-! ## Names -/

/-- A test that the ending does not pass is passed by other tokens only. -/
theorem kind_ne_end {test : TokenKind → Bool} (ht : test .endOfInput = false) {t : Token}
    (h : test t.kind = true) :
    t.kind ≠ .endOfInput := by
  intro he
  rw [he, ht] at h
  cases h

theorem sound_name {role : String} :
    Sound whole (name role) fun a ts => ∃ t, ts = [t] ∧ t.kind.isName = true ∧ a = t.text := by
  refine sound_taking (fun t => kind_ne_end rfl) (fun t h => ?_) (.fail (by nofun))
  exact .pure ⟨t, rfl, h, rfl⟩

theorem sound_wordAfterDot :
    Sound whole wordAfterDot fun a ts => ∃ t, ts = [t] ∧ t.kind.isWord = true ∧ a = t.text := by
  refine sound_taking (fun t => kind_ne_end rfl) (fun t h => ?_) (.fail (by nofun))
  exact .pure ⟨t, rfl, h, rfl⟩

theorem sound_dottedName {role : String} : Sound whole (dottedName role) Dotted := by
  refine sound_name.bind fun first ts hn => ?_
  obtain ⟨t, rfl, hn, rfl⟩ := hn
  refine sound_loop (fun parts ts h => ?_) (Dotted.name hn)
  refine (sound_accept (by decide)).bind fun b us hb => ?_
  cases hb with
  | absent => exact .pure rfl
  | present hd =>
    refine sound_wordAfterDot.bind fun w us hw => ?_
    obtain ⟨t, rfl, hw, rfl⟩ := hw
    exact .pure (h.more hd hw)

theorem sound_entityName :
    Sound whole entityName fun a ts => ∃ parts, a = dotted parts ∧ Dotted parts ts := by
  refine sound_dottedName.bind fun parts ts h => ?_
  exact .pure ⟨parts, rfl, by rw [List.append_nil]; exact h⟩

theorem sound_path : Sound whole path fun e ts => ∃ parts, e = .path parts ∧ Dotted parts ts := by
  refine sound_dottedName.bind fun parts ts h => ?_
  exact .pure ⟨parts, rfl, by rw [List.append_nil]; exact h⟩

theorem sound_alias : Sound whole alias? Alias := by
  refine (sound_accept (by decide)).bind fun b ts hb => ?_
  cases hb with
  | present hw =>
    refine sound_name.bind fun a us ha => ?_
    obtain ⟨t, rfl, ht, rfl⟩ := ha
    exact .pure (.marked hw ht)
  | absent =>
    refine .asking ?_ (.pure .absent)
    refine (SoundOn.advance (c := fun t => t.kind = .identifier) (fun s h => h)
      (by simp +contextual)).bind ?_
    rintro t _ ⟨rfl, ht⟩
    exact .pure (.bare ht)

/-- Items with a separator between them, for a relation that holds of a first item and goes over to
one more. -/
theorem sound_commaSeparated {item : Reading α} {Q : α → List Token → Prop}
    {P : List α → List Token → Prop} (hitem : Sound whole item Q) (hone : ∀ a ts, Q a ts → P [a] ts)
    (hmore : ∀ as ts comma a us, P as ts → comma.Sign .comma → Q a us →
      P (as ++ [a]) (ts ++ comma :: us)) :
    Sound whole (commaSeparated item) P := by
  refine hitem.bind fun a ts ha => ?_
  refine sound_loop (fun as us h => ?_) (hone a ts ha)
  refine (sound_accept (by decide)).bind fun b vs hb => ?_
  cases hb with
  | absent => exact .pure rfl
  | present hc =>
    refine hitem.bind fun a vs ha => ?_
    refine .pure ?_
    have := hmore as us _ a vs h hc ha
    simpa [Prolongs] using this

theorem sound_typeName : Sound whole typeName TypeName := by
  refine sound_entityName.bind fun base ts hb => ?_
  obtain ⟨parts, rfl, hp⟩ := hb
  refine (sound_accept (by decide)).bind fun b os ho => ?_
  cases ho with
  | absent => exact .pure (by simpa using TypeName.plain hp)
  | present ho =>
    have hsizes : Sound whole (commaSeparated (expect .integer .noTypeSize)) fun sizes us =>
        Sizes (sizes.map Token.text) us := by
      refine sound_commaSeparated (sound_expect (by decide) (by nofun)) ?_ ?_
      · rintro t _ ⟨rfl, ht⟩
        exact .one ht
      · rintro as us comma t _ h hc ⟨rfl, ht⟩
        rw [List.map_append]
        exact h.more hc ht
    refine hsizes.bind fun sizes us hs => ?_
    refine (sound_expect (by decide) (by nofun)).bind fun c cs hc => ?_
    obtain ⟨rfl, hc⟩ := hc
    exact .pure (by simpa using TypeName.sized hp ho hs hc)

end Names

section Operators

/-! ## Operators

The classes of operators that the readings test for are those of the tiers.
-/

theorem isSign_eq_true {k : TokenKind} :
    isSign k = true ↔ k = .symbol .plus ∨ k = .symbol .minus := by
  unfold isSign
  split <;> simp_all

theorem isMultiplicative_eq (k : TokenKind) : isMultiplicative k = Tier.multiplicative.joins k := by
  unfold isMultiplicative
  split <;> simp_all [Tier.joins]

theorem isAdditive_eq (k : TokenKind) : isAdditive k = Tier.additive.joins k := by
  unfold isAdditive
  split <;> simp_all [Tier.joins]

theorem isComparison_eq (k : TokenKind) : isComparison k = Tier.comparison.joins k := by
  unfold isComparison
  split <;> simp_all [Tier.joins]

theorem isEquality_eq (k : TokenKind) : isEquality k = Tier.predicate.joins k := by
  unfold isEquality
  split <;> simp_all [Tier.joins]

theorem isAnd_eq (k : TokenKind) : decide (k = .reserved .and) = Tier.conjunction.joins k := by
  unfold Tier.joins
  split <;> simp_all

theorem isOr_eq (k : TokenKind) : decide (k = .reserved .or) = Tier.disjunction.joins k := by
  unfold Tier.joins
  split <;> simp_all

end Operators

section Expressions

variable {whole : Bool} {inner : Entry → Reading Node}
variable (hi : ∀ entry, Sound whole (inner entry) fun e ts => Derives whole (entry.phrase e) ts)

/-! ## Calls -/

include hi

theorem sound_arguments {fault : GrammarFault} (hf : fault ≠ .substringArity) :
    Sound whole (arguments inner fault) fun args ts =>
      ∃ us c, ts = us ++ [c] ∧ c.Sign .rightParen ∧ Derives whole (.arguments args) us := by
  refine (sound_accept (by decide)).bind fun b ts hb => ?_
  cases hb with
  | @present c hc => exact .pure ⟨[], c, rfl, hc, .noArgument⟩
  | absent =>
    refine (sound_commaSeparated (P := fun as ts => Derives whole (.list .argument as) ts)
      (hi .expression) (fun a ts h => .one h)
      (fun as ts comma a us h hc ha => .more h hc ha)).bind fun args us h => ?_
    refine (sound_expect (by decide) hf).bind fun c cs hc => ?_
    obtain ⟨rfl, hc⟩ := hc
    exact .pure ⟨us, c, by simp, hc, .someArguments h⟩

omit hi in
/-- What opens a list of tokens is not changed by what comes after it. -/
theorem opensWithSide_of_append {ts : List Token} (us : List Token)
    (h : opensWithSide (ts ++ us) = false) : opensWithSide ts = false := by
  match ts, h with
  | [], _ => rfl
  | [_], _ => rfl
  | _ :: _ :: _, h => exact h

omit hi in
/-- A side that is not taken is either no side at all, or shows itself to be a name. -/
theorem sound_trimSide {f : Option String → Reading Node} {P : Node → List Token → Prop}
    (hside : ∀ t, isSide t = true → Sound whole (f (some (Text.upper t.text))) fun e us =>
      P e (t :: us))
    (hnone : Sound whole (f none) fun e ts => opensWithSide ts = false → P e ts) :
    Sound whole (trimSide? >>= f) P := by
  intro s he _
  by_cases hs : s.current.kind = .identifier ∧ isTrimSide (Text.upper s.current.text) ∧
      s.next.kind ≠ .symbol .rightParen ∧ s.next.kind ≠ .symbol .dot
  · have hside? : trimSide? s = .ok (some (Text.upper s.current.text), s.tail) := by
      show (if _ then _ else _ : Reading (Option String)) s = _
      rw [if_pos hs]
      rfl
    rw [bind_ok hside?]
    have ht := he.takes_tail (by rw [hs.1]; decide)
    have hisSide : isSide s.current = true := by
      rw [isSide, Bool.and_eq_true, decide_eq_true_eq]
      exact ⟨hs.1, hs.2.1⟩
    exact (hside s.current hisSide (ht.ended he) trivial).behind ht
  · have hside? : trimSide? s = .ok (none, s) := by
      show (if _ then _ else _ : Reading (Option String)) s = _
      rw [if_neg hs]
      rfl
    rw [bind_ok hside?]
    have hopens : opensWithSide s.tokens = false := by
      cases ha : s.ahead with
      | nil => rw [Stream.tokens, ha]; rfl
      | cons u us =>
        have hnext : s.next = u := by rw [Stream.next, ha]; rfl
        rw [hnext] at hs
        rw [Stream.tokens, ha, opensWithSide, isSide, Bool.eq_false_iff]
        intro hcon
        simp only [Bool.and_eq_true, decide_eq_true_eq] at hcon
        exact hs ⟨hcon.1.1.1, hcon.1.1.2, hcon.1.2, hcon.2⟩
    have hend := hnone he trivial
    generalize f none s = r at hend
    cases hend with
    | failed hf => exact .failed hf
    | @read e ts m ht hP =>
      -- No side was taken, so the tokens that are left do not open with one, nor do those taken
      -- from now on.
      refine .read ht (hP (opensWithSide_of_append m.tokens ?_))
      rw [← ht.tokens]
      exact hopens

/-- The three forms of what stands behind the side of a `TRIM`. -/
theorem sound_trimOperands {side : Option String} :
    Sound whole (trimOperands inner side) fun r ts =>
    (∃ w us, ts = w :: us ∧ w.Word .fromWord ∧ r.2 = none ∧
      Derives whole (.part .argument r.1) us) ∨
    (∃ char vs w us, ts = vs ++ w :: us ∧ w.Word .fromWord ∧ r.2 = some char ∧
      Derives whole (.part .argument char) vs ∧ Derives whole (.part .argument r.1) us) ∨
    (side = none ∧ r.2 = none ∧ Derives whole (.part .argument r.1) ts) := by
  refine (sound_accept (by decide)).bind fun b ts hb => ?_
  cases hb with
  | present hw =>
    refine (hi .expression).bind fun arg us h => ?_
    exact .pure (.inl ⟨_, us, by simp, hw, rfl, h⟩)
  | absent =>
    refine (hi .expression).bind fun first vs hv => ?_
    refine (sound_accept (by decide)).bind fun b ws hb => ?_
    cases hb with
    | present hw =>
      refine (hi .expression).bind fun arg us h => ?_
      exact .pure (.inr (.inl ⟨first, vs, _, us, by simp, hw, rfl, hv, h⟩))
    | absent =>
      cases side with
      | some side => exact .fail (by nofun)
      | none =>
        exact .pure
          (.inr (.inr ⟨rfl, rfl, by simp only [List.nil_append, List.append_nil]; exact hv⟩))

theorem sound_trimCall : Sound whole (trimCall inner) fun e ts =>
    ∀ f o, f.kind = .function .trim → o.Sign .leftParen →
      Derives whole (.expression .primary e) (f :: o :: ts) := by
  refine sound_trimSide (fun t ht => ?_) ?_
  · refine (sound_trimOperands hi).bind fun r ts hr => ?_
    refine (sound_expect (by decide) (by nofun)).bind fun c cs hc => ?_
    obtain ⟨rfl, hc⟩ := hc
    refine .pure fun f o hf ho => ?_
    rcases hr with ⟨w, us, rfl, hw, hr, h⟩ | ⟨char, vs, w, us, rfl, hw, hr, hv, h⟩ | ⟨hcon, -⟩
    · rw [hr]
      simpa using Derives.trimFrom hf ho (.present ht) hw h hc
    · rw [hr]
      simpa using Derives.trimCharacter hf ho (.present ht) hv hw h hc (by simp)
    · cases hcon
  · refine (sound_trimOperands hi).bind fun r ts hr => ?_
    refine (sound_expect (by decide) (by nofun)).bind fun c cs hc => ?_
    obtain ⟨rfl, hc⟩ := hc
    refine .pure fun hopen f o hf ho => ?_
    rcases hr with ⟨w, us, rfl, hw, hr, h⟩ | ⟨char, vs, w, us, rfl, hw, hr, hv, h⟩ | ⟨-, hr, h⟩
    · rw [hr]
      simpa using Derives.trimFrom hf ho .absent hw h hc
    · rw [hr]
      have hopen' : opensWithSide (vs ++ [w]) = false :=
        opensWithSide_of_append (us ++ [c]) (by simpa using hopen)
      simpa using Derives.trimCharacter hf ho .absent hv hw h hc fun _ => .inr hopen'
    · rw [hr]
      simpa using Derives.trim hf ho h hc (.inr (by simpa using hopen))

theorem sound_castCall : Sound whole (castCall inner) fun e ts =>
    ∀ f o, f.kind = .function .cast → o.Sign .leftParen →
      Derives whole (.expression .primary e) (f :: o :: ts) := by
  refine (hi .expression).bind fun arg ts h => ?_
  refine (sound_expect (by decide) (by nofun)).bind fun w ws hw => ?_
  obtain ⟨rfl, hw⟩ := hw
  refine sound_typeName.bind fun type us ht => ?_
  refine (sound_expect (by decide) (by nofun)).bind fun c cs hc => ?_
  obtain ⟨rfl, hc⟩ := hc
  refine .pure fun f o hf ho => ?_
  simpa using Derives.cast hf ho h hw ht hc

theorem sound_aggregateCall {g : Function} (hg : g.isAggregate = true) :
    Sound whole (aggregateCall inner g) fun e ts =>
    ∀ f o, f.kind = .function g → o.Sign .leftParen →
      Derives whole (.expression .primary e) (f :: o :: ts) := by
  refine sound_taking (c := fun t => g = .count ∧ t.kind = .symbol .star) ?_ ?_ ?_
  · rintro t ⟨-, ht⟩
    rw [ht]
    decide
  · rintro s ⟨rfl, hs⟩
    refine (sound_expect (by decide) (by nofun)).bind fun c cs hc => ?_
    obtain ⟨rfl, hc⟩ := hc
    exact .pure fun f o hf ho => .countAll hf ho hs hc
  · refine (sound_accept (by decide)).bind fun distinct ms hm => ?_
    refine (hi .expression).bind fun arg ts h => ?_
    refine (sound_expect (by decide) (by nofun)).bind fun c cs hc => ?_
    obtain ⟨rfl, hc⟩ := hc
    refine .pure fun f o hf ho => ?_
    simpa using Derives.aggregate hg hf ho hm h hc

/-- A call of a function that the current token names. -/
theorem sound_functionCall {g : Function} :
    SoundOn whole (fun s => s.current.kind = .function g) (functionCall inner g)
    fun e ts => Derives whole (.expression .primary e) ts := by
  refine (SoundOn.advance (c := fun t => t.kind = .function g) (fun s h => h)
    (by simp +contextual)).bindBehind ?_
  rintro f _ ⟨rfl, hf⟩
  refine .bind (sound_expect (by decide) (by nofun)) fun o os ho => ?_
  obtain ⟨rfl, ho⟩ := ho
  split
  · next hg => exact .ofSound ((sound_aggregateCall hi hg).mono fun e ts h => h f o hf ho)
  · next hg =>
    split
    · next hg => subst hg; exact .ofSound ((sound_trimCall hi).mono fun e ts h => h f o hf ho)
    · next htrim =>
      split
      · next hg => subst hg; exact .ofSound ((sound_castCall hi).mono fun e ts h => h f o hf ho)
      · next hcast =>
        refine .bind (sound_arguments hi (by nofun)) fun args ts h => ?_
        obtain ⟨us, c, rfl, hc, h⟩ := h
        split
        -- The tokens that were taken are the call that is refused.
        · next hwrong =>
          have hcall : MiscountedCall whole f (f :: o :: us ++ [c]) :=
            .call (hwrong.1 ▸ hf) ho h hc hwrong.2
          exact .failAt (by simpa using hcall)
        · next harity =>
          have hplain : hasPlainArguments g = true := by simp [hasPlainArguments, hg, htrim, hcast]
          have hn : hasArity g args.length = true := by
            grind [hasArity]
          refine .ofSound (.pure ?_)
          show Derives whole (.expression .primary (plainCall _ _)) _
          simpa using Derives.functionCall hplain hn hf ho h hc

/-- A call of a function that the current identifier names. -/
theorem sound_otherCall : SoundOn whole (fun s => s.current.kind = .identifier) (otherCall inner)
    fun e ts => Derives whole (.expression .primary e) ts := by
  refine (SoundOn.advance (c := fun t => t.kind = .identifier) (fun s h => h)
    (by simp +contextual)).bind ?_
  rintro f _ ⟨rfl, hf⟩
  refine (sound_expect (by decide) (by nofun)).bind fun o os ho => ?_
  obtain ⟨rfl, ho⟩ := ho
  refine (sound_arguments hi (by nofun)).bind fun args ts h => ?_
  obtain ⟨us, c, rfl, hc, h⟩ := h
  refine .pure ?_
  simpa using Derives.otherCall hf ho h hc

/-! ## Primary expressions -/

theorem sound_parenthesized :
    SoundOn whole (fun s => s.current.kind = .symbol .leftParen) (parenthesized inner)
    fun e ts => Derives whole (.expression .primary e) ts := by
  refine (SoundOn.advance (c := fun t => t.Sign .leftParen) (fun s h => h)
    (by simp +contextual)).bind ?_
  rintro o _ ⟨rfl, ho⟩
  refine .asking ?_ ?_
  · refine (hi .select).on.bind fun q ts h => ?_
    refine (sound_expect (by decide) (by nofun)).bind fun c cs hc => ?_
    obtain ⟨rfl, hc⟩ := hc
    refine .pure ?_
    simpa using Derives.subquery ho h hc
  · refine (hi .expression).bind fun e ts h => ?_
    refine (sound_expect (by decide) (by nofun)).bind fun c cs hc => ?_
    obtain ⟨rfl, hc⟩ := hc
    refine .pure ?_
    simpa using Derives.paren ho h hc

theorem sound_existsExpression :
    SoundOn whole (fun s => s.current.kind = .reserved .exists) (existsExpression inner)
    fun e ts => Derives whole (.expression .primary e) ts := by
  refine (SoundOn.advance (c := fun t => t.Word .exists) (fun s h => h)
    (by simp +contextual)).bind ?_
  rintro w _ ⟨rfl, hw⟩
  refine (sound_expect (by decide) (by nofun)).bind fun o os ho => ?_
  obtain ⟨rfl, ho⟩ := ho
  refine .asking ?_ (.fail (by nofun))
  refine (hi .select).on.bind fun q ts h => ?_
  refine (sound_expect (by decide) (by nofun)).bind fun c cs hc => ?_
  obtain ⟨rfl, hc⟩ := hc
  refine .pure ?_
  simpa using Derives.existsQuery hw ho h hc

theorem sound_branches :
    Sound whole (branches inner) fun bs ts => Derives whole (.branches bs) ts := by
  refine sound_loop (P := fun bs ts => Derives whole (.branches bs) ts)
    (fun done ts h => ?_) .noBranch
  refine (sound_accept (by decide)).bind fun b ws hb => ?_
  cases hb with
  | absent => exact .pure rfl
  | present hw =>
    refine (hi .expression).bind fun condition us hcond => ?_
    refine (sound_expect (by decide) (by nofun)).bind fun k ks hk => ?_
    obtain ⟨rfl, hk⟩ := hk
    refine (hi .expression).bind fun result vs hres => ?_
    refine .pure ?_
    simpa [Prolongs] using Derives.moreBranches h hw hcond hk hres

/-- A word and the expression behind it. -/
theorem sound_clause {w : Reserved} : Sound whole (behind (.reserved w) (inner .expression))
    fun e ts => Derives whole (.clause w e) ts := by
  refine (sound_accept (by simp)).bind fun b ts hb => ?_
  cases hb with
  | absent => exact .pure .noClause
  | present hw =>
    refine (hi .expression).bind fun e us h => ?_
    refine .pure ?_
    simpa using Derives.someClause hw h

theorem sound_caseExpression :
    SoundOn whole (fun s => s.current.kind = .reserved .case) (caseExpression inner)
    fun e ts => Derives whole (.expression .primary e) ts := by
  refine (SoundOn.advance (c := fun t => t.Word .case) (fun s h => h) (by simp +contextual)).bind ?_
  rintro w _ ⟨rfl, hw⟩
  -- Both forms go on in the same way behind the operand.
  have hrest : ∀ {operand : Option Node}, Sound whole (do
        let bs ← branches inner
        if bs.isEmpty then fail .noWhen
        else
          let otherwise ← behind (.reserved .elseWord) (inner .expression)
          let _ ← expect (.reserved .endWord) .noEnd
          pure (Node.caseOf operand bs otherwise)) fun e ts =>
            ∃ bs otherwise us vs k, e = .caseOf operand bs otherwise ∧
      ts = us ++ vs ++ [k] ∧ bs ≠ [] ∧ Derives whole (.branches bs) us ∧
      Derives whole (.clause .elseWord otherwise) vs ∧ k.Word .endWord := by
    intro operand
    refine (sound_branches hi).bind fun bs us hb => ?_
    split
    · exact .fail (by nofun)
    · next hne =>
      refine (sound_clause hi).bind fun otherwise vs he => ?_
      refine (sound_expect (by decide) (by nofun)).bind fun k ks hk => ?_
      obtain ⟨rfl, hk⟩ := hk
      exact .pure ⟨bs, otherwise, us, vs, k, rfl, by simp, by simpa using hne, hb, he, hk⟩
  refine .asking ?_ ?_
  · refine (SoundOn.pure (P := fun o ts => o = none ∧ ts = []) ⟨rfl, rfl⟩).bind ?_
    rintro _ _ ⟨rfl, rfl⟩
    refine hrest.mono fun e ts h => ?_
    obtain ⟨bs, otherwise, us, vs, k, rfl, rfl, hne, hb, he, hk⟩ := h
    simpa using Derives.caseSearched hw hb hne he hk
  · refine (SoundOn.map (f := some) (R := fun o ts => ∃ e, o = some e ∧
      Derives whole (.part .argument e) ts)
      ((hi .expression).mono fun e ts h => ⟨e, rfl, h⟩)).bind fun o os ho => ?_
    obtain ⟨operand, rfl, ho⟩ := ho
    refine hrest.mono fun e ts h => ?_
    obtain ⟨bs, otherwise, us, vs, k, rfl, rfl, hne, hb, he, hk⟩ := h
    simpa using Derives.caseSimple hw ho hb hne he hk

omit hi in
/-- A parameter, at a token that is one. -/
theorem sound_parameter {C : Stream → Prop} (hC : ∀ s, C s → s.current.kind.isParameter = true) :
    SoundOn whole C parameter fun e ts =>
      ∃ t, ts = [t] ∧ t.kind.isParameter = true ∧ atom? t = some e := by
  refine (SoundOn.advance (c := fun t => t.kind.isParameter = true) hC fun t =>
    kind_ne_end rfl).bind ?_
  rintro t _ ⟨rfl, ht⟩
  split
  · next hk => exact .pure ⟨t, rfl, ht, by rw [atom?, hk]⟩
  · next hk =>
    refine .pure ⟨t, rfl, ht, ?_⟩
    have hk' : t.kind = .positionalParameter := by
      revert ht hk
      cases t.kind <;> simp [TokenKind.isParameter]
    rw [atom?, hk']

omit hi in
/-- A single token that is an expression. -/
theorem sound_atom {k : TokenKind} {f : Token → Node} (hk : k ≠ .endOfInput)
    (hf : ∀ t : Token, t.kind = k → atom? t = some (f t)) :
    SoundOn whole (fun s => s.current.kind = k) (advance >>= fun t => pure (f t))
      fun e ts => Derives whole (.expression .primary e) ts := by
  refine (SoundOn.advance (c := fun t => t.kind = k) (fun s h => h)
    (by rintro t rfl; exact hk)).bind ?_
  rintro t _ ⟨rfl, ht⟩
  exact .pure (.atom (hf t ht))

omit hi in
theorem sound_callOrPath {C : Stream → Prop} {call : Reading Node}
    (h : SoundOn whole C call fun e ts => Derives whole (.expression .primary e) ts) :
    SoundOn whole C (callOrPath call) fun e ts => Derives whole (.expression .primary e) ts := by
  refine .lookingAhead fun t => ?_
  split
  · exact h.weaken fun s hs => hs.1
  · refine sound_path.on.mono fun e ts h => ?_
    obtain ⟨parts, rfl, h⟩ := h
    exact .path h

theorem sound_primary :
    Sound whole (primary inner) fun e ts => Derives whole (.expression .primary e) ts := by
  refine .looking fun t => ?_
  have hcur : ∀ {k : TokenKind}, t.kind = k → ∀ s : Stream, True ∧ s.current = t →
      s.current.kind = k := by
    rintro k hk s ⟨-, rfl⟩
    exact hk
  have hatom : ∀ e ts, (∃ u, ts = [u] ∧ u.kind.isParameter = true ∧ atom? u = some e) →
      Derives whole (.expression .primary e) ts := by
    rintro e _ ⟨u, rfl, -, hu⟩
    exact .atom hu
  split
  · next hk => exact (sound_parenthesized hi).weaken (hcur hk)
  · next hk => exact (sound_atom (by simp) fun u hu => by rw [atom?, hu]).weaken (hcur hk)
  · next hk => exact (sound_atom (by simp) fun u hu => by rw [atom?, hu]).weaken (hcur hk)
  · next hk => exact (sound_atom (by simp) fun u hu => by rw [atom?, hu]).weaken (hcur hk)
  · next hk => exact (sound_atom (by simp) fun u hu => by rw [atom?, hu]).weaken (hcur hk)
  · next hk => exact (sound_atom (by simp) fun u hu => by rw [atom?, hu]).weaken (hcur hk)
  · next hk => exact (sound_atom (by simp) fun u hu => by rw [atom?, hu]).weaken (hcur hk)
  · next hk => exact (sound_parameter fun s hs => by rw [hcur hk s hs]; rfl).mono hatom
  · next hk => exact (sound_parameter fun s hs => by rw [hcur hk s hs]; rfl).mono hatom
  · next hk => exact (sound_caseExpression hi).weaken (hcur hk)
  · next hk => exact (sound_existsExpression hi).weaken (hcur hk)
  · next hk => exact (sound_atom (by simp) fun u hu => by rw [atom?, hu]; rfl).weaken (hcur hk)
  · next hk => exact sound_callOrPath ((sound_functionCall hi).weaken (hcur hk))
  · next hk => exact sound_callOrPath ((sound_otherCall hi).weaken (hcur hk))
  · exact .fail (by nofun)

/-! ## Chains -/

omit hi in
/-- A chain whose operators are those of a tier and whose operands come from the next
tighter one. -/
theorem sound_chain {t : Tier} {isOperator : TokenKind → Bool} {operator : Token → String}
    {operand : Reading Node} (hop : ∀ k, isOperator k = t.joins k)
    (hend : t.joins .endOfInput = false) (hspell : ∀ u, operator u = t.spelling u)
    (h : Sound whole operand fun e ts => Derives whole (.expression t.tighter e) ts) :
    Sound whole (chain isOperator operator operand) fun e ts =>
      Derives whole (.expression t e) ts := by
  refine h.bind fun first ts hfirst => ?_
  refine sound_loop (P := fun e ts => Derives whole (.expression t e) ts) (fun l ts hl => ?_)
    (.tighter hfirst)
  refine sound_taking (fun u => kind_ne_end ((hop _).trans hend)) (fun u hu => ?_) (.pure rfl)
  refine h.bind fun r us hr => ?_
  refine .pure ?_
  rw [hspell]
  simpa [Prolongs] using Derives.binary ((hop _).symm.trans hu) hl hr

theorem sound_signed :
    Sound whole (signed inner) fun e ts => Derives whole (.expression .sign e) ts := by
  refine sound_taking (fun t => kind_ne_end rfl) (fun t ht => ?_)
    ((sound_primary hi).mono fun e ts h => .tighter h)
  refine (hi .sign).bind fun e ts h => ?_
  refine .pure ?_
  simpa using Derives.sign (isSign_eq_true.mp ht) h

theorem sound_multiplicative :
    Sound whole (multiplicative inner) fun e ts =>
      Derives whole (.expression .multiplicative e) ts :=
  sound_chain isMultiplicative_eq rfl (fun _ => rfl) (sound_signed hi)

theorem sound_additive :
    Sound whole (additive inner) fun e ts => Derives whole (.expression .additive e) ts :=
  sound_chain isAdditive_eq rfl (fun _ => rfl) (sound_multiplicative hi)

theorem sound_comparison :
    Sound whole (comparison inner) fun e ts => Derives whole (.expression .comparison e) ts :=
  sound_chain isComparison_eq rfl (fun _ => rfl) (sound_additive hi)

/-! ## Predicates

The first operand, a `NOT` if there is one, and the word of the predicate have been read.
-/

/-- The predicate that a first operand and a negation make with what follows. -/
abbrev CompletesPredicate (whole : Bool) (l : Node) (negated : Bool) (word : Reserved) (e : Node)
    (us : List Token) : Prop :=
  ∀ ts ms w, Derives whole (.expression .predicate l) ts → Mark (.reserved .not) negated ms →
    w.Word word → Derives whole (.expression .predicate e) (ts ++ ms ++ w :: us)

theorem sound_inSet {l : Node} {negated : Bool} :
    Sound whole (inSet inner l negated) (CompletesPredicate whole l negated .inWord) := by
  refine .looking fun t => ?_
  split
  · next ht =>
    refine (sound_parameter fun s hs => by rw [hs.2]; exact ht).bind fun p us hp => ?_
    obtain ⟨u, rfl, hu, hp⟩ := hp
    refine .pure fun ts ms w hl hm hw => ?_
    simpa using Derives.inParameter hl hm hw hu hp
  · refine (sound_expect (by decide) (by nofun)).on.bind fun o os ho => ?_
    obtain ⟨rfl, ho⟩ := ho
    refine .asking ?_ ?_
    · refine (hi .select).on.bind fun q us h => ?_
      refine (sound_expect (by decide) (by nofun)).bind fun c cs hc => ?_
      obtain ⟨rfl, hc⟩ := hc
      refine .pure fun ts ms w hl hm hw => ?_
      simpa using Derives.inQuery hl hm hw ho h hc
    · refine (sound_commaSeparated (P := fun as ts => Derives whole (.list .argument as) ts)
        (hi .expression)
        (fun a ts h => .one h) (fun as ts comma a us h hc ha => .more h hc ha)).bind
        fun values us h => ?_
      refine (sound_expect (by decide) (by nofun)).bind fun c cs hc => ?_
      obtain ⟨rfl, hc⟩ := hc
      refine .pure fun ts ms w hl hm hw => ?_
      simpa using Derives.inList hl hm hw ho h hc

theorem sound_between {l : Node} {negated : Bool} :
    Sound whole (between inner l negated) (CompletesPredicate whole l negated .between) := by
  refine (sound_comparison hi).bind fun lower us hlo => ?_
  refine (sound_expect (by decide) (by nofun)).bind fun a as ha => ?_
  obtain ⟨rfl, ha⟩ := ha
  refine (sound_comparison hi).bind fun upper vs hup => ?_
  refine .pure fun ts ms w hl hm hw => ?_
  simpa using Derives.between hl hm hw hlo ha hup

theorem sound_like {l : Node} {negated : Bool} :
    Sound whole (like inner l negated) (CompletesPredicate whole l negated .like) := by
  refine (sound_comparison hi).bind fun pattern us hp => ?_
  have hescape : Sound whole (behind (.reserved .escape) (comparison inner)) fun c vs =>
      (c = none ∧ vs = []) ∨
        ∃ k e ws, c = some e ∧ vs = k :: ws ∧ k.Word .escape ∧
        Derives whole (.expression .comparison e) ws := by
    refine (sound_accept (by decide)).bind fun b vs hb => ?_
    cases hb with
    | absent => exact .pure (.inl ⟨rfl, rfl⟩)
    | present hk =>
      refine (sound_comparison hi).bind fun e ws he => ?_
      exact .pure (.inr ⟨_, e, ws, rfl, by simp, hk, he⟩)
  refine hescape.bind fun c vs hc => ?_
  refine .pure fun ts ms w hl hm hw => ?_
  rcases hc with ⟨rfl, rfl⟩ | ⟨k, e, ws, rfl, rfl, hk, he⟩
  · simpa using Derives.like hl hm hw hp
  · simpa using Derives.likeEscape hl hm hw hp hk he

omit hi in
theorem sound_memberOf {l : Node} {negated : Bool} :
    Sound whole (memberOf l negated) (CompletesPredicate whole l negated .member) := by
  refine (sound_accept (by decide)).bind fun b os ho => ?_
  refine sound_path.bind fun c us hc => ?_
  obtain ⟨parts, rfl, hc⟩ := hc
  refine .pure fun ts ms w hl hm hw => ?_
  simpa using Derives.memberOf hl hm hw ho hc

/-- A predicate that may be negated is completed, or nothing is taken. -/
theorem sound_negatablePredicate {l : Node} {negated : Bool} :
    Sound whole (negatablePredicate? inner l negated) fun r us =>
    (r = none ∧ us = []) ∨ ∃ e, r = some e ∧ ∀ ts ms, Derives whole (.expression .predicate l) ts →
      Mark (.reserved .not) negated ms →
      Derives whole (.expression .predicate e) (ts ++ ms ++ us) := by
  -- Each of the four predicates is the same step: its word, and then what completes it.
  have hword : ∀ {w : Token} {word : Reserved} {p : Reading Node}, w.Word word →
      Sound whole p (CompletesPredicate whole l negated word) →
      Sound whole (some <$> p) fun r us => (r = none ∧ [w] ++ us = []) ∨ ∃ e, r = some e ∧
        ∀ ts ms, Derives whole (.expression .predicate l) ts → Mark (.reserved .not) negated ms →
          Derives whole (.expression .predicate e) (ts ++ ms ++ ([w] ++ us)) := by
    intro w word p hw hp
    refine SoundOn.map (hp.mono fun e us h => ?_)
    exact .inr ⟨e, rfl, fun ts ms hl hm => h ts ms w hl hm hw⟩
  refine (sound_accept (by decide)).bind fun b ws hb => ?_
  cases hb with
  | present hw => exact hword hw (sound_between hi)
  | absent =>
    refine (sound_accept (by decide)).bind fun b ws hb => ?_
    cases hb with
    | present hw => exact hword hw (sound_inSet hi)
    | absent =>
      refine (sound_accept (by decide)).bind fun b ws hb => ?_
      cases hb with
      | present hw => exact hword hw (sound_like hi)
      | absent =>
        refine (sound_accept (by decide)).bind fun b ws hb => ?_
        cases hb with
        | present hw => exact hword hw sound_memberOf
        | absent => exact .pure (.inl ⟨rfl, rfl⟩)

omit hi in
theorem map_some_ne_none {p : Reading Node} {s m : Stream} {r : Option Node}
    (h : (some <$> p) s = .ok (r, m)) :
    r ≠ none := by
  rintro rfl
  rw [← bind_pure_comp] at h
  obtain ⟨a, k, -, hk⟩ := bind_eq_ok.mp h
  cases hk

omit hi in
/-- Where the word of a predicate stands, a predicate is read. -/
theorem negatablePredicate_ne_none {l : Node} {negated : Bool} {s m : Stream} {r : Option Node}
    (hs : isNegatable s.current.kind = true)
    (h : negatablePredicate? inner l negated s = .ok (r, m)) : r ≠ none := by
  unfold negatablePredicate? at h
  revert hs
  unfold isNegatable
  -- The words are tried one after the other; those before the one that stands here are passed over.
  split
  · next hk =>
    intro _
    rw [bind_ok (accept_ok hk)] at h
    exact map_some_ne_none h
  · next hk =>
    intro _
    rw [bind_ok (accept_other (by rw [hk]; decide)), if_neg Bool.false_ne_true,
      bind_ok (accept_ok hk)] at h
    exact map_some_ne_none h
  · next hk =>
    intro _
    rw [bind_ok (accept_other (by rw [hk]; decide)), if_neg Bool.false_ne_true,
      bind_ok (accept_other (by rw [hk]; decide)), if_neg Bool.false_ne_true,
      bind_ok (accept_ok hk)] at h
    exact map_some_ne_none h
  · next hk =>
    intro _
    rw [bind_ok (accept_other (by rw [hk]; decide)), if_neg Bool.false_ne_true,
      bind_ok (accept_other (by rw [hk]; decide)), if_neg Bool.false_ne_true,
      bind_ok (accept_other (by rw [hk]; decide)), if_neg Bool.false_ne_true,
      bind_ok (accept_ok hk)] at h
    exact map_some_ne_none h
  · intro hk
    cases hk

/-- A `NOT` is taken only together with the predicate that it negates. -/
theorem sound_negatedPredicate {l : Node} {ts : List Token}
    (hl : Derives whole (.expression .predicate l) ts) :
    Sound whole (negation? >>= negatablePredicate? inner l)
      (Prolongs (fun e ts => Derives whole (.expression .predicate e) ts) ts) := by
  intro s he _
  by_cases hs : s.current.kind = .reserved .not ∧ isNegatable s.next.kind
  · have hnot : negation? s = .ok (true, s.tail) := by
      show (if _ then _ else _ : Reading Bool) s = _
      rw [if_pos hs]
      rfl
    rw [bind_ok hnot]
    have ht := he.takes_tail (by rw [hs.1]; decide)
    have hnext : isNegatable s.tail.current.kind = true := by
      rw [← Stream.next_of_takes ht]
      exact hs.2
    refine SoundEnd.behind ?_ ht
    have hend : SoundEnd whole _ s.tail (negatablePredicate? inner l true s.tail) :=
      sound_negatablePredicate hi (ht.ended he) trivial
    generalize hr : negatablePredicate? inner l true s.tail = r at hend
    cases hend with
    | failed hf => exact .failed hf
    | read hu h =>
      rcases h with ⟨rfl, -⟩ | ⟨e, rfl, h⟩
      -- The `NOT` cannot be left over: a predicate follows it.
      · exact absurd rfl (negatablePredicate_ne_none hnext hr)
      · refine .read hu ?_
        simpa [Prolongs] using h ts [s.current] hl (.present hs.1)
  · have hnot : negation? s = .ok (false, s) := by
      show (if _ then _ else _ : Reading Bool) s = _
      rw [if_neg hs]
      rfl
    rw [bind_ok hnot]
    have hread : Sound whole (negatablePredicate? inner l false)
        (Prolongs (fun e ts => Derives whole (.expression .predicate e) ts) ts) := by
      refine (sound_negatablePredicate hi).mono fun r us h => ?_
      rcases h with ⟨rfl, rfl⟩ | ⟨e, rfl, h⟩
      · rfl
      · simpa [Prolongs] using h ts [] hl .absent
    exact hread he trivial

theorem sound_predicateStep {l : Node} {ts : List Token}
    (hl : Derives whole (.expression .predicate l) ts) :
    Sound whole (predicateStep inner l)
      (Prolongs (fun e ts => Derives whole (.expression .predicate e) ts) ts) := by
  refine sound_taking (fun u => kind_ne_end rfl) (fun u hu => ?_) ?_
  · refine (sound_comparison hi).bind fun r us hr => ?_
    refine .pure ?_
    simpa [Prolongs, Tier.spelling] using Derives.binary ((isEquality_eq _).symm.trans hu) hl hr
  · refine (sound_accept (by decide)).bind fun b is hb => ?_
    cases hb with
    | present hw =>
      refine (sound_accept (by decide)).bind fun negated ms hm => ?_
      refine (sound_expect (by decide) (by nofun)).bind fun n ns hn => ?_
      obtain ⟨rfl, hn⟩ := hn
      refine .pure ?_
      simpa [Prolongs] using Derives.isNull hl hw hm hn
    | absent => exact sound_negatedPredicate hi hl

theorem sound_predicate :
    Sound whole (predicate inner) fun e ts => Derives whole (.expression .predicate e) ts := by
  refine (sound_comparison hi).bind fun l ts hl => ?_
  exact sound_loop (fun l ts hl => sound_predicateStep hi hl) (.tighter hl)

/-! ## Logic -/

theorem sound_negatable :
    Sound whole (negatable inner) fun e ts => Derives whole (.expression .negation e) ts := by
  refine (sound_accept (by decide)).bind fun b ws hb => ?_
  cases hb with
  | present hw =>
    refine (hi .negation).bind fun e ts h => ?_
    refine .pure ?_
    simpa using Derives.not hw h
  | absent => exact (sound_predicate hi).mono fun e ts h => .tighter h

theorem sound_conjunction :
    Sound whole (conjunction inner) fun e ts => Derives whole (.expression .conjunction e) ts :=
  sound_chain isAnd_eq rfl (fun _ => rfl) (sound_negatable hi)

theorem sound_disjunction :
    Sound whole (disjunction inner) fun e ts => Derives whole (.expression .disjunction e) ts :=
  sound_chain isOr_eq rfl (fun _ => rfl) (sound_conjunction hi)

end Expressions

section Statements

variable {whole : Bool} {inner : Entry → Reading Node}
variable (hi : ∀ entry, Sound whole (inner entry) fun e ts => Derives whole (entry.phrase e) ts)

/-! ## Clauses -/

/-- Items of a list, for any part of the grammar. -/
theorem sound_list {k : Part} {item : Reading Node}
    (h : Sound whole item fun e ts => Derives whole (.part k e) ts) :
    Sound whole (commaSeparated item) fun es ts => Derives whole (.list k es) ts :=
  sound_commaSeparated h (fun _ _ h => .one h) fun _ _ _ _ _ h hc hn => .more h hc hn

theorem sound_joinKind : Sound whole joinKind JoinWords := by
  refine (sound_accept (by decide)).bind fun b ws hb => ?_
  cases hb with
  | present hw => exact .pure (.inner hw)
  | absent =>
    refine (sound_accept (by decide)).bind fun b ws hb => ?_
    cases hb with
    | present hw =>
      refine (sound_accept (by decide)).bind fun b os ho => ?_
      cases ho with
      | present ho => exact .pure (.leftOuter hw ho)
      | absent => exact .pure (.left hw)
    | absent =>
      refine (sound_accept (by decide)).bind fun b ws hb => ?_
      cases hb with
      | present hw =>
        refine (sound_accept (by decide)).bind fun b os ho => ?_
        cases ho with
        | present ho => exact .pure (.rightOuter hw ho)
        | absent => exact .pure (.right hw)
      | absent => exact .pure .plain

theorem sound_direction : Sound whole direction? DirectionWord := by
  refine (sound_accept (by decide)).bind fun b ws hb => ?_
  cases hb with
  | present hw => exact .pure (.ascending hw)
  | absent =>
    refine (sound_accept (by decide)).bind fun b ws hb => ?_
    cases hb with
    | present hw => exact .pure (.descending hw)
    | absent => exact .pure .absent

theorem sound_nullsPlace : Sound whole nullsPlace? NullsWords := by
  refine (sound_accept (by decide)).bind fun b ws hb => ?_
  cases hb with
  | absent => exact .pure .absent
  | present hw =>
    refine (sound_accept (by decide)).bind fun b ps hp => ?_
    cases hp with
    | present hp => exact .pure (.first hw hp)
    | absent =>
      refine (sound_accept (by decide)).bind fun b ps hp => ?_
      cases hp with
      | present hp => exact .pure (.last hw hp)
      | absent => exact .fail (by nofun)

include hi

theorem sound_selectItem :
    Sound whole (selectItem inner) fun e ts => Derives whole (.part .selection e) ts := by
  refine (sound_accept (by decide)).bind fun b ws hb => ?_
  cases hb with
  | present hw =>
    refine sound_entityName.bind fun className ns hn => ?_
    obtain ⟨parts, rfl, hn⟩ := hn
    refine (sound_expect (by decide) (by nofun)).bind fun o os ho => ?_
    obtain ⟨rfl, ho⟩ := ho
    refine (sound_arguments hi (by nofun)).bind fun args ts h => ?_
    obtain ⟨us, c, rfl, hc, h⟩ := h
    refine sound_alias.bind fun asName as ha => ?_
    refine .pure ?_
    simpa using Derives.constructor hw hn ho h hc ha
  | absent =>
    refine (hi .expression).bind fun e ts h => ?_
    refine sound_alias.bind fun asName as ha => ?_
    refine .pure ?_
    simpa using Derives.selectItem h ha

theorem sound_join : Sound whole (join inner) fun e ts => Derives whole (.part .join e) ts := by
  refine sound_joinKind.bind fun kind ks hk => ?_
  refine (sound_expect (by decide) (by nofun)).bind fun w ws hw => ?_
  obtain ⟨rfl, hw⟩ := hw
  refine (sound_accept (by decide)).bind fun fetch fs hf => ?_
  refine sound_path.bind fun along ps hp => ?_
  obtain ⟨parts, rfl, hp⟩ := hp
  refine sound_alias.bind fun asName as ha => ?_
  refine (sound_clause hi).bind fun condition cs hc => ?_
  refine .pure ?_
  simpa using Derives.join hk hw hf hp ha hc

theorem sound_joins : Sound whole (joins inner) fun es ts => Derives whole (.joins es) ts := by
  refine sound_loop (P := fun es ts => Derives whole (.joins es) ts) (fun done ts h => ?_) .noJoin
  refine .looking fun t => ?_
  split
  · refine (sound_join hi).on.bind fun j us hj => ?_
    refine .pure ?_
    simpa [Prolongs] using Derives.moreJoins h hj
  · exact .pure rfl

theorem sound_fromItem :
    Sound whole (fromItem inner) fun e ts => Derives whole (.part .source e) ts := by
  refine sound_entityName.bind fun entity ps hp => ?_
  obtain ⟨parts, rfl, hp⟩ := hp
  refine sound_alias.bind fun asName as ha => ?_
  refine (sound_joins hi).bind fun js ts hj => ?_
  refine .pure ?_
  simpa using Derives.source hp ha hj

theorem sound_orderItem :
    Sound whole (orderItem inner) fun e ts => Derives whole (.part .ordering e) ts := by
  refine (hi .expression).bind fun e ts h => ?_
  refine sound_direction.bind fun direction ds hd => ?_
  refine sound_nullsPlace.bind fun nulls ns hn => ?_
  refine .pure ?_
  simpa using Derives.orderItem h hd hn

theorem sound_grouping :
    Sound whole (grouping inner) fun es ts => Derives whole (.byClause .group .argument es) ts := by
  refine (sound_accept (by decide)).bind fun b ws hb => ?_
  cases hb with
  | absent => exact .pure .noByClause
  | present hw =>
    refine (sound_expect (by decide) (by nofun)).bind fun k ks hk => ?_
    obtain ⟨rfl, hk⟩ := hk
    exact (sound_list (hi .expression)).mono fun es ts h => .someByClause hw hk h

theorem sound_ordering :
    Sound whole (ordering inner) fun es ts => Derives whole (.byClause .order .ordering es) ts := by
  refine (sound_accept (by decide)).bind fun b ws hb => ?_
  cases hb with
  | absent => exact .pure .noByClause
  | present hw =>
    refine (sound_expect (by decide) (by nofun)).bind fun k ks hk => ?_
    obtain ⟨rfl, hk⟩ := hk
    exact (sound_list (sound_orderItem hi)).mono fun es ts h => .someByClause hw hk h

theorem sound_assignment :
    Sound whole (assignment inner) fun e ts => Derives whole (.part .assignment e) ts := by
  refine sound_path.bind fun target ps hp => ?_
  obtain ⟨parts, rfl, hp⟩ := hp
  refine (sound_expect (by decide) (by nofun)).bind fun q qs hq => ?_
  obtain ⟨rfl, hq⟩ := hq
  refine (hi .expression).bind fun value ts h => ?_
  refine .pure ?_
  simpa using Derives.assignment hp hq h

/-! ## Statements -/

theorem sound_selectStatement :
    Sound whole (selectStatement inner) fun e ts => Derives whole (.part .select e) ts := by
  refine (sound_expect (by decide) (by nofun)).bind fun w ws hw => ?_
  obtain ⟨rfl, hw⟩ := hw
  refine (sound_accept (by decide)).bind fun distinct ds hd => ?_
  refine (sound_list (sound_selectItem hi)).bind fun items is hit => ?_
  refine (sound_expect (by decide) (by nofun)).bind fun f fs hf => ?_
  obtain ⟨rfl, hf⟩ := hf
  refine (sound_list (sound_fromItem hi)).bind fun sources ss hs => ?_
  refine (sound_clause hi).bind fun condition cs hc => ?_
  refine (sound_grouping hi).bind fun grouping gs hg => ?_
  refine (sound_clause hi).bind fun having vs hh => ?_
  refine (sound_ordering hi).bind fun ordering os ho => ?_
  refine .pure ?_
  simpa using Derives.select hw hd hit hf hs hc hg hh ho

theorem sound_updateStatement :
    Sound whole (updateStatement inner) fun e ts => Derives whole (.part .statement e) ts := by
  refine (sound_expect (by decide) (by nofun)).bind fun w ws hw => ?_
  obtain ⟨rfl, hw⟩ := hw
  refine sound_entityName.bind fun entity ps hp => ?_
  obtain ⟨parts, rfl, hp⟩ := hp
  refine sound_alias.bind fun asName as ha => ?_
  refine (sound_expect (by decide) (by nofun)).bind fun k ks hk => ?_
  obtain ⟨rfl, hk⟩ := hk
  refine (sound_list (sound_assignment hi)).bind fun assignments ts h => ?_
  refine (sound_clause hi).bind fun condition cs hc => ?_
  refine .pure ?_
  simpa using Derives.update hw hp ha hk h hc

theorem sound_deleteStatement :
    Sound whole (deleteStatement inner) fun e ts => Derives whole (.part .statement e) ts := by
  refine (sound_expect (by decide) (by nofun)).bind fun w ws hw => ?_
  obtain ⟨rfl, hw⟩ := hw
  refine (sound_accept (by decide)).bind fun given fs hf => ?_
  refine sound_entityName.bind fun entity ps hp => ?_
  obtain ⟨parts, rfl, hp⟩ := hp
  refine sound_alias.bind fun asName as ha => ?_
  refine (sound_clause hi).bind fun condition cs hc => ?_
  refine .pure ?_
  simpa using Derives.delete hw hf hp ha hc

theorem sound_insertStatement :
    Sound whole (insertStatement inner) fun e ts => Derives whole (.part .statement e) ts := by
  refine (sound_expect (by decide) (by nofun)).bind fun w ws hw => ?_
  obtain ⟨rfl, hw⟩ := hw
  refine (sound_expect (by decide) (by nofun)).bind fun i is hinto => ?_
  obtain ⟨rfl, hinto⟩ := hinto
  refine sound_entityName.bind fun entity ps hp => ?_
  obtain ⟨parts, rfl, hp⟩ := hp
  refine (sound_expect (by decide) (by nofun)).bind fun o os ho => ?_
  obtain ⟨rfl, ho⟩ := ho
  have htarget : Sound whole path fun e ts => Derives whole (.part .target e) ts := by
    refine sound_path.mono fun e ts h => ?_
    obtain ⟨parts, rfl, h⟩ := h
    exact .target h
  refine (sound_list htarget).bind fun targets ts ht => ?_
  refine (sound_expect (by decide) (by nofun)).bind fun c cs hc => ?_
  obtain ⟨rfl, hc⟩ := hc
  refine .asking ?_ (.fail (by nofun))
  refine (hi .select).on.bind fun source qs hq => ?_
  refine .pure ?_
  simpa using Derives.insert hw hinto hp ho ht hc hq

theorem sound_statement :
    Sound whole (statement inner) fun e ts => Derives whole (.part .statement e) ts := by
  refine .looking fun t => ?_
  split
  · exact (hi .select).on.mono fun e ts h => .ofSelect h
  · exact (sound_updateStatement hi).on
  · exact (sound_deleteStatement hi).on
  · exact (sound_insertStatement hi).on
  · exact .fail (by nofun)

/-- A query is a statement and at most one semicolon. -/
theorem sound_query : Sound whole (query inner) fun e ts => ∃ us semi marked, ts = us ++ semi ∧
    Mark (.symbol .semicolon) marked semi ∧ Derives whole (.part .statement e) us := by
  refine (sound_statement hi).bind fun e us h => ?_
  refine (sound_accept (by decide)).bind fun marked semi hs => ?_
  refine .asking (.pure ⟨us, semi, marked, by simp, hs, h⟩) (.fail (by nofun))

/-! ## Levels -/

theorem sound_atEntry (entry : Entry) :
    Sound whole (atEntry inner entry) fun e ts => Derives whole (entry.phrase e) ts := by
  cases entry with
  | expression => exact (sound_disjunction hi).mono fun e ts h => .argument h
  | select => exact sound_selectStatement hi
  | negation => exact sound_negatable hi
  | sign => exact sound_signed hi

omit hi in
/-- With any number of levels left, what is read at a place where a query nests follows the
grammar. -/
theorem sound_level {limit : Int} (n : Nat) (entry : Entry) :
    Sound whole (level limit n entry) fun e ts => Derives whole (entry.phrase e) ts := by
  induction n generalizing entry with
  | zero =>
    show Sound whole (tooDeep limit) _
    exact (SoundOn.fail (by nofun)).nested
  | succ n ih => exact (sound_atEntry ih entry).nested

end Statements

/-- A query is read up to the end of the input. -/
theorem query_end {inner : Entry → Reading Node} {s m : Stream} {e : Node}
    (h : query inner s = .ok (e, m)) :
    m.current.kind = .endOfInput := by
  obtain ⟨node, k, -, h⟩ := bind_eq_ok.mp h
  obtain ⟨b, k', -, h⟩ := bind_eq_ok.mp h
  rw [bind_ok rfl] at h
  by_cases hk : k'.current.kind = .endOfInput
  · rw [if_pos (decide_eq_true hk)] at h
    cases h
    exact hk
  · rw [if_neg (by simp [hk])] at h
    cases h

end Reading

/-! ## Queries -/

/-- A query is read if it has no error of spelling and its tokens are read. -/
theorem parse_eq_ok {maxDepth : Int} {query : String} {node : Node} :
    parse maxDepth query = .ok node ↔ (scan query).error? = none ∧
      (parseStream maxDepth (Stream.start (scan query).tokens (.ending (scan query).stop))).result =
      .ok node := by
  rw [parse]
  cases (scan query).error? with
  | some e => simp
  | none =>
    dsimp only
    cases (parseStream maxDepth
      (Stream.start (scan query).tokens (.ending (scan query).stop))).result <;> simp

open Grammar in
/-- Tokens that are read as a statement derive it, less a semicolon at the end. -/
theorem derives_of_parseStream {whole : Bool} {maxDepth : Int} {ts : List Token} {last : Token}
    {node : Node} (hts : ∀ t ∈ ts, t.kind ≠ .endOfInput) (hlast : last.kind = .endOfInput)
    (h : (parseStream maxDepth (Stream.start ts last)).result = .ok node) :
    ∃ us semi marked, ts = us ++ semi ∧ Mark (.symbol .semicolon) marked semi ∧
      Derives whole (.part .statement node) us := by
  have hend := @Reading.sound_query whole _ (@Reading.sound_level whole maxDepth maxDepth.toNat) _
    (Stream.ended_start ts hlast) trivial
  rw [parseStream_ample] at h
  generalize hq : Reading.query (Reading.level maxDepth maxDepth.toNat) (Stream.start ts last) =
    r at h hend
  cases hend with
  | read ht hd =>
    cases h
    obtain ⟨vs, semi, marked, rfl, hm, hd⟩ := hd
    exact ⟨vs, semi, marked, ht.eq_of_end hts (Reading.query_end hq), hm, hd⟩
  | failed => cases h

open Grammar in
/-- A refusal for a wrong number of arguments is about the call whose closing parenthesis was taken
last. -/
theorem miscountedCall_of_parseStream {whole : Bool} {maxDepth : Int} {ts : List Token}
    {last : Token} {e : GrammarError} (hlast : last.kind = .endOfInput)
    (h : (parseStream maxDepth (Stream.start ts last)).result = .error e)
    (hfault : e.fault = .substringArity) :
    ∃ before call rest, ts ++ [last] = before ++ call ++ rest ∧
      (parseStream maxDepth (Stream.start ts last)).pos = (before ++ call).length ∧
      MiscountedCall whole e.token call := by
  have hend := @Reading.sound_query whole _ (@Reading.sound_level whole maxDepth maxDepth.toNat) _
    (Stream.ended_start ts hlast) trivial
  rw [parseStream_ample] at h ⊢
  generalize Reading.query (Reading.level maxDepth maxDepth.toNat) (Stream.start ts last) =
    r at h hend
  cases hend with
  | read => cases h
  | failed hf =>
    cases h
    obtain ⟨before, call, m, ht, hpos, hcall⟩ := hf hfault
    refine ⟨before, call, m.tokens, ?_, hpos.trans ?_, hcall⟩
    · rw [← Stream.tokens_start, ht.tokens]
    · rw [ht.pos, Stream.pos_start, Nat.zero_add]

theorem scan_kind_ne_end (query : String) : ∀ t ∈ (scan query).tokens, t.kind ≠ .endOfInput :=
  fun t h => (scanFrom_spelling {} query.toList t h).kind_ne_end

open Grammar in
/--
A query that is read is a derivation: all tokens of the query, less a semicolon at the end, spell
the tree, in the whole grammar as in the restricted one.
-/
theorem parse_derives (whole : Bool) (maxDepth : Int) (query : String) (node : Node)
    (h : parse maxDepth query = .ok node) :
    ∃ ts semi marked stop, tokenize query = .ok (ts ++ semi ++ [.ending stop]) ∧
      Mark (.symbol .semicolon) marked semi ∧ Derives whole (.part .statement node) ts := by
  obtain ⟨herror, hresult⟩ := parse_eq_ok.mp h
  obtain ⟨ts, semi, marked, hts, hm, hd⟩ :=
    derives_of_parseStream (scan_kind_ne_end query) rfl hresult
  refine ⟨ts, semi, marked, (scan query).stop, ?_, hm, hd⟩
  exact tokenize_eq_ok.mpr ⟨herror, by rw [hts]⟩

open Grammar in
/-- An update in which the tiers of three operators have to be told apart. -/
theorem parse_derives_update :
    ∃ node, parse 2 "UPDATE A SET b = 1 + 2 * -3 WHERE NOT c IS NULL;" = .ok node ∧
      node = .update "A" none
        [.assignment (.path ["b"]) (.binary (.literal "1" .integer) "+"
          (.binary (.literal "2" .integer) "*" (.unary "-" (.literal "3" .integer))))]
        (some (.unary "NOT" (.isNull (.path ["c"]) false))) ∧
      ∃ ts semi marked stop, tokenize "UPDATE A SET b = 1 + 2 * -3 WHERE NOT c IS NULL;" = .ok
        (ts ++ semi ++ [.ending stop]) ∧
        Mark (.symbol .semicolon) marked semi ∧ Derives true (.part .statement node) ts := by
  have h : parse 2 "UPDATE A SET b = 1 + 2 * -3 WHERE NOT c IS NULL;" = .ok (.update "A" none
      [.assignment (.path ["b"]) (.binary (.literal "1" .integer) "+"
        (.binary (.literal "2" .integer) "*" (.unary "-" (.literal "3" .integer))))]
      (some (.unary "NOT" (.isNull (.path ["c"]) false)))) := by with_unfolding_all rfl
  exact ⟨_, h, rfl, parse_derives true 2 _ _ h⟩

end EntityQuery
