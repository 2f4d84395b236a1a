import EntityQuery.Proofs.Sql.WrittenExpression

/-!
# Calls that are written

The primary expressions that have parts: parentheses, calls, `CAST`, `TRIM` and `CASE`. A `TRIM`
that names neither a side nor a character is written without `FROM`, so that its operand must not
open with a side.
-/

namespace EntityQuery.Sql

open Grammar

variable {q : Place}

/-! ## Parentheses -/

/-- Something in parentheses. -/
theorem spells_parens {w : String} {P : List Token → Prop} (h : Spells isGap w P) :
    Spells isGap ("(" ++ w ++ ")") fun ts =>
      ∃ us o c, ts = o :: us ++ [c] ∧ o.Sign .leftParen ∧ P us ∧ c.Sign .rightParen := by
  refine (Spells.leftParen.next h).closed.ofAny.mono ?_
  rintro ts ⟨_, _, rfl, ⟨_, us, rfl, ⟨o, rfl, ho⟩, hus⟩, c, rfl, hc⟩
  exact ⟨us, o, c, rfl, ho, hus, hc⟩

theorem opens_literal {a : String} {c : Char} {cs : List Char} (ha : a.toList = c :: cs)
    (hc : (c != '-') = true) (b : String) : Opens (Lexeme.breaksOff (.symbol .minus)) (a ++ b) :=
  Opens.append ⟨c, cs, ha, hc⟩ b

theorem writes_paren {e : Node} (h : PartWrites .argument e) :
    ExpressionWrites .primary (.paren e) := by
  intro q hw
  simp only [everywhere, Bool.and_eq_true] at hw
  rw [render]
  refine (h hw.2).display fun w hs => .pure (written_primary ?_ ?_)
  · rw [translate]
    refine (spells_parens hs).mono ?_
    rintro ts ⟨us, o, c, rfl, ho, hus, hc⟩
    exact .paren ho hus hc
  · rw [String.append_assoc]
    exact opens_literal rfl rfl _

theorem writes_subquery {e : Node} (h : PartWrites .select e) :
    ExpressionWrites .primary (.subquery e) := by
  intro q hw
  simp only [everywhere, Bool.and_eq_true] at hw
  rw [render]
  refine (h hw.2).display fun w hs => .pure (written_primary ?_ ?_)
  · rw [translate]
    refine (spells_parens hs).mono ?_
    rintro ts ⟨us, o, c, rfl, ho, hus, hc⟩
    exact .subquery ho hus hc
  · rw [String.append_assoc]
    exact opens_literal rfl rfl _

theorem writes_existsQuery {e : Node} (h : PartWrites .select e) :
    ExpressionWrites .primary (.existsQuery e) := by
  intro q hw
  simp only [everywhere, Bool.and_eq_true] at hw
  rw [render]
  refine (h hw.2).display fun w hs => .pure (written_primary ?_ ?_)
  · rw [translate]
    have htext : "EXISTS (" ++ w ++ ")" = "EXISTS " ++ ("(" ++ w ++ ")") := by
      simp only [← String.append_assoc]
      rfl
    rw [htext]
    refine ((Spells.firstWord .exists rfl).next (spells_parens hs)).mono ?_
    rintro ts ⟨_, _, rfl, ⟨t, rfl, ht⟩, us, o, c, rfl, ho, hus, hc⟩
    exact .existsQuery ht ho hus hc
  · rw [String.append_assoc]
    exact opens_literal rfl rfl _

/-! ## Calls -/

/-- A name with something in parentheses behind it. -/
theorem spells_call {f w : String} {p : Token → Prop} {P : List Token → Prop}
    (hf : Spells isWordGap f (One p)) (h : Spells isGap w P) :
    Spells isGap (f ++ "(" ++ w ++ ")") fun ts =>
      ∃ t us o c, ts = t :: o :: us ++ [c] ∧ p t ∧ o.Sign .leftParen ∧ P us ∧
        c.Sign .rightParen := by
  refine (hf.opened.next h).closed.ofAny.mono ?_
  rintro ts ⟨_, _, rfl, ⟨_, us, rfl, ⟨_, _, rfl, ⟨t, rfl, ht⟩, o, rfl, ho⟩, hus⟩, c, rfl, hc⟩
  exact ⟨t, us, o, c, rfl, ht, ho, hus, hc⟩

theorem writes_otherCall {f : Token} {args : List Node} (hf : f.kind = .identifier)
    (hs : Lexeme.Spelling f.kind f.text.toList) (h : PhraseWrites (.arguments args)) :
    ExpressionWrites .primary (.call f.text args false false none none none) := by
  intro q hw
  simp only [everywhere, Bool.and_eq_true] at hw
  rw [render, if_pos (by rfl)]
  refine Yields.arguments h hw.1.2 fun w ha => .pure (written_primary ?_ ?_)
  · rw [translate, translateOption]
    refine (spells_call (Spells.ofWord hs (by rw [hf]; rfl)) ha).mono ?_
    rintro ts ⟨t, us, o, c, rfl, ⟨hk, ht⟩, ho, hus, hc⟩
    rw [← ht]
    exact .otherCall (hk.trans hf) ho hus hc
  · rw [String.append_assoc, String.append_assoc]
    have hkind : ∀ s, f.kind ≠ .symbol s := fun s h => by cases hf.symm.trans h
    exact (opens_of_spelling hs hkind).append _

theorem spelling_function (g : Function) :
    Lexeme.Spelling (.function g) (TokenKind.function g).name.toList := by
  refine spelling_of_word ?_ ?_
  · cases g <;> decide +kernel
  · cases g <;> decide +kernel

theorem spells_function (g : Function) :
    Spells isWordGap (TokenKind.function g).name (One fun t => t.kind = .function g) := by
  refine (Spells.ofWord (spelling_function g) rfl).mono ?_
  rintro ts ⟨t, rfl, ht, -⟩
  exact ⟨t, rfl, ht⟩

theorem opens_function (g : Function) (b : String) :
    Opens (Lexeme.breaksOff (.symbol .minus)) ((TokenKind.function g).name ++ b) :=
  (opens_of_spelling (spelling_function g) nofun).append b

/-- Functions other than these three are written with the list of their arguments. -/
theorem render_function {g : Function} (hs : g ≠ .size) (ht : g ≠ .trim) (hc : g ≠ .cast)
    (z : Scope) (args : List Node) (distinct : Bool) :
    render z (.call (TokenKind.function g).name args distinct true none none none) = (do
      let list ← Rendering.strung ", " (← renderList z args)
      pure (.text ((TokenKind.function g).name ++ "(" ++ (if distinct then "DISTINCT " else "") ++
        list ++ ")"))) := by
  rw [render, if_neg (by simp)]
  cases g with
  | size => exact absurd rfl hs
  | trim => exact absurd rfl ht
  | cast => exact absurd rfl hc
  | _ => rfl

/-- `SIZE` is refused. -/
theorem render_size (z : Scope) (args : List Node) :
    render z (plainCall (TokenKind.function .size).name args) = throw (.unsupported "SIZE()") := by
  rw [plainCall, render, if_neg (by simp)]
  rfl

theorem length_translateList (q : Place) (ns : List Node) :
    (translateList q ns).length = ns.length := by
  induction ns with
  | nil => rw [translateList]
  | cons n ns ih => rw [translateList, List.length_cons, List.length_cons, ih]

theorem writes_functionCall {g : Function} {args : List Node} (hg : hasPlainArguments g = true)
    (hn : hasArity g args.length = true) (h : PhraseWrites (.arguments args)) :
    ExpressionWrites .primary (plainCall (TokenKind.function g).name args) := by
  intro q hw
  by_cases hs : g = .size
  · subst hs
    rw [render_size]
    exact .throw
  simp only [hasPlainArguments, Bool.and_eq_true, Bool.not_eq_true', decide_eq_true_eq] at hg
  simp only [plainCall, everywhere, Bool.and_eq_true] at hw
  rw [plainCall, render_function hs hg.1.2 hg.2]
  refine Yields.arguments h hw.1.2 fun w ha => .pure (written_primary ?_ ?_)
  · rw [translate, translateOption, if_neg Bool.false_ne_true, String.append_empty]
    refine (spells_call (spells_function g) ha).mono ?_
    rintro ts ⟨t, us, o, c, rfl, ht, ho, hus, hc⟩
    refine .functionCall ?_ (by rwa [length_translateList]) ht ho hus hc
    simp [hasPlainArguments, hg.1.1, hg.1.2, hg.2]
  · simp only [String.append_assoc]
    exact opens_function g _

/-- `DISTINCT`, if it is there. -/
theorem spells_distinct (distinct : Bool) :
    Spells (fun _ => true) (if distinct then "DISTINCT " else "")
      (Mark (.reserved .distinct) distinct) := by
  cases distinct with
  | false =>
    refine Spells.nil.mono ?_
    rintro ts rfl
    exact .absent
  | true =>
    refine (Spells.firstWord .distinct rfl).mono ?_
    rintro ts ⟨t, rfl, ht⟩
    exact .present ht

theorem ne_of_isAggregate {g : Function} (hg : g.isAggregate = true) :
    g ≠ .size ∧ g ≠ .trim ∧ g ≠ .cast := by
  refine ⟨?_, ?_, ?_⟩
  all_goals
    rintro rfl
    cases hg

theorem writes_countAll :
    ExpressionWrites .primary (plainCall (TokenKind.function .count).name [.star]) := by
  intro q _
  obtain ⟨hs, ht, hc⟩ := ne_of_isAggregate (g := .count) rfl
  rw [plainCall, render_function hs ht hc, renderList, renderList, render]
  have hstar : Rendering.strung ", " [.text "*"] = (pure "*" : Rendering String) := rfl
  simp only [pure_bind, hstar]
  refine .pure (written_primary ?_ ?_)
  · rw [translate, translateList, translateList, translate, translateOption,
      if_neg Bool.false_ne_true, String.append_empty]
    have hsign : Spells isGap "*" (One fun t => t.Sign .star) :=
      (Spells.symbol rfl rfl fun _ => rfl).ofAny
    refine (spells_call (spells_function .count) hsign).mono ?_
    rintro ts ⟨t, us, o, c, rfl, ht, ho, ⟨s, rfl, hs⟩, hc⟩
    exact .countAll ht ho hs hc
  · simp only [String.append_assoc]
    exact opens_function .count _

/-- A single argument. -/
theorem Yields.argument {α : Type} {S : α → Prop} {e : Node} {f : String → Rendering α}
    (h : PartWrites .argument e) (hw : everywhereList isWritableHere q [e] = true)
    (hf : ∀ w, Spells isGap w (Derives false (.part .argument (translate q e))) →
      Yields q (f w) S) :
    Yields q (renderList q.scope [e] >>= fun ps => Rendering.strung ", " ps >>= f) S := by
  rw [everywhereList, Bool.and_eq_true] at hw
  rw [renderList, renderList, bind_assoc]
  refine (h hw.1).bind fun p hp => ?_
  obtain ⟨w, hpw, hs⟩ := hp
  simp only [pure_bind]
  refine (Yields.strung (.cons hpw .nil)).bind fun v hv => ?_
  rw [hv, String.intercalate_singleton]
  exact hf w hs

theorem writes_aggregate {g : Function} {e : Node} (hg : g.isAggregate = true) (distinct : Bool)
    (h : PartWrites .argument e) :
    ExpressionWrites .primary
      (.call (TokenKind.function g).name [e] distinct true none none none) := by
  intro q hw
  obtain ⟨hs, ht, hc⟩ := ne_of_isAggregate hg
  simp only [everywhere, Bool.and_eq_true] at hw
  rw [render_function hs ht hc]
  refine Yields.argument h hw.1.2 fun w ha => .pure (written_primary ?_ ?_)
  · rw [translate, translateList, translateList, translateOption]
    refine (((spells_function g).opened.next
      (spells_distinct distinct)).next ha).closed.ofAny.mono ?_
    rintro ts ⟨_, _, rfl,
      ⟨_, us, rfl, ⟨_, ms, rfl, ⟨_, _, rfl, ⟨t, rfl, ht⟩, o, rfl, ho⟩, hms⟩, hus⟩, c, rfl, hc⟩
    exact .aggregate hg ht ho hms hus hc
  · simp only [String.append_assoc]
    exact opens_function g _

/-! ## Casts -/

/-- Sizes are read again. -/
theorem spells_sizes {sizes : List String} {ts : List Token} (h : Sizes sizes ts) (hp : Proper ts) :
    sizes ≠ [] ∧ Spells isGap (", ".intercalate sizes) (Sizes sizes) := by
  have hint : ∀ {t : Token}, Lexeme.Spelling t.kind t.text.toList → t.kind = .integer →
      Spells isGap t.text (One fun u => u.kind = .integer ∧ u.text = t.text) := by
    intro t ht hk
    rw [hk] at ht
    exact Spells.ofGap ht
  induction h with
  | @one t ht =>
    refine ⟨by simp, ?_⟩
    rw [String.intercalate_singleton]
    refine (hint (hp t (by simp)) ht).mono ?_
    rintro ts ⟨u, rfl, hu, htext⟩
    rw [← htext]
    exact .one hu
  | @more sizes ts comma t _ hc ht ih =>
    obtain ⟨hne, hs⟩ := ih fun u hu => hp u (by simp [hu])
    refine ⟨by simp, ?_⟩
    rw [String.intercalate_append_of_ne_nil hne (by simp), String.intercalate_singleton]
    have hcomma := hs.append Spells.comma (Opens.append (a := ",") ⟨',', [], rfl, rfl⟩ " ")
    refine (hcomma.next (hint (hp t (by simp)) ht)).mono ?_
    rintro ts ⟨_, _, rfl, ⟨us, _, rfl, hus, c, rfl, hc⟩, u, rfl, hu, htext⟩
    rw [← htext, List.append_assoc]
    exact .more hus hc hu

/-- A type is read again. -/
theorem spells_typeName {type : String} {ts : List Token} (h : TypeName type ts) (hp : Proper ts) :
    Spells isGap type (TypeName type) := by
  cases h with
  | plain h => exact (spells_dotted (pathText_of_dotted h hp)).gap.mono fun _ => .plain
  | @sized parts sizes us vs o c h ho hs hc =>
    have hpath := spells_dotted (pathText_of_dotted h fun t ht => hp t (by simp [ht]))
    obtain ⟨-, hsizes⟩ := spells_sizes hs fun t ht => hp t (by simp [ht])
    refine (hpath.opened.next hsizes).closed.ofAny.mono ?_
    rintro ts ⟨_, _, rfl, ⟨_, us, rfl, ⟨ds, _, rfl, hds, o, rfl, ho⟩, hus⟩, c, rfl, hc⟩
    simpa using TypeName.sized hds ho hus hc

theorem writes_cast {e : Node} {type : String} (h : PartWrites .argument e)
    (ht : Spells isGap type (TypeName type)) :
    ExpressionWrites .primary (.call "CAST" [e] false true none none (some type)) := by
  intro q hw
  simp only [everywhere, everywhereList, Bool.and_eq_true] at hw
  have hrender : render q.scope (.call "CAST" [e] false true none none (some type)) = (do
      let first ← Rendering.shown (← render q.scope e)
      pure (.text ("CAST(" ++ first ++ " AS " ++ type ++ ")"))) := by
    rw [render, if_neg (by simp), renderFirst]
    rfl
  rw [hrender]
  refine (h hw.1.2.1).display fun w hs => .pure (written_primary ?_ ?_)
  · rw [translate, translateList, translateList, translateOption]
    have hname : Spells (fun _ => true) "CAST("
        (Both (One fun t => t.kind = .function .cast) (One fun t => t.Sign .leftParen)) :=
      (spells_function .cast).opened
    refine (((hname.next hs).keyword .asWord rfl).next ht).closed.ofAny.mono ?_
    rintro ts ⟨_, _, rfl,
      ⟨_, vs, rfl,
        ⟨_, _, rfl, ⟨_, us, rfl, ⟨_, _, rfl, ⟨f, rfl, hf⟩, o, rfl, ho⟩, hus⟩, a, rfl, ha⟩, hvs⟩, c,
      rfl, hc⟩
    simpa using Derives.cast hf ho hus ha hvs hc
  · simp only [String.append_assoc]
    exact opens_literal rfl rfl _

/-! ## Trims -/

/-- How a `TRIM` is rendered: what stands before the operand, the operand, and parentheses. -/
theorem render_trim (z : Scope) (e : Node) (side : Option String) (char : Option Node) :
    render z (.call "TRIM" [e] false true side char none) = (do
      let char ← renderOption z char
      let before := optionalText side ++ char.toList
      let before := if before.isEmpty then before else before ++ [.text "FROM"]
      let first ← render z e
      let text ← Rendering.strung " " (before ++ [first])
      pure (.text ("TRIM(" ++ text ++ ")"))) := by
  rw [render, if_neg (by simp), renderFirst]
  rfl

/-- What stands in the parentheses of a `TRIM`. -/
theorem written_trim {e : Node} {side : Option String} {char : Option Node} {w : String}
    {P : List Token → Prop} (h : Spells isGap w P)
    (hd : ∀ {f o c : Token} {us : List Token}, f.kind = .function .trim → o.Sign .leftParen →
      P us → c.Sign .rightParen →
      Derives false
        (.expression .primary (translate q (.call "TRIM" [e] false true side char none)))
        (f :: o :: us ++ [c])) :
    Written q .primary (.call "TRIM" [e] false true side char none)
      (.text ("TRIM(" ++ w ++ ")")) := by
  refine written_primary ?_ ?_
  · refine (spells_call (spells_function .trim) h).mono ?_
    rintro ts ⟨f, us, o, c, rfl, hf, ho, hus, hc⟩
    exact hd hf ho hus hc
  · rw [String.append_assoc]
    exact opens_literal rfl rfl _

/-- A `TRIM` of an operand alone. -/
theorem writes_trim {e : Node} (h : PartWrites .argument e) :
    ExpressionWrites .primary (.call "TRIM" [e] false true none none none) := by
  intro q hw
  simp only [everywhere, everywhereList, isWritableHere, hasPlainTrim, Bool.and_eq_true] at hw
  have hside : opensWithSideName (translate q e) = false := by simpa using hw.1.1.2
  rw [render_trim, renderOption]
  refine (h hw.1.2.1).bind fun p hp => ?_
  obtain ⟨w, hpw, hs⟩ := hp
  refine (Yields.strung (.cons hpw .nil)).bind fun v hv => .pure ?_
  rw [hv, String.intercalate_singleton]
  refine written_trim (spells_proper hs) ?_
  rintro f o c us hf ho ⟨hus, hproper⟩ hc
  rw [translate, translateList, translateList, translateOption]
  exact .trim hf ho hus hc (.inr (by rw [opensWithSide_closed hus hproper hc, hside]))

/-- A side is written in capitals and is read again. -/
theorem spells_side {t : Token} (h : isSide t = true) :
    optionalText (some (Text.upper t.text)) = [.text (Text.upper t.text)] ∧
      Spells isGap (Text.upper t.text) (Side (some (Text.upper t.text))) := by
  have hside : ∀ s : String, isSideWord s = true → isSideName s = true → Text.upper s = s →
      Spells isGap s (Side (some s)) := by
    intro s hw hs hu
    rw [isSideName, Bool.and_eq_true] at hs
    refine (Spells.ofGap (spelling_of_isIdentifier hs.1)).mono ?_
    rintro ts ⟨u, rfl, hk, ht⟩
    have hsame : Text.upper u.text = s := by rw [ht, hu]
    rw [← hsame]
    refine .present ?_
    rw [isSide, hk, decide_eq_true rfl, Bool.true_and, ht]
    exact hw
  simp only [isSide, Bool.and_eq_true, List.contains_eq_mem, decide_eq_true_eq, List.mem_cons,
    List.not_mem_nil, or_false] at h
  generalize Text.upper t.text = s at h
  rcases h.2 with rfl | rfl | rfl
  all_goals exact ⟨rfl, hside _ (by decide +kernel) (by decide +kernel) (by decide +kernel)⟩

theorem spelled_word (k : Reserved) {w : String} (hw : w = TokenKind.capitals k.word) :
    Spelled (One fun t => t.Word k) (.text w) := by
  subst hw
  exact ⟨_, .text, (Spells.reserved k).gap⟩

/-- `FROM` and the operand of a `TRIM`. -/
theorem spelledBehind_from {p : Fragment} {P : List Token → Prop} (h : Spelled P p) :
    SpelledBehind (Both (One fun t => t.Word .fromWord) P) [.text "FROM", p] :=
  (SpelledBehind.single (spelled_word .fromWord rfl)).append (.single h)

theorem writes_trimFrom {e : Node} {side : Option String} {ss : List Token} (hs : Side side ss)
    (h : PartWrites .argument e) :
    ExpressionWrites .primary (.call "TRIM" [e] false true side none none) := by
  cases hs with
  | absent => exact writes_trim h
  | @present t ht =>
    obtain ⟨hoption, hside⟩ := spells_side ht
    intro q hw
    simp only [everywhere, everywhereList, Bool.and_eq_true] at hw
    rw [render_trim, renderOption, hoption]
    refine (h hw.1.2.1).bind fun p hp => ?_
    refine (Yields.spaced .text hside (spelledBehind_from hp)).bind fun w hs =>
      .pure (written_trim hs.2 ?_)
    rintro f o c us hf ho ⟨ss, _, rfl, hss, _, es, rfl, ⟨w, rfl, hw⟩, hes⟩ hc
    rw [translate, translateList, translateList, translateOption]
    simpa using Derives.trimFrom hf ho hss hw hes hc

theorem writes_trimCharacter {e char : Node} {side : Option String} {ss : List Token}
    (hs : Side side ss) (hchar : PartWrites .argument char) (h : PartWrites .argument e)
    (hn : side = none → (openingName? char).any isSideName = false) :
    ExpressionWrites .primary (.call "TRIM" [e] false true side (some char) none) := by
  intro q hw
  simp only [everywhere, everywhereList, everywhereOption, Bool.and_eq_true] at hw
  rw [render_trim, renderOption, bind_assoc]
  refine (hchar hw.2).bind fun pc hpc => ?_
  rw [pure_bind]
  refine (h hw.1.2.1).bind fun p hp => ?_
  cases hs with
  | absent =>
    have hside := openingName_translate hw.2 (hn rfl)
    obtain ⟨wc, hpc, hc⟩ := hpc
    refine (Yields.spaced hpc (spells_proper hc) (spelledBehind_from hp)).bind fun w hs =>
      .pure (written_trim hs.2 ?_)
    rintro f o c us hf ho ⟨cs, _, rfl, ⟨hcs, hproper⟩, _, es, rfl, ⟨w, rfl, hw⟩, hes⟩ hc
    rw [translate, translateList, translateList, translateOption]
    have hopens : opensWithSide (cs ++ [w]) = false := by
      rw [opensWithSide_append hcs hproper (endsName_of_word hw), hside]
    simpa using Derives.trimCharacter hf ho .absent hcs hw hes hc fun _ => .inr hopens
  | @present t ht =>
    obtain ⟨hoption, hside⟩ := spells_side ht
    rw [hoption]
    refine (Yields.spaced .text hside
      ((SpelledBehind.single hpc).append (spelledBehind_from hp))).bind
      fun w hs => .pure (written_trim hs.2 ?_)
    rintro f o c us hf ho ⟨ss, _, rfl, hss, cs, _, rfl, hcs, _, es, rfl, ⟨w, rfl, hw⟩, hes⟩ hc
    rw [translate, translateList, translateList, translateOption]
    have hsome : some (Text.upper t.text) = none →
        false = true ∨ opensWithSide (cs ++ [w]) = false :=
      fun h => by cases h
    simpa using Derives.trimCharacter hf ho hss hcs hw hes hc hsome

/-! ## Cases -/

theorem derives_branches_append {bs cs : List Node} {ts us : List Token}
    (h : Derives false (.branches bs) ts) (h' : Derives false (.branches cs) us) :
    Derives false (.branches (bs ++ cs)) (ts ++ us) := by
  generalize hp : Phrase.branches cs = p at h'
  induction h' generalizing cs with
  | noBranch =>
    cases hp
    simpa using h
  | moreBranches _ hw hcond hk hres ih =>
    cases hp
    have := Derives.moreBranches (ih rfl) hw hcond hk hres
    simpa using this
  | _ => cases hp

theorem yields_branch {n : Node} (h : BranchWrites n) (hw : everywhere isWritableHere q n = true) :
    Yields q (render q.scope n) (Spelled (Derives false (.branches [translate q n]))) := by
  obtain ⟨condition, result, rfl, hcond, hres⟩ := h
  simp only [everywhere, Bool.and_eq_true] at hw
  rw [render]
  refine (hcond hw.1.2).display fun wc hc => ?_
  refine (hres hw.2).display fun wr hr => .pure ⟨_, .text, ?_⟩
  rw [translate]
  refine ((((Spells.firstWord .whenWord rfl).next hc).keyword .thenWord rfl).next hr).mono ?_
  rintro ts ⟨_, rs, rfl, ⟨_, _, rfl, ⟨_, cs, rfl, ⟨w, rfl, hw⟩, hcs⟩, k, rfl, hk⟩, hrs⟩
  simpa using Derives.moreBranches .noBranch hw hcs hk hrs

/-- Branches are written one behind the other. -/
theorem yields_branches {ns : List Node} (h : ∀ n ∈ ns, BranchWrites n)
    (hw : everywhereList isWritableHere q ns = true) :
    Yields q (renderList q.scope ns)
      (SpelledBehind (Derives false (.branches (translateList q ns)))) := by
  induction ns with
  | nil =>
    rw [renderList]
    refine .pure (SpelledBehind.nil.mono ?_)
    rintro ts rfl
    rw [translateList]
    exact .noBranch
  | cons n ns ih =>
    rw [everywhereList, Bool.and_eq_true] at hw
    rw [renderList]
    refine (yields_branch (h n (by simp)) hw.1).bind fun p hp => ?_
    refine (ih (fun n hn => h n (List.mem_cons_of_mem _ hn)) hw.2).bind fun ps hps => .pure ?_
    refine ((SpelledBehind.single hp).append hps).mono ?_
    rintro ts ⟨us, vs, rfl, hus, hvs⟩
    rw [translateList]
    exact derives_branches_append hus hvs

/-- `ELSE` with its expression, or nothing. -/
theorem yields_otherwise {α : Type} {S : α → Prop} {otherwise : Option Node}
    {f : List Fragment → Rendering α} (h : ∀ n ∈ otherwise, PartWrites .argument n)
    (hw : everywhereOption isWritableHere q otherwise = true)
    (hf : ∀ ps, SpelledBehind (Derives false (.clause .elseWord (translateOption q otherwise))) ps →
      Yields q (f ps) S) :
    Yields q (do
      match ← renderOption q.scope otherwise with
      | none => do
        let ending ← pure []
        f ending
      | some e => do
        let e ← Rendering.shown e
        let ending ← pure [Fragment.text ("ELSE " ++ e)]
        f ending) S := by
  cases otherwise with
  | none =>
    rw [renderOption, pure_bind]
    refine hf _ (SpelledBehind.nil.mono ?_)
    rintro ts rfl
    rw [translateOption]
    exact .noClause
  | some e =>
    rw [everywhereOption] at hw
    rw [renderOption, bind_assoc]
    simp only [pure_bind]
    refine (h e rfl hw).display fun w hs => hf _ (SpelledBehind.single ⟨_, .text, ?_⟩)
    rw [translateOption]
    refine ((Spells.firstWord .elseWord rfl).next hs).mono ?_
    rintro ts ⟨_, us, rfl, ⟨t, rfl, ht⟩, hus⟩
    exact .someClause ht hus

/-- An optional operand behind a word. -/
theorem yields_operand {operand : Option Node} (h : ∀ n ∈ operand, PartWrites .argument n)
    (hw : everywhereOption isWritableHere q operand = true) :
    Yields q (renderOption q.scope operand) fun p? =>
      SpelledBehind (fun ts => operand = none ∧ ts = [] ∨
        ∃ n, operand = some n ∧ Derives false (.part .argument (translate q n)) ts) p?.toList := by
  cases operand with
  | none =>
    rw [renderOption]
    exact .pure (SpelledBehind.nil.mono fun ts h => .inl ⟨rfl, h⟩)
  | some n =>
    rw [everywhereOption] at hw
    rw [renderOption]
    refine (h n rfl hw).bind fun p hp => .pure ?_
    exact (SpelledBehind.single hp).mono fun ts h => .inr ⟨n, rfl, h⟩

theorem translateList_ne_nil {ns : List Node} (h : ns ≠ []) : translateList q ns ≠ [] := by
  rw [← List.length_pos_iff, length_translateList]
  exact List.length_pos_iff.mpr h

theorem writes_case {operand otherwise : Option Node} {branches : List Node}
    (ho : ∀ n ∈ operand, PartWrites .argument n) (hb : ∀ n ∈ branches, BranchWrites n)
    (hne : branches ≠ []) (he : ∀ n ∈ otherwise, PartWrites .argument n) :
    ExpressionWrites .primary (.caseOf operand branches otherwise) := by
  intro q hw
  simp only [everywhere, Bool.and_eq_true] at hw
  rw [render]
  refine (yields_operand ho hw.1.1.2).bind fun p? hp => ?_
  refine (yields_branches hb hw.1.2).bind fun bs hbs => ?_
  refine yields_otherwise he hw.2 fun es hes => ?_
  have hpieces :=
    ((hp.append hbs).append hes).append (SpelledBehind.single (spelled_word .endWord rfl))
  have hcase : Spells isGap "CASE" (One fun t => t.Word .case) := (Spells.reserved .case).gap
  refine (Yields.spaced .text hcase hpieces).bind fun w hw => .pure ?_
  obtain ⟨⟨u, rfl⟩, hs⟩ := hw
  refine written_primary ?_ (opens_literal rfl rfl _)
  rw [translate]
  refine hs.mono ?_
  rintro ts ⟨_, _, rfl, ⟨c, rfl, hc⟩, _, _, rfl, ⟨_, es, rfl, ⟨os, bs, rfl, hos, hbs⟩, hes⟩,
    k, rfl, hk⟩
  rcases hos with ⟨rfl, rfl⟩ | ⟨n, rfl, hn⟩
  · rw [translateOption]
    exact .caseSearched hc hbs (translateList_ne_nil hne) hes hk
  · rw [translateOption]
    simpa using Derives.caseSimple hc hn hbs (translateList_ne_nil hne) hes hk

end EntityQuery.Sql
