import EntityQuery.Proofs.Sql.WrittenCall

/-!
# Statements that are written

Items of clauses, joins and whole statements. A select list is the only place where one tree is
written as several: the arguments of a constructor become items of their own. Joins without an alias
are left out.
-/

namespace EntityQuery.Sql

open Grammar

variable {q : Place}

/-! ## Aliases -/

theorem ne_empty_of_spelling {kind : TokenKind} {text : String}
    (h : Lexeme.Spelling kind text.toList) : text ≠ "" := by
  obtain ⟨c, cs, hc⟩ := h.exists_cons
  rintro rfl
  cases hc

theorem given_of_ne {text : String} (h : text ≠ "") : given? (some text) = some text := by
  simp [given?, h]

theorem nameText_of_alias {asName : Option String} {ts : List Token} (h : Alias asName ts)
    (hp : Proper ts) :
    ∀ a ∈ asName, NameText a := by
  cases h with
  | absent => simp
  | @bare t h =>
    rintro a ⟨⟩
    exact ⟨_, by rw [h]; rfl, hp t (by simp)⟩
  | @marked w t _ h =>
    rintro a ⟨⟩
    exact ⟨_, h, hp t (by simp)⟩

/-- The alias of an item, behind `AS`. -/
theorem trailing_alias {asName : Option String} (h : ∀ a ∈ asName, NameText a) :
    Trailing ((aliasWords asName).getD "") (Alias asName) := by
  cases asName with
  | none =>
    refine Trailing.nil.mono ?_
    rintro ts rfl
    exact .absent
  | some a =>
    have ha := h a rfl
    obtain ⟨_, _, hs⟩ := h a rfl
    have htext : (aliasWords (some a)).getD "" = " " ++ ("AS " ++ a) := by
      rw [aliasWords, given_of_ne (ne_empty_of_spelling hs), ← String.append_assoc]
      rfl
    rw [htext]
    refine (Trailing.blank ((Spells.firstWord .asWord rfl).next (spells_nameText ha).gap)).mono ?_
    rintro ts ⟨_, _, rfl, ⟨w, rfl, hw⟩, t, rfl, ht, rfl⟩
    exact .marked hw ht

/-- The alias of a source, a join or a target, which stands alone. -/
theorem spelledBehind_alias {asName : Option String} (h : asName.all isIdentifier = true) :
    SpelledBehind (Alias asName) (optionalText asName) := by
  cases asName with
  | none =>
    refine SpelledBehind.nil.mono ?_
    rintro ts rfl
    exact .absent
  | some a =>
    have hs := spelling_of_isIdentifier h
    rw [optionalText, given_of_ne (ne_empty_of_spelling hs)]
    refine SpelledBehind.single ⟨a, .text, (Spells.ofGap hs).mono ?_⟩
    rintro ts ⟨t, rfl, hk, rfl⟩
    exact .bare hk

/-! ## Items of a select list -/

theorem writes_selectItem {e : Node} {asName : Option String} (h : PartWrites .argument e)
    (ha : ∀ a ∈ asName, NameText a) : PartWrites .selection (.selectItem e asName) := by
  intro q hw
  simp only [everywhere, Bool.and_eq_true] at hw
  rw [render]
  refine (h hw.2).bind fun p hp => ?_
  obtain ⟨w, hpw, hs⟩ := hp
  refine (Yields.extendedBy hpw _).mono fun p hp => ⟨_, hp, ?_⟩
  have hitem : translateItems q [.selectItem e asName] = [.selectItem (translate q e) asName] := by
    simp only [translateItems, translate]
  rw [hitem]
  refine (hs.trail (trailing_alias ha)).mono ?_
  rintro ts ⟨us, vs, rfl, hus, hvs⟩
  exact .one (.selectItem hus hvs)

theorem constructorItems_none_cons (e : Node) (es : List Node) :
    constructorItems none (e :: es) = .selectItem e none :: constructorItems none es := by
  cases es <;> simp [constructorItems]

theorem constructorItems_append (asName : Option String) (es : List Node) (e : Node) :
    constructorItems asName (es ++ [e]) = constructorItems none es ++ [.selectItem e asName] := by
  induction es with
  | nil => simp [constructorItems]
  | cons x es ih =>
    rw [constructorItems_none_cons, List.cons_append, List.cons_append, ← ih]
    cases es <;> simp [constructorItems]

/-- Arguments with an alias behind them are items of a select list. -/
theorem derives_constructorItems {es : List Node} {ts us : List Token} {asName : Option String}
    (h : Derives false (.list .argument es) ts) (ha : Alias asName us) :
    Derives false (.list .selection (constructorItems asName es)) (ts ++ us) := by
  generalize hp : Phrase.list .argument es = p at h
  induction h generalizing es us asName with
  | one h =>
    cases hp
    exact .one (.selectItem h ha)
  | @more k ns n ts vs comma _ hc hn ih =>
    cases hp
    rw [constructorItems_append]
    have hitems := ih .absent rfl
    rw [List.append_nil] at hitems
    simpa using Derives.more hitems hc (.selectItem hn ha)
  | _ => cases hp

/-- A constructor is written as its arguments. -/
theorem writes_constructor {className : String} {args : List Node} {asName : Option String}
    (h : ∀ n ∈ args, PartWrites .argument n) (ha : ∀ a ∈ asName, NameText a) :
    PartWrites .selection (.constructor className args asName) := by
  intro q hw
  simp only [everywhere, Bool.and_eq_true] at hw
  rw [render]
  split
  · exact .throw
  · next hne =>
    have hargs : PhraseWrites (.list .argument args) := ⟨by simpa using hne, h⟩
    refine Yields.commas hargs rfl hw.2 fun w hs => ?_
    refine (Yields.extendedBy .text _).mono fun p hp => ⟨_, hp, ?_⟩
    rw [translateItems, translateItems, List.append_nil]
    refine (hs.trail (trailing_alias ha)).mono ?_
    rintro ts ⟨us, vs, rfl, hus, hvs⟩
    exact derives_constructorItems hus hvs

/-! ## Joins -/

theorem spells_joinWords (kind : JoinKind) :
    Spells isGap (joinWords kind) fun ts =>
      ∃ ks w, ts = ks ++ [w] ∧ JoinWords kind ks ∧ w.Word .join := by
  cases kind with
  | plain =>
    refine (Spells.reserved .join).gap.mono ?_
    rintro ts ⟨w, rfl, hw⟩
    exact ⟨[], w, rfl, .plain, hw⟩
  | inner =>
    refine ((Spells.reserved .inner).gap.lastWord .join rfl).mono ?_
    rintro ts ⟨_, _, rfl, ⟨k, rfl, hk⟩, w, rfl, hw⟩
    exact ⟨[k], w, rfl, .inner hk, hw⟩
  | left =>
    refine ((Spells.reserved .left).gap.lastWord .join rfl).mono ?_
    rintro ts ⟨_, _, rfl, ⟨k, rfl, hk⟩, w, rfl, hw⟩
    exact ⟨[k], w, rfl, .left hk, hw⟩
  | leftOuter =>
    refine (((Spells.reserved .left).gap.lastWord .outer rfl).lastWord .join rfl).mono ?_
    rintro ts ⟨_, _, rfl, ⟨_, _, rfl, ⟨k, rfl, hk⟩, o, rfl, ho⟩, w, rfl, hw⟩
    exact ⟨[k, o], w, rfl, .leftOuter hk ho, hw⟩
  | right =>
    refine ((Spells.reserved .right).gap.lastWord .join rfl).mono ?_
    rintro ts ⟨_, _, rfl, ⟨k, rfl, hk⟩, w, rfl, hw⟩
    exact ⟨[k], w, rfl, .right hk, hw⟩
  | rightOuter =>
    refine (((Spells.reserved .right).gap.lastWord .outer rfl).lastWord .join rfl).mono ?_
    rintro ts ⟨_, _, rfl, ⟨_, _, rfl, ⟨k, rfl, hk⟩, o, rfl, ho⟩, w, rfl, hw⟩
    exact ⟨[k, o], w, rfl, .rightOuter hk ho, hw⟩

/-- An equation is read as an expression. -/
theorem spells_equation {e : Place.Equation} (hl : PathText (e.leftAlias :: nameParts e.leftColumn))
    (hr : PathText (e.rightAlias :: nameParts e.rightColumn)) :
    Spells isGap e.text (Derives false (.part .argument e.node)) := by
  have hsign : Spells (fun _ => true) "=" (One fun t => t.kind = .symbol .equals ∧ t.text = "=") :=
    (Spells.token (.single rfl)).before fun _ _ => rfl
  have htext : e.text = dotted (e.leftAlias :: nameParts e.leftColumn) ++ " " ++ "=" ++ " " ++
      dotted (e.rightAlias :: nameParts e.rightColumn) := by
    simp only [Place.Equation.text, String.append_assoc]
    rfl
  rw [htext]
  refine (((spells_dotted hl).gap.space.next hsign.ofAny).space.next (spells_dotted hr).gap).mono ?_
  rintro ts ⟨_, us, rfl, ⟨ls, _, rfl, hls, t, rfl, hk, ht⟩, hus⟩
  have hleft :
      Derives false (.expression .predicate (.path (e.leftAlias :: nameParts e.leftColumn))) ls :=
    (Derives.path hls).ofPrimary _
  have hright : Derives false
      (.expression .comparison (.path (e.rightAlias :: nameParts e.rightColumn))) us :=
    (Derives.path hus).ofPrimary _
  have hop : Tier.predicate.spelling t = "=" := ht
  have hbinary : Derives false (.expression .predicate e.node) (ls ++ t :: us) := by
    rw [Place.Equation.node, ← hop]
    exact .binary (by rw [hk]; rfl) hleft hright
  rw [List.append_assoc]
  exact .argument (.tighter (.tighter (.tighter hbinary)))

/-- A word with an expression behind it. -/
theorem spells_clause {e : Node} {w text : String} (k : Reserved)
    (htext : text = TokenKind.capitals k.word ++ " ")
    (h : Spells isGap w (Derives false (.part .argument e))) :
    Spells isGap (text ++ w) (Derives false (.clause k (some e))) := by
  refine ((Spells.firstWord k htext).next h).mono ?_
  rintro ts ⟨_, us, rfl, ⟨t, rfl, ht⟩, hus⟩
  exact .someClause ht hus

theorem trailing_on {e : Node} {w : String}
    (h : Spells isGap w (Derives false (.part .argument e))) :
    Trailing (" ON " ++ w) (Derives false (.clause .on (some e))) := by
  have htext : " ON " ++ w = " " ++ ("ON " ++ w) := by
    rw [← String.append_assoc]
    rfl
  rw [htext]
  exact .blank (spells_clause .on rfl h)

/-- The condition of a relation, behind a join. -/
theorem trailing_onText {e? : Option Place.Equation}
    (h : ∀ e ∈ e?, Spells isGap e.text (Derives false (.part .argument e.node))) :
    Trailing (onText e?) (Derives false (.clause .on (e?.map Place.Equation.node))) := by
  cases e? with
  | none =>
    refine Trailing.nil.mono ?_
    rintro ts rfl
    exact .noClause
  | some e => exact trailing_on (h e rfl)

/-- A join with a table, an alias and a condition. -/
theorem joinText_kept {kind : JoinKind} {along : Node} {name table text w : String} {fetch : Bool}
    {condition condition' : Option Node} (htable : isPlainName table = true)
    (hname : isIdentifier name = true)
    (htr : translate q (.join kind along (some name) fetch condition) =
      .join kind (.path (nameParts table)) (some name) false condition')
    (htext : text = joinWords kind ++ " " ++ table ++ " " ++ name ++ w)
    (hw : Trailing w (Derives false (.clause .on condition'))) :
    JoinText q (.join kind along (some name) fetch condition) text := by
  subst htext
  refine .kept ?_ ?_ ?_
  · intro h
    have := congrArg String.toList h
    simp at this
  · simp only [translateJoins]
  · rw [htr]
    have hhead := ((spells_joinWords kind).space.next (spells_plainName htable).gap).space.next
      (Spells.ofGap (spelling_of_isIdentifier hname))
    refine (hhead.trail hw).mono ?_
    rintro ts ⟨_, cs, rfl, ⟨_, _, rfl, ⟨_, ps, rfl, ⟨ks, j, rfl, hks, hj⟩, hps⟩, a, rfl, ha, rfl⟩,
      hcs⟩
    simpa using Derives.join hks hj .absent hps (.bare ha) hcs

theorem nameText_of_joinRelation {parts : List String} {source : String} {r : Relation}
    (hp : PathText parts) (h : joinRelation q.scope parts = some (source, r)) :
    NameText source := by
  obtain ⟨first, rest, rfl, hf, -⟩ := hp
  unfold joinRelation at h
  split at h
  · next source' property heq =>
    cases heq
    obtain ⟨entity, -, h⟩ := Option.bind_eq_some_iff.mp h
    obtain ⟨relation, -, h⟩ := Option.bind_eq_some_iff.mp h
    cases h
    exact hf
  · cases h

/-- The columns of a relation, with the names that they belong to, are paths. -/
theorem spells_joinEquation {parts : List String} {name : String} (hp : PathText parts)
    (hn : isIdentifier name = true)
    (h : ((q.joinEquation? parts name).all fun e =>
      isPlainName e.leftColumn && isPlainName e.rightColumn) = true) :
    ∀ e ∈ q.joinEquation? parts name,
      Spells isGap e.text (Derives false (.part .argument e.node)) := by
  intro e he
  rw [he, Option.all_some, Bool.and_eq_true] at h
  obtain ⟨⟨source, r⟩, hr, rfl⟩ := Option.map_eq_some_iff.mp he
  have hsource := nameText_of_joinRelation hp hr
  have hname := nameText_of_isIdentifier hn
  dsimp only at h ⊢
  split at h
  · next hcollection =>
    rw [if_pos hcollection]
    exact spells_equation (hname.path (words_of_plain h.1)) (hsource.path (words_of_plain h.2))
  · next hcollection =>
    rw [if_neg hcollection]
    exact spells_equation (hsource.path (words_of_plain h.1)) (hname.path (words_of_plain h.2))

theorem writes_join {kind : JoinKind} {parts : List String} {asName : Option String} {fetch : Bool}
    {condition : Option Node} (hp : PathText parts) (hc : ∀ n ∈ condition, PartWrites .argument n) :
    PartWrites .join (.join kind (.path parts) asName fetch condition) := by
  intro q hw
  rw [render]
  cases asName with
  | none =>
    refine (finds_aliasless (.path parts)).yields.mono fun p hp => ⟨"", hp, .dropped ?_⟩
    simp only [translateJoins]
  | some name =>
    simp only [everywhere, isWritableHere, writesPlainNames, hasPlainAlias, Bool.and_eq_true] at hw
    obtain ⟨⟨⟨⟨⟨htable, hon⟩, hname⟩, -⟩, -⟩, hwc⟩ := hw
    rw [given_of_ne (ne_empty_of_spelling (spelling_of_isIdentifier hname))]
    have hparts : Yields q (Rendering.ofTree (Node.path parts).pathParts) (· = parts) :=
      .ofTree fun _ h => by cases h; rfl
    refine hparts.bind fun ps hps => ?_
    subst hps
    refine (finds_joinHead kind ps name).yields.bind fun head hhead => ?_
    subst hhead
    cases condition with
    | none =>
      rw [renderOption, pure_bind]
      refine (finds_joinByRelation ps name _).yields.mono fun p htext => ⟨_, htext, ?_⟩
      exact joinText_kept htable hname (by simp only [translate, partsOf]; rfl) rfl
        (trailing_onText (spells_joinEquation hp hname hon))
    | some test =>
      rw [everywhereOption] at hwc
      rw [renderOption, bind_assoc]
      simp only [pure_bind]
      refine (hc test rfl hwc).display fun w hs => .pure ⟨_, rfl, ?_⟩
      exact joinText_kept htable hname (by simp only [translate, partsOf, Option.getD_some])
        (String.append_assoc ..) (trailing_on hs)

/-! ## Sources -/

theorem derives_joins_append {js ks : List Node} {ts us : List Token}
    (h : Derives false (.joins js) ts) (h' : Derives false (.joins ks) us) :
    Derives false (.joins (js ++ ks)) (ts ++ us) := by
  generalize hp : Phrase.joins ks = p at h'
  induction h' generalizing ks with
  | noJoin =>
    cases hp
    simpa using h
  | moreJoins _ hj ih =>
    cases hp
    simpa using Derives.moreJoins (ih rfl) hj
  | _ => cases hp

theorem translateJoins_cons (q : Place) (n : Node) (ns : List Node) :
    translateJoins q (n :: ns) = translateJoins q [n] ++ translateJoins q ns := by
  cases n with
  | join kind along asName fetch condition => cases asName <;> simp [translateJoins]
  | _ => simp [translateJoins]

/-- Joins are written one behind the other; those that are left out leave nothing behind. -/
theorem yields_joins {ns : List Node} (h : ∀ n ∈ ns, PartWrites .join n)
    (hw : everywhereList isWritableHere q ns = true) :
    Yields q (renderPresent q.scope ns)
      (SpelledBehind (Derives false (.joins (translateJoins q ns)))) := by
  induction ns with
  | nil =>
    rw [renderPresent]
    refine .pure (SpelledBehind.nil.mono ?_)
    rintro ts rfl
    rw [translateJoins]
    exact .noJoin
  | cons n ns ih =>
    rw [everywhereList, Bool.and_eq_true] at hw
    rw [renderPresent]
    refine (h n (by simp) hw.1).bind fun p hp => ?_
    obtain ⟨w, rfl, hjoin⟩ := hp
    refine (Yields.isPresent rfl).bind fun present hpresent => ?_
    subst hpresent
    refine (ih (fun n hn => h n (List.mem_cons_of_mem _ hn)) hw.2).bind fun ps hps => .pure ?_
    rw [translateJoins_cons]
    cases hjoin with
    | dropped hnone =>
      rw [hnone]
      exact hps
    | kept hne hsome hs =>
      rw [hsome, if_pos (by simpa using hne)]
      refine ((SpelledBehind.single ⟨w, .text, hs⟩).append hps).mono ?_
      rintro ts ⟨us, vs, rfl, hus, hvs⟩
      exact derives_joins_append (by simpa using Derives.moreJoins .noJoin hus) hvs

theorem writes_source {entity : String} {asName : Option String} {joins : List Node}
    (h : ∀ n ∈ joins, PartWrites .join n) : PartWrites .source (.fromItem entity asName joins) := by
  intro q hw
  simp only [everywhere, isWritableHere, writesPlainNames, hasPlainAlias, Bool.and_eq_true] at hw
  obtain ⟨⟨⟨⟨htable, halias⟩, -⟩, -⟩, hjoins⟩ := hw
  rw [render]
  refine (finds_table entity).yields.bind fun table ht => ?_
  subst ht
  refine (yields_joins h hjoins).bind fun js hjs => ?_
  have hname : Spells isGap (q.table entity) (Dotted (nameParts (q.table entity))) :=
    (spells_plainName htable).gap
  refine (Yields.spaced (Fragment.shows_ofJson _) hname
    ((spelledBehind_alias halias).append hjs)).bind fun w hs => ?_
  refine .pure ⟨w, .text, hs.2.mono ?_⟩
  rintro ts ⟨ps, _, rfl, hps, as, us, rfl, has, hus⟩
  rw [translate, ← List.append_assoc]
  have hsource := Derives.source hps has hus
  rwa [dotted_nameParts] at hsource

/-! ## Orderings and assignments -/

theorem trailing_direction {direction : Option Direction} {ds : List Token}
    (h : DirectionWord direction ds) :
    Trailing ((direction.map fun d => " " ++ d.word).getD "") (DirectionWord direction) := by
  cases h with
  | absent =>
    refine Trailing.nil.mono ?_
    rintro ts rfl
    exact .absent
  | ascending _ =>
    refine (Trailing.blank (Spells.reserved .asc).gap).mono ?_
    rintro ts ⟨t, rfl, ht⟩
    exact .ascending ht
  | descending _ =>
    refine (Trailing.blank (Spells.reserved .desc).gap).mono ?_
    rintro ts ⟨t, rfl, ht⟩
    exact .descending ht

theorem trailing_nulls {nulls : Option String} {ns : List Token} (h : NullsWords nulls ns) :
    Trailing (((given? nulls).map fun n => " NULLS " ++ n).getD "") (NullsWords nulls) := by
  cases h with
  | absent =>
    refine Trailing.nil.mono ?_
    rintro ts rfl
    exact .absent
  | first _ _ =>
    refine (Trailing.blank ((Spells.reserved .nulls).gap.lastWord .first rfl)).mono ?_
    rintro ts ⟨_, _, rfl, ⟨t, rfl, ht⟩, p, rfl, hp⟩
    exact .first ht hp
  | last _ _ =>
    refine (Trailing.blank ((Spells.reserved .nulls).gap.lastWord .last rfl)).mono ?_
    rintro ts ⟨_, _, rfl, ⟨t, rfl, ht⟩, p, rfl, hp⟩
    exact .last ht hp

theorem writes_orderItem {e : Node} {direction : Option Direction} {nulls : Option String}
    {ds ns : List Token} (h : PartWrites .argument e) (hd : DirectionWord direction ds)
    (hn : NullsWords nulls ns) :
    PartWrites .ordering (.orderItem e direction nulls) := by
  intro q hw
  simp only [everywhere, Bool.and_eq_true] at hw
  rw [render]
  refine (h hw.2).bind fun p hp => ?_
  obtain ⟨w, hpw, hs⟩ := hp
  refine (Yields.extendedBy hpw _).bind fun p hp => ?_
  refine (Yields.extendedBy hp _).mono fun p hp => ⟨_, hp, ?_⟩
  rw [translate]
  refine ((hs.trail (trailing_direction hd)).trail (trailing_nulls hn)).mono ?_
  rintro ts ⟨_, ns, rfl, ⟨us, ds, rfl, hus, hds⟩, hns⟩
  exact .orderItem hus hds hns

theorem writes_assignment {parts : List String} {value : Node} (hp : PathText parts)
    (h : PartWrites .argument value) :
    PartWrites .assignment (.assignment (.path parts) value) := by
  intro q hw
  simp only [everywhere, isWritableHere, writesPlainNames, partsOf, Bool.and_eq_true] at hw
  have hne : parts ≠ [] := by
    obtain ⟨first, rest, rfl, -⟩ := hp
    simp
  have hpath := pathText_targetPath hp hw.1.1.1.1
  have hparts : Yields q (Rendering.ofTree (Node.path parts).pathParts) (· = parts) :=
    .ofTree fun _ h => by cases h; rfl
  rw [render]
  refine hparts.bind fun ps hps => ?_
  subst hps
  refine ((yields_target hne hw.1.1.1.1).mono fun p hp =>
    ⟨_, hp, (spells_dotted hpath).gap⟩).display fun wl hl => ?_
  refine (h hw.2).display fun wv hv => .pure ⟨_, .text, ?_⟩
  have hsign : Spells (fun _ => true) "=" (One fun t => t.Sign .equals) :=
    Spells.symbol rfl rfl fun _ => rfl
  have htext : wl ++ " = " ++ wv = wl ++ " " ++ "=" ++ " " ++ wv := by
    simp only [String.append_assoc]
    rfl
  rw [translate, partsOf, htext]
  refine ((hl.space.next hsign.ofAny).space.next hv).mono ?_
  rintro ts ⟨_, us, rfl, ⟨ls, _, rfl, hls, t, rfl, ht⟩, hus⟩
  rw [List.append_assoc]
  exact .assignment hls ht hus

/-! ## Clauses -/

theorem yields_clause {e : Option Node} {keyword : String} (k : Reserved)
    (hk : keyword = TokenKind.capitals k.word ++ " ") (h : ∀ n ∈ e, PartWrites .argument n)
    (hw : everywhereOption isWritableHere q e = true) :
    Yields q (renderClause q.scope keyword e)
      (SpelledBehind (Derives false (.clause k (translateOption q e)))) := by
  cases e with
  | none =>
    rw [renderClause, translateOption]
    refine .pure (SpelledBehind.nil.mono ?_)
    rintro ts rfl
    exact .noClause
  | some n =>
    rw [everywhereOption] at hw
    rw [renderClause, translateOption]
    refine (h n rfl hw).bind fun p hp => ?_
    obtain ⟨w, hpw, hs⟩ := hp
    refine (Yields.after hpw).bind fun p hp => .pure ?_
    exact .single ⟨_, hp, spells_clause k hk hs⟩

/-- A clause of several expressions. -/
theorem yields_byClause {α : Type} {S : α → Prop} {k : Part} {ns : List Node} {keyword : String}
    {f : List Fragment → Rendering α} (word : Reserved)
    (hkey : keyword = TokenKind.capitals word.word ++ " BY ") (hk : isItem k = true)
    (h : ∀ n ∈ ns, PartWrites k n) (hw : everywhereList isWritableHere q ns = true)
    (hf : ∀ ps, SpelledBehind (Derives false (.byClause word k (itemsOf q k ns))) ps →
      Yields q (f ps) S) :
    Yields q (renderList q.scope ns >>= fun ps => itemsClause keyword ps >>= f) S := by
  cases ns with
  | nil =>
    rw [renderList, pure_bind]
    refine hf [] (SpelledBehind.nil.mono ?_)
    rintro ts rfl
    have hnone : itemsOf q k [] = [] := by
      unfold itemsOf
      split
      · rw [translateItems]
      · rw [translateList]
    rw [hnone]
    exact .noByClause
  | cons n ns =>
    refine (yields_list (by simp) h hk hw).bind fun ps hps => ?_
    obtain ⟨ws, hpws, hne, hs⟩ := hps
    have hps : ps.isEmpty = false := by
      cases hpws with
      | nil => exact absurd rfl hne
      | cons => rfl
    rw [itemsClause, hps, if_neg Bool.false_ne_true, bind_assoc]
    refine (Yields.strung hpws).bind fun w hw => ?_
    subst hw
    rw [pure_bind]
    refine hf _ (.single ⟨_, .text, ?_⟩)
    have htext : keyword = TokenKind.capitals word.word ++ " " ++ "BY " := by
      rw [hkey, String.append_assoc]
      rfl
    rw [htext]
    refine (((Spells.firstWord word rfl).next (Spells.firstWord .byWord rfl)).next hs).mono ?_
    rintro ts ⟨_, us, rfl, ⟨_, _, rfl, ⟨t, rfl, ht⟩, b, rfl, hb⟩, hus⟩
    exact .someByClause ht hb hus

/-! ## Statements -/

theorem writes_select {items sources grouping ordering : List Node} {distinct : Bool}
    {condition having : Option Node} (hi : PhraseWrites (.list .selection items))
    (hs : PhraseWrites (.list .source sources)) (hc : ∀ n ∈ condition, PartWrites .argument n)
    (hg : ∀ n ∈ grouping, PartWrites .argument n) (hh : ∀ n ∈ having, PartWrites .argument n)
    (ho : ∀ n ∈ ordering, PartWrites .ordering n) :
    PartWrites .select (.select items sources distinct condition grouping having ordering) := by
  intro q hw
  simp only [everywhere, Bool.and_eq_true] at hw
  obtain ⟨⟨⟨⟨⟨⟨-, hwi⟩, hws⟩, hwc⟩, hwg⟩, hwh⟩, hwo⟩ := hw
  rw [render]
  refine Yields.commas hs rfl hws fun ws hss => ?_
  refine Yields.commas hi rfl hwi fun wi his => ?_
  refine (yields_clause .whereWord rfl hc hwc).bind fun cs hcs => ?_
  refine yields_byClause .group rfl rfl hg hwg fun gs hgs => ?_
  refine (yields_clause .having rfl hh hwh).bind fun vs hvs => ?_
  refine yields_byClause .order rfl rfl ho hwo fun os hos => ?_
  have hselect : Spells isGap ((if distinct then "SELECT DISTINCT " else "SELECT ") ++ wi) fun ts =>
      ∃ w ds is, ts = w :: ds ++ is ∧ w.Word .select ∧ Mark (.reserved .distinct) distinct ds ∧
        Derives false (.list .selection (translateItems q items)) is := by
    have htext : (if distinct then "SELECT DISTINCT " else "SELECT ") =
        "SELECT " ++ (if distinct then "DISTINCT " else "") := by cases distinct <;> rfl
    rw [htext]
    refine (((Spells.firstWord .select rfl).next (spells_distinct distinct)).next his).mono ?_
    rintro ts ⟨_, is, rfl, ⟨_, ds, rfl, ⟨w, rfl, hw⟩, hds⟩, his⟩
    exact ⟨w, ds, is, rfl, hw, hds, his⟩
  have hfrom :
      SpelledBehind (Both (One fun t => t.Word .fromWord)
        (Derives false (.list .source (translateList q sources))))
      [.text ("FROM " ++ ws)] := .single ⟨_, .text, (Spells.firstWord .fromWord rfl).next hss⟩
  refine (Yields.spaced .text hselect
    ((((hfrom.append hcs).append hgs).append hvs).append hos)).bind fun w hw => ?_
  refine .pure ⟨w, .text, hw.2.mono ?_⟩
  rintro ts ⟨_, _, rfl, ⟨w, ds, is, rfl, hw, hds, his⟩, _, os, rfl,
    ⟨_, vs, rfl, ⟨_, gs, rfl, ⟨_, cs, rfl, ⟨_, ss, rfl, ⟨f, rfl, hf⟩, hss⟩, hcs⟩, hgs⟩, hvs⟩, hos⟩
  rw [translate]
  simpa [itemsOf] using Derives.select hw hds his hf hss hcs hgs hvs hos

theorem writes_ofSelect {n : Node} (h : PartWrites .select n) : PartWrites .statement n := by
  intro q _ _ hw
  exact (h hw).mono fun p hp => hp.mono fun _ => .ofSelect

/-- The place inside an update or a delete. -/
theorem Place.Holds.move {s : RenderState} {target targetAlias : Option String} (h : q.Holds s) :
    Place.Holds { q with target, targetAlias } { s with target, targetAlias } :=
  ⟨rfl, rfl, h.columns⟩

theorem writes_update {entity : String} {asName : Option String} {assignments : List Node}
    {condition : Option Node} (h : PhraseWrites (.list .assignment assignments))
    (hc : ∀ n ∈ condition, PartWrites .argument n) :
    PartWrites .statement (.update entity asName assignments condition) := by
  intro q htarget halias hw
  simp only [everywhere, isWritableHere, writesPlainNames, hasPlainAlias, Bool.and_eq_true] at hw
  obtain ⟨⟨⟨⟨⟨htable, hname⟩, -⟩, -⟩, hwa⟩, hwc⟩ := hw
  rw [render]
  refine Leads.modify (fun s hs => hs.move) ?_
  refine (finds_table entity).yields.before fun table ht => ?_
  refine Yields.before (yields_list h.1 h.2 rfl hwa) fun ps hps => ?_
  obtain ⟨ws, hpws, -, has⟩ := hps
  refine Yields.before (Yields.strung hpws) fun wa hwa => ?_
  subst ht hwa
  refine Yields.before (yields_clause .whereWord rfl hc hwc) fun cs hcs => ?_
  refine Leads.modify (r := q) (fun s hs => ⟨htarget.symm, halias.symm, hs.columns⟩) ?_
  have hpath : Spelled (Dotted (nameParts (q.table entity)))
      (.ofJson (q.scope.schema.tableName entity)) :=
    ⟨_, Fragment.shows_ofJson _, (spells_plainName htable).gap⟩
  have hset := SpelledBehind.single ⟨_, .text, (Spells.firstWord .set rfl).next has⟩
  have hupdate : Spells isGap "UPDATE" (One fun t => t.Word .update) :=
    (Spells.reserved .update).gap
  have hpieces :=
    (((SpelledBehind.single hpath).append (spelledBehind_alias hname)).append hset).append hcs
  refine (Yields.spaced .text hupdate hpieces).bind fun w hw => .pure ⟨w, .text, hw.2.mono ?_⟩
  rintro ts ⟨_, _, rfl, ⟨u, rfl, hu⟩, _, cs, rfl,
    ⟨_, _, rfl, ⟨ps, as, rfl, hps, has⟩, _, us, rfl, ⟨k, rfl, hk⟩, hus⟩, hcs⟩
  have hstatement := Derives.update hu hps has hk hus hcs
  rw [dotted_nameParts] at hstatement
  rw [translate]
  simpa [itemsOf] using hstatement

theorem writes_delete {entity : String} {asName : Option String} {condition : Option Node}
    (hc : ∀ n ∈ condition, PartWrites .argument n) :
    PartWrites .statement (.delete entity asName condition) := by
  intro q htarget halias hw
  simp only [everywhere, isWritableHere, writesPlainNames, hasPlainAlias, Bool.and_eq_true] at hw
  obtain ⟨⟨⟨⟨htable, hname⟩, -⟩, -⟩, hwc⟩ := hw
  rw [render]
  refine Leads.modify (r := { q with target := some entity })
    (fun s hs => ⟨rfl, hs.targetAlias, hs.columns⟩) ?_
  refine (finds_table entity).yields.before fun table ht => ?_
  subst ht
  refine Yields.before (yields_clause .whereWord rfl hc hwc) fun cs hcs => ?_
  refine Leads.modify (r := q) (fun s hs => ⟨htarget.symm, hs.targetAlias, hs.columns⟩) ?_
  have hpath : Spelled (Dotted (nameParts (q.table entity)))
      (.ofJson (q.scope.schema.tableName entity)) :=
    ⟨_, Fragment.shows_ofJson _, (spells_plainName htable).gap⟩
  have hdelete : Spells isGap "DELETE FROM"
      (Both (One fun t => t.Word .delete) (One fun t => t.Word .fromWord)) :=
    (Spells.reserved .delete).gap.lastWord .fromWord rfl
  have hpieces := ((SpelledBehind.single hpath).append (spelledBehind_alias hname)).append hcs
  refine (Yields.spaced .text hdelete hpieces).bind fun w hw => .pure ⟨w, .text, hw.2.mono ?_⟩
  rintro ts ⟨_, _, rfl, ⟨_, _, rfl, ⟨d, rfl, hd⟩, f, rfl, hf⟩, _, cs, rfl,
    ⟨ps, as, rfl, hps, has⟩, hcs⟩
  have hstatement := Derives.delete hd (.present hf) hps has hcs
  rw [dotted_nameParts] at hstatement
  rw [translate]
  simpa using hstatement

/-- `INSERT` is refused. -/
theorem writes_insert (entity : String) (targets : List Node) (source : Option Node) :
    PartWrites .statement (.insert entity targets source) := by
  intro q _ _ _
  rw [render]
  exact .throw

end EntityQuery.Sql
