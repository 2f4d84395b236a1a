import EntityQuery.Proofs.Grammar.Nesting
import EntityQuery.Proofs.Grammar.Read

/-!
# Every derivation is read

What the restricted grammar derives is read, as the tree that it derives. Together with soundness
this makes the restricted grammar unambiguous.

1. Lists, clauses and statements, by the rules of the grammar.
2. `Derives.read`, by induction on the derivation. The nesting depth of a tree is the number of
   levels that it takes.
3. Whole queries, and that no list of tokens derives two trees.
-/

namespace EntityQuery

open Grammar EntityQuery.Stream

namespace Grammar

open Reading

/-! ## Lists and optional clauses -/

section Lists

variable {inner : Entry → Reading Node} {s k m : Stream}

theorem list_ok {p : Part} {ns : List Node} (h : (Phrase.list p ns).Read inner s m)
    (hp : p.continues (.symbol .comma) = false) (hm : p.continues m.current.kind = false)
    (hc : m.current.kind ≠ .symbol .comma) : commaSeparated (p.reading inner) s = .ok (ns, m) := by
  obtain ⟨a, i, ha, hr⟩ := h hp hm
  exact commaSeparated_ok ha hr hc

theorem read_one {p : Part} {n : Node} (h : (Phrase.part p n).Read inner s m) :
    (Phrase.list p [n]).Read inner s m :=
  fun _ hm => ⟨n, m, h hm, .none⟩

theorem read_more {p : Part} {ns : List Node} {n : Node} {ts us : List Token} {comma : Token}
    (hc : comma.Sign .comma) (hT : s.Takes (ts ++ comma :: us) m)
    (h : ∀ {i}, s.Takes ts i → (Phrase.list p ns).Read inner s i)
    (hn : ∀ {i}, i.Takes us m → (Phrase.part p n).Read inner i m) :
    (Phrase.list p (ns ++ [n])).Read inner s m := by
  intro hp hm
  obtain ⟨i, hi, hT⟩ := takes_append.mp hT
  have hl := hT.length_lt
  obtain ⟨rfl, -, hu⟩ := takes_cons.mp hT
  obtain ⟨a, j, ha, hr⟩ := h hi hp (by rw [hc]; exact hp)
  exact ⟨a, j, ha, .more hr (commaStep_more hc (hn hu hm)) hl⟩

theorem read_noArgument : (Phrase.arguments []).Read inner s s := by
  intro hc fault
  rw [Reading.arguments, bind_ok (accept_ok hc)]
  rfl

theorem read_someArguments {args : List Node} {ts : List Token} (hT : s.Takes ts m)
    (hs : StartsWith Tier.disjunction.starts ts) (h : (Phrase.list .argument args).Read inner s m) :
    (Phrase.arguments args).Read inner s m := by
  intro hc fault
  have hne : s.current.kind ≠ .symbol .rightParen := by
    intro hp
    have hk := hs.current hT
    rw [hp] at hk
    cases hk
  have hlist : commaSeparated (inner .expression) s = .ok (args, m) :=
    list_ok h rfl (by rw [hc]; rfl) (by rw [hc]; simp)
  rw [Reading.arguments, bind_ok (accept_other hne), if_neg Bool.false_ne_true, bind_ok hlist,
    bind_ok (expect_ok hc)]
  rfl

theorem read_noByClause {w : Reserved} {p : Part} : (Phrase.byClause w p []).Read inner s s := by
  intro _ _ _ hw fault
  rw [byReading, bind_ok (accept_other hw)]
  rfl

theorem read_someByClause {w : Reserved} {p : Part} {ns : List Node} (ht : s.current.Word w)
    (hb : s.tail.current.Word .byWord) (h : (Phrase.list p ns).Read inner s.tail.tail m) :
    (Phrase.byClause w p ns).Read inner s m := by
  intro hp hm hc _ fault
  rw [byReading, bind_ok (accept_ok ht), if_pos rfl, bind_ok (expect_ok hb)]
  exact list_ok h hp hm hc

theorem read_moreBranches {bs : List Node} {condition result : Node} {ts us vs : List Token}
    {w t : Token} (hw : w.Word .whenWord) (ht : t.Word .thenWord)
    (hT : s.Takes (ts ++ w :: us ++ t :: vs) m)
    (h : ∀ {i}, s.Takes ts i → (Phrase.branches bs).Read inner s i)
    (hc : ∀ {i j}, i.Takes us j → (Phrase.part .argument condition).Read inner i j)
    (hr : ∀ {i}, i.Takes vs m → (Phrase.part .argument result).Read inner i m) :
    (Phrase.branches (bs ++ [.branch condition result])).Read inner s m := by
  intro hm
  rw [List.append_assoc] at hT
  obtain ⟨i, hi, hT⟩ := takes_append.mp hT
  have hl := hT.length_lt
  simp only [List.cons_append, takes_append, takes_cons] at hT
  obtain ⟨rfl, -, j, hj, rfl, -, hv⟩ := hT
  exact .more (h hi (by rw [hw]; rfl))
    (branchStep_more hw (hc hj (by rw [ht]; rfl)) ht (hr hv hm)) hl

theorem join_continues_of_startsJoin {k : TokenKind} (h : startsJoin k = true) :
    Part.join.continues k = false := by
  unfold startsJoin at h
  split at h
  all_goals first
    | rfl
    | cases h

theorem read_moreJoins {js : List Node} {j : Node} {ts us : List Token}
    (hs : StartsWith startsJoin us) (hT : s.Takes (ts ++ us) m)
    (h : ∀ {i}, s.Takes ts i → (Phrase.joins js).Read inner s i)
    (hj : ∀ {i}, i.Takes us m → (Phrase.part .join j).Read inner i m) :
    (Phrase.joins (js ++ [j])).Read inner s m := by
  intro hm
  obtain ⟨i, hi, hT⟩ := takes_append.mp hT
  have hstart := hs.current hT
  have hjoin : Reading.join inner i = .ok (j, m) := hj hT hm
  refine .more (h hi (join_continues_of_startsJoin hstart)) ?_ (hs.length_lt hT)
  rw [joinStep, bind_ok rfl, if_pos hstart, bind_ok hjoin]
  rfl

theorem joins_ok {js : List Node} (h : (Phrase.joins js).Read inner s m)
    (hm : Part.source.continues m.current.kind = false) :
    Reading.joins inner s = .ok (js, m) := by
  rw [Part.continues, Bool.or_eq_false_iff] at hm
  show loop (joinStep inner) [] s = _
  refine loop_ok (h hm.1) ?_
  rw [joinStep, bind_ok rfl, if_neg (by rw [hm.2]; exact Bool.false_ne_true)]
  rfl

end Lists

/-! ## Items and statements -/

section Statements

variable {inner : Entry → Reading Node} {s k m : Stream}

/-- The tokens that an alias starts with prolong nothing else. -/
theorem grip_of_opensAlias {k : TokenKind} (h : opensAlias k = true) : grip k = 0 := by
  simp only [opensAlias, Bool.or_eq_true, decide_eq_true_eq] at h
  rcases h with rfl | rfl <;> rfl

theorem ne_dot_of_grip {k : TokenKind} (h : grip k = 0) : k ≠ .symbol .dot := by
  rintro rfl
  cases h

theorem grip_of_continues {k : TokenKind} (h : Tier.disjunction.continues k = false) :
    grip k = 0 := by
  have : ¬1 ≤ grip k := of_decide_eq_false h
  omega

theorem continues_of_grip {k : TokenKind} (h : grip k = 0) :
    Tier.disjunction.continues k = false := by
  rw [Tier.continues, h]
  rfl

theorem read_selectItem {e : Node} {asName : Option String} {ts us : List Token}
    (hT : s.Takes (ts ++ us) m) (hs : StartsWith Tier.disjunction.starts ts) (ha : Alias asName us)
    (h : ∀ {i}, s.Takes ts i → (Phrase.part .argument e).Read inner s i) :
    (Phrase.part .selection (.selectItem e asName)).Read inner s m := by
  intro hm
  rw [Part.continues, Bool.or_eq_false_iff] at hm
  obtain ⟨i, hi, hT⟩ := takes_append.mp hT
  have hgrip : grip i.current.kind = 0 :=
    ha.mayStart.current (P := fun k => grip k = 0) hT (fun _ => grip_of_opensAlias)
      (grip_of_continues hm.1)
  have he : inner .expression s = .ok (e, i) := h hi (continues_of_grip hgrip)
  have hnew : s.current.kind ≠ .reserved .new := by
    intro hn
    have hk := hs.current hi
    rw [hn] at hk
    cases hk
  show Reading.selectItem inner s = _
  rw [Reading.selectItem, bind_ok (accept_other hnew), if_neg Bool.false_ne_true, bind_ok he,
    bind_ok (alias_ok ha hT hm.2)]
  rfl

theorem read_constructor {parts : List String} {args : List Node} {asName : Option String}
    {ns ts us : List Token} {o c : Token} (hw : s.current.Word .new) (hn : Dotted parts ns)
    (ho : o.Sign .leftParen) (hc : c.Sign .rightParen) (ha : Alias asName us)
    (hT : s.tail.Takes (ns ++ o :: ts ++ c :: us) m)
    (h : ∀ {i j}, i.Takes ts j → (Phrase.arguments args).Read inner i j) :
    (Phrase.part .selection (.constructor (dotted parts) args asName)).Read inner s m := by
  intro hm
  rw [Part.continues, Bool.or_eq_false_iff] at hm
  simp only [List.append_assoc, List.cons_append, takes_append, takes_cons] at hT
  obtain ⟨i, hi, rfl, -, j, hj, rfl, -, hu⟩ := hT
  show Reading.selectItem inner s = _
  rw [Reading.selectItem, bind_ok (accept_ok hw), if_pos rfl,
    bind_ok (entityName_ok hn hi (by rw [ho]; simp)), bind_ok (expect_ok ho), bind_ok (h hj hc _),
    bind_ok (alias_ok ha hu hm.2)]
  rfl

theorem read_join {kind : JoinKind} {parts : List String} {asName : Option String} {fetch : Bool}
    {condition : Option Node} {ks fs ps as cs : List Token} {w : Token} (hk : JoinWords kind ks)
    (hw : w.Word .join) (hf : Mark (.reserved .fetch) fetch fs) (hp : Dotted parts ps)
    (ha : Alias asName as) (hcs : MayStartWith (fun k => decide (k = .reserved .on)) cs)
    (hT : s.Takes (ks ++ w :: fs ++ ps ++ as ++ cs) m)
    (hc : ∀ {i}, i.Takes cs m → (Phrase.clause .on condition).Read inner i m) :
    (Phrase.part .join (.join kind (.path parts) asName fetch condition)).Read inner s m := by
  intro hm
  simp only [Part.continues, Bool.or_eq_false_iff, decide_eq_false_iff_not] at hm
  obtain ⟨⟨hm, halias⟩, hon⟩ := hm
  simp only [List.append_assoc, List.cons_append, takes_append, takes_cons] at hT
  obtain ⟨i, hi, rfl, -, j, hj, p, hp', a, ha', hcs'⟩ := hT
  have hgrip := grip_of_continues hm
  -- What stands behind the path, and behind the alias, is seen through the optional parts.
  have hga : grip a.current.kind = 0 ∧ opensAlias a.current.kind = false :=
    hcs.current (P := fun k => grip k = 0 ∧ opensAlias k = false) hcs'
      (fun k hk => by rw [of_decide_eq_true hk]; exact ⟨rfl, rfl⟩) ⟨hgrip, halias⟩
  have hgp : grip p.current.kind = 0 :=
    ha.mayStart.current (P := fun k => grip k = 0) ha' (fun _ => grip_of_opensAlias) hga.1
  have hfetch : j.current.kind ≠ .reserved .fetch := by
    intro h
    have hn := hp.starts.current hp'
    rw [h] at hn
    cases hn
  show Reading.join inner s = _
  rw [Reading.join, bind_ok (joinKind_ok hk hi hw), bind_ok (expect_ok hw),
    bind_ok (accept_mark hf hj hfetch), bind_ok (path_ok hp hp' (ne_dot_of_grip hgp)),
    bind_ok (alias_ok ha ha' hga.2), bind_ok (hc hcs' hm hon)]
  rfl

theorem startsJoin_harmless {k : TokenKind} (h : startsJoin k = true) :
    grip k = 0 ∧ opensAlias k = false := by
  unfold startsJoin at h
  split at h
  all_goals first
    | exact ⟨rfl, rfl⟩
    | cases h

theorem read_source {parts : List String} {asName : Option String} {js : List Node}
    {ps as ts : List Token} (hp : Dotted parts ps) (ha : Alias asName as)
    (hjs : MayStartWith startsJoin ts) (hT : s.Takes (ps ++ as ++ ts) m)
    (hj : ∀ {i}, i.Takes ts m → (Phrase.joins js).Read inner i m) :
    (Phrase.part .source (.fromItem (dotted parts) asName js)).Read inner s m := by
  intro hm
  have hm' := hm
  simp only [Part.continues, Bool.or_eq_false_iff, decide_eq_false_iff_not] at hm'
  simp only [List.append_assoc, takes_append] at hT
  obtain ⟨p, hp', a, ha', hT⟩ := hT
  have hga : grip a.current.kind = 0 ∧ opensAlias a.current.kind = false :=
    hjs.current (P := fun k => grip k = 0 ∧ opensAlias k = false) hT (fun _ => startsJoin_harmless)
      ⟨grip_of_continues hm'.1.1.1, hm'.1.1.2⟩
  have hgp : grip p.current.kind = 0 :=
    ha.mayStart.current (P := fun k => grip k = 0) ha' (fun _ => grip_of_opensAlias) hga.1
  show fromItem inner s = _
  rw [fromItem, bind_ok (entityName_ok hp hp' (ne_dot_of_grip hgp)),
    bind_ok (alias_ok ha ha' hga.2), bind_ok (joins_ok (hj hT) hm)]
  rfl

theorem read_orderItem {e : Node} {direction : Option Direction} {nulls : Option String}
    {ts ds ns : List Token} (hd : DirectionWord direction ds) (hn : NullsWords nulls ns)
    (hT : s.Takes (ts ++ ds ++ ns) m)
    (h : ∀ {i}, s.Takes ts i → (Phrase.part .argument e).Read inner s i) :
    (Phrase.part .ordering (.orderItem e direction nulls)).Read inner s m := by
  intro hm
  simp only [Part.continues, Bool.or_eq_false_iff, decide_eq_false_iff_not] at hm
  obtain ⟨⟨⟨hm, hasc⟩, hdesc⟩, hnulls⟩ := hm
  simp only [List.append_assoc, takes_append] at hT
  obtain ⟨i, hi, j, hj, hT⟩ := hT
  have hgj : grip j.current.kind = 0 ∧ j.current.kind ≠ .reserved .asc ∧
      j.current.kind ≠ .reserved .desc :=
    hn.mayStart.current (P := fun k => grip k = 0 ∧ k ≠ .reserved .asc ∧ k ≠ .reserved .desc) hT
      (fun k hk => by rw [of_decide_eq_true hk]; exact ⟨rfl, by simp, by simp⟩)
      ⟨grip_of_continues hm, hasc, hdesc⟩
  have hgi : grip i.current.kind = 0 := by
    refine hd.mayStart.current (P := fun k => grip k = 0) hj (fun k hk => ?_) hgj.1
    simp only [Bool.or_eq_true, decide_eq_true_eq] at hk
    rcases hk with rfl | rfl <;> rfl
  have he : inner .expression s = .ok (e, i) := h hi (continues_of_grip hgi)
  show Reading.orderItem inner s = _
  rw [Reading.orderItem, bind_ok he, bind_ok (direction_ok hd hj hgj.2.1 hgj.2.2),
    bind_ok (nullsPlace_ok hn hT hnulls)]
  rfl

theorem read_assignment {parts : List String} {value : Node} {ps ts : List Token} {eq : Token}
    (hp : Dotted parts ps) (he : eq.Sign .equals) (hT : s.Takes (ps ++ eq :: ts) m)
    (h : ∀ {i}, i.Takes ts m → (Phrase.part .argument value).Read inner i m) :
    (Phrase.part .assignment (.assignment (.path parts) value)).Read inner s m := by
  intro hm
  simp only [takes_append, takes_cons] at hT
  obtain ⟨i, hi, rfl, -, hT⟩ := hT
  have hv : inner .expression i.tail = .ok (value, m) := h hT hm
  show Reading.assignment inner s = _
  rw [Reading.assignment, bind_ok (path_ok hp hi (by rw [he]; simp)), bind_ok (expect_ok he),
    bind_ok hv]
  rfl

end Statements

section WholeStatements

variable {inner : Entry → Reading Node} {s m : Stream}

/-- Behind a list of items, an optional clause is at the place that the order of clauses
gives it. -/
theorem clauseRank_current {w : Reserved} {ts : List Token} {i j : Stream} {n : Nat}
    (h : MayStartWith (fun k => decide (k = .reserved w)) ts) (hT : i.Takes ts j)
    (hw : n ≤ clauseRank (.reserved w)) (hj : n ≤ clauseRank j.current.kind) :
    n ≤ clauseRank i.current.kind :=
  h.current (P := fun k => n ≤ clauseRank k) hT
    (fun k hk => by rw [of_decide_eq_true hk]; exact hw) hj

/-- A token is not the word of an earlier clause. -/
theorem ne_of_clauseRank {k : TokenKind} {w : Reserved}
    (h : clauseRank (.reserved w) < clauseRank k) : k ≠ .reserved w := by
  rintro rfl
  exact Nat.lt_irrefl _ h

theorem selectStatement_ok {items sources grouping ordering : List Node} {distinct : Bool}
    {condition having : Option Node} {ds is ss cs gs vs os : List Token} {w f : Token}
    (hw : w.Word .select) (hd : Mark (.reserved .distinct) distinct ds) (hf : f.Word .fromWord)
    (hT : s.Takes (w :: ds ++ is ++ f :: ss ++ cs ++ gs ++ vs ++ os) m)
    (his : StartsWith Part.selection.starts is)
    (hcs : MayStartWith (fun k => decide (k = .reserved .whereWord)) cs)
    (hgs : MayStartWith (fun k => decide (k = .reserved .group)) gs)
    (hvs : MayStartWith (fun k => decide (k = .reserved .having)) vs)
    (hos : MayStartWith (fun k => decide (k = .reserved .order)) os)
    (hi : ∀ {i j}, i.Takes is j → (Phrase.list .selection items).Read inner i j)
    (hs : ∀ {i j}, i.Takes ss j → (Phrase.list .source sources).Read inner i j)
    (hc : ∀ {i j}, i.Takes cs j → (Phrase.clause .whereWord condition).Read inner i j)
    (hg : ∀ {i j}, i.Takes gs j → (Phrase.byClause .group .argument grouping).Read inner i j)
    (hh : ∀ {i j}, i.Takes vs j → (Phrase.clause .having having).Read inner i j)
    (ho : ∀ {i j}, i.Takes os j → (Phrase.byClause .order .ordering ordering).Read inner i j)
    (hm : Part.select.continues m.current.kind = false) :
    selectStatement inner s = .ok
      (.select items sources distinct condition grouping having ordering, m) := by
  simp only [List.append_assoc, List.cons_append, takes_append, takes_cons] at hT
  obtain ⟨rfl, -, i₁, h₁, i₂, h₂, rfl, -, i₃, h₃, i₄, h₄, i₅, h₅, i₆, h₆, h₇⟩ := hT
  -- Each clause stands behind the earlier ones, whichever of them are there.
  have r₇ : clauseRank m.current.kind = 5 := clauseRank_of_select hm
  have r₆ : 4 ≤ clauseRank i₆.current.kind := clauseRank_current hos h₇ (by decide) (by omega)
  have r₅ : 3 ≤ clauseRank i₅.current.kind := clauseRank_current hvs h₆ (by decide) (by omega)
  have r₄ : 2 ≤ clauseRank i₄.current.kind := clauseRank_current hgs h₅ (by decide) (by omega)
  have r₃ : 1 ≤ clauseRank i₃.current.kind := clauseRank_current hcs h₄ (by decide) (by omega)
  have grips : ∀ {k : TokenKind}, 1 ≤ clauseRank k → Tier.disjunction.continues k = false := by
    intro k hk
    have := (continues_of_clauseRank hk).1
    simp only [Part.continues, Bool.or_eq_false_iff] at this
    exact this.1.1.1
  have hdistinct : i₁.current.kind ≠ .reserved .distinct := by
    intro h
    have hk := his.current h₂
    rw [h] at hk
    cases hk
  have hsources : commaSeparated (fromItem inner) i₂.tail = .ok (sources, i₃) :=
    list_ok (hs h₃) rfl (continues_of_clauseRank r₃).1 (continues_of_clauseRank r₃).2.2
  have hitems : commaSeparated (Reading.selectItem inner) i₁ = .ok (items, i₂) :=
    list_ok (hi h₂) rfl (by rw [hf]; rfl) (by rw [hf]; simp)
  have hcondition : condition? inner i₃ = .ok (condition, i₄) :=
    hc h₄ (grips (by omega)) (ne_of_clauseRank (show 1 < _ by omega))
  have hgrouping : Reading.grouping inner i₄ = .ok (grouping, i₅) :=
    hg h₅ rfl (grips (by omega)) (continues_of_clauseRank (by omega)).2.2
      (ne_of_clauseRank (show 2 < _ by omega)) _
  have hhaving : behind (.reserved .having) (inner .expression) i₅ = .ok (having, i₆) :=
    hh h₆ (grips (by omega)) (ne_of_clauseRank (show 3 < _ by omega))
  have hordering : Reading.ordering inner i₆ = .ok (ordering, m) :=
    ho h₇ rfl (continues_of_clauseRank (by omega)).2.1 (continues_of_clauseRank (by omega)).2.2
      (ne_of_clauseRank (show 4 < _ by omega)) _
  rw [selectStatement, bind_ok (expect_ok hw), bind_ok (accept_mark hd h₁ hdistinct),
    bind_ok hitems, bind_ok (expect_ok hf), bind_ok hsources, bind_ok hcondition, bind_ok hgrouping,
    bind_ok hhaving, bind_ok hordering]
  rfl

/-- What ends a statement prolongs nothing in it. -/
theorem ends_statement {k : TokenKind} (h : Part.statement.continues k = false) :
    Part.select.continues k = false := by
  simp only [Part.continues, Bool.and_eq_false_iff] at h ⊢
  rcases h with h | h
  · exact .inl (.inr h)
  · exact .inr h

theorem read_ofSelect {q : Node} (hs : s.current.Word .select)
    (h : (Phrase.part .select q).Read inner s m) :
    (Phrase.part .statement q).Read inner s m := by
  intro hm
  show Reading.statement inner s = _
  rw [Reading.statement, bind_ok rfl]
  simp only [show s.current.kind = _ from hs]
  exact h (ends_statement hm)

/-- The condition of a statement, and what stands before it. -/
theorem condition_ok {condition : Option Node} {cs : List Token} {i : Stream}
    (hcs : MayStartWith (fun k => decide (k = .reserved .whereWord)) cs) (hT : i.Takes cs m)
    (hm : Part.statement.continues m.current.kind = false)
    (h : (Phrase.clause .whereWord condition).Read inner i m) :
    condition? inner i = .ok (condition, m) ∧ 1 ≤ clauseRank i.current.kind := by
  have hr : clauseRank m.current.kind = 5 := clauseRank_of_select (ends_statement hm)
  refine ⟨h ?_ (ne_of_clauseRank (show 1 < _ by omega)),
    clauseRank_current hcs hT (by decide) (by omega)⟩
  have := (continues_of_clauseRank (show 1 ≤ clauseRank m.current.kind by omega)).1
  simp only [Part.continues, Bool.or_eq_false_iff] at this
  exact this.1.1.1

theorem read_update {parts : List String} {asName : Option String} {assignments : List Node}
    {condition : Option Node} {ps as ts cs : List Token} {w k : Token} (hw : w.Word .update)
    (hp : Dotted parts ps) (ha : Alias asName as) (hk : k.Word .set)
    (hcs : MayStartWith (fun k => decide (k = .reserved .whereWord)) cs)
    (hT : s.Takes (w :: ps ++ as ++ k :: ts ++ cs) m)
    (h : ∀ {i j}, i.Takes ts j → (Phrase.list .assignment assignments).Read inner i j)
    (hc : ∀ {i j}, i.Takes cs j → (Phrase.clause .whereWord condition).Read inner i j) :
    (Phrase.part .statement (.update (dotted parts) asName assignments condition)).Read
      inner s m := by
  intro hm
  simp only [List.append_assoc, List.cons_append, takes_append, takes_cons] at hT
  obtain ⟨rfl, -, p, hp', a, ha', rfl, -, i, hi, hT⟩ := hT
  obtain ⟨hcondition, hr⟩ := condition_ok hcs hT hm (hc hT)
  have hgp : grip p.current.kind = 0 :=
    ha.mayStart.current (P := fun k => grip k = 0) ha' (fun _ => grip_of_opensAlias)
      (by rw [hk]; rfl)
  have hcontinues := continues_of_clauseRank hr
  simp only [Part.continues, Bool.or_eq_false_iff] at hcontinues
  have hassignments : commaSeparated (Reading.assignment inner) a.tail = .ok (assignments, i) :=
    list_ok (h hi) rfl hcontinues.1.1.1.1 hcontinues.2.2
  show Reading.statement inner s = _
  rw [Reading.statement, bind_ok rfl]
  simp only [show s.current.kind = _ from hw]
  rw [updateStatement, bind_ok (expect_ok hw), bind_ok (entityName_ok hp hp' (ne_dot_of_grip hgp)),
    bind_ok (alias_ok ha ha' (by rw [hk]; rfl)), bind_ok (expect_ok hk), bind_ok hassignments,
    bind_ok hcondition]
  rfl

theorem read_delete {parts : List String} {asName : Option String} {condition : Option Node}
    {fromGiven : Bool} {fs ps as cs : List Token} {w : Token} (hw : w.Word .delete)
    (hf : Mark (.reserved .fromWord) fromGiven fs) (hp : Dotted parts ps) (ha : Alias asName as)
    (hcs : MayStartWith (fun k => decide (k = .reserved .whereWord)) cs)
    (hT : s.Takes (w :: fs ++ ps ++ as ++ cs) m)
    (hc : ∀ {i j}, i.Takes cs j → (Phrase.clause .whereWord condition).Read inner i j) :
    (Phrase.part .statement (.delete (dotted parts) asName condition)).Read inner s m := by
  intro hm
  simp only [List.append_assoc, List.cons_append, takes_append, takes_cons] at hT
  obtain ⟨rfl, -, f, hf', p, hp', a, ha', hT⟩ := hT
  obtain ⟨hcondition, hr⟩ := condition_ok hcs hT hm (hc hT)
  have hcontinues := (continues_of_clauseRank hr).1
  simp only [Part.continues, Bool.or_eq_false_iff] at hcontinues
  have hgp : grip p.current.kind = 0 :=
    ha.mayStart.current (P := fun k => grip k = 0) ha' (fun _ => grip_of_opensAlias)
      (grip_of_continues hcontinues.1.1.1)
  have hfrom : f.current.kind ≠ .reserved .fromWord := by
    intro h
    have hn := hp.starts.current hp'
    rw [h] at hn
    cases hn
  show Reading.statement inner s = _
  rw [Reading.statement, bind_ok rfl]
  simp only [show s.current.kind = _ from hw]
  rw [deleteStatement, bind_ok (expect_ok hw), bind_ok (accept_mark hf hf' hfrom),
    bind_ok (entityName_ok hp hp' (ne_dot_of_grip hgp)), bind_ok (alias_ok ha ha' hcontinues.1.1.2),
    bind_ok hcondition]
  rfl

theorem read_insert {parts : List String} {targets : List Node} {query : Node}
    {ps ts qs : List Token} {w i o c : Token} (hw : w.Word .insert) (hi : i.Word .into)
    (hp : Dotted parts ps) (ho : o.Sign .leftParen) (hc : c.Sign .rightParen)
    (hqs : StartsWith Part.select.starts qs) (hT : s.Takes (w :: i :: ps ++ o :: ts ++ c :: qs) m)
    (ht : ∀ {i j}, i.Takes ts j → (Phrase.list .target targets).Read inner i j)
    (hq : ∀ {i}, i.Takes qs m → (Phrase.part .select query).Read inner i m) :
    (Phrase.part .statement (.insert (dotted parts) targets (some query))).Read inner s m := by
  intro hm
  simp only [List.append_assoc, List.cons_append, takes_append, takes_cons] at hT
  obtain ⟨rfl, -, rfl, -, p, hp', rfl, -, j, hj, rfl, -, hT⟩ := hT
  have htargets : commaSeparated path p.tail = .ok (targets, j) :=
    list_ok (ht hj) rfl (by rw [hc]; rfl) (by rw [hc]; simp)
  have hselect : j.tail.current.Word .select := of_decide_eq_true (hqs.current hT)
  have hquery : inner .select j.tail = .ok (query, m) := hq hT (ends_statement hm)
  show Reading.statement inner s = _
  rw [Reading.statement, bind_ok rfl]
  simp only [show s.current.kind = _ from hw]
  rw [insertStatement, bind_ok (expect_ok hw), bind_ok (expect_ok hi),
    bind_ok (entityName_ok hp hp' (by rw [ho]; simp)), bind_ok (expect_ok ho), bind_ok htargets,
    bind_ok (expect_ok hc), bind_ok rfl, if_pos (decide_eq_true hselect), bind_ok hquery]
  rfl

end WholeStatements

/-! ## Every phrase is read -/

/-- No expression is the star of `COUNT(*)`. -/
theorem Derives.ne_star {whole : Bool} {p : Phrase} {ts : List Token} (h : Derives whole p ts) :
    ∀ {t : Tier} {e : Node}, p = .expression t e → e ≠ .star := by
  induction h with
  | tighter _ ih =>
    rintro t e ⟨⟩
    exact ih rfl
  | atom h =>
    rintro t e ⟨⟩ rfl
    unfold atom? at h
    split at h <;> cases h
  | _ => rintro t e ⟨⟩ ⟨⟩

theorem nested_ok {α : Type} {p : Reading α} {s : Stream} {r : α × Stream} (h : p s = .ok r) :
    nested p s = .ok r := by
  rw [nested, h]

/-- A level further in is there wherever the tree asks for one. -/
theorem level_ok {limit : Int} {d : Nat} {entry : Entry} {s m : Stream} {e : Node}
    (hd : e.nesting + 1 ≤ d)
    (h : ∀ {n}, e.nesting ≤ n → atEntry (level limit n) entry s = .ok (e, m)) :
    level limit d entry s = .ok (e, m) := by
  obtain ⟨n, rfl⟩ : ∃ n, d = n + 1 := ⟨d - 1, by omega⟩
  exact nested_ok (h (by omega))

/-- A token that a phrase cannot start with is not its first one. -/
theorem ne_of_starts {test : TokenKind → Bool} {kind : TokenKind} {ts : List Token} {s m : Stream}
    (h : StartsWith test ts) (hT : s.Takes ts m) (hk : test kind = false) :
    s.current.kind ≠ kind := by
  intro he
  have ht := h.current hT
  rw [he, hk] at ht
  cases ht

theorem Derives.entry_eq {whole : Bool} {e : Node} {ts : List Token}
    (h : Derives whole (.part .argument e) ts) :
    e.entry = e.nesting + 1 := by
  cases h with
  | argument h => exact Node.entry_of_ne_star (h.ne_star rfl)

/-- An argument needs one level more than what is below it. -/
theorem Derives.argument_levels {whole : Bool} {e : Node} {ts : List Token} {d : Nat}
    (h : Derives whole (.part .argument e) ts) (hd : e.nesting + 1 ≤ d) :
    (Phrase.part .argument e).levels ≤ d := by
  rw [Phrase.levels, Part.levels, h.entry_eq]
  exact hd

theorem takes_first {s m : Stream} {t : Token} {ts : List Token} (h : s.Takes (t :: ts) m) :
    s.Takes [s.current] s.tail :=
  takes_singleton.mpr ⟨rfl, (takes_cons.mp h).2.1, rfl⟩

/-- Branches, when there are some, start with `WHEN`. -/
theorem Derives.starts_when {whole : Bool} {bs : List Node} {ts : List Token}
    (h : Derives whole (.branches bs) ts) (hne : bs ≠ []) :
    StartsWith (fun k => decide (k = .reserved .whenWord)) ts := by
  rcases h.starts with rfl | hs
  · generalize hts : ([] : List Token) = ts at h
    cases h with
    | noBranch => exact absurd rfl hne
    | moreBranches => simp at hts
  · exact hs

/-- Behind the branches of a case expression stands nothing that would prolong them. -/
theorem case_rest {us : List Token} {i m : Stream}
    (h : MayStartWith (fun k => decide (k = .reserved .elseWord)) us) (hT : i.Takes us m)
    (hk : m.current.Word .endWord) :
    Tier.disjunction.continues i.current.kind = false ∧ i.current.kind ≠ .reserved .whenWord :=
  h.current (P := fun k => Tier.disjunction.continues k = false ∧ k ≠ .reserved .whenWord) hT
    (fun k hk => by rw [of_decide_eq_true hk]; exact ⟨rfl, by simp⟩)
    (by rw [hk]; exact ⟨rfl, by simp⟩)

/-- Tokens that do not open with a side are not taken for one. -/
theorem not_side_of_opensWithSide {ts : List Token} {s m : Stream} (h : opensWithSide ts = false)
    (hT : s.Takes ts m) (hlen : 2 ≤ ts.length) :
    ¬(isSide s.current = true ∧ s.next.kind ≠ .symbol .rightParen ∧
      s.next.kind ≠ .symbol .dot) := by
  match ts, hlen with
  | t :: u :: rest, _ =>
    have hnext := next_of_takes (takes_first hT)
    simp only [takes_cons] at hT
    obtain ⟨rfl, -, rfl, -, -⟩ := hT
    rw [hnext]
    rintro ⟨hs, hp, hd⟩
    simp [opensWithSide, hs, hp, hd] at h

/-- Targets nest nowhere. -/
theorem Derives.target_levels {whole : Bool} {p : Phrase} {ts : List Token}
    (h : Derives whole p ts) :
    ∀ {ns : List Node}, p = .list .target ns → Part.target.levelsOf ns = 0 := by
  induction h with
  | one h =>
    rintro ns ⟨⟩
    cases h with
    | target => simp [Part.levelsOf, Part.levels, Node.nesting]
  | more _ _ hn ih =>
    rintro ns ⟨⟩
    cases hn with
    | target => simp [Part.levelsOf_append, ih rfl, Part.levels, Node.nesting]
  | _ => rintro ns ⟨⟩

theorem length_of_starts {test : TokenKind → Bool} {ts : List Token} {t : Token}
    (h : StartsWith test ts) :
    2 ≤ (ts ++ [t]).length := by
  obtain ⟨u, rest, rfl, -⟩ := h
  simp

/-- A phrase is read from its tokens, with as many levels as it needs. -/
def Phrase.Reads (limit : Int) (p : Phrase) (ts : List Token) : Prop :=
  ∀ ⦃d : Nat⦄ ⦃s m : Stream⦄, p.levels ≤ d → s.Takes ts m → p.Read (level limit d) s m

variable {limit : Int}

/-! ## Rules of predicates -/

theorem reads_isNull {e : Node} {ts ms : List Token} {negated : Bool} {is null : Token}
    (hi : is.Word .is) (hm : Mark (.reserved .not) negated ms) (hn : null.Word .null)
    (ih : (Phrase.expression .predicate e).Reads limit ts) :
    (Phrase.expression .predicate (.isNull e negated)).Reads limit (ts ++ is :: ms ++ [null]) := by
  intro d s m hd hT
  simp only [Phrase.levels, Node.nesting] at hd
  rw [List.append_assoc] at hT
  obtain ⟨k, hk, hT⟩ := takes_append.mp hT
  exact read_isNull (ih hd hk) hi hm hn hT

theorem reads_between {e lower upper : Node} {ts ms us vs : List Token} {negated : Bool}
    {w a : Token} (hm : Mark (.reserved .not) negated ms) (hw : w.Word .between) (ha : a.Word .and)
    (ih : (Phrase.expression .predicate e).Reads limit ts)
    (ihl : (Phrase.expression .comparison lower).Reads limit us)
    (ihu : (Phrase.expression .comparison upper).Reads limit vs) :
    (Phrase.expression .predicate (.between e lower upper negated)).Reads limit
      (ts ++ ms ++ w :: us ++ a :: vs) := by
  intro d s m hd hT
  simp only [Phrase.levels, Node.nesting, Nat.max_le] at hd
  simp only [List.append_assoc, List.cons_append] at hT
  obtain ⟨k, hk, hT⟩ := takes_append.mp hT
  refine read_negatable (ih hd.1 hk) hm (by rw [hw]; rfl) hT ?_
  rintro j rfl hj hc
  exact between_ok hw ha hj (ihl hd.2.1) (ihu hd.2.2) hc

theorem reads_inParameter {e p : Node} {ts ms : List Token} {negated : Bool} {w t : Token}
    (hm : Mark (.reserved .not) negated ms) (hw : w.Word .inWord) (ht : t.kind.isParameter = true)
    (hp : atom? t = some p) (ih : (Phrase.expression .predicate e).Reads limit ts) :
    (Phrase.expression .predicate (.inSet e [] none (some p) negated)).Reads limit
      (ts ++ ms ++ [w, t]) := by
  intro d s m hd hT
  simp only [Phrase.levels, Node.nesting, Nat.max_le] at hd
  simp only [List.append_assoc] at hT
  obtain ⟨k, hk, hT⟩ := takes_append.mp hT
  refine read_negatable (ih hd.1 hk) hm (by rw [hw]; rfl) hT ?_
  rintro j rfl hj hc
  obtain ⟨rfl, -, rfl⟩ := takes_singleton.mp hj
  exact inParameter_ok hw ht hp

theorem reads_inQuery {e q : Node} {ts ms us : List Token} {negated : Bool} {w o c : Token}
    (hm : Mark (.reserved .not) negated ms) (hw : w.Word .inWord) (ho : o.Sign .leftParen)
    (hq : Derives false (.part .select q) us) (hc : c.Sign .rightParen)
    (ih : (Phrase.expression .predicate e).Reads limit ts)
    (ihq : (Phrase.part .select q).Reads limit us) :
    (Phrase.expression .predicate (.inSet e [] (some q) none negated)).Reads limit
      (ts ++ ms ++ w :: o :: us ++ [c]) := by
  intro d s m hd hT
  simp only [Phrase.levels, Node.nesting, Node.entryOption, Nat.max_le] at hd
  simp only [List.append_assoc, List.cons_append] at hT
  obtain ⟨k, hk, hT⟩ := takes_append.mp hT
  refine read_negatable (ih hd.1 hk) hm (by rw [hw]; rfl) hT ?_
  rintro j rfl hj -
  simp only [takes_append, takes_cons, takes_nil] at hj
  obtain ⟨rfl, -, i, hi, rfl, -, rfl⟩ := hj
  exact inQuery_ok hw ho (of_decide_eq_true (hq.starts.current hi))
    (ihq hd.2.2 hi (by rw [hc]; rfl)) hc

theorem reads_inList {e : Node} {values : List Node} {ts ms us : List Token} {negated : Bool}
    {w o c : Token} (hm : Mark (.reserved .not) negated ms) (hw : w.Word .inWord)
    (ho : o.Sign .leftParen) (hv : Derives false (.list .argument values) us)
    (hc : c.Sign .rightParen) (ih : (Phrase.expression .predicate e).Reads limit ts)
    (ihv : (Phrase.list .argument values).Reads limit us) :
    (Phrase.expression .predicate (.inSet e values none none negated)).Reads limit
      (ts ++ ms ++ w :: o :: us ++ [c]) := by
  intro d s m hd hT
  simp only [Phrase.levels, Node.nesting, Nat.max_le, ← levelsOf_argument] at hd
  simp only [List.append_assoc, List.cons_append] at hT
  obtain ⟨k, hk, hT⟩ := takes_append.mp hT
  refine read_negatable (ih hd.1 hk) hm (by rw [hw]; rfl) hT ?_
  rintro j rfl hj -
  simp only [takes_append, takes_cons, takes_nil] at hj
  obtain ⟨rfl, -, i, hi, rfl, -, rfl⟩ := hj
  exact inList_ok hw ho (ne_of_starts hv.starts hi rfl)
    (list_ok (ihv hd.2.1 hi) rfl (by rw [hc]; rfl) (by rw [hc]; simp)) hc

theorem reads_like {e pattern : Node} {ts ms us : List Token} {negated : Bool} {w : Token}
    (hm : Mark (.reserved .not) negated ms) (hw : w.Word .like)
    (ih : (Phrase.expression .predicate e).Reads limit ts)
    (ihp : (Phrase.expression .comparison pattern).Reads limit us) :
    (Phrase.expression .predicate (.like e pattern none negated)).Reads limit
      (ts ++ ms ++ w :: us) := by
  intro d s m hd hT
  simp only [Phrase.levels, Node.nesting, Nat.max_le] at hd
  simp only [List.append_assoc] at hT
  obtain ⟨k, hk, hT⟩ := takes_append.mp hT
  refine read_negatable (ih hd.1 hk) hm (by rw [hw]; rfl) hT ?_
  rintro j rfl hj hc
  exact like_ok hw hj (ihp hd.2.1) hc

theorem reads_likeEscape {e pattern escape : Node} {ts ms us vs : List Token} {negated : Bool}
    {w k : Token} (hm : Mark (.reserved .not) negated ms) (hw : w.Word .like) (hk : k.Word .escape)
    (ih : (Phrase.expression .predicate e).Reads limit ts)
    (ihp : (Phrase.expression .comparison pattern).Reads limit us)
    (ihe : (Phrase.expression .comparison escape).Reads limit vs) :
    (Phrase.expression .predicate (.like e pattern (some escape) negated)).Reads limit
      (ts ++ ms ++ w :: us ++ k :: vs) := by
  intro d s m hd hT
  simp only [Phrase.levels, Node.nesting, Node.nesting?, Nat.max_le] at hd
  simp only [List.append_assoc, List.cons_append] at hT
  obtain ⟨k, hk', hT⟩ := takes_append.mp hT
  refine read_negatable (ih hd.1 hk') hm (by rw [hw]; rfl) hT ?_
  rintro j rfl hj hc
  exact likeEscape_ok hw hk hj (ihp hd.2.1) (ihe hd.2.2) hc

theorem reads_memberOf {e : Node} {ts ms os us : List Token} {parts : List String}
    {negated of : Bool} {w : Token} (hm : Mark (.reserved .not) negated ms) (hw : w.Word .member)
    (ho : Mark (.reserved .of) of os) (hc : Dotted parts us)
    (ih : (Phrase.expression .predicate e).Reads limit ts) :
    (Phrase.expression .predicate (.memberOf e (.path parts) negated)).Reads limit
      (ts ++ ms ++ w :: os ++ us) := by
  intro d s m hd hT
  simp only [Phrase.levels, Node.nesting] at hd
  simp only [List.append_assoc, List.cons_append] at hT
  obtain ⟨k, hk, hT⟩ := takes_append.mp hT
  refine read_negatable (ih hd hk) hm (by rw [hw]; rfl) hT ?_
  rintro j rfl hj hdot
  refine memberOf_ok hw ho hc hj ?_
  intro hd
  rw [hd] at hdot
  cases hdot

/-! ## Rules of primary expressions -/

theorem reads_paren {e : Node} {ts : List Token} {o c : Token} (ho : o.Sign .leftParen)
    (h : Derives false (.part .argument e) ts) (hc : c.Sign .rightParen)
    (ih : (Phrase.part .argument e).Reads limit ts) :
    (Phrase.expression .primary (.paren e)).Reads limit (o :: ts ++ [c]) := by
  intro d s m hd hT
  simp only [List.cons_append, takes_append, takes_cons, takes_nil] at hT
  obtain ⟨rfl, -, k, hk, rfl, -, rfl⟩ := hT
  refine read_primary fun _ =>
    primary_paren ho (ne_of_starts h.starts hk rfl) (ih ?_ hk (by rw [hc]; rfl)) hc
  simp only [Phrase.levels, Node.nesting] at hd
  exact h.argument_levels hd

theorem reads_subquery {q : Node} {ts : List Token} {o c : Token} (ho : o.Sign .leftParen)
    (h : Derives false (.part .select q) ts) (hc : c.Sign .rightParen)
    (ih : (Phrase.part .select q).Reads limit ts) :
    (Phrase.expression .primary (.subquery q)).Reads limit (o :: ts ++ [c]) := by
  intro d s m hd hT
  simp only [List.cons_append, takes_append, takes_cons, takes_nil] at hT
  obtain ⟨rfl, -, k, hk, rfl, -, rfl⟩ := hT
  simp only [Phrase.levels, Node.nesting] at hd
  exact read_primary fun _ =>
    primary_subquery ho (of_decide_eq_true (h.starts.current hk)) (ih hd hk (by rw [hc]; rfl)) hc

theorem reads_existsQuery {q : Node} {ts : List Token} {w o c : Token} (hw : w.Word .exists)
    (ho : o.Sign .leftParen) (h : Derives false (.part .select q) ts) (hc : c.Sign .rightParen)
    (ih : (Phrase.part .select q).Reads limit ts) :
    (Phrase.expression .primary (.existsQuery q)).Reads limit (w :: o :: ts ++ [c]) := by
  intro d s m hd hT
  simp only [List.cons_append, takes_append, takes_cons, takes_nil] at hT
  obtain ⟨rfl, -, rfl, -, k, hk, rfl, -, rfl⟩ := hT
  simp only [Phrase.levels, Node.nesting] at hd
  exact read_primary fun _ =>
    primary_exists hw ho (of_decide_eq_true (h.starts.current hk)) (ih hd hk (by rw [hc]; rfl)) hc

theorem reads_caseSearched {branches : List Node} {otherwise : Option Node} {ts us : List Token}
    {w k : Token} (hw : w.Word .case) (hb : Derives false (.branches branches) ts)
    (hne : branches ≠ []) (he : Derives false (.clause .elseWord otherwise) us)
    (hk : k.Word .endWord) (ihb : (Phrase.branches branches).Reads limit ts)
    (ihe : (Phrase.clause .elseWord otherwise).Reads limit us) :
    (Phrase.expression .primary (.caseOf none branches otherwise)).Reads limit
      (w :: ts ++ us ++ [k]) := by
  intro d s m hd hT
  simp only [List.append_assoc, List.cons_append, takes_append, takes_cons, takes_nil] at hT
  obtain ⟨rfl, -, i, hi, j, hj, rfl, -, rfl⟩ := hT
  simp only [Phrase.levels, Node.nesting, Nat.max_le] at hd
  have hwhen := hb.starts_when hne
  have hrest := case_rest he.starts hj hk
  refine read_primary fun _ => ?_
  exact primary_case hw (.inl ⟨of_decide_eq_true (hwhen.current hi), rfl, rfl⟩)
    (branches_ok (ihb hd.2.1 hi) hrest.1 hrest.2) hne
    (ihe hd.2.2 hj (by rw [hk]; rfl) (by rw [hk]; simp)) hk

theorem reads_caseSimple {operand : Node} {branches : List Node} {otherwise : Option Node}
    {os ts us : List Token} {w k : Token} (hw : w.Word .case)
    (ho : Derives false (.part .argument operand) os) (hb : Derives false (.branches branches) ts)
    (hne : branches ≠ []) (he : Derives false (.clause .elseWord otherwise) us)
    (hk : k.Word .endWord) (iho : (Phrase.part .argument operand).Reads limit os)
    (ihb : (Phrase.branches branches).Reads limit ts)
    (ihe : (Phrase.clause .elseWord otherwise).Reads limit us) :
    (Phrase.expression .primary (.caseOf (some operand) branches otherwise)).Reads limit
      (w :: os ++ ts ++ us ++ [k]) := by
  intro d s m hd hT
  simp only [List.append_assoc, List.cons_append, takes_append, takes_cons, takes_nil] at hT
  obtain ⟨rfl, -, i, hi, j, hj, l, hl, rfl, -, rfl⟩ := hT
  simp only [Phrase.levels, Node.nesting, Node.entryOption, Nat.max_le] at hd
  have hwhen := of_decide_eq_true ((hb.starts_when hne).current hj)
  have hrest := case_rest he.starts hl hk
  refine read_primary fun _ => ?_
  exact primary_case hw
    (.inr ⟨ne_of_starts ho.starts hi rfl, _, rfl,
      iho (ho.argument_levels hd.1) hi (by rw [hwhen]; rfl)⟩)
    (branches_ok (ihb hd.2.1 hj) hrest.1 hrest.2) hne
    (ihe hd.2.2 hl (by rw [hk]; rfl) (by rw [hk]; simp)) hk

/-! ## Rules of calls -/

theorem reads_otherCall {args : List Node} {ts : List Token} {f o c : Token}
    (hf : f.kind = .identifier) (ho : o.Sign .leftParen) (hc : c.Sign .rightParen)
    (ih : (Phrase.arguments args).Reads limit ts) :
    (Phrase.expression .primary (.call f.text args false false none none none)).Reads limit
      (f :: o :: ts ++ [c]) := by
  intro d s m hd hT
  have hs := takes_first hT
  simp only [List.cons_append, takes_append, takes_cons, takes_nil] at hT
  obtain ⟨rfl, -, rfl, -, k, hk, rfl, -, rfl⟩ := hT
  simp only [Phrase.levels, Node.nesting, Nat.max_le, ← levelsOf_argument] at hd
  exact read_primary fun _ => primary_otherCall hf hs ho (ih hd.1 hk hc _)

theorem reads_functionCall {g : Function} {args : List Node} {ts : List Token} {f o c : Token}
    (hg : hasPlainArguments g = true) (hn : hasArity g args.length = true)
    (hf : f.kind = .function g) (ho : o.Sign .leftParen) (hc : c.Sign .rightParen)
    (ih : (Phrase.arguments args).Reads limit ts) :
    (Phrase.expression .primary (plainCall (TokenKind.function g).name args)).Reads limit
      (f :: o :: ts ++ [c]) := by
  intro d s m hd hT
  have hs := takes_first hT
  simp only [List.cons_append, takes_append, takes_cons, takes_nil] at hT
  obtain ⟨rfl, -, rfl, -, k, hk, rfl, -, rfl⟩ := hT
  simp only [Phrase.levels, plainCall, Node.nesting, Nat.max_le, ← levelsOf_argument] at hd
  exact read_primary fun _ =>
    (primary_call hf hs ho).trans (functionCall_plain hg hn ho (ih hd.1 hk hc _))

theorem reads_countAll {f o s c : Token} (hf : f.kind = .function .count) (ho : o.Sign .leftParen)
    (hs : s.Sign .star) (hc : c.Sign .rightParen) :
    (Phrase.expression .primary (plainCall (TokenKind.function .count).name [.star])).Reads limit
      [f, o, s, c] := by
  intro d s m hd hT
  have hfirst := takes_first hT
  simp only [takes_cons, takes_nil] at hT
  obtain ⟨rfl, -, rfl, -, rfl, -, rfl, -, rfl⟩ := hT
  exact read_primary fun _ => (primary_call hf hfirst ho).trans (functionCall_countAll ho hs hc)

theorem reads_aggregate {g : Function} {e : Node} {ms ts : List Token} {distinct : Bool}
    {f o c : Token} (hg : g.isAggregate = true) (hf : f.kind = .function g) (ho : o.Sign .leftParen)
    (hm : Mark (.reserved .distinct) distinct ms) (h : Derives false (.part .argument e) ts)
    (hc : c.Sign .rightParen) (ih : (Phrase.part .argument e).Reads limit ts) :
    (Phrase.expression .primary (.call (TokenKind.function g).name [e] distinct true none none
      none)).Reads limit (f :: o :: ms ++ ts ++ [c]) := by
  intro d s m hd hT
  have hs := takes_first hT
  simp only [List.append_assoc, List.cons_append, takes_append, takes_cons, takes_nil] at hT
  obtain ⟨rfl, -, rfl, -, i, hi, k, hk, rfl, -, rfl⟩ := hT
  simp only [Phrase.levels, Node.nesting, Node.entries_cons, Nat.max_le] at hd
  have hstar : s.tail.tail.current.kind ≠ .symbol .star := by
    cases hm with
    | absent =>
      obtain rfl := takes_nil.mp hi
      exact ne_of_starts h.starts hk rfl
    | present hw =>
      obtain ⟨rfl, -, -⟩ := takes_singleton.mp hi
      rw [hw]
      simp
  exact read_primary fun _ => (primary_call hf hs ho).trans
    (functionCall_aggregate hg ho hstar hm hi (ne_of_starts h.starts hk rfl)
      (ih hd.1.1 hk (by rw [hc]; rfl)) hc)

theorem reads_cast {e : Node} {type : String} {ts us : List Token} {f o w c : Token}
    (hf : f.kind = .function .cast) (ho : o.Sign .leftParen) (hw : w.Word .asWord)
    (ht : TypeName type us) (hc : c.Sign .rightParen)
    (ih : (Phrase.part .argument e).Reads limit ts) :
    (Phrase.expression .primary (.call "CAST" [e] false true none none (some type))).Reads limit
      (f :: o :: ts ++ w :: us ++ [c]) := by
  intro d s m hd hT
  have hs := takes_first hT
  simp only [List.append_assoc, List.cons_append, takes_append, takes_cons, takes_nil] at hT
  obtain ⟨rfl, -, rfl, -, i, hi, rfl, -, k, hk, rfl, -, rfl⟩ := hT
  simp only [Phrase.levels, Node.nesting, Node.entries_cons, Nat.max_le] at hd
  exact read_primary fun _ => (primary_call hf hs ho).trans
    (functionCall_cast ho (ih hd.1.1 hi (by rw [hw]; rfl)) hw ht hk hc)

theorem reads_trim {e : Node} {ts : List Token} {f o c : Token} (hf : f.kind = .function .trim)
    (ho : o.Sign .leftParen) (h : Derives false (.part .argument e) ts) (hc : c.Sign .rightParen)
    (hside : false = true ∨ opensWithSide (ts ++ [c]) = false)
    (ih : (Phrase.part .argument e).Reads limit ts) :
    (Phrase.expression .primary (.call "TRIM" [e] false true none none none)).Reads limit
      (f :: o :: ts ++ [c]) := by
  intro d s m hd hT
  have hs := takes_first hT
  simp only [List.cons_append] at hT
  obtain ⟨rfl, -, hT⟩ := takes_cons.mp hT
  obtain ⟨rfl, -, hT⟩ := takes_cons.mp hT
  have hnone :=
    trimSide_absent (not_side_of_opensWithSide (by simpa using hside) hT
      (length_of_starts h.starts))
  simp only [takes_append, takes_cons, takes_nil] at hT
  obtain ⟨k, hk, rfl, -, rfl⟩ := hT
  simp only [Phrase.levels, Node.nesting, Node.entries_cons, Nat.max_le] at hd
  exact read_primary fun _ => (primary_call hf hs ho).trans (functionCall_trim ho hnone
    (trimOperands_plain (ne_of_starts h.starts hk rfl) (ih hd.1.1 hk (by rw [hc]; rfl))
      (by rw [hc]; simp)) hc)

theorem reads_trimFrom {e : Node} {side : Option String} {ss ts : List Token} {f o w c : Token}
    (hf : f.kind = .function .trim) (ho : o.Sign .leftParen) (hside : Side side ss)
    (hw : w.Word .fromWord) (hc : c.Sign .rightParen)
    (ih : (Phrase.part .argument e).Reads limit ts) :
    (Phrase.expression .primary (.call "TRIM" [e] false true side none none)).Reads limit
      (f :: o :: ss ++ w :: ts ++ [c]) := by
  intro d s m hd hT
  have hs := takes_first hT
  simp only [List.append_assoc, List.cons_append, takes_append, takes_cons, takes_nil] at hT
  obtain ⟨rfl, -, rfl, -, i, hi, rfl, -, k, hk, rfl, -, rfl⟩ := hT
  simp only [Phrase.levels, Node.nesting, Node.entries_cons, Nat.max_le] at hd
  have hread := trimSide_ok hside hi (by rw [hw]; simp) (by rw [hw]; simp) fun _ h => by
    rw [isSide, hw] at h
    cases h.1
  exact read_primary fun _ => (primary_call hf hs ho).trans
    (functionCall_trim ho hread (trimOperands_from hw (ih hd.1.1 hk (by rw [hc]; rfl))) hc)

theorem reads_trimCharacter {e char : Node} {side : Option String} {ss us ts : List Token}
    {f o w c : Token} (hf : f.kind = .function .trim) (ho : o.Sign .leftParen)
    (hside : Side side ss) (hu : Derives false (.part .argument char) us) (hw : w.Word .fromWord)
    (hc : c.Sign .rightParen) (hn : side = none → false = true ∨ opensWithSide (us ++ [w]) = false)
    (ihu : (Phrase.part .argument char).Reads limit us)
    (ih : (Phrase.part .argument e).Reads limit ts) :
    (Phrase.expression .primary (.call "TRIM" [e] false true side (some char) none)).Reads limit
      (f :: o :: ss ++ us ++ w :: ts ++ [c]) := by
  intro d s m hd hT
  have hs := takes_first hT
  simp only [List.append_assoc, List.cons_append] at hT
  obtain ⟨rfl, -, hT⟩ := takes_cons.mp hT
  obtain ⟨rfl, -, hT⟩ := takes_cons.mp hT
  obtain ⟨i, hi, hT⟩ := takes_append.mp hT
  obtain ⟨j, hj, hT⟩ := takes_append.mp hT
  simp only [takes_append, takes_cons, takes_nil] at hT
  obtain ⟨rfl, hne, k, hk, rfl, -, rfl⟩ := hT
  simp only [Phrase.levels, Node.nesting, Node.entries_cons, Node.entryOption, Nat.max_le] at hd
  have hread := trimSide_ok hside hi (ne_of_starts hu.starts hj rfl) (ne_of_starts hu.starts hj rfl)
    fun hnone =>
    not_side_of_opensWithSide (by simpa using hn hnone)
      (hj.trans (takes_singleton.mpr ⟨rfl, hne, rfl⟩)) (length_of_starts hu.starts)
  exact read_primary fun _ => (primary_call hf hs ho).trans (functionCall_trim ho hread
    (trimOperands_character (ne_of_starts hu.starts hj rfl)
      (ihu (hu.argument_levels hd.2) hj (by rw [hw]; rfl)) hw (ih hd.1.1 hk (by rw [hc]; rfl))) hc)

/-! ## All rules -/

/-- What the restricted grammar derives is read, with as many levels as the phrase needs. -/
theorem Derives.read (limit : Int) {p : Phrase} {ts : List Token} (h : Derives false p ts) :
    p.Reads limit ts := by
  -- What is left to each case: the levels of its parts, and where the tokens of one part end and
  -- those of the next begin.
  induction h with
  | tighter h ih =>
    intro d s m hd hT
    exact read_tighter hT h.starts (ih hd hT)
  | binary ho _ _ ihl ihr =>
    intro d s m hd hT
    simp only [Phrase.levels, Node.nesting, Nat.max_le] at hd
    exact read_binary ho hT (ihl hd.1) (ihr hd.2)
  | not hw h ih =>
    intro d s m hd hT
    obtain ⟨rfl, -, hT⟩ := takes_cons.mp hT
    refine (Phrase.read_single rfl).mpr fun hm => ?_
    simp only [Phrase.levels, Node.nesting] at hd
    exact (read_not hw (level_ok hd fun hn => (ih hn hT).close hm)).close hm
  | sign ho h ih =>
    intro d s m hd hT
    obtain ⟨rfl, -, hT⟩ := takes_cons.mp hT
    refine (Phrase.read_single rfl).mpr fun hm => ?_
    simp only [Phrase.levels, Node.nesting] at hd
    exact (read_sign ho (level_ok hd fun hn => (ih hn hT).close hm)).close hm
  | isNull _ hi hm hn ih => exact reads_isNull hi hm hn ih
  | between _ hm hw _ ha _ ih ihl ihu => exact reads_between hm hw ha ih ihl ihu
  | inParameter _ hm hw ht hp ih => exact reads_inParameter hm hw ht hp ih
  | inQuery _ hm hw ho hq hc ih ihq => exact reads_inQuery hm hw ho hq hc ih ihq
  | inList _ hm hw ho hv hc ih ihv => exact reads_inList hm hw ho hv hc ih ihv
  | like _ hm hw _ ih ihp => exact reads_like hm hw ih ihp
  | likeEscape _ hm hw _ hk _ ih ihp ihe => exact reads_likeEscape hm hw hk ih ihp ihe
  | memberOf _ hm hw ho hc ih => exact reads_memberOf hm hw ho hc ih
  | atom h =>
    intro d s m hd hT
    obtain ⟨rfl, -, rfl⟩ := takes_singleton.mp hT
    exact read_primary fun _ => primary_atom h
  | path h =>
    intro d s m hd hT
    exact read_primary fun hm => primary_path h hT hm
  | paren ho h hc ih => exact reads_paren ho h hc ih
  | subquery ho h hc ih => exact reads_subquery ho h hc ih
  | existsQuery hw ho h hc ih => exact reads_existsQuery hw ho h hc ih
  | caseSearched hw hb hne he hk ihb ihe => exact reads_caseSearched hw hb hne he hk ihb ihe
  | caseSimple hw ho hb hne he hk iho ihb ihe =>
    exact reads_caseSimple hw ho hb hne he hk iho ihb ihe
  | otherCall hf ho _ hc ih => exact reads_otherCall hf ho hc ih
  | functionCall hg hn hf ho _ hc ih => exact reads_functionCall hg hn hf ho hc ih
  | countAll hf ho hs hc => exact reads_countAll hf ho hs hc
  | aggregate hg hf ho hm h hc ih => exact reads_aggregate hg hf ho hm h hc ih
  | cast hf ho _ hw ht hc ih => exact reads_cast hf ho hw ht hc ih
  | trim hf ho h hc hside ih => exact reads_trim hf ho h hc hside ih
  | trimFrom hf ho hside hw _ hc ih => exact reads_trimFrom hf ho hside hw hc ih
  | trimCharacter hf ho hside hu hw _ hc hn ihu ih =>
    exact reads_trimCharacter hf ho hside hu hw hc hn ihu ih
  | one _ ih =>
    intro d s m hd hT
    simp only [Phrase.levels, Part.levelsOf, Nat.max_le] at hd
    exact read_one (ih hd.1 hT)
  | more _ hc _ ih ihn =>
    intro d s m hd hT
    simp only [Phrase.levels, Part.levelsOf_append, Nat.max_le] at hd
    exact read_more hc hT (ih hd.1) (ihn hd.2)
  | noJoin =>
    intro d s m hd hT
    obtain rfl := takes_nil.mp hT
    exact fun _ => .none
  | moreJoins _ hj ih ihj =>
    intro d s m hd hT
    simp only [Phrase.levels, Part.levelsOf_append, Nat.max_le] at hd
    exact read_moreJoins hj.starts hT (ih hd.1) (ihj hd.2)
  | noBranch =>
    intro d s m hd hT
    obtain rfl := takes_nil.mp hT
    exact fun _ => .none
  | moreBranches _ hw hcond hk hres ih ihc ihr =>
    intro d s m hd hT
    simp only [Phrase.levels, nestings_append, Node.nesting, Nat.max_le] at hd
    exact read_moreBranches hw hk hT (ih hd.1) (ihc (hcond.argument_levels hd.2.1))
      (ihr (hres.argument_levels hd.2.2))
  | noArgument =>
    intro d s m hd hT
    obtain rfl := takes_nil.mp hT
    exact read_noArgument
  | someArguments h ih =>
    intro d s m hd hT
    exact read_someArguments hT h.starts (ih hd hT)
  | noClause =>
    intro d s m hd hT
    obtain rfl := takes_nil.mp hT
    exact fun _ hw => behind_other hw
  | someClause ht h ih =>
    intro d s m hd hT
    obtain ⟨rfl, -, hT⟩ := takes_cons.mp hT
    simp only [Phrase.levels, Node.entryOption] at hd
    exact fun hm _ => behind_ok ht (ih (h.argument_levels hd) hT hm)
  | noByClause =>
    intro d s m hd hT
    obtain rfl := takes_nil.mp hT
    exact read_noByClause
  | someByClause ht hb _ ih =>
    intro d s m hd hT
    simp only [takes_cons] at hT
    obtain ⟨rfl, -, rfl, -, hT⟩ := hT
    exact read_someByClause ht hb (ih hd hT)
  | argument h ih =>
    intro d s m hd hT hm
    simp only [Phrase.levels, Part.levels, Node.entry_of_ne_star (h.ne_star rfl)] at hd
    exact level_ok hd fun hn => (ih hn hT).close hm
  | target h =>
    intro d s m hd hT hm
    exact path_ok h hT (of_decide_eq_false hm)
  | selectItem h ha ih =>
    intro d s m hd hT
    simp only [Phrase.levels, Part.levels, Node.nesting] at hd
    exact read_selectItem hT h.starts ha (ih (h.argument_levels hd))
  | constructor hw hn ho _ hc ha ih =>
    intro d s m hd hT
    simp only [List.append_assoc, List.cons_append] at hT
    obtain ⟨rfl, -, hT⟩ := takes_cons.mp hT
    simp only [Phrase.levels, Part.levels, Node.nesting, ← levelsOf_argument] at hd
    exact read_constructor hw hn ho hc ha (by simpa using hT) (ih hd)
  | join hk hw hf hp ha hc ih =>
    intro d s m hd hT
    simp only [Phrase.levels, Part.levels, Node.nesting] at hd
    exact read_join hk hw hf hp ha hc.starts hT (ih hd)
  | source hp ha hj ih =>
    intro d s m hd hT
    simp only [Phrase.levels, Part.levels, Node.nesting] at hd
    refine read_source hp ha hj.starts hT (ih ?_)
    rw [Phrase.levels, levelsOf_eq_nestings fun _ => rfl]
    exact hd
  | orderItem h hdir hn ih =>
    intro d s m hd hT
    simp only [Phrase.levels, Part.levels, Node.nesting] at hd
    exact read_orderItem hdir hn hT (ih (h.argument_levels hd))
  | assignment hp he h ih =>
    intro d s m hd hT
    simp only [Phrase.levels, Part.levels, Node.nesting] at hd
    exact read_assignment hp he hT (ih (h.argument_levels hd))
  | select hw hdist hi hf hs hc hg hh ho ihi ihs ihc ihg ihh iho =>
    intro d s m hd hT hm
    refine level_ok hd fun {n} hn => ?_
    simp only [Node.nesting, Nat.max_le, ← levelsOf_argument] at hn
    obtain ⟨hni, hns, hnc, hng, hnh, hno⟩ := hn
    rw [← levelsOf_eq_nestings (k := .selection) fun _ => rfl] at hni
    rw [← levelsOf_eq_nestings (k := .source) fun _ => rfl] at hns
    rw [← levelsOf_eq_nestings (k := .ordering) fun _ => rfl] at hno
    exact selectStatement_ok hw hdist hf hT hi.starts hc.starts hg.starts hh.starts ho.starts
      (ihi hni) (ihs hns) (ihc hnc) (ihg hng) (ihh hnh) (iho hno) hm
  | ofSelect h ih =>
    intro d s m hd hT
    refine read_ofSelect (of_decide_eq_true (h.starts.current hT)) (ih ?_ hT)
    cases h with
    | select => exact hd
  | update hw hp ha hk _ hc ih ihc =>
    intro d s m hd hT
    simp only [Phrase.levels, Part.levels, Node.depth, Node.nesting, Nat.max_le] at hd
    rw [← levelsOf_eq_nestings (k := .assignment) fun _ => rfl] at hd
    exact read_update hw hp ha hk hc.starts hT (ih hd.1) (ihc hd.2)
  | delete hw hf hp ha hc ihc =>
    intro d s m hd hT
    simp only [Phrase.levels, Part.levels, Node.depth, Node.nesting] at hd
    exact read_delete hw hf hp ha hc.starts hT (ihc hd)
  | insert hw hi hp ho ht hc hq iht ihq =>
    intro d s m hd hT
    simp only [Phrase.levels, Part.levels, Node.depth, Node.nesting, Node.entryOption] at hd
    refine read_insert hw hi hp ho hc hq.starts hT (iht ?_) (ihq hd)
    rw [Phrase.levels, ht.target_levels rfl]
    exact Nat.zero_le d

/-! ## Unambiguity -/

theorem Part.continues_end (k : Part) : k.continues .endOfInput = false := by
  cases k <;> rfl

theorem Tier.continues_end (t : Tier) : t.continues .endOfInput = false := by
  cases t <;> rfl

/-- A list of tokens derives at most one tree at a place in the grammar. -/
theorem Derives.part_unique {k : Part} {n n' : Node} {ts : List Token}
    (h : Derives false (.part k n) ts) (h' : Derives false (.part k n') ts) : n = n' := by
  have hT := takes_start ts (.ending {})
  have hn := h.read 0 (Nat.le_max_left _ (Phrase.part k n').levels) hT k.continues_end
  have hn' := h'.read 0 (Nat.le_max_right (Phrase.part k n).levels _) hT k.continues_end
  cases hn.symm.trans hn'
  rfl

/-- A list of tokens derives at most one expression of a tier. -/
theorem Derives.expression_unique {t : Tier} {e e' : Node} {ts : List Token}
    (h : Derives false (.expression t e) ts) (h' : Derives false (.expression t e') ts) :
    e = e' := by
  have hT := takes_start ts (.ending {})
  have he := (h.read 0 (Nat.le_max_left _ (Phrase.expression t e').levels) hT).close t.continues_end
  have he' :=
    (h'.read 0 (Nat.le_max_right (Phrase.expression t e).levels _) hT).close t.continues_end
  cases he.symm.trans he'
  rfl

end Grammar

/-! ## Queries -/

/-- A derivation of a statement is read to the end of the input, over a semicolon if there
is one. -/
theorem Reading.query_ok (limit : Int) (d : Nat) {node : Node} {ts semi : List Token}
    {marked : Bool} {last : Token} (h : Derives false (.part .statement node) ts)
    (hsemi : Mark (.symbol .semicolon) marked semi) (hd : node.depth ≤ d)
    (hlast : last.kind = .endOfInput) :
    ∃ m, query (level limit d) (start (ts ++ semi) last) = .ok (node, m) := by
  obtain ⟨k, hk, hT⟩ := takes_append.mp (takes_start (ts ++ semi) last)
  have hstop : Part.statement.continues k.current.kind = false := by
    cases hsemi with
    | absent =>
      obtain rfl := takes_nil.mp hT
      rw [hlast]
      rfl
    | present hs =>
      obtain ⟨rfl, -, -⟩ := takes_singleton.mp hT
      rw [hs]
      rfl
  have hstatement : statement (level limit d) (start (ts ++ semi) last) = .ok (node, k) :=
    h.read limit hd hk hstop
  refine ⟨⟨last, [], (ts ++ semi).length⟩, ?_⟩
  rw [query, bind_ok hstatement, bind_ok (accept_mark hsemi hT (by rw [hlast]; simp)), bind_ok rfl,
    if_pos (decide_eq_true hlast)]
  rfl

theorem parseStream_ok {maxDepth : Int} {node : Node} {ts semi : List Token} {marked : Bool}
    {last : Token} (h : Derives false (.part .statement node) ts)
    (hsemi : Mark (.symbol .semicolon) marked semi) (hd : node.depth ≤ maxDepth)
    (hlast : last.kind = .endOfInput) :
    (parseStream maxDepth (start (ts ++ semi) last)).result = .ok node := by
  obtain ⟨m, hq⟩ := Reading.query_ok maxDepth maxDepth.toNat h hsemi (by omega) hlast
  rw [parseStream_ample, hq]

theorem parse_ok {maxDepth : Int} {query : String} {node : Node} {ts semi : List Token}
    {marked : Bool} {stop : Position} (h : Derives false (.part .statement node) ts)
    (hsemi : Mark (.symbol .semicolon) marked semi) (hd : node.depth ≤ maxDepth)
    (hq : tokenize query = .ok (ts ++ semi ++ [.ending stop])) :
    parse maxDepth query = .ok node := by
  obtain ⟨herror, htokens⟩ := tokenize_eq_ok.mp hq
  have hrun :=
    parseStream_ok h hsemi hd (show (Token.ending (scan query).stop).kind = .endOfInput from rfl)
  rw [← List.append_inj_left' htokens rfl] at hrun
  exact parse_eq_ok.mpr ⟨herror, hrun⟩

/-! ## Call stacks -/

theorem Stream.tokens_tail_subset (s : Stream) : s.tail.tokens ⊆ s.tokens := by
  cases hs : s.ahead with
  | nil => simp [Stream.tail, hs]
  | cons t rest =>
    rw [Stream.tail_of_cons hs, Stream.tokens, Stream.tokens, hs]
    exact List.subset_cons_self _ _

theorem Stream.tokens_drop_subset (s : Stream) (n : Nat) : (s.drop n).tokens ⊆ s.tokens := by
  induction n with
  | zero => exact List.Subset.refl _
  | succ n ih => exact List.Subset.trans (s.drop n).tokens_tail_subset ih

/-- Whether reading a stream takes no more than a number of nesting levels. -/
def Stream.nestsWithin (s : Stream) (levels : Nat) : Bool :=
  match Reading.query (Reading.level levels levels) s with
  | .ok _ => true
  | .error f => f.error.fault ≠ .tooDeep levels

namespace CallStack

/-- The stack has room for a number of nesting levels: no stream that nests within them
exhausts it. -/
def HasRoom (stack : CallStack) (levels : Nat) : Prop :=
  ∀ (maxDepth : Int) (s : Stream), s.nestsWithin levels = true → stack.exhaustion? maxDepth s = none

/-- A stack with room for a number of nesting levels and for none beyond them. -/
def ofLevels (levels : Nat) : CallStack where
  exhaustion? maxDepth s :=
    match Reading.query (Reading.level levels levels) s with
    | .ok _ => none
    | .error f =>
      if f.error.fault = .tooDeep levels ∧ levels < maxDepth
        then some ⟨f.pos - s.pos, f.depth⟩ else none

theorem hasRoom_ofLevels (levels : Nat) : (ofLevels levels).HasRoom levels := by
  intro maxDepth s hs
  unfold Stream.nestsWithin at hs
  simp only [ofLevels]
  generalize Reading.query (Reading.level levels levels) s = x at hs ⊢
  cases x with
  | ok => rfl
  | error f => exact if_neg fun h => of_decide_eq_true hs h.1

end CallStack

/-- A run that does not exhaust its stack is a run on an ample one. -/
theorem parseStream_of_holds {stack : CallStack} {maxDepth : Int} {s : Stream}
    (h : stack.exhaustion? maxDepth s = none) :
    parseStream maxDepth s stack = parseStream maxDepth s := by
  rw [parseStream, h, parseStream_ample]

/-- On any stack a run ends as on an ample one, or fails at one of its tokens for being nested too
deeply. -/
theorem parseStream_or_exhausted (stack : CallStack) (maxDepth : Int) (s : Stream) :
    parseStream maxDepth s stack = parseStream maxDepth s ∨
      ∃ t ∈ s.tokens, (parseStream maxDepth s stack).result = .error ⟨.nestedTooDeeply, t⟩ := by
  cases h : stack.exhaustion? maxDepth s with
  | none => exact .inl (parseStream_of_holds h)
  | some x =>
    refine .inr ⟨(s.drop x.taken).current, s.tokens_drop_subset x.taken List.mem_cons_self, ?_⟩
    rw [parseStream, h]

/-- A query is read as its tokens are, on any stack. -/
theorem parse_of_tokenize {stack : CallStack} {maxDepth : Int} {query : String} {ts : List Token}
    {stop : Position} (hq : tokenize query = .ok (ts ++ [.ending stop])) :
    parse maxDepth query stack =
      (parseStream maxDepth (start ts (.ending (scan query).stop)) stack).result.mapError
        .grammatical := by
  obtain ⟨herror, htokens⟩ := tokenize_eq_ok.mp hq
  rw [parse, herror, List.append_inj_left' htokens rfl]
  dsimp only
  cases (parseStream maxDepth (start ts (.ending (scan query).stop)) stack).result <;> rfl

/-- The tokens that a statement is derived from nest within its depth. -/
theorem nestsWithin_of_derives {node : Node} {ts semi : List Token} {marked : Bool} {last : Token}
    (h : Derives false (.part .statement node) ts) (hsemi : Mark (.symbol .semicolon) marked semi)
    (hlast : last.kind = .endOfInput) :
    (start (ts ++ semi) last).nestsWithin node.depth = true := by
  obtain ⟨m, hq⟩ := Reading.query_ok node.depth node.depth h hsemi (Nat.le_refl _) hlast
  rw [Stream.nestsWithin, hq]

/--
Whatever tokens the restricted grammar derives a statement from, followed by a semicolon or not, are
read as that statement, if the nesting limit is at least its depth and the call stack has room for
so many levels. On a stack without that room they are read as the same statement or refused for
being nested too deeply. So no list of tokens derives two trees at one place in the restricted
grammar.
-/
theorem parse_eq_of_derives (maxDepth : Int) (stack : CallStack) (node : Node)
    (ts semi : List Token) (marked : Bool) (h : Derives false (.part .statement node) ts)
    (hsemi : Mark (.symbol .semicolon) marked semi) (hd : node.depth ≤ maxDepth)
    (hstack : stack.HasRoom node.depth) :
    (∀ last : Token, last.kind = .endOfInput →
        (parseStream maxDepth (start (ts ++ semi) last) stack).result = .ok node) ∧
      (∀ (query : String) (stop : Position), tokenize query = .ok (ts ++ semi ++ [.ending stop]) →
        parse maxDepth query stack = .ok node ∧
        ∀ tight : CallStack, parse maxDepth query tight = .ok node ∨
          ∃ t ∈ ts ++ semi ++ [.ending stop],
            parse maxDepth query tight = .error (.grammatical ⟨.nestedTooDeeply, t⟩)) ∧
      (∀ (k : Part) (n n' : Node) (us : List Token), Derives false (.part k n) us →
        Derives false (.part k n') us → n = n') ∧
      ∀ (t : Tier) (e e' : Node) (us : List Token), Derives false (.expression t e) us →
        Derives false (.expression t e') us → e = e' := by
  have hread : ∀ last : Token, last.kind = .endOfInput →
      (parseStream maxDepth (start (ts ++ semi) last) stack).result = .ok node := by
    intro last hlast
    rw [parseStream_of_holds (hstack maxDepth _ (nestsWithin_of_derives h hsemi hlast))]
    exact parseStream_ok h hsemi hd hlast
  refine ⟨hread, fun query stop hq => ⟨?_, fun tight => ?_⟩, fun _ _ _ _ => Derives.part_unique,
    fun _ _ _ _ => Derives.expression_unique⟩
  · rw [parse_of_tokenize hq, hread _ rfl]
    rfl
  · have hstop : (scan query).stop = stop := by
      obtain ⟨-, htokens⟩ := tokenize_eq_ok.mp hq
      simpa [Token.ending] using List.append_inj_right' htokens rfl
    rw [parse_of_tokenize hq, hstop]
    rcases parseStream_or_exhausted tight maxDepth (start (ts ++ semi) (.ending stop)) with
      hsame | ⟨t, ht, herror⟩
    · rw [hsame, parseStream_ok h hsemi hd rfl]
      exact .inl rfl
    · rw [tokens_start] at ht
      rw [herror]
      exact .inr ⟨t, ht, rfl⟩

/-- At exactly its depth, on a stack with room for exactly so many levels, with a name that is
spelled like a side. -/
theorem parse_eq_of_derives_trim :
    parse 2 "DELETE A WHERE TRIM(leading) = x;" (.ofLevels 2) =
      .ok (.delete "A" none
        (some (.binary (plainCall "TRIM" [.path ["leading"]]) "=" (.path ["x"])))) := by
  have hx := @Derives.path false _ _ (.name (t := ⟨.identifier, "x", ⟨1, 32, 31⟩⟩) rfl)
  have hleading := @Derives.path false _ _ (.name (t := ⟨.identifier, "leading", ⟨1, 21, 20⟩⟩) rfl)
  have htrim := Derives.trim (f := ⟨.function .trim, "TRIM", ⟨1, 16, 15⟩⟩)
    (o := ⟨.symbol .leftParen, "(", ⟨1, 20, 19⟩⟩) (c := ⟨.symbol .rightParen, ")", ⟨1, 28, 27⟩⟩)
    rfl rfl (.argument (.ofPrimary _ hleading)) rfl (.inr rfl)
  have hcondition : Derives false (.expression .predicate _)
      (_ ++ ⟨.symbol .equals, "=", ⟨1, 30, 29⟩⟩ :: _) :=
    .binary rfl (.ofPrimary _ htrim) (.ofPrimary _ hx)
  have hstatement := Derives.delete (w := ⟨.reserved .delete, "DELETE", ⟨1, 1, 0⟩⟩) rfl .absent
    (.name (t := ⟨.identifier, "A", ⟨1, 8, 7⟩⟩) rfl) .absent
    (.someClause (t := ⟨.reserved .whereWord, "WHERE", ⟨1, 10, 9⟩⟩) rfl
      (.argument (.tighter (.tighter (.tighter hcondition)))))
  exact ((parse_eq_of_derives 2 _ _ _ [⟨.symbol .semicolon, ";", ⟨1, 33, 32⟩⟩] true hstatement
    (.present rfl) (by decide) (CallStack.hasRoom_ofLevels 2)).2.1 _ ⟨1, 34, 33⟩
      (by with_unfolding_all rfl)).1

/-- A stack with room for one level less, under a limit that allows the query. -/
example : (match parse 9 "DELETE A WHERE TRIM(leading) = x;" (.ofLevels 1) with
    | .ok _ => none
    | .error e => some e.message) = some "Query is nested too deeply at line 1, column 21" := by
  decide +kernel

end EntityQuery
