import EntityQuery.Proofs.Sql.Alike

/-!
# Trees under two alias tables

A tree that finds the same names everywhere is rendered alike. This is shown for one kind of node
after the other, and then for everything that the grammar derives, by induction on the derivation.
-/

namespace EntityQuery.Sql

open Grammar Rendering

variable {other : Metadata}

/-! ## Expressions -/

namespace NodeAlike

/-- A literal has no names. -/
theorem literal (value : String) (kind : LiteralKind) : NodeAlike other (.literal value kind) := by
  intro q _ _
  rw [render, render]
  exact .pure _

theorem parameter (name : String) (positional : Bool) :
    NodeAlike other (.parameter name positional) := by
  intro q _ _
  rw [render, render]
  exact .pure _

theorem star : NodeAlike other .star := by
  intro q _ _
  rw [render, render]
  exact .pure _

/-- A node that puts words around the text of one operand. -/
theorem around {n e : Node} {words : String → String}
    (hn : ∀ z, render z n = do
      let w ← shown (← render z e)
      pure (.text (words w)))
    (hw : ∀ test q, everywhere test q n = (test q n && everywhere test q e))
    (h : NodeAlike other e) :
    NodeAlike other n := by
  intro q hm hq
  rw [hw, Bool.and_eq_true] at hq
  rw [hn, hn]
  exact (h hm hq.2).display fun w => .pure _

/-- A node that puts words around the texts of two operands. -/
theorem aroundBoth {n l r : Node} {words : String → String → String}
    (hn : ∀ z, render z n = do
      let v ← shown (← render z l)
      let w ← shown (← render z r)
      pure (.text (words v w)))
    (hw : ∀ test q, everywhere test q n = (test q n && everywhere test q l && everywhere test q r))
    (hl : NodeAlike other l) (hr : NodeAlike other r) : NodeAlike other n := by
  intro q hm hq
  simp only [hw, Bool.and_eq_true] at hq
  rw [hn, hn]
  exact (hl hm hq.1.2).display fun v => (hr hm hq.2).display fun w => .pure _

theorem paren {e : Node} (h : NodeAlike other e) : NodeAlike other (.paren e) :=
  h.around (fun z => by rw [render]) fun test q => by rw [everywhere]

theorem existsQuery {e : Node} (h : NodeAlike other e) : NodeAlike other (.existsQuery e) :=
  h.around (fun z => by rw [render]) fun test q => by rw [everywhere]

theorem subquery {e : Node} (h : NodeAlike other e) : NodeAlike other (.subquery e) :=
  h.around (fun z => by rw [render]) fun test q => by rw [everywhere]

theorem unary {e : Node} (operator : String) (h : NodeAlike other e) :
    NodeAlike other (.unary operator e) :=
  h.around (fun z => by rw [render]) fun test q => by rw [everywhere]

theorem isNull {e : Node} (negated : Bool) (h : NodeAlike other e) :
    NodeAlike other (.isNull e negated) :=
  h.around (fun z => by rw [render]) fun test q => by rw [everywhere]

theorem binary {l r : Node} (operator : String) (hl : NodeAlike other l) (hr : NodeAlike other r) :
    NodeAlike other (.binary l operator r) :=
  aroundBoth (fun z => by rw [render]) (fun test q => by rw [everywhere]) hl hr

theorem branch {condition result : Node} (hc : NodeAlike other condition)
    (hr : NodeAlike other result) :
    NodeAlike other (.branch condition result) :=
  aroundBoth (fun z => by rw [render]) (fun test q => by rw [everywhere]) hc hr

/-- Three operands, rendered one after the other. -/
theorem between {e lower upper : Node} (negated : Bool) (h : NodeAlike other e)
    (hl : NodeAlike other lower) (hu : NodeAlike other upper) :
    NodeAlike other (.between e lower upper negated) := by
  intro q hm hw
  simp only [everywhere, Bool.and_eq_true] at hw
  rw [render, render]
  refine (h hm hw.1.1.2).display fun w => ?_
  exact (hl hm hw.1.2).display fun wl => (hu hm hw.2).display fun wu => .pure _

/-- The right side of `IN` is rendered first. -/
theorem inQuery {e query : Node} (negated : Bool) (h : NodeAlike other e)
    (hq : NodeAlike other query) :
    NodeAlike other (.inSet e [] (some query) none negated) := by
  intro q hm hw
  simp only [everywhere, everywhereOption, Bool.and_eq_true] at hw
  rw [render, render]
  refine (hq hm hw.1.2).bind fun p => ?_
  exact (h hm hw.1.1.1.2).display fun w => (Alike.shown p).bind fun inner => .pure _

theorem inParameter {e parameter : Node} (negated : Bool) (h : NodeAlike other e)
    (hp : NodeAlike other parameter) :
    NodeAlike other (.inSet e [] none (some parameter) negated) := by
  intro q hm hw
  simp only [everywhere, everywhereOption, Bool.and_eq_true] at hw
  rw [render, render]
  refine (hp hm hw.2).bind fun p => ?_
  exact (h hm hw.1.1.1.2).display fun w => (Alike.shown p).bind fun inner => .pure _

/-- The values of a list are rendered before the operand, as a query is. -/
theorem inList {e : Node} {values : List Node} (negated : Bool) (h : NodeAlike other e)
    (hv : ∀ n ∈ values, NodeAlike other n) :
    NodeAlike other (.inSet e values none none negated) := by
  intro q hm hw
  simp only [everywhere, Bool.and_eq_true] at hw
  rw [render, render]
  exact (alike_list hv hm hw.1.1.2).string fun wv => (h hm hw.1.1.1.2).display fun w => .pure _

/-- The escape character is rendered last, if there is one. -/
theorem like {e pattern : Node} {escape : Option Node} (negated : Bool) (h : NodeAlike other e)
    (hp : NodeAlike other pattern) (hc : ∀ n ∈ escape, NodeAlike other n) :
    NodeAlike other (.like e pattern escape negated) := by
  intro q hm hw
  simp only [everywhere, Bool.and_eq_true] at hw
  rw [render, render]
  refine (h hm hw.1.1.2).display fun w => (hp hm hw.1.2).display fun wp => ?_
  refine (alike_option hc hm hw.2).bind fun escape => ?_
  cases escape with
  | none => exact .pure _
  | some c => exact (Alike.shown c).bind fun wc => .pure _

/-- `MEMBER OF` is refused. -/
theorem memberOf (e collection : Node) (negated : Bool) :
    NodeAlike other (.memberOf e collection negated) := by
  intro q _ _
  rw [render]
  exact .throw

/-- The operand is rendered before the branches, and the `ELSE` behind them. -/
theorem caseOf {operand otherwise : Option Node} {branches : List Node}
    (ho : ∀ n ∈ operand, NodeAlike other n) (hb : ∀ n ∈ branches, NodeAlike other n)
    (he : ∀ n ∈ otherwise, NodeAlike other n) :
    NodeAlike other (.caseOf operand branches otherwise) := by
  intro q hm hw
  simp only [everywhere, Bool.and_eq_true] at hw
  rw [render, render]
  refine (alike_option ho hm hw.1.1.2).bind fun operand =>
    (alike_list hb hm hw.1.2).bind fun branches => ?_
  refine (alike_option he hm hw.2).bind fun otherwise => ?_
  cases otherwise with
  | none => exact (Alike.strung _ _).bind fun text => .pure _
  | some e => exact (Alike.shown e).bind fun w => (Alike.strung _ _).bind fun text => .pure _

/-- A call of any kind: what it writes around its arguments does not depend on the metadata. -/
theorem call {name : String} {args : List Node} {distinct known : Bool}
    {trimSpec castType : Option String} {trimChar : Option Node}
    (ha : ∀ n ∈ args, NodeAlike other n) (hc : ∀ n ∈ trimChar, NodeAlike other n) :
    NodeAlike other (.call name args distinct known trimSpec trimChar castType) := by
  intro q hm hw
  simp only [everywhere, Bool.and_eq_true] at hw
  have hargs := alike_list ha hm hw.1.2
  have hfirst := alike_first ha hm hw.1.2
  rw [render, render]
  split
  · exact hargs.string fun w => .pure _
  · split
    · exact .throw
    · split
      · exact .pure _
      · split
        · refine (alike_option hc hm hw.2).bind fun char => hfirst.bind fun first => ?_
          exact (Alike.strung _ _).bind fun text => .pure _
        · split
          · exact hfirst.display fun w => .pure _
          · exact hargs.string fun w => .pure _

/-! ## Items of clauses -/

theorem selectItem {e : Node} (asName : Option String) (h : NodeAlike other e) :
    NodeAlike other (.selectItem e asName) := by
  intro q hm hw
  simp only [everywhere, Bool.and_eq_true] at hw
  rw [render, render]
  exact (h hm hw.2).bind fun p => Alike.extendedBy p _

/-- A constructor without arguments is refused under either alias table. -/
theorem constructor {args : List Node} (className : String) (asName : Option String)
    (ha : ∀ n ∈ args, NodeAlike other n) :
    NodeAlike other (.constructor className args asName) := by
  intro q hm hw
  simp only [everywhere, Bool.and_eq_true] at hw
  rw [render, render]
  split
  · exact .throw
  · exact (alike_list ha hm hw.2).string fun w => Alike.extendedBy _ _

theorem orderItem {e : Node} (direction : Option Direction) (nulls : Option String)
    (h : NodeAlike other e) :
    NodeAlike other (.orderItem e direction nulls) := by
  intro q hm hw
  simp only [everywhere, Bool.and_eq_true] at hw
  rw [render, render]
  exact (h hm hw.2).bind fun p => (Alike.extendedBy p _).bind fun p => Alike.extendedBy p _

/-- The left side of an assignment finds the same column. -/
theorem assignment {parts : List String} {value : Node} (h : NodeAlike other value) :
    NodeAlike other (.assignment (.path parts) value) := by
  intro q hm hw
  simp only [everywhere, writesSameNames, partsOf, Bool.and_eq_true, beq_iff_eq] at hw
  rw [render, render]
  exact (alike_target hw.1).display fun wl => (h hm hw.2).display fun wv => .pure _

/-- A join that goes to the same table, with the same condition, is rendered alike. -/
theorem join {kind : JoinKind} {parts : List String} {asName : Option String} {fetch : Bool}
    {condition : Option Node} (hc : ∀ n ∈ condition, NodeAlike other n) :
    NodeAlike other (.join kind (.path parts) asName fetch condition) := by
  intro q hm hw
  rw [render, render]
  cases hg : given? asName with
  | none => exact .ofFinds other (finds_aliasless (.path parts)) (finds_aliasless (.path parts))
  | some name =>
    obtain ⟨rfl, -⟩ := Option.filter_eq_some_iff.mp hg
    simp only [everywhere, writesSameNames, partsOf, Option.getD_some, Bool.and_eq_true,
      Bool.or_eq_true, beq_iff_eq] at hw
    obtain ⟨⟨htable, hon⟩, hwc⟩ := hw
    have hhead := finds_joinHead (q := q.under other) kind parts name
    rw [htable] at hhead
    refine (Alike.ofFinds other (finds_joinHead kind parts name) hhead).bind fun head => ?_
    cases condition with
    | some test =>
      rw [renderOption, renderOption, bind_assoc, bind_assoc]
      simp only [pure_bind]
      exact (hc test rfl hm hwc).display fun w => .pure _
    | none =>
      rw [renderOption, renderOption]
      have hequation : (q.under other).joinEquation? parts name = q.joinEquation? parts name := by
        simpa using hon
      have hrelation := finds_joinByRelation (q := q.under other) parts name head
      rw [hequation] at hrelation
      exact .ofFinds other (finds_joinByRelation parts name head) hrelation

/-- The table of a source depends on its entity alone, not on aliases. -/
theorem fromItem {joins : List Node} (entity : String) (asName : Option String)
    (hj : ∀ n ∈ joins, NodeAlike other n) :
    NodeAlike other (.fromItem entity asName joins) := by
  intro q hm hw
  simp only [everywhere, Bool.and_eq_true] at hw
  rw [render, render]
  refine (Alike.logging (run_tableFor q.scope.schema entity)).bind fun table => ?_
  exact (alike_present hj hm hw.2).bind fun joins => (Alike.strung _ _).bind fun text => .pure _

/-! ## Statements -/

/-- The sources are rendered before the items. -/
theorem select {items sources grouping ordering : List Node} {condition having : Option Node}
    (distinct : Bool) (hi : ∀ n ∈ items, NodeAlike other n) (hs : ∀ n ∈ sources, NodeAlike other n)
    (hc : ∀ n ∈ condition, NodeAlike other n) (hg : ∀ n ∈ grouping, NodeAlike other n)
    (hh : ∀ n ∈ having, NodeAlike other n) (ho : ∀ n ∈ ordering, NodeAlike other n) :
    NodeAlike other (.select items sources distinct condition grouping having ordering) := by
  intro q hm hw
  simp only [everywhere, Bool.and_eq_true] at hw
  obtain ⟨⟨⟨⟨⟨⟨-, hwi⟩, hws⟩, hwc⟩, hwg⟩, hwh⟩, hwo⟩ := hw
  rw [render, render]
  refine (alike_list hs hm hws).string fun sources => (alike_list hi hm hwi).string fun items => ?_
  refine (alike_clause "WHERE " hc hm hwc).bind fun condition => ?_
  refine (alike_list hg hm hwg).bind fun ps =>
    (alike_itemsClause "GROUP BY " ps).bind fun grouping => ?_
  refine (alike_clause "HAVING " hh hm hwh).bind fun having => ?_
  refine (alike_list ho hm hwo).bind fun ps =>
    (alike_itemsClause "ORDER BY " ps).bind fun ordering => ?_
  exact (Alike.strung _ _).bind fun text => .pure _

end NodeAlike

/-- A single tree is rendered alike. Only a whole statement may be an update or a delete, which end
outside of any target. -/
def PartAlike (other : Metadata) : Part → Node → Prop
  | .statement, n =>
      ∀ ⦃q : Place⦄, q.target = none → q.targetAlias = none → SameAliases q.scope.metadata other →
      everywhere (writesSameNames other) q n = true →
        Alike q q (render q.scope n) (render (q.under other).scope n)
  | _, n => NodeAlike other n

/-- Inside an update both renderings have the same target, and so they are in the same place again.
-/
theorem alike_update {entity : String} {asName : Option String} {assignments : List Node}
    {condition : Option Node} (ha : ∀ n ∈ assignments, NodeAlike other n)
    (hc : ∀ n ∈ condition, NodeAlike other n) :
    PartAlike other .statement (.update entity asName assignments condition) := by
  intro q htarget halias hm hw
  simp only [everywhere, Bool.and_eq_true] at hw
  let inside : Place := { q with target := some entity, targetAlias := asName }
  rw [render, render]
  refine Alike.bind (r := inside) (.modify (fun s hs => ⟨rfl, rfl, hs.grown⟩) fun _ _ => rfl)
    fun _ => ?_
  refine (Alike.logging (run_tableFor q.scope.schema entity)).bind fun table => ?_
  refine (alike_list (q := inside) ha hm hw.1.2).string fun assignments => ?_
  refine (alike_clause (q := inside) "WHERE " hc hm hw.2).bind fun condition => ?_
  refine Alike.bind (r := q) (.modify (fun s hs => ⟨htarget.symm, halias.symm, hs.grown⟩) fun _ _ =>
    rfl) fun _ => ?_
  exact (Alike.strung _ _).bind fun text => .pure _

/-- The same for a delete, whose alias is not part of the place. -/
theorem alike_delete {entity : String} {asName : Option String} {condition : Option Node}
    (hc : ∀ n ∈ condition, NodeAlike other n) :
    PartAlike other .statement (.delete entity asName condition) := by
  intro q htarget halias hm hw
  simp only [everywhere, Bool.and_eq_true] at hw
  let inside : Place := { q with target := some entity }
  rw [render, render]
  refine Alike.bind (r := inside) (.modify (fun s hs => ⟨rfl, hs.targetAlias, hs.grown⟩) fun _ _ =>
    rfl) fun _ => ?_
  refine (Alike.logging (run_tableFor q.scope.schema entity)).bind fun table => ?_
  refine (alike_clause (q := inside) "WHERE " hc hm hw.2).bind fun condition => ?_
  refine Alike.bind (r := q)
    (.modify (fun s hs => ⟨htarget.symm, hs.targetAlias, hs.grown⟩) fun _ _ => rfl) fun _ => ?_
  exact (Alike.strung _ _).bind fun text => .pure _

/-! ## Derivations -/

/-- The trees of a phrase are rendered alike. -/
def PhraseAlike (other : Metadata) : Phrase → Prop
  | .expression _ e => NodeAlike other e
  | .part k n => PartAlike other k n
  | .list k ns => ∀ n ∈ ns, PartAlike other k n
  | .joins ns => ∀ n ∈ ns, NodeAlike other n
  | .branches ns => ∀ n ∈ ns, NodeAlike other n
  | .arguments ns => ∀ n ∈ ns, NodeAlike other n
  | .clause _ e => ∀ n ∈ e, NodeAlike other n
  | .byClause _ k ns => ∀ n ∈ ns, PartAlike other k n

theorem alike_atom {t : Token} {e : Node} (h : atom? t = some e) : NodeAlike other e := by
  unfold atom? at h
  split at h
  case h_7 | h_8 =>
    cases h
    exact .parameter _ _
  case h_9 =>
    cases h
    exact .call (by simp) (by simp)
  case h_10 => cases h
  all_goals
    cases h
    exact .literal _ _

/-- What the grammar derives is rendered alike. -/
theorem derives_alike {whole : Bool} {p : Phrase} {ts : List Token} (h : Derives whole p ts) :
    PhraseAlike other p := by
  induction h with
  | tighter _ ih => exact ih
  | binary _ _ _ ihl ihr => exact .binary _ ihl ihr
  | not _ _ ih => exact .unary _ ih
  | sign _ _ ih => exact .unary _ ih
  | isNull _ _ _ _ ih => exact .isNull _ ih
  | between _ _ _ _ _ _ ih ihl ihu => exact .between _ ih ihl ihu
  | inParameter _ _ _ _ ha ih => exact .inParameter _ ih (alike_atom ha)
  | inQuery _ _ _ _ _ _ ih ihq => exact .inQuery _ ih ihq
  | inList _ _ _ _ _ _ ih ihv => exact .inList _ ih ihv
  | like _ _ _ _ ih ihp => exact .like _ ih ihp (by simp)
  | likeEscape _ _ _ _ _ _ ih ihp ihe => exact .like _ ih ihp (by rintro n ⟨⟩; exact ihe)
  | memberOf _ _ _ _ _ _ => exact .memberOf _ _ _
  | atom h => exact alike_atom h
  | path _ => exact .path _
  | paren _ _ _ ih => exact .paren ih
  | subquery _ _ _ ih => exact .subquery ih
  | existsQuery _ _ _ _ ih => exact .existsQuery ih
  | caseSearched _ _ _ _ _ ihb ihe => exact .caseOf (by simp) ihb ihe
  | caseSimple _ _ _ _ _ _ iho ihb ihe => exact .caseOf (by rintro n ⟨⟩; exact iho) ihb ihe
  | otherCall _ _ _ _ ih => exact .call ih (by simp)
  | functionCall _ _ _ _ _ _ ih => exact .call ih (by simp)
  | countAll _ _ _ _ => exact .call (List.forall_mem_singleton.mpr .star) (by simp)
  | aggregate _ _ _ _ _ _ ih => exact .call (List.forall_mem_singleton.mpr ih) (by simp)
  | cast _ _ _ _ _ _ ih => exact .call (List.forall_mem_singleton.mpr ih) (by simp)
  | trim _ _ _ _ _ ih => exact .call (List.forall_mem_singleton.mpr ih) (by simp)
  | trimFrom _ _ _ _ _ _ ih => exact .call (List.forall_mem_singleton.mpr ih) (by simp)
  | trimCharacter _ _ _ _ _ _ _ _ ihu ih =>
    exact .call (List.forall_mem_singleton.mpr ih) (by rintro n ⟨⟩; exact ihu)
  | one _ ih => exact List.forall_mem_singleton.mpr ih
  | more _ _ _ ih ihn => exact List.forall_mem_append.mpr ⟨ih, List.forall_mem_singleton.mpr ihn⟩
  | noJoin => exact fun n hn => by cases hn
  | moreJoins _ _ ih ihj => exact List.forall_mem_append.mpr ⟨ih, List.forall_mem_singleton.mpr ihj⟩
  | noBranch => exact fun n hn => by cases hn
  | moreBranches _ _ _ _ _ ih ihc ihr =>
    exact List.forall_mem_append.mpr ⟨ih, List.forall_mem_singleton.mpr (.branch ihc ihr)⟩
  | noArgument => exact fun n hn => by cases hn
  | someArguments _ ih => exact ih
  | noClause => exact fun n hn => by cases hn
  | someClause _ _ ih =>
    rintro n ⟨⟩
    exact ih
  | noByClause => exact fun n hn => by cases hn
  | someByClause _ _ _ ih => exact ih
  | argument _ ih => exact ih
  | target _ => exact NodeAlike.path _
  | selectItem _ _ ih => exact NodeAlike.selectItem _ ih
  | constructor _ _ _ _ _ _ ih => exact NodeAlike.constructor _ _ ih
  | join _ _ _ _ _ _ ih => exact NodeAlike.join ih
  | source _ _ _ ih => exact NodeAlike.fromItem _ _ ih
  | orderItem _ _ _ ih => exact NodeAlike.orderItem _ _ ih
  | assignment _ _ _ ih => exact NodeAlike.assignment ih
  | select _ _ _ _ _ _ _ _ _ ihi ihs ihc ihg ihh iho =>
    exact NodeAlike.select _ ihi ihs ihc ihg ihh iho
  | ofSelect _ ih => exact fun q _ _ hm hw => ih hm hw
  | update _ _ _ _ _ _ ih ihc => exact alike_update ih ihc
  | delete _ _ _ _ _ ih => exact alike_delete ih
  | insert _ _ _ _ _ _ _ _ _ =>
    intro q _ _ _ _
    rw [render]
    exact .throw

end EntityQuery.Sql
