import EntityQuery.Proofs.Sql.Conversion
import EntityQuery.Proofs.Sql.QuietName

/-!
# Placeholders of a converted statement

A tree has two signals of its own: its parameters, and a minus directly on another one. Under a
schema of quiet names these are the signals of its text, and there are no others (`seen_wellFormed`,
`seen_statement`).

1. `comment_mem_signals_iff`: a comment opens in a converted statement exactly if a minus stands
   directly on another one.
2. `mem_parameters_iff_placeholder`: where that is not the case, the parameters that an analysis
   finds are the placeholders of the statement, together with the parameters that joins without an
   alias take along.
-/

namespace EntityQuery.Sql

open Grammar Text

/-! ## Signals of trees -/

/-- The signal of a node itself. -/
def signal? : Node → Option Signal
  | .parameter name _ => some (.parameter name)
  | n => if hasSingleMinus n then none else some .comment

/-- A tree has a signal, outside of what joins without an alias take along. -/
def HasSignal (n : Node) (s : Signal) : Prop :=
  ∃ m ∈ n.nodes false, signal? m = some s

theorem hasSignal_iff {n : Node} {s : Signal} :
    HasSignal n s ↔ signal? n = some s ∨ ∃ c ∈ n.children false, HasSignal c s := by
  unfold HasSignal
  constructor
  · rintro ⟨m, hm, hs⟩
    rcases Node.mem_nodes.mp hm with rfl | ⟨c, hc, hm⟩
    · exact .inl hs
    · exact .inr ⟨c, hc, m, hm, hs⟩
  · rintro (hs | ⟨c, hc, m, hm, hs⟩)
    · exact ⟨n, Node.mem_nodes_self false n, hs⟩
    · exact ⟨m, Node.mem_nodes.mpr (.inr ⟨c, hc, hm⟩), hs⟩

theorem hasSignal_comment {n : Node} :
    HasSignal n .comment ↔ ∃ m ∈ n.nodes false, hasSingleMinus m = false := by
  refine exists_congr fun m => and_congr_right fun _ => ?_
  cases m with
  | unary operator e => simp [signal?]
  | _ => simp [signal?, hasSingleMinus]

theorem hasSignal_parameter {n : Node} {name : String} :
    HasSignal n (.parameter name) ↔ ∃ positional, .parameter name positional ∈ n.nodes false := by
  constructor
  · rintro ⟨m, hm, hs⟩
    cases m with
    | parameter name' positional =>
      cases hs
      exact ⟨positional, hm⟩
    | unary operator e =>
      simp only [signal?] at hs
      split at hs <;> cases hs
    | _ => cases hs
  · rintro ⟨positional, hm⟩
    exact ⟨_, hm, rfl⟩

/-- A text has the signals of its tree. -/
def Seen (q : Place) (n : Node) : Prop :=
  Signals isGap (treeText q n) (HasSignal n)

/-- A node without a signal of its own has those of its children. -/
theorem Seen.of_children {q : Place} {n : Node} {w : String} {P : Signal → Prop}
    (hn : signal? n = none) (hw : treeText q n = w) (h : Signals isGap w P)
    (hP : ∀ s, P s ↔ ∃ c ∈ n.children false, HasSignal c s) : Seen q n := by
  subst hw
  exact h.congr fun s => by rw [hasSignal_iff, hn, hP]; simp

variable {q : Place}

theorem not_hasSignal_path {parts : List String} {s : Signal} : ¬HasSignal (.path parts) s := by
  rw [hasSignal_iff]
  simp [signal?, hasSingleMinus, Node.children]

/-! ## Lists and options -/

theorem seen_list {ns : List Node} (h : ∀ n ∈ ns, Seen q n) :
    SignalsAll (listTexts q ns) fun s => ∃ n ∈ ns, HasSignal n s := by
  rw [listTexts_eq]
  exact .map h

theorem seen_option {n? : Option Node} (h : ∀ n ∈ n?, Seen q n) :
    SignalsAll (optionTexts q n?) fun s => ∃ n ∈ n?, HasSignal n s := by
  cases n? with
  | none => exact SignalsAll.nil.congr fun s => by simp [noSignal]
  | some n => exact (SignalsAll.single (h n rfl)).congr fun s => by simp

theorem SignalsAll.headed {ws : List String} {P : Signal → Prop} (h : SignalsAll ws P)
    (keyword : String) (hk : isQuiet keyword = true) : SignalsAll (headed keyword ws) P := by
  unfold Sql.headed
  cases ws with
  | nil => exact h
  | cons w ws => exact .single (h.listed.behind hk)

theorem SignalsAll.trimWords {ws : List String} {P : Signal → Prop} (h : SignalsAll ws P) :
    SignalsAll (trimWords ws) P := by
  unfold Sql.trimWords
  cases ws with
  | nil => exact h
  | cons w ws =>
    exact (h.append (.single (.silent (w := "FROM") (by decide)))).congr fun s => by simp [noSignal]

/-- Texts that are not empty. -/
theorem SignalsAll.present {ws : List String} {P : Signal → Prop} (h : SignalsAll ws P) :
    SignalsAll (ws.filter fun w => w != "") P := by
  induction h with
  | nil => exact .nil
  | @cons w ws P Q hw _ ih =>
    by_cases he : w = ""
    · -- What is left out has no signals.
      subst he
      exact ih.congr fun s => by simp [hw.empty s]
    · rw [List.filter_cons_of_pos (by simpa using he)]
      exact .cons hw ih

theorem signals_optional {asName : Option String} (h : ∀ a ∈ asName, isQuiet a = true) :
    SignalsAll asName.toList noSignal := by
  cases asName with
  | none => exact .nil
  | some a => exact .single (.silent (h a rfl))

/-! ## Signs -/

theorem head_of_opens {w : String} (h : Opens (Lexeme.breaksOff (.symbol .minus)) w) :
    w.toList.head? ≠ some '-' := by
  obtain ⟨c, cs, hc, hb⟩ := h
  rw [hc, List.head?_cons]
  rintro ⟨⟩
  cases hb

theorem head_of_quiet {w : String} (h : isQuiet w = true) : w.toList.head? ≠ some '-' := by
  intro hd
  have := isQuiet_iff.mp h _ (List.mem_of_mem_head? hd)
  cases this

theorem head_append {v w : String} (hv : isQuiet v = true) (hne : v ≠ "") :
    (v ++ w).toList.head? ≠ some '-' := by
  rw [String.toList_append, List.head?_append_of_ne_nil _ (by simpa using hne)]
  exact head_of_quiet hv

theorem head_spaced {w : String} {ws : List String} (hw : isQuiet w = true) (hne : w ≠ "") :
    (" ".intercalate (w :: ws)).toList.head? ≠ some '-' := by
  cases ws with
  | nil =>
    rw [String.intercalate_singleton]
    exact head_of_quiet hw
  | cons v ws =>
    rw [String.intercalate_cons_of_ne_nil (by simp), String.append_assoc]
    exact head_append hw hne

theorem quiet_function (f : Function) :
    isQuiet (TokenKind.function f).name = true ∧ (TokenKind.function f).name ≠ "" := by
  cases f <;> decide

/-- What may stand behind a sign opens with a minus only if it is one. -/
theorem head_treeText (hq : q.Quiet) {e : Node} (h : WellFormed e) (hs : takesSign e = true) :
    (treeText q e).toList.head? = some '-' ↔ hasSingleMinus (.unary "-" e) = false := by
  have hother : (treeText q e).toList.head? ≠ some '-' → hasSingleMinus (.unary "-" e) = true →
      ((treeText q e).toList.head? = some '-' ↔ hasSingleMinus (.unary "-" e) = false) := by
    intro hhead hsingle
    rw [hsingle]
    exact iff_of_false hhead nofun
  cases h with
  | literal hl =>
    obtain ⟨kind, -, hk, hspell⟩ := hl
    exact hother (head_of_opens (opens_of_spelling hspell hk)) rfl
  | path hp =>
    exact hother (by rw [treeText]; exact head_of_quiet (quiet_path hq (quiet_parts hp))) rfl
  | @parameter name positional hp =>
    refine hother ?_ rfl
    rw [treeText]
    exact head_of_opens (opens_of_spelling hp (by cases positional <;> exact nofun))
  | clock c =>
    refine hother ?_ rfl
    rw [treeText_clock]
    cases c <;> exact head_of_quiet (by decide)
  | otherCall hn =>
    refine hother ?_ rfl
    obtain ⟨kind, -, hspell⟩ := hn.word
    rw [treeText_otherCall]
    simp only [String.append_assoc]
    exact head_append (quiet_name hn) (ne_empty_of_spelling hspell)
  | @functionCall f _ _ ht hc =>
    refine hother ?_ rfl
    obtain ⟨hquiet, hne⟩ := quiet_function f
    rw [treeText_functionCall ht hc]
    simp only [String.append_assoc]
    exact head_append hquiet hne
  | cast =>
    refine hother ?_ rfl
    rw [treeText_cast]
    simp only [String.append_assoc]
    exact head_append (by decide) (by decide)
  | trim =>
    refine hother ?_ rfl
    rw [treeText_trim]
    simp only [String.append_assoc]
    exact head_append (by decide) (by decide)
  | paren | subquery | existsQuery =>
    refine hother ?_ rfl
    rw [treeText]
    simp only [String.append_assoc]
    exact head_append (by decide) (by decide)
  | @sign operator e ho =>
    rw [treeText]
    rcases ho with rfl | rfl <;> simp [hasSingleMinus]
  | caseOf =>
    refine hother ?_ rfl
    rw [treeText]
    simp only [List.cons_append]
    exact head_spaced (by decide) (by decide)
  | _ => cases hs

/-! ## Calls and predicates -/

theorem signals_notWord {w : String} {P : Signal → Prop} (h : Signals isGap w P) (negated : Bool) :
    Signals isGap (w ++ notWord negated) P := by
  cases negated <;> exact h.trail (by decide) (by decide)

theorem seen_trim {e : Node} {side : Option String} {char : Option Node}
    (hs : ∀ w ∈ side, isQuiet w = true) (hc : ∀ n ∈ char, Seen q n) (h : Seen q e) :
    Seen q (.call "TRIM" [e] false true side char none) := by
  have hbefore := ((signals_optional hs).append (seen_option hc)).trimWords
  exact .of_children rfl (treeText_trim ..) ((hbefore.append (.single h)).spaced.closed (by decide))
    fun s => by
    simp [Node.children, noSignal, or_comm]

theorem seen_inSet {e : Node} {values : List Node} {query single : Option Node} {negated : Bool}
    (h : Seen q e) (hv : ∀ n ∈ values, Seen q n) (hq : ∀ n ∈ query, Seen q n)
    (hs : ∀ n ∈ single, Seen q n) :
    Seen q (.inSet e values query single negated) := by
  have hin := (signals_notWord h negated).gap (w := " IN (") (by decide) (by decide)
  have hset := (((seen_list hv).append (seen_option hq)).append (seen_option hs)).listed
  exact .of_children rfl (by rw [treeText])
    ((hin.next hset).trail (w := ")") (by decide) (by decide)) fun s => by
    simp [Node.children, or_and_right, exists_or, or_assoc]

theorem seen_like {e pattern : Node} {escape : Option Node} {negated : Bool} (h : Seen q e)
    (hp : Seen q pattern) (hc : ∀ n ∈ escape, Seen q n) :
    Seen q (.like e pattern escape negated) := by
  have hlike := ((signals_notWord h negated).gap (w := " LIKE ") (by decide) (by decide)).next hp
  cases escape with
  | none => exact .of_children rfl (by rw [treeText]) hlike fun s => by simp [Node.children]
  | some c =>
    have hescape := (hlike.gap (w := " ESCAPE ") (by decide) (by decide)).next (hc c rfl)
    exact .of_children rfl (by rw [treeText]) hescape fun s => by simp [Node.children, or_assoc]

theorem seen_caseOf {operand otherwise : Option Node} {branches : List Node}
    (ho : ∀ n ∈ operand, Seen q n) (hb : ∀ n ∈ branches, Seen q n)
    (he : ∀ n ∈ otherwise, Seen q n) : Seen q (.caseOf operand branches otherwise) := by
  have hcase := SignalsAll.cons (.silent (w := "CASE") (by decide)) (seen_option ho)
  have helse := (seen_option he).headed "ELSE " (by decide)
  have hend := SignalsAll.single (.silent (w := "END") (by decide))
  exact .of_children rfl (by rw [treeText])
    (((hcase.append (seen_list hb)).append helse).append hend).spaced fun s => by
    simp [Node.children, noSignal, or_and_right, exists_or, or_assoc]

/-! ## Items of clauses -/

theorem signals_asWords {w : String} {P : Signal → Prop} {asName : Option String}
    (h : Signals isGap w P) (ha : ∀ a ∈ asName, isQuiet a = true) :
    Signals isGap (w ++ asWords asName) P := by
  cases asName with
  | none => exact h.trail (by decide) (by decide)
  | some a =>
    rw [asWords, Option.map_some, Option.getD_some, ← String.append_assoc]
    exact (h.gap (by decide) (by decide)).plain (.silent (ha a rfl))

theorem seen_orderItem {e : Node} {direction : Option Direction} {nulls : Option String}
    (h : Seen q e) (hn : ∀ w ∈ nulls, isQuiet w = true) :
    Seen q (.orderItem e direction nulls) := by
  have hdirection : Signals isGap (treeText q e ++ (direction.map fun d => " " ++ d.word).getD "")
      (HasSignal e) := by
    cases direction with
    | none => exact h.trail (by decide) (by decide)
    | some d => cases d <;> exact h.trail (by decide) (by decide)
  have hnulls : Signals isGap
      (treeText q e ++ (direction.map fun d => " " ++ d.word).getD "" ++
        (nulls.map fun n => " NULLS " ++ n).getD "")
      (HasSignal e) := by
    cases nulls with
    | none => exact hdirection.trail (by decide) (by decide)
    | some w =>
      rw [Option.map_some, Option.getD_some, ← String.append_assoc]
      exact (hdirection.gap (by decide) (by decide)).plain (.silent (hn w rfl))
  exact .of_children rfl (by rw [treeText]) hnulls fun s => by simp [Node.children]

theorem seen_join (hq : q.Quiet) {kind : JoinKind} {parts : List String} {asName : Option String}
    {fetch : Bool} {condition : Option Node} (hp : PathText parts)
    (ha : ∀ a ∈ asName, isQuiet a = true) (hc : asName.isSome → ∀ n ∈ condition, Seen q n) :
    Seen q (.join kind (.path parts) asName fetch condition) := by
  cases asName with
  | none =>
    -- Its condition has no text, and is not among the nodes that count.
    exact .of_children rfl (by rw [treeText]) (.silent rfl) fun s => by
      simp [Node.children, noSignal, not_hasSignal_path]
  | some name =>
    have hhead := quiet_joinText hq kind hp (ha name rfl)
    cases condition with
    | none =>
      have hquiet : isQuiet (q.joinText kind parts name ++ onText (q.joinEquation? parts name)) =
          true := by
        rw [isQuiet_append, hhead, quiet_onText hq hp (ha name rfl)]
        rfl
      exact .of_children rfl (by rw [treeText]; rfl) (.silent hquiet) fun s => by
        simp [Node.children, noSignal, not_hasSignal_path]
    | some e =>
      have hquiet : isQuiet (q.joinText kind parts name ++ " ON ") = true := by
        rw [isQuiet_append, hhead]
        rfl
      exact .of_children rfl (by rw [treeText]; rfl) ((hc rfl e rfl).behind hquiet) fun s => by
        simp [Node.children, not_hasSignal_path]

theorem seen_fromItem (hq : q.Quiet) {entity : String} {asName : Option String} {joins : List Node}
    (he : isQuiet entity = true) (ha : ∀ a ∈ asName, isQuiet a = true)
    (hj : ∀ n ∈ joins, Seen q n) :
    Seen q (.fromItem entity asName joins) := by
  have hname := SignalsAll.cons (.silent (quiet_table hq he)) (signals_optional ha)
  exact .of_children rfl (by rw [treeText]) (hname.append (seen_list hj).present).spaced fun s => by
    simp [Node.children, noSignal]

theorem seen_select {items sources grouping ordering : List Node} {distinct : Bool}
    {condition having : Option Node} (hi : ∀ n ∈ items, Seen q n) (hs : ∀ n ∈ sources, Seen q n)
    (hc : ∀ n ∈ condition, Seen q n) (hg : ∀ n ∈ grouping, Seen q n) (hh : ∀ n ∈ having, Seen q n)
    (ho : ∀ n ∈ ordering, Seen q n) :
    Seen q (.select items sources distinct condition grouping having ordering) := by
  have hselect : isQuiet (if distinct then "SELECT DISTINCT " else "SELECT ") = true := by
    cases distinct <;> decide
  have hitems := SignalsAll.cons ((seen_list hi).listed.behind hselect)
    (.single ((seen_list hs).listed.behind (v := "FROM ") (by decide)))
  have hclauses := (((hitems.append ((seen_option hc).headed "WHERE " (by decide))).append
    ((seen_list hg).headed "GROUP BY " (by decide))).append
    ((seen_option hh).headed "HAVING " (by decide))).append
    ((seen_list ho).headed "ORDER BY " (by decide))
  exact .of_children rfl (by rw [treeText]) hclauses.spaced fun s => by
    simp [Node.children, or_and_right, exists_or, or_assoc]

/-! ## Trees -/

theorem Place.Free.child {n c : Node} (h : q.Free n) (hc : c ∈ n.children false) : q.Free c :=
  (Place.free_iff.mp h).2 c hc

/-- A sign is a signal if it is a minus directly on another one. -/
theorem seen_sign (hq : q.Quiet) {operator : String} {e : Node}
    (ho : operator = "+" ∨ operator = "-") (hs : takesSign e = true) (hw : WellFormed e)
    (h : Seen q e) : Seen q (.unary operator e) := by
  have hiff : ∀ s, HasSignal (.unary operator e) s ↔
      s = .comment ∧ hasSingleMinus (.unary operator e) = false ∨ HasSignal e s := by
    intro s
    rw [hasSignal_iff]
    simp only [signal?, Node.children, List.mem_singleton, exists_eq_left]
    cases hasSingleMinus (.unary operator e) <;> simp [eq_comm]
  rw [Seen, treeText]
  rcases ho with rfl | rfl
  · have hplus : hasSingleMinus (.unary "+" e) = true := by cases e <;> rfl
    exact (h.behind (v := "+") (by decide)).congr fun s => by rw [hiff, hplus]; simp
  · exact (signals_minus h).congr fun s => by rw [hiff, head_treeText hq hw hs]

/-- The text of a tree that a query can spell has the signals of the tree, if nothing in it is
refused. -/
theorem seen_wellFormed (hq : q.Quiet) {n : Node} (h : WellFormed n) (hfree : q.Free n) :
    Seen q n := by
  -- In each case the texts of the children are put together as in `treeText`; only parameters and
  -- signs add something.
  induction h with
  | literal hl =>
    obtain ⟨kind, hk, -, hs⟩ := hl
    exact .of_children rfl (by rw [treeText]) (signals_token hs hk) fun s => by
      simp [Node.children, noSignal]
  | path hp =>
    exact .of_children rfl (by rw [treeText]) (.silent (quiet_path hq (quiet_parts hp))) fun s => by
      simp [Node.children, noSignal]
  | parameter hp =>
    rw [Seen, treeText]
    exact (signals_parameter hp).congr fun s => by
      rw [hasSignal_iff]; simp [signal?, Node.children, eq_comm]
  | star =>
    exact .of_children rfl (by rw [treeText]) (.silent (by decide)) fun s => by
      simp [Node.children, noSignal]
  | clock c =>
    exact .of_children rfl (treeText_clock q c) (.silent (by cases c <;> decide)) fun s => by
      simp [plainCall, Node.children, noSignal]
  | @otherCall name args hn _ ih =>
    have hargs := seen_list fun n hn => ih n hn (hfree.child (by simpa [Node.children] using hn))
    have hopen : isQuiet (name ++ "(") = true := by
      rw [isQuiet_append, quiet_name hn]
      rfl
    exact .of_children rfl (treeText_otherCall ..) (hargs.listed.closed hopen) fun s => by
      simp [Node.children]
  | @functionCall f args distinct ht hc _ ih =>
    have hargs := seen_list fun n hn => ih n hn (hfree.child (by simpa [Node.children] using hn))
    have hopen : isQuiet ((TokenKind.function f).name ++ "(" ++ if distinct then "DISTINCT "
        else "") = true := by
      rw [isQuiet_append, isQuiet_append, (quiet_function f).1]
      cases distinct <;> decide
    exact .of_children rfl (treeText_functionCall ht hc) (hargs.listed.closed hopen) fun s => by
      simp [Node.children]
  | cast _ ht ih =>
    have he := (ih (hfree.child List.mem_cons_self)).behind (v := "CAST(") (by decide)
    have htype := (he.gap (w := " AS ") (by decide) (by decide)).plain (signals_type ht)
    exact .of_children rfl (treeText_cast ..) (htype.trail (w := ")") (by decide) (by decide))
      fun s => by
      simp [Node.children]
  | trim hs _ _ ihc ih =>
    have hside : ∀ w ∈ ["LEADING", "TRAILING", "BOTH"], isQuiet w = true := by decide
    refine seen_trim (fun w hw => hside w (hs w hw)) (fun n hn => ihc n hn (hfree.child ?_))
      (ih (hfree.child ?_))
    · simpa [Node.children] using .inr hn
    · simp [Node.children]
  | paren _ ih | subquery _ ih | existsQuery _ ih =>
    have he := ih (hfree.child List.mem_cons_self)
    exact .of_children rfl (by rw [treeText]) (he.closed (by decide)) fun s => by
      simp [Node.children]
  | @not e _ ih =>
    have he := (ih (hfree.child List.mem_cons_self)).behind (v := "NOT ") (by decide)
    have hsignal : signal? (.unary "NOT" e) = none := by cases e <;> rfl
    exact .of_children hsignal (by rw [treeText]; rfl) he fun s => by simp [Node.children]
  | sign ho hs hw ih => exact seen_sign hq ho hs hw (ih (hfree.child List.mem_cons_self))
  | binary ho _ _ ihl ihr =>
    obtain ⟨kind, hk, hspell⟩ := ho
    have hleft :=
      (ihl (hfree.child (by simp [Node.children]))).blank.plain (signals_token hspell hk)
    have hright := hleft.blank.next (ihr (hfree.child (by simp [Node.children])))
    exact .of_children rfl (by rw [treeText]) hright fun s => by simp [Node.children]
  | @isNull _ negated _ ih =>
    have his := (ih (hfree.child List.mem_cons_self)).trail (w := " IS") (by decide) (by decide)
    have hnull := (signals_notWord his negated).trail (w := " NULL") (by decide) (by decide)
    exact .of_children rfl (by rw [treeText]) hnull fun s => by simp [Node.children]
  | @between _ _ _ negated _ _ _ ih ihl ihu =>
    have he :=
      (signals_notWord (ih (hfree.child (by simp [Node.children]))) negated).gap (w := " BETWEEN ")
        (by decide) (by decide)
    have hlower :=
      (he.next (ihl (hfree.child (by simp [Node.children])))).gap (w := " AND ") (by decide)
        (by decide)
    have hupper := hlower.next (ihu (hfree.child (by simp [Node.children])))
    exact .of_children rfl (by rw [treeText]) hupper fun s => by simp [Node.children, or_assoc]
  | inQuery _ _ ih ihq =>
    refine seen_inSet (ih (hfree.child (by simp [Node.children]))) (by simp)
      (fun n hn => ?_) (by simp)
    cases hn
    exact ihq (hfree.child (by simp [Node.children]))
  | inParameter _ _ ih ihp =>
    refine seen_inSet (ih (hfree.child (by simp [Node.children]))) (by simp) (by simp)
      fun n hn => ?_
    cases hn
    exact ihp (hfree.child (by simp [Node.children]))
  | inList _ _ ih ihv =>
    exact seen_inSet (ih (hfree.child (by simp [Node.children])))
      (fun n hn => ihv n hn (hfree.child (by simp [Node.children, hn]))) (by simp) (by simp)
  | like _ _ _ ih ihp ihc =>
    exact seen_like (ih (hfree.child (by simp [Node.children])))
      (ihp (hfree.child (by simp [Node.children])))
      fun n hn => ihc n hn (hfree.child (by simp_all [Node.children]))
  | memberOf =>
    -- A membership test has no text, but it is refused.
    cases (Place.free_iff.mp hfree).1
  | branch _ _ ihc ihr =>
    have hwhen := (ihc (hfree.child (by simp [Node.children]))).behind (v := "WHEN ") (by decide)
    have hthen :=
      (hwhen.gap (w := " THEN ") (by decide) (by decide)).next
        (ihr (hfree.child (by simp [Node.children])))
    exact .of_children rfl (by rw [treeText]) hthen fun s => by simp [Node.children]
  | caseOf _ _ _ iho ihb ihe =>
    exact seen_caseOf (fun n hn => iho n hn (hfree.child (by simp_all [Node.children])))
      (fun n hn => ihb n hn (hfree.child (by simp_all [Node.children])))
      (fun n hn => ihe n hn (hfree.child (by simp_all [Node.children])))
  | selectItem _ ha ih =>
    have he := signals_asWords (ih (hfree.child List.mem_cons_self)) fun a h => quiet_name (ha a h)
    exact .of_children rfl (by rw [treeText]) he fun s => by simp [Node.children]
  | constructor _ ha ih =>
    have hargs := seen_list fun n hn => ih n hn (hfree.child hn)
    have hnamed := signals_asWords hargs.listed fun a h => quiet_name (ha a h)
    exact .of_children rfl (by rw [treeText]) hnamed fun s => by simp [Node.children]
  | join hp ha _ ih =>
    exact seen_join hq hp (fun a h => quiet_name (ha a h)) fun hsome n hn =>
      ih n hn (hfree.child (by simp_all [Node.children]))
  | fromItem hp ha _ _ ih =>
    exact seen_fromItem hq (quiet_dotted (quiet_parts hp)) (fun a h => quiet_name (ha a h))
      fun n hn => ih n hn (hfree.child hn)
  | @assignment parts _ hp _ ih =>
    have hquiet : isQuiet (dotted (q.targetPath parts) ++ " = ") = true := by
      rw [isQuiet_append, quiet_targetPath hq (quiet_parts hp)]
      rfl
    exact .of_children rfl (by rw [treeText]; rfl)
      ((ih (hfree.child (by simp [Node.children]))).behind hquiet) fun s => by
      simp [Node.children, not_hasSignal_path]
  | orderItem _ hn ih =>
    have hwords : ∀ w ∈ ["FIRST", "LAST"], isQuiet w = true := by decide
    exact seen_orderItem (ih (hfree.child List.mem_cons_self)) fun w hw => hwords w (hn w hw)
  | select _ _ _ _ _ _ ihi ihs ihc ihg ihh iho =>
    exact seen_select (fun n hn => ihi n hn (hfree.child (by simp_all [Node.children])))
      (fun n hn => ihs n hn (hfree.child (by simp_all [Node.children])))
      (fun n hn => ihc n hn (hfree.child (by simp_all [Node.children])))
      (fun n hn => ihg n hn (hfree.child (by simp_all [Node.children])))
      (fun n hn => ihh n hn (hfree.child (by simp_all [Node.children])))
      (fun n hn => iho n hn (hfree.child (by simp_all [Node.children])))

theorem seen_update (hq : q.Quiet) {entity : String} {asName : Option String}
    {assignments : List Node} {condition : Option Node} (he : isQuiet entity = true)
    (ha : ∀ a ∈ asName, isQuiet a = true)
    (h : ∀ n ∈ assignments, Seen { q with target := some entity, targetAlias := asName } n)
    (hc : ∀ n ∈ condition, Seen { q with target := some entity, targetAlias := asName } n) :
    Seen q (.update entity asName assignments condition) := by
  have hname := SignalsAll.cons (.silent (w := "UPDATE") (by decide))
    (.cons (.silent (quiet_table hq he)) (signals_optional ha))
  have hset := SignalsAll.single ((seen_list h).listed.behind (v := "SET ") (by decide))
  have hwhere := (seen_option hc).headed "WHERE " (by decide)
  exact .of_children rfl (by rw [treeText]) ((hname.append hset).append hwhere).spaced fun s => by
    simp [Node.children, noSignal, or_and_right, exists_or]

theorem seen_delete (hq : q.Quiet) {entity : String} {asName : Option String}
    {condition : Option Node} (he : isQuiet entity = true) (ha : ∀ a ∈ asName, isQuiet a = true)
    (hc : ∀ n ∈ condition, Seen { q with target := some entity } n) :
    Seen q (.delete entity asName condition) := by
  have hname := SignalsAll.cons (.silent (w := "DELETE FROM") (by decide))
    (.cons (.silent (quiet_table hq he)) (signals_optional ha))
  have hwhere := (seen_option hc).headed "WHERE " (by decide)
  exact .of_children rfl (by rw [treeText]) (hname.append hwhere).spaced fun s => by
    simp [Node.children, noSignal]

/-- The text of a statement has the signals of the statement, if nothing in it is refused. -/
theorem seen_statement (hq : q.Quiet) {n : Node} (h : WellFormedStatement n) (hfree : q.Free n) :
    Seen q n := by
  cases h with
  | query h => exact seen_wellFormed hq h hfree
  | @update parts asName assignments condition hp ha _ h hc =>
    -- Which names are quiet and what is refused depends on the scope alone, and an update does not
    -- change it.
    have hinside : Place.Quiet { q with target := some (dotted parts), targetAlias := asName } :=
      ⟨hq.names, hq.entities⟩
    exact seen_update hq (quiet_dotted (quiet_parts hp)) (fun a h => quiet_name (ha a h))
      (fun n hn => seen_wellFormed hinside (h n hn) (hfree.child (by simp [Node.children, hn])))
      (fun n hn => seen_wellFormed hinside (hc n hn) (hfree.child (by simp_all [Node.children])))
  | @delete parts asName condition hp ha hc =>
    have hinside : Place.Quiet { q with target := some (dotted parts) } := ⟨hq.names, hq.entities⟩
    exact seen_delete hq (quiet_dotted (quiet_parts hp)) (fun a h => quiet_name (ha a h))
      (fun n hn => seen_wellFormed hinside (hc n hn) (hfree.child (by simp_all [Node.children])))
  | insert => cases (Place.free_iff.mp hfree).1

/-! ## Conversions -/

/-- A statement that is analyzed by itself has quiet names only. -/
theorem quiet_place {s : Schema} {node : Node} {query : String} {m : Metadata} {book : Log.Book}
    (hz : s.hasNames isQuiet = true) (h : WellFormedStatement node)
    (hm : ((node.analyze query).run book).1 = .ok m) :
    Place.Quiet ⟨⟨s, m⟩, none, none⟩ :=
  ⟨hz, fun _ _ he => quiet_entity (Node.entityText_of_entityOf? h hm he)⟩

/-- The signals of a converted statement are those of its tree. -/
theorem mem_signals_iff {c : Converter} {query sql : String} {node : Node} {book : Log.Book}
    (hz : c.schema.hasNames isQuiet = true) (hparse : parse c.maxDepth query = .ok node)
    (h : ((c.convert query none).run book).1.1 = .ok sql) (s : Signal) :
    s ∈ signals false sql.toList ↔ HasSignal node s := by
  have htexts : c.schema.hasTexts = true := Schema.hasNames_mono hz fun _ _ => rfl
  obtain ⟨node', m, b, hparse', hm, rfl, hfree⟩ := convert_text htexts h
  obtain rfl : node = node' := Except.ok.inj (hparse.symm.trans hparse')
  have hwell := wellFormed_of_parse hparse
  obtain ⟨ss, hss, hsignals⟩ := seen_statement (quiet_place hz hwell hm) hwell hfree
  have hwhole := hsignals [] nofun
  rw [List.append_nil] at hwhole
  rw [hwhole, ← hss]
  simp [signals]

/-- A comment opens in a converted statement exactly if a minus stands directly on another one in
what is converted. -/
theorem comment_mem_signals_iff (c : Converter) (query sql : String) (node : Node) (book : Log.Book)
    (hz : c.schema.hasNames isQuiet = true) (hparse : parse c.maxDepth query = .ok node)
    (h : ((c.convert query none).run book).1.1 = .ok sql) :
    .comment ∈ signals false sql.toList ↔ ∃ m ∈ node.nodes false, hasSingleMinus m = false := by
  rw [mem_signals_iff hz hparse h, hasSignal_comment]

/-- Two signs in a row are written without a blank, and the rest of the statement is a comment. -/
theorem comment_of_double_minus :
    ((({ maxDepth := 64 } : Converter).convert "SELECT - -t.x FROM T t WHERE t.y = :p" none).run
      []).1.1 =
        .ok "SELECT --t.x FROM t t WHERE t.y = :p" ∧
      .comment ∈ signals false "SELECT --t.x FROM t t WHERE t.y = :p".toList := by
  have hparse : parse 64 "SELECT - -t.x FROM T t WHERE t.y = :p" = .ok (.select
      [.selectItem (.unary "-" (.unary "-" (.path ["t", "x"]))) none]
      [.fromItem "T" (some "t") []] false
      (some (.binary (.path ["t", "y"]) "=" (.parameter "p" false))) [] none []) := by
    with_unfolding_all rfl
  have hconvert :
      ((({ maxDepth := 64 } : Converter).convert "SELECT - -t.x FROM T t WHERE t.y = :p" none).run
        []).1.1 =
      .ok "SELECT --t.x FROM t t WHERE t.y = :p" := ok_of_toOption (by decide +kernel)
  refine ⟨hconvert,
    (comment_mem_signals_iff { maxDepth := 64 } _ _ _ [] (by decide) hparse hconvert).mpr ?_⟩
  exact ⟨.unary "-" (.unary "-" (.path ["t", "x"])), by simp [Node.nodes, Node.nodesOfList], rfl⟩

/-- The parameter of a signal, if it is one. -/
def Signal.parameter? : Signal → Option String
  | .parameter name => some name
  | .comment => none

/-- The parameters that a reader of SQL finds in a text: behind a comment nothing is read. -/
def placeholders (sql : String) : List String :=
  ((signals false sql.toList).takeWhile fun s => s != .comment).filterMap Signal.parameter?

theorem mem_filterMap_parameter {name : String} {ss : List Signal} :
    name ∈ ss.filterMap Signal.parameter? ↔ .parameter name ∈ ss := by
  rw [List.mem_filterMap]
  constructor
  · rintro ⟨s, hs, hname⟩
    cases s with
    | comment => cases hname
    | parameter name' =>
      cases hname
      exact hs
  · exact fun hs => ⟨_, hs, rfl⟩

theorem signal_of_placeholder {sql name : String} (h : name ∈ placeholders sql) :
    .parameter name ∈ signals false sql.toList :=
  (List.takeWhile_sublist _).subset (mem_filterMap_parameter.mp h)

/-- Without comments, all parameters are read. -/
theorem mem_placeholders {sql : String} (h : .comment ∉ signals false sql.toList) {name : String} :
    name ∈ placeholders sql ↔ .parameter name ∈ signals false sql.toList := by
  have hall : ∀ s ∈ signals false sql.toList, (s != .comment) = true := by
    intro s hs
    rw [bne_iff_ne]
    rintro rfl
    exact h hs
  have htake : (signals false sql.toList).takeWhile (fun s => s != .comment) =
      signals false sql.toList := by
    simpa using @List.takeWhile_append_of_pos _ _ _ [] hall
  rw [placeholders, htake, mem_filterMap_parameter]

/--
Every placeholder of a converted statement is a parameter that an analysis of the query finds.
Unless a minus stands directly on another one, the other parameters that it finds are those that
joins without an alias take along.
-/
theorem mem_parameters_iff_placeholder (c : Converter) (query sql : String) (node : Node)
    (book book' : Log.Book) (hz : c.schema.hasNames isQuiet = true)
    (hparse : parse c.maxDepth query = .ok node)
    (h : ((c.convert query none).run book).1.1 = .ok sql) :
    ∃ m, ((node.analyze query).run book').1 = .ok m ∧
      (∀ name ∈ placeholders sql, name ∈ m.parameters) ∧
      ((∀ n ∈ node.nodes false, hasSingleMinus n = true) → ∀ name, name ∈ m.parameters ↔
        name ∈ placeholders sql ∨ ∃ join ∈ node.nodes false, ∃ positional,
          .parameter name positional ∈ join.dropped) := by
  have hwell := wellFormed_of_parse hparse
  have hsignal := fun s => mem_signals_iff hz hparse h s
  obtain ⟨m, hm⟩ : ∃ m, ((node.analyze query).run book').1 = .ok m :=
    metadataFor_statement hwell query none book'
  -- The analysis looks at the whole tree, the conversion leaves out what joins without an alias
  -- take along.
  have hparameters : ∀ name, name ∈ m.parameters ↔
      HasSignal node (.parameter name) ∨ ∃ join ∈ node.nodes false, ∃ positional,
      .parameter name positional ∈ join.dropped := by
    intro name
    rw [Node.mem_parameters hwell hm, hasSignal_parameter, Node.HasParameter]
    simp only [Node.mem_nodes_whole, exists_or]
    grind
  refine ⟨m, hm, fun name hname => ?_, fun hminus name => ?_⟩
  · exact (hparameters name).mpr (.inl ((hsignal _).mp (signal_of_placeholder hname)))
  · have hcomment : .comment ∉ signals false sql.toList := by
      rw [hsignal, hasSignal_comment]
      rintro ⟨n, hn, hdouble⟩
      rw [hminus n hn] at hdouble
      cases hdouble
    rw [hparameters, mem_placeholders hcomment, hsignal]

/-- A parameter in a string is none, and one in the condition of a dropped join is found by the
analysis alone. -/
theorem parameters_beside_dropped_join :
    ∃ node m, parse 64 "SELECT x FROM T t JOIN t.items ON z = :p WHERE ':q' = ?1" = .ok node ∧
      ((node.analyze "SELECT x FROM T t JOIN t.items ON z = :p WHERE ':q' = ?1").run []).1 = .ok m ∧
      ∀ name, name ∈ m.parameters ↔ name = "?1" ∨ name = "p" := by
  have hparse : parse 64 "SELECT x FROM T t JOIN t.items ON z = :p WHERE ':q' = ?1" = .ok (.select
      [.selectItem (.path ["x"]) none]
      [.fromItem "T" (some "t") [.join .plain (.path ["t", "items"]) none false
        (some (.binary (.path ["z"]) "=" (.parameter "p" false)))]] false
      (some (.binary (.literal "':q'" .string) "=" (.parameter "?1" true))) [] none []) := by
    with_unfolding_all rfl
  have hconvert : ((({ maxDepth := 64 } : Converter).convert
      "SELECT x FROM T t JOIN t.items ON z = :p WHERE ':q' = ?1" none).run []).1.1 =
        .ok "SELECT x FROM t t WHERE ':q' = ?1" := ok_of_toOption (by decide +kernel)
  obtain ⟨m, hm, -, hiff⟩ :=
    mem_parameters_iff_placeholder { maxDepth := 64 } _ _ _ [] [] (by decide) hparse hconvert
  have hplaceholders : placeholders "SELECT x FROM t t WHERE ':q' = ?1" = ["?1"] := by
    decide +kernel
  refine ⟨_, m, hparse, hm, fun name => ?_⟩
  rw [hiff (by decide), hplaceholders, List.mem_singleton]
  simp [Node.nodes, Node.nodesOfList, Node.nodesOfOption, Node.dropped]

/-- The condition of a dropped join takes its parameter along, which the analysis still finds. -/
theorem parameter_without_placeholder :
    ∃ node m, parse 64 "SELECT t.x FROM T t JOIN t.items ON t.z = :p" = .ok node ∧
      ((node.analyze "SELECT t.x FROM T t JOIN t.items ON t.z = :p").run []).1 = .ok m ∧
      "p" ∈ m.parameters ∧
      ((({ maxDepth := 64 } : Converter).convert "SELECT t.x FROM T t JOIN t.items ON t.z = :p"
        none).run []).1.1 = .ok "SELECT t.x FROM t t" ∧
      placeholders "SELECT t.x FROM t t" = [] := by
  have hparse : parse 64 "SELECT t.x FROM T t JOIN t.items ON t.z = :p" = .ok (.select
      [.selectItem (.path ["t", "x"]) none]
      [.fromItem "T" (some "t") [.join .plain (.path ["t", "items"]) none false
        (some (.binary (.path ["t", "z"]) "=" (.parameter "p" false)))]] false none []
        none []) := by
    with_unfolding_all rfl
  obtain ⟨m, hm⟩ :=
    metadataFor_statement (wellFormed_of_parse hparse)
      "SELECT t.x FROM T t JOIN t.items ON t.z = :p" none []
  refine ⟨_, m, hparse, hm,
    (Node.mem_parameters (wellFormed_of_parse hparse) hm "p").mpr ⟨false, ?_⟩,
    ok_of_toOption (by decide +kernel), by decide +kernel⟩
  simp [Node.nodes, Node.nodesOfList, Node.nodesOfOption]

end EntityQuery.Sql
