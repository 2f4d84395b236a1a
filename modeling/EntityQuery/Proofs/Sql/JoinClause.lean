import EntityQuery.Proofs.Sql.Conversion

/-!
# What a join contributes to a statement

A join with an alias is written as its table and its alias, with one condition behind it if there is
one: its own, or else that of the relation along its path. A source is written as its table, its
alias and its joins.

1. `always_join`, `always_fromItem`: whatever the schema and the state, this is the text of a join
   and of a source, and no more than this.
2. `shows_wellFormed`, `shows_statement`: the text of a rendered tree has the texts of all its
   sources and joins in it, those of sub-queries included.
3. `marks_translate`: the joins of the statement that a conversion writes are the joins with an
   alias, in their order, and they have a condition exactly if there is one.
-/

namespace EntityQuery.Sql

open Rendering Grammar

variable {α β : Type} {z : Scope}

/-! ## Successful renderings -/

/-- If a rendering succeeds, in whatever state, its result has a property. -/
def Always (x : Rendering α) (V : α → Prop) : Prop :=
  ∀ ⦃s a t⦄, x.run.run s = (.ok a, t) → V a

namespace Always

variable {x : Rendering α} {f : α → Rendering β} {V : α → Prop} {W : β → Prop}

theorem bind (h : Always x V) (hf : ∀ a, V a → Always (f a) W) : Always (x >>= f) W := by
  intro s b u hrun
  obtain ⟨a, t, hx, hfa⟩ := run_bind_ok hrun
  exact hf a (h hx) hfa

/-- Nothing has to be known of the first part. -/
theorem next (hf : ∀ a, Always (f a) W) : Always (x >>= f) W :=
  bind (V := fun _ => True) (fun _ _ _ _ => trivial) fun a _ => hf a

theorem pure {a : α} (h : V a) : Always (Pure.pure a) V := by
  intro s b t hrun
  cases hrun
  exact h

theorem throw (e : RenderFault) : Always (MonadExcept.throw e) V := by
  intro s a t hrun
  cases hrun

theorem mono {U : α → Prop} (h : Always x V) (hVU : ∀ a, V a → U a) : Always x U :=
  fun _ _ _ hrun => hVU _ (h hrun)

/-- What is found whatever the columns of the schema, which are part of the state. -/
theorem ofFinds
    (h : ∀ columns target asName,
      Finds ⟨{ z with schema := { z.schema with columns } }, target, asName⟩ x V) : Always x V :=
  fun s _ _ hrun => (h s.columns s.target s.targetAlias ⟨rfl, rfl, .refl _⟩ hrun).1

end Always

/-! ## Texts of sources and joins -/

/-- A join with an alias. -/
def isAliased : Node → Bool
  | .join _ _ (some _) _ _ => true
  | _ => false

/-- A source, or a join with an alias. -/
def isSourcePart : Node → Bool
  | .fromItem .. => true
  | n => isAliased n

/-- A node is rendered as a text, in one state at least. -/
def RenderedAs (z : Scope) (n : Node) (w : String) : Prop :=
  ∃ s t, (render z n).run.run s = (.ok (.text w), t)

/-- What stands behind the table and the alias of a join: its own condition, or that of the relation
along its path. -/
def OnClause (z : Scope) (parts : List String) (name : String) : Option Node → String → Prop
  | some e, clause =>
    ∃ s test t, (renderWhole z e).run.run s = (.ok test, t) ∧ clause = " ON " ++ test
  | none, clause => clause = onText (Place.joinEquation? ⟨z, none, none⟩ parts name)

/-- The texts of all sources and joins among some nodes are in pieces of SQL. -/
def Shows (z : Scope) (ms : List Node) (ps : List Fragment) : Prop :=
  ∀ m ∈ ms, isSourcePart m = true → ∃ v w, RenderedAs z m v ∧ .text w ∈ ps ∧ v.toList <:+: w.toList

/-- Some pieces have the texts of sources and joins that other pieces have. -/
def Keeps (z : Scope) (ps qs : List Fragment) : Prop :=
  ∀ ms, Shows z ms ps → Shows z ms qs

namespace Shows

variable {ms : List Node} {ps : List Fragment}

theorem flatMap_iff {cs : List Node} :
    Shows z (cs.flatMap (Node.nodes false)) ps ↔ ∀ c ∈ cs, Shows z (c.nodes false) ps := by
  unfold Shows
  simp only [List.mem_flatMap, forall_exists_index, and_imp]
  exact ⟨fun h c hc m hm => h m c hc hm, fun h m c hc hm => h c hc m hm⟩

/-- A node that is neither a source nor a join has those of its children. -/
theorem of_children {n : Node} (hn : isSourcePart n = false)
    (h : ∀ c ∈ n.children false, Shows z (c.nodes false) ps) :
    Shows z (n.nodes false) ps := by
  rw [Node.nodes_eq]
  refine List.forall_mem_cons.mpr ⟨fun ha => ?_, flatMap_iff.mpr h⟩
  rw [hn] at ha
  cases ha

/-- A text of a node has those of its children in it. -/
theorem own {n : Node} {w : String} (hn : RenderedAs z n w)
    (h : ∀ c ∈ n.children false, Shows z (c.nodes false) [.text w]) :
    Shows z (n.nodes false) [.text w] := by
  rw [Node.nodes_eq]
  refine List.forall_mem_cons.mpr ⟨fun _ => ⟨w, w, hn, List.mem_singleton_self _, List.infix_rfl⟩,
    flatMap_iff.mpr h⟩

/-- A piece that is no text can only stand for a tree without sources and joins. -/
theorem of_not_text {p : Fragment} (h : Shows z ms [p]) (hp : ∀ w, p ≠ .text w) :
    Shows z ms ps := by
  intro m hm ha
  obtain ⟨v, w, -, hw, -⟩ := h m hm ha
  exact absurd (List.mem_singleton.mp hw).symm (hp w)

end Shows

namespace Keeps

variable {ps qs rs : List Fragment}

theorem trans (h : Keeps z ps qs) (h' : Keeps z qs rs) : Keeps z ps rs :=
  fun ms hms => h' ms (h ms hms)

theorem of_subset (h : ps ⊆ qs) : Keeps z ps qs := by
  intro ms hms m hm ha
  obtain ⟨v, w, hv, hw, hinfix⟩ := hms m hm ha
  exact ⟨v, w, hv, h hw, hinfix⟩

/-- A text in another one. -/
theorem of_infix {v w : String} (h : v.toList <:+: w.toList) : Keeps z [.text v] [.text w] := by
  intro ms hms m hm ha
  obtain ⟨u, _, hu, hmem, hinfix⟩ := hms m hm ha
  cases List.mem_singleton.mp hmem
  exact ⟨u, w, hu, List.mem_singleton_self _, hinfix.trans h⟩

theorem before (v w : String) : Keeps z [.text v] [.text (v ++ w)] :=
  of_infix ⟨[], w.toList, by simp⟩

theorem behind (v w : String) : Keeps z [.text w] [.text (v ++ w)] :=
  of_infix ⟨v.toList, [], by simp⟩

end Keeps

/-! ## Pieces -/

theorem infix_intercalate {sep w : String} {ws : List String} (h : w ∈ ws) :
    w.toList <:+: (sep.intercalate ws).toList := by
  induction ws with
  | nil => cases h
  | cons v ws ih =>
    cases ws with
    | nil =>
      have hw : w = v := List.mem_singleton.mp h
      simp only [hw, String.intercalate_singleton, List.infix_rfl]
    | cons u ws =>
      rw [String.intercalate_cons_of_ne_nil (by simp)]
      rcases List.mem_cons.mp h with rfl | h
      · exact ⟨[], (sep ++ sep.intercalate (u :: ws)).toList, by simp [String.append_assoc]⟩
      · exact (ih h).trans ⟨(v ++ sep).toList, [], by simp⟩

/-- Pieces that are strung together are texts, all of them. -/
theorem always_texts (sep : String) (ps : List Fragment) :
    Always (strung sep ps) fun w => ∃ ws, ps = ws.map Fragment.text ∧ w = sep.intercalate ws := by
  unfold strung
  cases h : Fragment.strung sep ps with
  | error f => exact .throw _
  | ok text => exact .pure (Fragment.strung_ok h)

theorem always_strung (z : Scope) (sep : String) (ps : List Fragment) :
    Always (strung sep ps) fun w => Keeps z ps [.text w] := by
  refine (always_texts sep ps).mono ?_
  rintro _ ⟨ws, rfl, rfl⟩ ms hms m hm ha
  obtain ⟨v, u, hv, hu, hinfix⟩ := hms m hm ha
  obtain ⟨_, hmem, ⟨⟩⟩ := List.mem_map.mp hu
  exact ⟨v, _, hv, List.mem_singleton_self _, hinfix.trans (infix_intercalate hmem)⟩

theorem always_shown (z : Scope) (p : Fragment) :
    Always (shown p) fun w => Keeps z [p] [.text w] := by
  cases p with
  | text w => exact .pure (.of_subset (List.Subset.refl _))
  | value v => exact fun _ _ _ _ ms hms => hms.of_not_text (by simp)
  | column entity field => exact fun _ _ _ _ ms hms => hms.of_not_text (by simp)

theorem always_after (z : Scope) (keyword : String) (p : Fragment) :
    Always (after keyword p) fun p' => Keeps z [p] [p'] := by
  cases p with
  | text w => exact .pure (.behind keyword w)
  | value v => exact fun _ _ _ _ ms hms => hms.of_not_text (by simp)
  | column entity field => exact fun _ _ _ _ ms hms => hms.of_not_text (by simp)

theorem always_extendedBy (z : Scope) (p : Fragment) (words? : Option String) :
    Always (extendedBy p words?) fun p' => Keeps z [p] [p'] := by
  cases words? with
  | none => exact .pure (.of_subset (List.Subset.refl _))
  | some words =>
    cases p with
    | text w => exact .pure (.before w words)
    | value v => exact fun _ _ _ _ ms hms => hms.of_not_text (by simp)
    | column entity field => exact fun _ _ _ _ ms hms => hms.of_not_text (by simp)

theorem always_itemsClause (z : Scope) (keyword : String) (ps : List Fragment) :
    Always (itemsClause keyword ps) (Keeps z ps) := by
  unfold itemsClause
  split
  · next hempty =>
    rw [List.isEmpty_iff.mp hempty]
    exact .pure (.of_subset (List.Subset.refl _))
  · exact (always_strung z ", " ps).bind fun w hw => .pure (hw.trans (.behind keyword w))

/-! ## Lists and options -/

/-- The text of a tree has the texts of its sources and joins in it. -/
def ShowsParts (z : Scope) (n : Node) : Prop :=
  Always (render z n) fun p => Shows z (n.nodes false) [p]

section

variable {ns : List Node} {n? : Option Node}

theorem always_list (h : ∀ n ∈ ns, ShowsParts z n) :
    Always (renderList z ns) fun ps => ∀ n ∈ ns, Shows z (n.nodes false) ps := by
  induction ns with
  | nil =>
    rw [renderList]
    exact .pure (List.forall_mem_nil _)
  | cons n ns ih =>
    obtain ⟨hn, hns⟩ := List.forall_mem_cons.mp h
    rw [renderList]
    refine hn.bind fun p hp => (ih hns).bind fun ps hps =>
      .pure (List.forall_mem_cons.mpr ⟨?_, fun n hmem => ?_⟩)
    · exact Keeps.of_subset (by simp) _ hp
    · exact Keeps.of_subset (by simp) _ (hps n hmem)

theorem always_option (h : ∀ n ∈ n?, ShowsParts z n) :
    Always (renderOption z n?) fun p? => ∀ n ∈ n?, Shows z (n.nodes false) p?.toList := by
  cases n? with
  | none =>
    rw [renderOption]
    exact .pure (by simp)
  | some n =>
    rw [renderOption]
    exact (h n rfl).bind fun p hp => .pure (by simpa using hp)

theorem always_clause (keyword : String) (h : ∀ n ∈ n?, ShowsParts z n) :
    Always (renderClause z keyword n?) fun ps => ∀ n ∈ n?, Shows z (n.nodes false) ps := by
  cases n? with
  | none =>
    rw [renderClause]
    exact .pure (by simp)
  | some n =>
    rw [renderClause]
    exact (h n rfl).bind fun p hp => (always_after z keyword p).bind fun clause hclause =>
      .pure (by simpa using hclause _ hp)

end

/-! ## Trees -/

/-- A node that puts words around the text of one operand. -/
theorem shows_around {n e : Node} (words : String → String) (hn : isSourcePart n = false)
    (hc : n.children false = [e]) (hrender : render z n = do
      let w ← shown (← render z e)
      pure (.text (words w)))
    (hwords : ∀ w, Keeps z [.text w] [.text (words w)]) (h : ShowsParts z e) : ShowsParts z n := by
  rw [ShowsParts, hrender]
  refine h.bind fun p hp => (always_shown z p).bind fun w hw => .pure (.of_children hn ?_)
  rw [hc, List.forall_mem_singleton]
  exact hwords w _ (hw _ hp)

/-- A node that puts words around the texts of two operands. -/
theorem shows_aroundBoth {n l r : Node} {words : String → String → String}
    (hn : isSourcePart n = false) (hc : n.children false = [l, r])
    (hrender : render z n = do
      let v ← shown (← render z l)
      let w ← shown (← render z r)
      pure (.text (words v w)))
    (hwords : ∀ v w, Keeps z [.text v] [.text (words v w)] ∧ Keeps z [.text w] [.text (words v w)])
    (hl : ShowsParts z l) (hr : ShowsParts z r) : ShowsParts z n := by
  rw [ShowsParts, hrender]
  refine hl.bind fun p hp => (always_shown z p).bind fun v hv => ?_
  refine hr.bind fun p' hp' => (always_shown z p').bind fun w hw => .pure (.of_children hn ?_)
  rw [hc, List.forall_mem_cons, List.forall_mem_singleton]
  exact ⟨(hwords v w).1 _ (hv _ hp), (hwords v w).2 _ (hw _ hp')⟩

/-- A node with nothing below it. -/
theorem shows_leaf {n : Node} (hn : isSourcePart n = false) (hc : n.children false = []) :
    ShowsParts z n :=
  fun _ _ _ _ => .of_children hn (by rw [hc]; exact List.forall_mem_nil _)

theorem shows_call {n : Node} {args : List Node} (opening closing : String)
    (hn : isSourcePart n = false) (hc : n.children false = args)
    (hrender : render z n = do
      let list ← strung ", " (← renderList z args)
      pure (.text (opening ++ list ++ closing)))
    (h : ∀ n ∈ args, ShowsParts z n) : ShowsParts z n := by
  rw [ShowsParts, hrender]
  refine (always_list h).bind fun ps hps => (always_strung z ", " ps).bind fun w hw =>
    .pure (.of_children hn ?_)
  rw [hc]
  intro c hmem
  exact ((Keeps.behind opening w).trans (.before _ closing)) _ (hw _ (hps c hmem))

theorem shows_functionCall {f : Function} {args : List Node} {distinct : Bool} (ht : f ≠ .trim)
    (hc : f ≠ .cast) (h : ∀ n ∈ args, ShowsParts z n) :
    ShowsParts z (.call (TokenKind.function f).name args distinct true none none none) := by
  by_cases hs : f = .size
  · subst hs
    rw [ShowsParts, render]
    exact .throw _
  · exact shows_call _ _ rfl (List.append_nil _) (render_function hs ht hc z args distinct) h

theorem shows_trim {e : Node} {side : Option String} {char : Option Node}
    (hc : ∀ n ∈ char, ShowsParts z n) (h : ShowsParts z e) :
    ShowsParts z (.call "TRIM" [e] false true side char none) := by
  rw [ShowsParts, render_trim]
  refine (always_option hc).bind fun char? hchar => h.bind fun p hp => ?_
  refine (always_strung z _ _).bind fun w hw => .pure (.of_children rfl ?_)
  have hbefore : char?.toList ⊆ (if (optionalText side ++ char?.toList).isEmpty
      then optionalText side ++ char?.toList
      else optionalText side ++ char?.toList ++ [.text "FROM"]) ++ [p] := by
    split <;> simp
  have htext := hw.trans ((Keeps.behind "TRIM(" w).trans (.before _ ")"))
  simp only [Node.children, List.forall_mem_append, List.forall_mem_singleton, Option.mem_toList]
  exact ⟨htext _ (Keeps.of_subset (by simp) _ hp),
    fun c hmem => htext _ (Keeps.of_subset hbefore _ (hchar c hmem))⟩

theorem shows_like {e pattern : Node} {escape : Option Node} {negated : Bool} (h : ShowsParts z e)
    (hp : ShowsParts z pattern) (hc : ∀ n ∈ escape, ShowsParts z n) :
    ShowsParts z (.like e pattern escape negated) := by
  rw [ShowsParts, render]
  refine h.bind fun p hp' => (always_shown z p).bind fun w hw => ?_
  refine hp.bind fun pp hpp => (always_shown z pp).bind fun wp hwp =>
    (always_option hc).bind fun char? hchar => ?_
  have hsubject : Keeps z [.text w] [.text (w ++ notWord negated ++ " LIKE " ++ wp)] :=
    ((Keeps.before w _).trans (.before _ _)).trans (.before _ wp)
  have hpattern : Keeps z [.text wp] [.text (w ++ notWord negated ++ " LIKE " ++ wp)] :=
    .behind _ wp
  cases char? with
  | none =>
    refine .pure (.of_children rfl ?_)
    simp only [Node.children, List.forall_mem_cons, Option.mem_toList]
    exact ⟨hsubject _ (hw _ hp'), hpattern _ (hwp _ hpp),
      fun c hmem => Keeps.of_subset (List.nil_subset _) _ (hchar c hmem)⟩
  | some pc =>
    refine (always_shown z pc).bind fun wc hwc => .pure (.of_children rfl ?_)
    have hlike :=
      (Keeps.before (z := z) (w ++ notWord negated ++ " LIKE " ++ wp) " ESCAPE ").trans
        (.before _ wc)
    simp only [Node.children, List.forall_mem_cons, Option.mem_toList]
    refine ⟨(hsubject.trans hlike) _ (hw _ hp'), (hpattern.trans hlike) _ (hwp _ hpp),
      fun c hmem => ?_⟩
    exact (Keeps.behind _ wc) _ (hwc _ (hchar c hmem))

theorem shows_caseOf {operand otherwise : Option Node} {branches : List Node}
    (ho : ∀ n ∈ operand, ShowsParts z n) (hb : ∀ n ∈ branches, ShowsParts z n)
    (he : ∀ n ∈ otherwise, ShowsParts z n) :
    ShowsParts z (.caseOf operand branches otherwise) := by
  rw [ShowsParts, render]
  refine (always_option ho).bind fun operand? hoperand => (always_list hb).bind fun ps hps => ?_
  refine (always_option he).bind fun otherwise? hother => ?_
  -- Whatever the last pieces are, as long as they keep the joins of the `ELSE`.
  have hjoined : ∀ ending, Keeps z otherwise?.toList ending → Always (do
      let text ← strung " " (.text "CASE" :: operand?.toList ++ ps ++ ending ++ [.text "END"])
      pure (Fragment.text text)) fun p =>
        Shows z ((Node.caseOf operand branches otherwise).nodes false) [p] := by
    intro ending hending
    refine (always_strung z _ _).bind fun w hw => .pure (.of_children rfl ?_)
    simp only [Node.children, List.forall_mem_append, Option.mem_toList]
    refine ⟨⟨fun c hmem => ?_, fun c hmem => ?_⟩, fun c hmem => ?_⟩
    · exact hw _ (Keeps.of_subset (fun p hp => by simp [hp]) _ (hoperand c hmem))
    · exact hw _ (Keeps.of_subset (fun p hp => by simp [hp]) _ (hps c hmem))
    · exact hw _ (Keeps.of_subset (fun p hp => by simp [hp]) _ (hending _ (hother c hmem)))
  cases otherwise? with
  | none => exact hjoined [] (.of_subset (List.Subset.refl _))
  | some p =>
    refine (always_shown z p).bind fun w hw => ?_
    exact hjoined [.text ("ELSE " ++ w)] (hw.trans (.behind "ELSE " w))

/-! ### Joins -/

theorem always_joinHead (kind : JoinKind) (parts : List String) (name : String) :
    Always (renderJoinHead z kind parts name)
      (· = Place.joinText ⟨z, none, none⟩ kind parts name) :=
  .ofFinds (z := z) fun _ _ _ => finds_joinHead kind parts name

theorem always_joinByRelation (parts : List String) (name head : String) :
    Always (renderJoinByRelation z parts name head)
      (· = .text (head ++ onText (Place.joinEquation? ⟨z, none, none⟩ parts name))) :=
  .ofFinds (z := z) fun _ _ _ => finds_joinByRelation parts name head

theorem always_aliasless (along : Node) : Always (renderAliasless z along) (· = .text "") :=
  .ofFinds (z := z) fun _ _ _ => finds_aliasless along

theorem always_table (entity : String) :
    Always (Rendering.logging (z.schema.tableFor entity)) (· = z.schema.tableName entity) :=
  .ofFinds (z := z) fun _ _ _ => finds_table entity

theorem display_of_ofJson {v : Json} {w : String} (h : Fragment.ofJson v = .text w) :
    v.display = w := by
  cases v with
  | str s => exact Fragment.text.inj h
  | _ => cases h

theorem exists_renderedAs {ns : List Node} {texts : List String}
    (h : List.Forall₂ (RenderedAs z) ns texts) {n : Node} (hn : n ∈ ns) :
    ∃ w ∈ texts, RenderedAs z n w := by
  induction h with
  | nil => cases hn
  | cons hw _ ih =>
    rcases List.mem_cons.mp hn with rfl | hn
    · exact ⟨_, List.mem_cons_self, hw⟩
    · obtain ⟨w, hmem, hw⟩ := ih hn
      exact ⟨w, List.mem_cons_of_mem _ hmem, hw⟩

/-- A join without an alias has neither sources nor joins in it, whatever its condition. -/
theorem shows_aliasless {kind : JoinKind} {parts : List String} {fetch : Bool}
    {condition : Option Node} (ps : List Fragment) :
    Shows z ((Node.join kind (.path parts) none fetch condition).nodes false) ps :=
  .of_children rfl (by simp [Node.children, Shows, Node.nodes, isSourcePart, isAliased])

/-- A join with an alias is rendered as its table and its alias with its condition behind them. -/
theorem always_join {kind : JoinKind} {parts : List String} {name : String} {fetch : Bool}
    {condition : Option Node} (hn : name ≠ "") :
    Always (render z (.join kind (.path parts) (some name) fetch condition)) fun p =>
      ∃ clause, OnClause z parts name condition clause ∧
        p = .text (Place.joinText ⟨z, none, none⟩ kind parts name ++ clause) := by
  rw [render, given_of_ne hn]
  refine (show Always _ (· = parts) from .pure rfl).bind ?_
  rintro _ rfl
  refine (always_joinHead kind _ name).bind ?_
  rintro _ rfl
  cases condition with
  | none =>
    rw [renderOption, pure_bind]
    exact (always_joinByRelation _ name _).mono fun p hp => ⟨_, rfl, hp⟩
  | some e =>
    rw [renderOption, bind_assoc]
    simp only [pure_bind]
    intro s p t hrun
    obtain ⟨piece, u, hpiece, hrest⟩ := run_bind_ok hrun
    obtain ⟨test, v, htest, hp⟩ := run_bind_ok hrest
    cases hp
    refine ⟨_, ⟨s, test, t, ?_, rfl⟩, by rw [String.append_assoc]⟩
    rw [renderWhole, run_bind, hpiece]
    exact htest

/-- Joins without an alias leave nothing behind, and those with one their texts, in their order. -/
theorem always_joins {ns : List Node} (hw : ∀ n ∈ ns, WellFormed n)
    (hj : ∀ n ∈ ns, isJoin n = true) :
    Always (renderPresent z ns) fun ps =>
      ∃ texts, List.Forall₂ (RenderedAs z) (ns.filter isAliased) texts ∧
        ps = texts.map Fragment.text := by
  induction ns with
  | nil =>
    rw [renderPresent]
    exact .pure ⟨[], .nil, rfl⟩
  | cons n ns ih =>
    obtain ⟨hwn, hwns⟩ := List.forall_mem_cons.mp hw
    obtain ⟨hjn, hjns⟩ := List.forall_mem_cons.mp hj
    rw [renderPresent]
    intro s ps t hrun
    obtain ⟨p, s₁, hp, hrun⟩ := run_bind_ok hrun
    obtain ⟨present, s₂, hpresent, hrun⟩ := run_bind_ok hrun
    obtain ⟨more, s₃, hmore, hrun⟩ := run_bind_ok hrun
    cases hrun
    obtain ⟨texts, htexts, rfl⟩ := ih hwns hjns hmore
    cases hwn with
    | @join kind parts asName fetch condition _ ha =>
      cases asName with
      | none =>
        rw [render] at hp
        obtain rfl := always_aliasless (.path parts) hp
        cases hpresent
        exact ⟨texts, htexts, rfl⟩
      | some name =>
        obtain ⟨clause, -, rfl⟩ := always_join (ne_empty_of_nameText ha name rfl) hp
        cases hpresent
        refine ⟨_ :: texts, .cons ⟨s, s₁, hp⟩ htexts, ?_⟩
        simp [Place.joinText]
    | _ => cases hjn

/-- A source is rendered as its table, its alias and its joins. -/
theorem always_fromItem {entity : String} {asName : Option String} {joins : List Node}
    (ha : ∀ a ∈ asName, a ≠ "") (hw : ∀ n ∈ joins, WellFormed n)
    (hj : ∀ n ∈ joins, isJoin n = true) :
    Always (render z (.fromItem entity asName joins)) fun p =>
      ∃ texts, List.Forall₂ (RenderedAs z) (joins.filter isAliased) texts ∧ p = .text
        (" ".intercalate (Place.table ⟨z, none, none⟩ entity :: asName.toList ++ texts)) := by
  rw [render]
  refine (always_table entity).bind ?_
  rintro _ rfl
  refine (always_joins hw hj).bind ?_
  rintro _ ⟨texts, htexts, rfl⟩
  refine (always_texts " " _).bind ?_
  rintro _ ⟨ws, hws, rfl⟩
  rw [optionalText_eq ha, List.cons_append, ← List.map_append] at hws
  refine .pure ⟨texts, htexts, ?_⟩
  cases ws with
  | nil => cases hws
  | cons w ws =>
    obtain ⟨htable, htexts⟩ := List.cons.inj hws
    rw [← List.map_injective_iff.mpr (fun _ _ h => Fragment.text.inj h) htexts,
      ← display_of_ofJson htable]
    rfl

/-- The text of a join with an alias, and what is in its condition. -/
theorem shows_join {kind : JoinKind} {parts : List String} {asName : Option String} {fetch : Bool}
    {condition : Option Node} (ha : ∀ a ∈ asName, a ≠ "") (hc : ∀ n ∈ condition, ShowsParts z n) :
    ShowsParts z (.join kind (.path parts) asName fetch condition) := by
  cases asName with
  | none => exact fun _ _ _ _ => shows_aliasless _
  | some name =>
    intro s p t hrun
    obtain ⟨clause, hclause, rfl⟩ := always_join (ha name rfl) hrun
    refine .own ⟨s, t, hrun⟩ ?_
    refine List.forall_mem_cons.mpr
      ⟨by simp [Shows, Node.nodes, isSourcePart, isAliased], fun c hmem => ?_⟩
    obtain rfl : condition = some c := by simpa using hmem
    obtain ⟨s', test, t', htest, rfl⟩ := hclause
    obtain ⟨piece, u, hpiece, hshown⟩ := run_bind_ok (f := shown) htest
    have hcondition := always_shown z piece hshown _ (hc c rfl hpiece)
    exact ((Keeps.behind " ON " test).trans (.behind _ _)) _ hcondition

/-- The text of a source, and what is in its joins. -/
theorem shows_fromItem {entity : String} {asName : Option String} {joins : List Node}
    (ha : ∀ a ∈ asName, a ≠ "") (hw : ∀ n ∈ joins, WellFormed n) (hj : ∀ n ∈ joins, isJoin n = true)
    (h : ∀ n ∈ joins, ShowsParts z n) :
    ShowsParts z (.fromItem entity asName joins) := by
  intro s p t hrun
  obtain ⟨texts, htexts, rfl⟩ := always_fromItem ha hw hj hrun
  refine .own ⟨s, t, hrun⟩ fun c hmem => ?_
  cases hw c hmem with
  | @join _ _ asName =>
    cases asName with
    | none => exact shows_aliasless _
    | some name =>
      obtain ⟨w, hw, s', t', hc⟩ := exists_renderedAs htexts (List.mem_filter.mpr ⟨hmem, rfl⟩)
      exact Keeps.of_infix (infix_intercalate (by simp [hw])) _ (h _ hmem hc)
  | _ => cases hj _ hmem

theorem shows_select {items sources grouping ordering : List Node} {distinct : Bool}
    {condition having : Option Node} (hi : ∀ n ∈ items, ShowsParts z n)
    (hs : ∀ n ∈ sources, ShowsParts z n) (hc : ∀ n ∈ condition, ShowsParts z n)
    (hg : ∀ n ∈ grouping, ShowsParts z n) (hh : ∀ n ∈ having, ShowsParts z n)
    (ho : ∀ n ∈ ordering, ShowsParts z n) :
    ShowsParts z (.select items sources distinct condition grouping having ordering) := by
  rw [ShowsParts, render]
  generalize (if distinct then "SELECT DISTINCT " else "SELECT ") = opening
  refine (always_list hs).bind fun ss hss =>
    (always_strung z _ ss).bind fun sourceText hsource => ?_
  refine (always_list hi).bind fun is his => (always_strung z _ is).bind fun itemText hitem => ?_
  refine (always_clause "WHERE " hc).bind fun cs hcs => ?_
  refine (always_list hg).bind fun gs hgs =>
    (always_itemsClause z "GROUP BY " gs).bind fun grouped hgrouped => ?_
  refine (always_clause "HAVING " hh).bind fun vs hvs => ?_
  refine (always_list ho).bind fun os hos =>
    (always_itemsClause z "ORDER BY " os).bind fun ordered hordered => ?_
  refine (always_strung z _ _).bind fun w hw => .pure (.of_children rfl ?_)
  simp only [Node.children, List.forall_mem_append, Option.mem_toList]
  refine ⟨⟨⟨⟨⟨fun c hmem => ?_, fun c hmem => ?_⟩, fun c hmem => ?_⟩, fun c hmem => ?_⟩,
    fun c hmem => ?_⟩, fun c hmem => ?_⟩
  · exact hw _ (Keeps.of_subset (fun p hp => by simp_all) _
      ((hitem.trans (.behind opening itemText)) _ (his c hmem)))
  · exact hw _ (Keeps.of_subset (fun p hp => by simp_all) _
      ((hsource.trans (.behind "FROM " sourceText)) _ (hss c hmem)))
  · exact hw _ (Keeps.of_subset (fun p hp => by simp [hp]) _ (hcs c hmem))
  · exact hw _ (Keeps.of_subset (fun p hp => by simp [hp]) _ (hgrouped _ (hgs c hmem)))
  · exact hw _ (Keeps.of_subset (fun p hp => by simp [hp]) _ (hvs c hmem))
  · exact hw _ (Keeps.of_subset (fun p hp => by simp [hp]) _ (hordered _ (hos c hmem)))

/-- The text of a rendered tree has the texts of its sources and joins in it. -/
theorem shows_wellFormed {n : Node} (h : WellFormed n) : ShowsParts z n := by
  induction h with
  | literal | path | parameter | star | clock => exact shows_leaf rfl rfl
  | otherCall _ _ ih =>
    exact shows_call (_ ++ "(") _ rfl (List.append_nil _) (by rw [render]; rfl) ih
  | functionCall ht hc _ ih => exact shows_functionCall ht hc ih
  | cast _ _ ih =>
    refine shows_around (fun w => "CAST(" ++ w ++ " AS " ++ _ ++ ")") rfl rfl (by rw [render]; rfl)
      (fun w => ?_) ih
    exact (((Keeps.behind _ w).trans (.before _ _)).trans (.before _ _)).trans (.before _ _)
  | trim _ _ _ ihc ih => exact shows_trim ihc ih
  | paren _ ih | existsQuery _ ih | subquery _ ih =>
    exact shows_around _ rfl rfl (by rw [render])
      (fun w => (Keeps.behind _ w).trans (.before _ _)) ih
  | isNull _ ih =>
    exact shows_around _ rfl rfl (by rw [render])
      (fun w => ((Keeps.before w _).trans (.before _ _)).trans (.before _ _)) ih
  | not _ ih | sign _ _ _ ih =>
    exact shows_around _ rfl rfl (by rw [render]) (fun w => .behind _ w) ih
  | binary _ _ _ ih ih' =>
    refine shows_aroundBoth rfl rfl (by rw [render]) (fun v w => ⟨?_, .behind _ w⟩) ih ih'
    exact (((Keeps.before v _).trans (.before _ _)).trans (.before _ _)).trans (.before _ w)
  | branch _ _ ih ih' =>
    refine shows_aroundBoth rfl rfl (by rw [render]) (fun v w => ⟨?_, .behind _ w⟩) ih ih'
    exact ((Keeps.behind _ v).trans (.before _ _)).trans (.before _ w)
  | between _ _ _ ih ihl ihu =>
    rw [ShowsParts, render]
    refine ih.bind fun p hp => (always_shown z p).bind fun w hw => ?_
    refine ihl.bind fun pl hpl => (always_shown z pl).bind fun wl hwl => ?_
    refine ihu.bind fun pu hpu => (always_shown z pu).bind fun wu hwu => .pure (.of_children rfl ?_)
    simp only [Node.children, List.forall_mem_cons]
    refine ⟨?_, ?_, (Keeps.behind _ wu) _ (hwu _ hpu), List.forall_mem_nil _⟩
    · exact ((((Keeps.before w _).trans (.before _ _)).trans (.before _ wl)).trans
        (.before _ _)).trans (.before _ wu) _ (hw _ hp)
    · exact ((Keeps.behind _ wl).trans (.before _ _)).trans (.before _ wu) _ (hwl _ hpl)
  | inQuery _ _ ih ihq | inParameter _ _ ih ihq =>
    rw [ShowsParts, render]
    refine ihq.bind fun p hp => ih.bind fun pe hpe => (always_shown z pe).bind fun w hw => ?_
    refine (always_shown z p).bind fun inner hinner => .pure (.of_children rfl ?_)
    simp only [Node.children, List.append_nil, List.nil_append, Option.toList_some,
      Option.toList_none, List.forall_mem_cons]
    refine ⟨?_, ((Keeps.behind _ inner).trans (.before _ ")")) _ (hinner _ hp),
      List.forall_mem_nil _⟩
    exact (((Keeps.before w _).trans (.before _ _)).trans (.before _ inner)).trans (.before _ ")") _
      (hw _ hpe)
  | inList _ _ ih ihv =>
    rw [ShowsParts, render]
    refine (always_list ihv).bind fun ps hps => (always_strung z _ ps).bind fun inner hinner => ?_
    refine ih.bind fun pe hpe => (always_shown z pe).bind fun w hw => .pure (.of_children rfl ?_)
    simp only [Node.children, List.append_nil, Option.toList_none, List.forall_mem_cons]
    refine ⟨?_, fun c hmem => ((Keeps.behind _ inner).trans (.before _ ")")) _
      (hinner _ (hps c hmem))⟩
    exact (((Keeps.before w _).trans (.before _ _)).trans (.before _ inner)).trans (.before _ ")") _
      (hw _ hpe)
  | like _ _ _ ih ihp ihc => exact shows_like ih ihp ihc
  | memberOf =>
    rw [ShowsParts, render]
    exact .throw _
  | caseOf _ _ _ iho ihb ihe => exact shows_caseOf iho ihb ihe
  | selectItem _ _ ih =>
    rw [ShowsParts, render]
    refine ih.bind fun p hp => (always_extendedBy z p _).mono fun p' hp' => .of_children rfl ?_
    exact List.forall_mem_singleton.mpr (hp' _ hp)
  | constructor _ _ ih =>
    rw [ShowsParts, render]
    split
    · exact .throw _
    · refine (always_list ih).bind fun ps hps => (always_strung z _ ps).bind fun w hw => ?_
      refine (always_extendedBy z _ _).mono fun p hp => .of_children rfl fun c hmem => ?_
      exact hp _ (hw _ (hps c hmem))
  | join _ ha _ ih => exact shows_join (ne_empty_of_nameText ha) ih
  | fromItem _ ha hk hj ih => exact shows_fromItem (ne_empty_of_nameText ha) hj hk ih
  | assignment _ _ ih =>
    rw [ShowsParts, render]
    refine .next fun parts => .next fun left => .next fun leftText => ih.bind fun p hp => ?_
    refine (always_shown z p).bind fun w hw => .pure (.of_children rfl ?_)
    simp only [Node.children, List.forall_mem_cons]
    exact ⟨by simp [Shows, Node.nodes, isSourcePart, isAliased], (Keeps.behind _ w) _ (hw _ hp),
      List.forall_mem_nil _⟩
  | orderItem _ _ ih =>
    rw [ShowsParts, render]
    refine ih.bind fun p hp => (always_extendedBy z p _).bind fun p' hp' => ?_
    refine (always_extendedBy z p' _).mono fun p'' hp'' => .of_children rfl ?_
    exact List.forall_mem_singleton.mpr (hp'' _ (hp' _ hp))
  | select _ _ _ _ _ _ ihi ihs ihc ihg ihh iho => exact shows_select ihi ihs ihc ihg ihh iho

/-- The text of a rendered statement has the texts of its sources and joins in it. -/
theorem shows_statement {n : Node} (h : WellFormedStatement n) : ShowsParts z n := by
  cases h with
  | query h _ => exact shows_wellFormed h
  | update _ _ _ h hc =>
    rw [ShowsParts, render]
    refine .next fun _ => .next fun table =>
      (always_list fun n hn => shows_wellFormed (h n hn)).bind fun ps hps => ?_
    refine (always_strung z _ ps).bind fun w hw => ?_
    refine (always_clause "WHERE " fun n hn => shows_wellFormed (hc n hn)).bind fun cs hcs => ?_
    refine .next fun _ => (always_strung z _ _).bind fun text htext => .pure (.of_children rfl ?_)
    simp only [Node.children, List.forall_mem_append, Option.mem_toList]
    refine ⟨fun c hmem => ?_, fun c hmem => ?_⟩
    · exact htext _ (Keeps.of_subset (fun p hp => by simp_all) _
        ((hw.trans (.behind "SET " w)) _ (hps c hmem)))
    · exact htext _ (Keeps.of_subset (fun p hp => by simp [hp]) _ (hcs c hmem))
  | delete _ _ hc =>
    rw [ShowsParts, render]
    refine .next fun _ => .next fun table =>
      (always_clause "WHERE " fun n hn => shows_wellFormed (hc n hn)).bind fun cs hcs => ?_
    refine .next fun _ => (always_strung z _ _).bind fun text htext =>
      .pure (.of_children rfl fun c hmem => ?_)
    exact htext _ (Keeps.of_subset (fun p hp => by simp [hp]) _
      (hcs c (by simpa [Node.children] using hmem)))
  | insert =>
    rw [ShowsParts, render]
    exact .throw _

/-- The text of a converted statement has the texts of its sources and joins in it. -/
theorem shows_renderWhole {node : Node} {sql : String} {s : RenderState}
    (h : WellFormedStatement node) (hrender : ((renderWhole z node).run.run s).1 = .ok sql) :
    ∀ m ∈ node.nodes false, isSourcePart m = true → ∃ v, RenderedAs z m v ∧
      v.toList <:+: sql.toList := by
  intro m hm ha
  obtain ⟨p, t, hp, hshown⟩ := run_bind_ok (f := shown) (Prod.ext hrender rfl)
  obtain ⟨v, w, hv, hw, hinfix⟩ := always_shown z p hshown _ (shows_statement h hp) m hm ha
  cases List.mem_singleton.mp hw
  exact ⟨v, hv, hinfix⟩

/-- Sources and joins are parts of a statement, never all of it. -/
theorem wellFormed_of_isSourcePart {node n : Node} (h : WellFormedStatement node)
    (hn : n ∈ node.nodes false) (hpart : isSourcePart n = true) : WellFormed n := by
  rcases h.nodes n ((Node.mem_nodes_whole node).mpr (.inl hn)) with rfl | hn
  · cases h with
    | query h => exact h
    | _ => cases hpart
  · exact hn

/-- An insert is never written. -/
theorem kind_ne_insert {node : Node} {sql : String} {s : RenderState}
    (hrender : ((renderWhole z node).run.run s).1 = .ok sql) :
    node.statementKind? ≠ some .insert := by
  intro hk
  cases node with
  | insert entity targets source =>
    rw [renderWhole, render] at hrender
    cases hrender
  | _ => cases hk

/-! ## Joins of the statement that is written -/

/-- A join with an alias, and whether it has a condition. -/
structure JoinMark where
  kind : JoinKind
  name : String
  hasCondition : Bool
  deriving DecidableEq

/-- A join with an alias as it stands: with a condition if it has one of its own. -/
def joinMark? : Node → Option JoinMark
  | .join kind _ (some name) _ condition => some ⟨kind, name, condition.isSome⟩
  | _ => none

/-- A join with an alias as it is written: with a condition if it has one or its path leads along a
relation. -/
def Scope.joinMark? (z : Scope) : Node → Option JoinMark
  | .join kind along (some name) _ condition =>
    some ⟨kind, name, condition.isSome || (joinRelation z (partsOf along)).isSome⟩
  | _ => none

/-- The marks of the nodes of a tree, in their order. -/
def marks (mark? : Node → Option JoinMark) (n : Node) : List JoinMark :=
  (n.nodes false).filterMap mark?

theorem marks_eq (mark? : Node → Option JoinMark) (n : Node) :
    marks mark? n = (mark? n).toList ++ (n.children false).flatMap (marks mark?) := by
  rw [marks, Node.nodes_eq, List.filterMap_cons, List.filterMap_flatMap]
  cases mark? n <;> rfl

section

variable {q : Place}

theorem marks_translateList {ns : List Node}
    (h : ∀ n ∈ ns, marks joinMark? (translate q n) = marks q.scope.joinMark? n) :
    (translateList q ns).flatMap (marks joinMark?) = ns.flatMap (marks q.scope.joinMark?) := by
  induction ns with
  | nil => rfl
  | cons n ns ih =>
    obtain ⟨hn, hns⟩ := List.forall_mem_cons.mp h
    rw [translateList, List.flatMap_cons, List.flatMap_cons, hn, ih hns]

theorem marks_translateOption {n? : Option Node}
    (h : ∀ n ∈ n?, marks joinMark? (translate q n) = marks q.scope.joinMark? n) :
    (translateOption q n?).toList.flatMap (marks joinMark?) =
      n?.toList.flatMap (marks q.scope.joinMark?) := by
  cases n? with
  | none => rfl
  | some n => simp [translateOption, h n rfl]

theorem marks_constructorItems (asName : Option String) (ns : List Node) :
    (constructorItems asName ns).flatMap (marks joinMark?) = ns.flatMap (marks joinMark?) := by
  have hitem : ∀ e asName, marks joinMark? (.selectItem e asName) = marks joinMark? e :=
    fun e asName => by
    rw [marks_eq]
    simp [joinMark?, Node.children]
  induction ns with
  | nil => rfl
  | cons e rest ih =>
    cases rest with
    | nil => simp [constructorItems, hitem]
    | cons => simpa [constructorItems, hitem] using ih

theorem marks_translateItems {ns : List Node}
    (h : ∀ n ∈ ns, marks joinMark? (translate q n) = marks q.scope.joinMark? n) :
    (translateItems q ns).flatMap (marks joinMark?) = ns.flatMap (marks q.scope.joinMark?) := by
  induction ns with
  | nil => rfl
  | cons n ns ih =>
    obtain ⟨hn, hns⟩ := List.forall_mem_cons.mp h
    rw [List.flatMap_cons, ← hn, ← ih hns]
    cases n with
    | constructor className args asName =>
      rw [translateItems, List.flatMap_append, marks_constructorItems, translate, marks_eq]
      rfl
    | _ => rw [translateItems, List.flatMap_cons]; simp

/-- Joins without an alias are left out, and they have none below them. -/
theorem marks_translateJoins {ns : List Node} (hw : ∀ n ∈ ns, WellFormed n)
    (hj : ∀ n ∈ ns, isJoin n = true)
    (h : ∀ n ∈ ns, marks joinMark? (translate q n) = marks q.scope.joinMark? n) :
    (translateJoins q ns).flatMap (marks joinMark?) = ns.flatMap (marks q.scope.joinMark?) := by
  induction ns with
  | nil => rfl
  | cons n ns ih =>
    obtain ⟨hn, hns⟩ := List.forall_mem_cons.mp h
    obtain ⟨hwn, hwns⟩ := List.forall_mem_cons.mp hw
    obtain ⟨hjn, hjns⟩ := List.forall_mem_cons.mp hj
    rw [List.flatMap_cons, ← ih hwns hjns hns]
    cases hwn with
    | @join kind parts asName fetch condition =>
      cases asName with
      | none =>
        rw [translateJoins]
        rfl
      | some name =>
        rw [translateJoins, List.flatMap_cons, hn]
        simp
    | _ => cases hjn

/-- Nodes that are no joins have the joins of their children. -/
theorem marks_node {n t : Node} (ht : joinMark? t = none) (hn : z.joinMark? n = none)
    (h : (t.children false).flatMap (marks joinMark?) =
      (n.children false).flatMap (marks z.joinMark?)) :
    marks joinMark? t = marks z.joinMark? n := by
  rw [marks_eq, marks_eq z.joinMark?, ht, hn, h]

/-- A join is written with a condition if it has one or its path leads along a relation. -/
theorem marks_translateJoin {kind : JoinKind} {parts : List String} {asName : Option String}
    {fetch : Bool} {condition : Option Node}
    (h : ∀ n ∈ condition, marks joinMark? (translate q n) = marks q.scope.joinMark? n) :
    marks joinMark? (translate q (.join kind (.path parts) asName fetch condition)) =
      marks q.scope.joinMark? (.join kind (.path parts) asName fetch condition) := by
  cases asName with
  | none => cases condition <;> rfl
  | some name =>
    cases condition with
    | some e =>
      have he := h e rfl
      rw [translate, marks_eq, marks_eq q.scope.joinMark?]
      simp [joinMark?, Scope.joinMark?, Node.children, he, marks_eq _ (.path _)]
    | none =>
      rw [translate, marks_eq, marks_eq q.scope.joinMark?]
      cases hr : joinRelation q.scope parts with
      | none =>
        simp [joinMark?, Scope.joinMark?, Node.children, partsOf, Place.joinEquation?, hr,
          marks_eq _ (.path _)]
      | some step =>
        -- The condition that a relation gives has no joins in it.
        simp [joinMark?, Scope.joinMark?, Node.children, partsOf, Place.joinEquation?, hr,
          Place.Equation.node, marks_eq _ (.path _), marks_eq _ (.binary ..)]

/-- The joins with an alias in the statement that is written are those of the statement, in the same
order. -/
theorem marks_translate {n : Node} (h : WellFormed n) :
    marks joinMark? (translate q n) = marks q.scope.joinMark? n := by
  induction h with
  | literal | path | parameter | star | clock => rfl
  | otherCall _ _ ih | functionCall _ _ _ ih | constructor _ _ ih =>
    rw [translate]
    exact marks_node rfl rfl (by simp [Node.children, translateOption, marks_translateList ih])
  | cast _ _ ih =>
    rw [translate]
    exact marks_node rfl rfl (by simp [Node.children, translateOption, translateList, ih])
  | trim _ _ _ ihc ih =>
    rw [translate]
    exact marks_node rfl rfl (by simp [Node.children, translateList, ih, marks_translateOption ihc])
  | paren _ ih | not _ ih | sign _ _ _ ih | isNull _ ih | existsQuery _ ih | subquery _ ih
  | selectItem _ _ ih | orderItem _ _ ih =>
    rw [translate]
    exact marks_node rfl rfl (by simp [Node.children, ih])
  | binary _ _ _ ih ih' | branch _ _ ih ih' =>
    rw [translate]
    exact marks_node rfl rfl (by simp [Node.children, ih, ih'])
  | between _ _ _ ih ihl ihu =>
    rw [translate]
    exact marks_node rfl rfl (by simp [Node.children, ih, ihl, ihu])
  | inQuery _ _ ih ih' | inParameter _ _ ih ih' =>
    rw [translate]
    exact marks_node rfl rfl (by simp [Node.children, translateList, translateOption, ih, ih'])
  | inList _ _ ih ihv =>
    rw [translate]
    exact marks_node rfl rfl (by simp [Node.children, translateOption, ih, marks_translateList ihv])
  | like _ _ _ ih ihp ihc =>
    rw [translate]
    exact marks_node rfl rfl (by simp [Node.children, ih, ihp, marks_translateOption ihc])
  | memberOf _ _ ih =>
    rw [translate, translate]
    exact marks_node rfl rfl
      (by simp [Node.children, ih, marks_eq _ (.path _), joinMark?, Scope.joinMark?])
  | caseOf _ _ _ iho ihb ihe =>
    rw [translate]
    exact marks_node rfl rfl (by
      simp [Node.children, marks_translateOption iho, marks_translateList ihb,
        marks_translateOption ihe])
  | join _ _ _ ih => exact marks_translateJoin ih
  | fromItem _ _ hk hj ih =>
    rw [translate]
    exact marks_node rfl rfl (marks_translateJoins hj hk ih)
  | assignment _ _ ih =>
    rw [translate]
    exact marks_node rfl rfl
      (by simp [Node.children, ih, marks_eq _ (.path _), joinMark?, Scope.joinMark?])
  | select _ _ _ _ _ _ ihi ihs ihc ihg ihh iho =>
    rw [translate]
    exact marks_node rfl rfl (by
      simp [Node.children, marks_translateItems ihi, marks_translateList ihs,
        marks_translateOption ihc, marks_translateList ihg, marks_translateOption ihh,
        marks_translateList iho])

/-- The same for a whole statement, except for an insert, which is not written. -/
theorem marks_translate_statement {n : Node} (h : WellFormedStatement n)
    (hk : n.statementKind? ≠ some .insert) :
    marks joinMark? (translate q n) = marks q.scope.joinMark? n := by
  cases h with
  | query h _ => exact marks_translate h
  | @update parts asName _ _ _ _ _ h hc =>
    let inside : Place := { q with target := some (dotted parts), targetAlias := asName }
    have hassignments := marks_translateList (q := inside) fun n hn => marks_translate (h n hn)
    have hcondition := marks_translateOption (q := inside) fun n hn => marks_translate (hc n hn)
    rw [translate]
    refine marks_node rfl rfl ?_
    rw [Node.children, Node.children, List.flatMap_append, List.flatMap_append, hassignments,
      hcondition]
  | @delete parts _ _ _ _ hc =>
    let inside : Place := { q with target := some (dotted parts) }
    rw [translate]
    exact marks_node rfl rfl (marks_translateOption (q := inside) fun n hn =>
      marks_translate (hc n hn))
  | insert => exact absurd rfl hk

end

end EntityQuery.Sql
