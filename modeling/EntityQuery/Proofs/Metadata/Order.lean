import EntityQuery.Proofs.Metadata.Encounter
import Mathlib.Data.List.Perm.Basic

/-!
# The order of an analysis

`Node.met` are the nodes that an analysis comes upon, in its order: the sources of a select
statement before its other clauses, and everything else as it stands in the tree. It does not look
into the paths of joins and the targets of inserts, which name no fields of their own.

1. `visits_statement`: what is met in a statement is what each of these nodes opens with.
2. `met_perm`: apart from such paths, they are all nodes of the tree.
3. `run_foldl`: whatever one step of an analysis adds to a part of its state, a run adds in turn.
-/

namespace EntityQuery

open Sql Grammar

namespace Node

/-! ## The nodes that are met -/

/-- The nodes directly below a node that an analysis goes on to, in its order. -/
def inspected : Node → List Node
  | .select items sources _ condition grouping having ordering =>
    sources ++ items ++ condition.toList ++ grouping ++ having.toList ++ ordering
  | .join _ _ _ _ condition => condition.toList
  | .insert _ _ source => source.toList
  | n => n.children true

theorem inspected_subset {c n : Node} (h : c ∈ n.inspected) : c ∈ n.children true := by
  cases n with
  | select | insert =>
    simp only [inspected, children, List.mem_append] at h ⊢
    grind
  | join => exact List.mem_cons_of_mem _ h
  | _ => exact h

/-- A node and all nodes below it that an analysis comes upon, in its order. -/
def met (n : Node) : List Node :=
  n :: n.inspected.attach.flatMap fun c => c.1.met
termination_by sizeOf n
decreasing_by exact sizeOf_lt_of_mem_children (inspected_subset c.2)

theorem met_eq (n : Node) : n.met = n :: n.inspected.flatMap met := by
  rw [met, List.flatMap_subtype (g := met) (fun _ _ => rfl), List.unattach_attach]

theorem mem_met_self (n : Node) : n ∈ n.met := by
  rw [met_eq]
  exact List.mem_cons_self

theorem mem_met {m n : Node} : m ∈ n.met ↔ m = n ∨ ∃ c ∈ n.inspected, m ∈ c.met := by
  rw [met_eq, List.mem_cons, List.mem_flatMap]

/-- The children that an analysis does not go on to are paths. -/
theorem children_perm {n : Node} (h : WellFormed n ∨ WellFormedStatement n) :
    ∃ skipped, (n.children true).Perm (skipped ++ n.inspected) ∧
      ∀ c ∈ skipped, ∃ parts, c = .path parts := by
  cases n with
  | select items sources =>
    refine ⟨[], ?_, by simp⟩
    exact (((List.perm_append_comm.append_right _).append_right _).append_right _).append_right _
  | join kind along asName fetch condition =>
    refine ⟨[along], .refl _, ?_⟩
    rcases h with h | h
    · cases h
      simp
    · cases h with
      | query h => cases h; simp
  | insert entity targets source =>
    refine ⟨targets, .refl _, ?_⟩
    rcases h with h | h
    · cases h
    · cases h with
      | query h => cases h
      | insert _ ht _ =>
        intro c hc
        obtain ⟨parts, rfl, -⟩ := ht c hc
        exact ⟨parts, rfl⟩
  | _ => exact ⟨[], .refl _, by simp⟩

/-- What is read off the nodes that are met is read off the nodes of the tree, unless it is read off
paths. -/
theorem met_perm {n : Node} (h : WellFormed n ∨ WellFormedStatement n) {β : Type}
    {f : Node → Option β} (hf : ∀ parts, f (.path parts) = none) :
    (n.met.filterMap f).Perm ((n.nodes true).filterMap f) := by
  obtain ⟨skipped, hperm, hpaths⟩ := children_perm h
  have hbelow : ∀ c ∈ n.inspected, (c.met.filterMap f).Perm ((c.nodes true).filterMap f) := by
    intro c hc
    have hchild : WellFormed c :=
      h.elim (·.children c (inspected_subset hc)) (·.children c (inspected_subset hc))
    exact met_perm (.inl hchild) hf
  have hskipped : skipped.flatMap (fun c => (c.nodes true).filterMap f) = [] := by
    refine List.flatMap_eq_nil_iff.mpr fun c hc => ?_
    obtain ⟨parts, rfl⟩ := hpaths c hc
    simp [nodes, hf]
  have hcons : ∀ ms, (n :: ms).filterMap f = (f n).toList ++ ms.filterMap f := by
    intro ms
    rw [List.filterMap_cons]
    cases f n <;> rfl
  rw [met_eq, nodes_eq, hcons, hcons, List.filterMap_flatMap, List.filterMap_flatMap]
  refine .append_left _ ?_
  calc n.inspected.flatMap (fun c => c.met.filterMap f)
    _ |>.Perm (n.inspected.flatMap fun c => (c.nodes true).filterMap f) := .flatMap_left _ hbelow
    _ |>.Perm ((skipped ++ n.inspected).flatMap fun c => (c.nodes true).filterMap f) := by
      rw [List.flatMap_append, hskipped, List.nil_append]
    _ |>.Perm ((n.children true).flatMap fun c => (c.nodes true).filterMap f) :=
    hperm.symm.flatMap_right _
termination_by sizeOf n
decreasing_by exact sizeOf_lt_of_mem_children (inspected_subset hc)

/-! ## What is met -/

/-- What an analysis meets in a node itself, before what is below it. -/
def opening : Node → List Visit
  | .path parts => [.mention parts]
  | .parameter name _ => [.parameter name]
  | .join _ along asName _ _ => Visit.ofJoin along asName
  | .fromItem entity asName _ => [.declare entity asName]
  | .update entity asName _ _ | .delete entity asName _ => [.declare entity asName, .enter entity]
  | .insert entity targets _ => .declare entity none :: targets.map (Visit.ofTarget entity)
  | _ => []

/-- What an analysis meets in a node after what is below it. -/
def closing : Node → List Visit
  | .update .. | .delete .. => [.leave]
  | _ => []

theorem visits_eq (n : Node) : n.visits = n.opening ++ n.inspected.flatMap visits ++ n.closing := by
  cases n <;> simp [visits, opening, inspected, closing, children, visitsOfList_eq,
    visitsOfOption_eq]

theorem visits_wellFormed {n : Node} (h : WellFormed n) : n.visits = n.met.flatMap opening := by
  have hbelow : ∀ c ∈ n.inspected, c.visits = c.met.flatMap opening :=
    fun c hc => visits_wellFormed (h.children c (inspected_subset hc))
  have hclosing : n.closing = [] := by cases h <;> rfl
  rw [visits_eq, met_eq, hclosing, List.append_nil, List.flatMap_cons, List.flatMap_assoc,
    List.flatMap_congr hbelow]
termination_by sizeOf n
decreasing_by exact sizeOf_lt_of_mem_children (inspected_subset hc)

/-- What is met in a statement, node by node. -/
theorem visits_statement {n : Node} (h : WellFormedStatement n) :
    n.visits = n.met.flatMap opening ++ n.closing := by
  have hbelow : ∀ c ∈ n.inspected, c.visits = c.met.flatMap opening :=
    fun c hc => visits_wellFormed (h.children c (inspected_subset hc))
  rw [visits_eq, met_eq, List.flatMap_cons, List.flatMap_assoc, List.flatMap_congr hbelow]

end Node

/-! ## Runs -/

namespace Analysis

/-- A part of the state that every step adds to by what it meets: a run adds what it meets in turn.
The property `P` is what the steps rely on. -/
theorem run_foldl {σ δ : Type} (view : Analysis → σ) (pick : Visit → Option δ) (add : σ → δ → σ)
    {P : Analysis → Prop} {vs : List Visit}
    (hstep : ∀ v ∈ vs, ∀ {a b : Analysis}, P a → a.step v = .ok b →
      P b ∧ view b = (pick v).elim (view a) (add (view a)))
    {a b : Analysis} (ha : P a) (h : a.run vs = (b, none)) :
    P b ∧ view b = (vs.filterMap pick).foldl add (view a) := by
  induction vs generalizing a with
  | nil =>
    cases h
    exact ⟨ha, rfl⟩
  | cons v vs ih =>
    obtain ⟨hv, hvs⟩ := List.forall_mem_cons.mp hstep
    obtain ⟨c, hc, hrun⟩ := run_cons h
    obtain ⟨hp, hview⟩ := hv ha hc
    obtain ⟨hb, hlast⟩ := ih hvs hp hrun
    refine ⟨hb, ?_⟩
    rw [hlast, hview, List.filterMap_cons]
    cases pick v <;> rfl

theorem run_split {a b : Analysis} {vs ws : List Visit} (h : a.run (vs ++ ws) = (b, none)) :
    ∃ c, a.run vs = (c, none) ∧ c.run ws = (b, none) := by
  induction vs generalizing a with
  | nil => exact ⟨a, rfl, h⟩
  | cons v vs ih =>
    obtain ⟨c, hstep, hrun⟩ := run_cons h
    obtain ⟨d, hd, hws⟩ := ih hrun
    refine ⟨d, ?_, hws⟩
    rw [run, hstep]
    exact hd

end Analysis

/-- The metadata of a statement is what an analysis has collected from the nodes that it
came upon. -/
theorem Node.analyze_met {node : Node} (h : WellFormedStatement node) (query : String)
    (book : Log.Book) :
    ∃ kind last, node.statementKind? = some kind ∧
      Analysis.run ⟨{ query, kind }, none, book⟩ (node.met.flatMap opening) = (last, none) ∧
      ((node.analyze query).run book).1 = .ok last.metadata := by
  obtain ⟨kind, hkind⟩ : ∃ kind, node.statementKind? = some kind := by
    cases h with
    | query _ hk => exact ⟨_, hk⟩
    | _ => exact ⟨_, rfl⟩
  obtain ⟨last, hrun, -⟩ := Analysis.run_statement h ⟨{ query, kind }, none, book⟩ rfl
  have hanalyze := analyze_of_run hkind hrun
  rw [visits_statement h] at hrun
  obtain ⟨before, hbefore, hclosing⟩ := Analysis.run_split hrun
  refine ⟨kind, before, hkind, hbefore, ?_⟩
  -- At the end an update or delete is left, which adds nothing.
  have hleave : last.metadata = before.metadata := by
    unfold closing at hclosing
    split at hclosing <;> cases hclosing <;> rfl
  rw [hanalyze, hleave]

end EntityQuery
