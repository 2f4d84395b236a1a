import EntityQuery.Metadata.Analysis
import EntityQuery.Proofs.Registry
import Mathlib.Data.List.Basic

/-!
# Declared aliases

An analysis enters an alias where the statement declares it: with a source, a join or a target. For
a join along a path the entity that it enters is only inferred from the name of the property.

1. `declarations`: the aliases of a statement, each with the entity that is entered for it and the
   join that declares it.
2. `step_aliases`: a step of an analysis changes the aliases only where one is declared.
3. `entityOf?_of_declared`, `entityOf?_of_undeclared`: the alias table of a whole analysis.
-/

namespace EntityQuery

/-! ## Declarations -/

/-- An alias, the entity that an analysis enters for it, and the path that it is joined along, if
there is one. -/
structure Declaration where
  asName : String
  inferred : String
  along? : Option JoinPath

/-- The join path that is met next, if one is. -/
def joinAhead? : List Visit → Option JoinPath
  | .joined join :: _ => some join
  | _ => none

/-- The aliases that are declared among what an analysis meets. -/
def declarations : List Visit → List Declaration
  | [] => []
  | .declare entity asName :: rest =>
    ((given? asName).toList.map fun name => ⟨name, entity, joinAhead? rest⟩) ++ declarations rest
  | _ :: rest => declarations rest

/-- The aliases after something has been met. -/
def Visit.aliasesAfter (aliases : Registry String String) : Visit → Registry String String
  | .declare entity asName => (given? asName).elim aliases fun name => aliases.put name entity
  | _ => aliases

namespace Analysis

variable {a b : Analysis}

/-! ## One step -/

theorem aliases_addLonger (rest : List String) (m : Metadata) (entity field : String) :
    (addLonger m entity field rest).aliases = m.aliases := by
  induction rest generalizing m field with
  | nil => rfl
  | cons name rest ih =>
    unfold addLonger
    rw [ih]
    rfl

theorem aliases_mention {parts : List String} (h : a.mention parts = .ok b) :
    b.metadata.aliases = a.metadata.aliases := by
  unfold mention at h
  split at h
  · cases h
  · split at h
    · cases h
      split <;> rfl
    · cases h
      rfl
  · split at h
    · cases h
      exact aliases_addLonger _ _ _ _
    · cases h
      rfl

/-- A step enters an alias where one is declared, and leaves the aliases alone elsewhere. -/
theorem step_aliases {v : Visit} (h : a.step v = .ok b) :
    b.metadata.aliases = v.aliasesAfter a.metadata.aliases := by
  cases v with
  | declare entity asName =>
    cases h
    simp only [Visit.aliasesAfter, Metadata.addEntity]
    cases given? asName <;> rfl
  | mention parts => exact aliases_mention h
  | broken fault => cases h
  | joined join =>
    cases h
    rfl
  | filled entity field =>
    cases h
    rfl
  | parameter name =>
    cases h
    rfl
  | enter entity =>
    cases h
    rfl
  | leave =>
    cases h
    rfl

/-! ## Whole analyses -/

theorem run_cons {v : Visit} {rest : List Visit} {last : Analysis}
    (h : a.run (v :: rest) = (last, none)) :
    ∃ b, a.step v = .ok b ∧ b.run rest = (last, none) := by
  unfold run at h
  split at h
  · exact ⟨_, ‹_›, h⟩
  · cases h

/-- An alias that is not declared keeps its entity. -/
theorem entityOf?_of_undeclared {vs : List Visit} {last : Analysis} {name : String}
    (h : a.run vs = (last, none)) (hn : ∀ d ∈ declarations vs, d.asName ≠ name) :
    last.metadata.entityOf? name = a.metadata.entityOf? name := by
  induction vs generalizing a with
  | nil =>
    cases h
    rfl
  | cons v rest ih =>
    obtain ⟨b, hstep, hrun⟩ := run_cons h
    -- What is declared later is declared somewhere, so it has another name; so has what is declared
    -- here.
    have hrest : ∀ d ∈ declarations rest, d.asName ≠ name := by
      intro d hd
      refine hn d ?_
      cases v with
      | declare => exact List.mem_append_right _ hd
      | _ => exact hd
    rw [ih hrun hrest]
    unfold Metadata.entityOf?
    rw [step_aliases hstep]
    cases v with
    | declare entity asName =>
      simp only [Visit.aliasesAfter]
      cases hg : given? asName with
      | none => rfl
      | some own =>
        refine Registry.get?_put_of_ne (.ofLawful _) (.ofLawful _) ?_ _ _
        exact hn ⟨own, entity, joinAhead? rest⟩ (by simp [declarations, hg])
    | _ => rfl

/-- An alias that is declared once has the entity that was entered for it. -/
theorem entityOf?_of_declared {vs : List Visit} {last : Analysis} {d : Declaration}
    (h : a.run vs = (last, none)) (hu : ((declarations vs).map Declaration.asName).Nodup)
    (hd : d ∈ declarations vs) :
    last.metadata.entityOf? d.asName = some d.inferred := by
  induction vs generalizing a with
  | nil => cases hd
  | cons v rest ih =>
    obtain ⟨b, hstep, hrun⟩ := run_cons h
    cases v with
    | declare entity asName =>
      unfold declarations at hu hd
      cases hg : given? asName with
      | none =>
        rw [hg] at hu hd
        exact ih hrun hu hd
      | some own =>
        simp only [hg, Option.toList_some, List.map_cons, List.map_nil, List.singleton_append,
          List.nodup_cons, List.mem_cons] at hu hd
        rcases hd with rfl | hd
        · -- declared here, and nowhere after
          have hlater : ∀ d ∈ declarations rest, d.asName ≠ own := by
            intro d hd heq
            exact hu.1 (heq ▸ List.mem_map_of_mem hd)
          rw [entityOf?_of_undeclared hrun hlater]
          unfold Metadata.entityOf?
          rw [step_aliases hstep]
          simp only [Visit.aliasesAfter, hg, Option.elim_some]
          exact Registry.get?_put_self (.ofLawful _) _ _
        · exact ih hrun hu.2 hd
    | _ => exact ih hrun hu hd

end Analysis

/-- An analysis that succeeds has started with nothing but the text and its kind, and has met
everything in the statement. -/
theorem Node.analyze_run {node : Node} {query : String} {m : Metadata} {book : Log.Book}
    (h : ((node.analyze query).run book).1 = .ok m) :
    ∃ kind last, Analysis.run ⟨{ query, kind }, none, book⟩ node.visits = (last, none) ∧
      last.metadata = m := by
  unfold Node.analyze Analyzer.analyze at h
  cases hkind : node.statementKind? with
  | none =>
    rw [hkind] at h
    cases h
  | some kind =>
    rw [hkind] at h
    simp only [StateT.run_bind, StateT.run_get, pure_bind, StateT.run_set] at h
    generalize hrun : Analysis.run ⟨{ query, kind }, none, book⟩ node.visits = r at h
    obtain ⟨last, fault?⟩ := r
    cases fault? with
    | some f => cases h
    | none =>
      cases h
      exact ⟨kind, last, hrun, rfl⟩

/-- A statement in which everything is met without a fault has metadata. -/
theorem Node.analyze_of_run {node : Node} {query : String} {kind : StatementKind} {book : Log.Book}
    {last : Analysis} (hkind : node.statementKind? = some kind)
    (hrun : Analysis.run ⟨{ query, kind }, none, book⟩ node.visits = (last, none)) :
    ((node.analyze query).run book).1 = .ok last.metadata := by
  unfold Node.analyze Analyzer.analyze
  rw [hkind]
  simp only [StateT.run_bind, StateT.run_get, pure_bind, StateT.run_set, hrun]
  rfl

/-- An analysis that succeeds has started without any alias and has met everything in the
statement. -/
theorem Node.analyze_ok {node : Node} {query : String} {m : Metadata} {book : Log.Book}
    (h : ((node.analyze query).run book).1 = .ok m) :
    ∃ start last : Analysis, start.metadata.aliases = {} ∧ start.run node.visits = (last, none) ∧
      last.metadata = m := by
  obtain ⟨kind, last, hrun, hm⟩ := Node.analyze_run h
  exact ⟨_, last, rfl, hrun, hm⟩

end EntityQuery
