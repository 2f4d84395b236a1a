import EntityQuery.Proofs.Metadata.Declaration
import EntityQuery.Proofs.Node.Contents
import EntityQuery.Proofs.Sql.Outcome

/-!
# What an analysis meets in a statement

A statement that a query can spell makes sense to an analysis wherever it looks.

1. `visits_inner`: below a statement an analysis meets paths, parameters, and entities with their
   aliases, and no update or delete.
2. `run_statement`: it meets a whole statement without a fault, and is inside no update or delete at
   its end.
3. `analyze_entityOf?`: a name stands for the entity that it was declared with last, in whatever
   part of the statement.
4. `mem_parameters`: the parameters that it finds are those of the tree as a whole.
-/

namespace EntityQuery

open Sql Grammar

/-! ## Visits -/

/-- The name of an entity as a query can give it: a path, or what a path leads to. -/
def EntityText (entity : String) : Prop :=
  ∃ parts, PathText parts ∧ (entity = dotted parts ∨ inferEntity parts = .ok entity)

/-- What can be met below a statement. -/
def Visit.Inner : Visit → Prop
  | .declare entity _ => EntityText entity
  | .mention parts => PathText parts
  | .joined _ | .filled .. | .parameter _ => True
  | .enter _ | .leave | .broken _ => False

namespace Node

section

-- The equations of the recursion are generated here, once for all modules that rewrite with them.
attribute [local simp] visits

end

theorem visitsOfList_eq (ns : List Node) : visitsOfList ns = ns.flatMap visits := by
  induction ns with
  | nil => rfl
  | cons n ns ih => rw [visitsOfList, ih, List.flatMap_cons]

theorem visitsOfOption_eq (n? : Option Node) : visitsOfOption n? = n?.toList.flatMap visits := by
  cases n? with
  | none => rfl
  | some n => simp [visitsOfOption]

/-- What is met in a join before its condition. -/
theorem ofJoin_inner {parts : List String} (hp : PathText parts) (asName : Option String) :
    ∀ v ∈ Visit.ofJoin (.path parts) asName, v.Inner := by
  obtain ⟨entity, he⟩ := inferEntity_ok hp
  have hentity : EntityText entity := ⟨parts, hp, .inr he⟩
  simp only [Visit.ofJoin, pathParts, he, List.forall_mem_cons]
  refine ⟨hentity, ?_⟩
  split <;> simp [Visit.Inner]

/-- Below a statement there is only what can be met there. -/
theorem visits_inner {n : Node} (h : WellFormed n) : ∀ v ∈ n.visits, v.Inner := by
  induction h with
  | literal | star | clock => exact nofun
  | path hp => simpa [visits, Visit.Inner] using hp
  | parameter => simp [visits, Visit.Inner]
  | memberOf _ hp ih => simpa [visits, or_imp, forall_and, Visit.Inner] using ⟨ih, hp⟩
  | join hp _ _ ih =>
    simp only [visits, visitsOfOption_eq, List.mem_append, List.mem_flatMap, Option.mem_toList]
    rintro v (hv | ⟨n, hn, hv⟩)
    · exact ofJoin_inner hp _ v hv
    · exact ih n hn v hv
  | @fromItem parts _ _ hp _ _ _ ih =>
    have hentity : EntityText (dotted parts) := ⟨parts, hp, .inl rfl⟩
    simp only [visits, visitsOfList_eq, List.mem_cons, List.mem_flatMap]
    rintro v (rfl | ⟨n, hn, hv⟩)
    · exact hentity
    · exact ih n hn v hv
  | assignment hp _ ih => simpa [visits, or_imp, forall_and, Visit.Inner] using ⟨hp, ih⟩
  | _ =>
    simp only [visits, visitsOfList_eq, visitsOfOption_eq, List.mem_append, List.mem_flatMap,
      Option.mem_toList]
    grind

/-- A tree has a parameter. -/
def HasParameter (name : String) (n : Node) : Prop :=
  ∃ positional, .parameter name positional ∈ n.nodes true

theorem hasParameter_iff {name : String} {n : Node} :
    n.HasParameter name ↔ (∃ positional, n = .parameter name positional) ∨ ∃ c ∈ n.children true,
      c.HasParameter name := by
  unfold HasParameter
  constructor
  · rintro ⟨positional, h⟩
    rcases mem_nodes.mp h with h | ⟨c, hc, h⟩
    · exact .inl ⟨positional, h.symm⟩
    · exact .inr ⟨c, hc, positional, h⟩
  · rintro (⟨positional, rfl⟩ | ⟨c, hc, positional, h⟩)
    · exact ⟨positional, mem_nodes_self true _⟩
    · exact ⟨positional, mem_nodes.mpr (.inr ⟨c, hc, h⟩)⟩

theorem not_hasParameter_path {name : String} {parts : List String} :
    ¬(Node.path parts).HasParameter name := by
  rw [hasParameter_iff]
  simp [children]

/-- The parameters that are met are those of the tree. -/
theorem parameter_mem_visits {name : String} {n : Node} (h : WellFormed n) :
    .parameter name ∈ n.visits ↔ n.HasParameter name := by
  induction h with
  | @parameter name' positional =>
    rw [hasParameter_iff]
    simp [visits, children, eq_comm]
  | clock c =>
    rw [hasParameter_iff]
    simp [plainCall, visits, visitsOfList_eq, visitsOfOption_eq, children]
  | memberOf _ _ ih | assignment _ _ ih =>
    rw [hasParameter_iff]
    simp [visits, children, ih, not_hasParameter_path]
  | @join _ parts asName _ condition hp _ _ ih =>
    have hjoin : .parameter name ∉ Visit.ofJoin (.path parts) asName := by
      obtain ⟨entity, he⟩ := inferEntity_ok hp
      simp only [Visit.ofJoin, pathParts, he]
      split <;> simp
    rw [hasParameter_iff]
    simp only [visits, visitsOfOption_eq, children, List.mem_append, List.mem_flatMap,
      Option.mem_toList, Bool.true_or, if_true, List.mem_cons]
    grind [not_hasParameter_path]
  | _ =>
    rw [hasParameter_iff]
    simp only [visits, visitsOfList_eq, visitsOfOption_eq, children, List.mem_append,
      List.mem_flatMap, Option.mem_toList]
    grind

theorem parameter_mem_visits_statement {name : String} {n : Node} (h : WellFormedStatement n) :
    .parameter name ∈ n.visits ↔ n.HasParameter name := by
  have hbelow := h.children
  cases h with
  | query h => exact parameter_mem_visits h
  | @insert parts targets query _ ht h =>
    -- The targets are names of columns, and an analysis takes them as such.
    have hvisits : .parameter name ∉ targets.map (Visit.ofTarget (dotted parts)) := by
      intro hm
      obtain ⟨t, htm, heq⟩ := List.mem_map.mp hm
      obtain ⟨ps, rfl, -⟩ := ht t htm
      cases heq
    have hnodes : ∀ t ∈ targets, ¬t.HasParameter name := by
      intro t htm
      obtain ⟨ps, rfl, -⟩ := ht t htm
      exact not_hasParameter_path
    rw [hasParameter_iff]
    simp only [visits, visitsOfOption_eq, children, List.mem_append, List.mem_cons,
      List.mem_flatMap, Option.mem_toList]
    grind [parameter_mem_visits]
  | _ =>
    rw [hasParameter_iff]
    simp only [visits, visitsOfList_eq, visitsOfOption_eq, children, List.mem_append,
      List.mem_flatMap, Option.mem_toList, List.mem_cons] at hbelow ⊢
    grind [parameter_mem_visits]

/-- An insert is no update: it can be met like what stands below a statement. -/
theorem visits_insert_inner {parts : List String} {targets : List Node} {query : Node}
    (hp : PathText parts) (ht : ∀ n ∈ targets, ∃ ps, n = .path ps ∧ PathText ps)
    (h : WellFormed query) :
    ∀ v ∈ (Node.insert (dotted parts) targets (some query)).visits, v.Inner := by
  simp only [visits, visitsOfOption, List.mem_append, List.mem_cons, List.mem_map]
  rintro v ((rfl | ⟨t, htm, rfl⟩) | hv)
  · exact ⟨parts, hp, .inl rfl⟩
  · obtain ⟨ps, rfl, -⟩ := ht t htm
    exact trivial
  · exact visits_inner h v hv

/-- The entities that a statement declares have names that a query can give. -/
theorem entityText_of_declare {n : Node} (h : WellFormedStatement n) {entity : String}
    {asName : Option String} (hv : .declare entity asName ∈ n.visits) : EntityText entity := by
  have hbelow : ∀ c ∈ n.children true, .declare entity asName ∈ c.visits → EntityText entity :=
    fun c hc hv => visits_inner (h.children c hc) _ hv
  cases h with
  | query h => exact visits_inner h _ hv
  | insert hp ht h => exact visits_insert_inner hp ht h _ hv
  | @update parts _ _ _ hp | @delete parts _ _ hp =>
    simp only [visits, visitsOfList_eq, visitsOfOption_eq, children, List.mem_append,
      List.mem_flatMap, Option.mem_toList, List.mem_cons] at hv hbelow
    grind [EntityText]

end Node

/-! ## Runs -/

namespace Analysis

theorem run_append {a b : Analysis} {vs : List Visit} (h : a.run vs = (b, none)) (ws : List Visit) :
    a.run (vs ++ ws) = b.run ws := by
  induction vs generalizing a with
  | nil =>
    cases h
    rfl
  | cons v vs ih =>
    obtain ⟨c, hstep, hrun⟩ := run_cons h
    rw [List.cons_append, run, hstep]
    exact ih hrun

/-- What can be met below a statement is met without a fault, and does not lead into an update or
delete or out of one. -/
theorem step_inner (a : Analysis) {v : Visit} (h : v.Inner) :
    ∃ b, a.step v = .ok b ∧ b.target = a.target := by
  cases v with
  | mention parts =>
    obtain ⟨first, rest, rfl, -, -⟩ := h
    cases rest with
    | nil =>
      unfold step mention
      dsimp only
      split
      · refine ⟨_, rfl, ?_⟩
        split <;> rfl
      · exact ⟨_, rfl, rfl⟩
    | cons second rest =>
      unfold step mention
      dsimp only
      split <;> exact ⟨_, rfl, rfl⟩
  | enter | leave | broken => exact h.elim
  | _ => exact ⟨_, rfl, rfl⟩

theorem run_inner (a : Analysis) {vs : List Visit} (h : ∀ v ∈ vs, v.Inner) :
    ∃ b, a.run vs = (b, none) ∧ b.target = a.target := by
  induction vs generalizing a with
  | nil => exact ⟨a, rfl, rfl⟩
  | cons v vs ih =>
    obtain ⟨hv, hvs⟩ := List.forall_mem_cons.mp h
    obtain ⟨b, hstep, hb⟩ := step_inner a hv
    obtain ⟨c, hrun, hc⟩ := ih b hvs
    exact ⟨c, by rw [run, hstep]; exact hrun, hc.trans hb⟩

/-- What is met inside the target of an update or delete is met without a fault, and the target is
left at the end. -/
theorem run_target (a : Analysis) (entity : String) (asName : Option String) {vs : List Visit}
    (h : ∀ v ∈ vs, v.Inner) :
    ∃ b, a.run ([.declare entity asName, .enter entity] ++ vs ++ [.leave]) = (b, none) ∧
      b.target = none := by
  obtain ⟨b, hrun, -⟩ := run_inner ⟨a.metadata.addEntity entity asName, some entity, a.book⟩ h
  refine ⟨{ b with target := none }, ?_, rfl⟩
  rw [List.append_assoc, run_append (b := ⟨a.metadata.addEntity entity asName, some entity, a.book⟩)
    rfl, run_append hrun]
  rfl

/-- A statement that a query can spell is met without a fault, and is left at the end. -/
theorem run_statement {n : Node} (h : WellFormedStatement n) (a : Analysis) (ha : a.target = none) :
    ∃ b, a.run n.visits = (b, none) ∧ b.target = none := by
  have hbelow : ∀ c ∈ n.children true, ∀ v ∈ c.visits, v.Inner :=
    fun c hc => Node.visits_inner (h.children c hc)
  cases h with
  | query h =>
    obtain ⟨b, hrun, hb⟩ := run_inner a (Node.visits_inner h)
    exact ⟨b, hrun, hb.trans ha⟩
  | @update parts asName assignments condition =>
    have hinner : ∀ v ∈ Node.visitsOfList assignments ++ Node.visitsOfOption condition,
        v.Inner := by
      simp only [Node.visitsOfList_eq, Node.visitsOfOption_eq, ← List.flatMap_append,
        List.mem_flatMap]
      rintro v ⟨c, hc, hv⟩
      exact hbelow c hc v hv
    rw [Node.visits, List.append_assoc _ (Node.visitsOfList assignments)]
    exact run_target a (dotted parts) asName hinner
  | @delete parts asName condition =>
    have hinner : ∀ v ∈ Node.visitsOfOption condition, v.Inner := by
      simp only [Node.visitsOfOption_eq, List.mem_flatMap]
      rintro v ⟨c, hc, hv⟩
      exact hbelow c hc v hv
    exact run_target a (dotted parts) asName hinner
  | insert hp ht h =>
    obtain ⟨b, hrun, hb⟩ := run_inner a (Node.visits_insert_inner hp ht h)
    exact ⟨b, hrun, hb.trans ha⟩

/-! ## Parameters -/

theorem mem_appendNew {α : Type} [BEq α] [LawfulBEq α] {x y : α} {xs : List α} :
    x ∈ appendNew xs y ↔ x ∈ xs ∨ x = y := by
  unfold appendNew
  split
  · next hy =>
    refine ⟨.inl, ?_⟩
    rintro (hx | rfl)
    · exact hx
    · exact List.contains_iff_mem.mp hy
  · simp

/-- Longer fields change only entities and fields. -/
theorem addLonger_eq (rest : List String) (m : Metadata) (entity field : String) :
    ∃ entities fields, addLonger m entity field rest = { m with entities, fields } := by
  induction rest generalizing m field with
  | nil => exact ⟨m.entities, m.fields, rfl⟩
  | cons name rest ih => exact ih (m.addField entity (field ++ "." ++ name)) (field ++ "." ++ name)

/-- A path changes only entities and fields. -/
theorem mention_metadata {a b : Analysis} {parts : List String} (h : a.mention parts = .ok b) :
    ∃ entities fields, b.metadata = { a.metadata with entities, fields } := by
  unfold mention at h
  split at h
  · cases h
  · split at h
    · cases h
      split <;> exact ⟨_, _, rfl⟩
    · cases h
      exact ⟨_, _, rfl⟩
  · split at h
    · cases h
      exact addLonger_eq _ _ _ _
    · cases h
      exact ⟨_, _, rfl⟩

/-- A step enters a parameter where one is met. -/
theorem step_parameters {a b : Analysis} {v : Visit} (h : a.step v = .ok b) (name : String) :
    name ∈ b.metadata.parameters ↔ name ∈ a.metadata.parameters ∨ v = .parameter name := by
  cases v with
  | parameter met =>
    cases h
    rw [Visit.parameter.injEq, eq_comm (a := met)]
    exact mem_appendNew
  | mention parts =>
    obtain ⟨entities, fields, hm⟩ := mention_metadata h
    simp [hm]
  | broken => cases h
  | declare entity asName =>
    cases h
    unfold Metadata.addEntity
    cases given? asName <;> simp
  | _ =>
    cases h
    simp [Metadata.addJoinPath, Metadata.addField]

/-- The parameters that a run finds are those that it meets. -/
theorem run_parameters {a b : Analysis} {vs : List Visit} (h : a.run vs = (b, none))
    (name : String) :
    name ∈ b.metadata.parameters ↔ name ∈ a.metadata.parameters ∨ .parameter name ∈ vs := by
  induction vs generalizing a with
  | nil =>
    cases h
    simp
  | cons v vs ih =>
    obtain ⟨c, hstep, hrun⟩ := run_cons h
    rw [ih hrun, step_parameters hstep, List.mem_cons, or_assoc, eq_comm (b := v)]

end Analysis

/-! ## Aliases -/

/-- The entity that a name is declared with last. -/
def lastEntity? (name : String) (ds : List Declaration) : Option String :=
  (ds.reverse.find? fun d => d.asName == name).map Declaration.inferred

theorem lastEntity?_append (name : String) (ds es : List Declaration) :
    lastEntity? name (ds ++ es) = (lastEntity? name es).or (lastEntity? name ds) := by
  rw [lastEntity?, List.reverse_append, List.find?_append, Option.map_or]
  rfl

/-- A step gives a name the entity that it declares it with, if it declares it. -/
theorem Analysis.step_entityOf? {a b : Analysis} {v : Visit} (h : a.step v = .ok b)
    (rest : List Visit) (name : String) :
    ∃ ds, declarations (v :: rest) = ds ++ declarations rest ∧
      b.metadata.entityOf? name = (lastEntity? name ds).or (a.metadata.entityOf? name) := by
  unfold Metadata.entityOf?
  rw [step_aliases h]
  cases v with
  | declare entity asName =>
    refine ⟨_, rfl, ?_⟩
    simp only [Visit.aliasesAfter]
    cases given? asName with
    | none => rfl
    | some own =>
      by_cases hname : own = name
      · subst hname
        rw [Option.elim_some, Registry.get?_put_self (.ofLawful _)]
        simp [lastEntity?]
      · rw [Option.elim_some, Registry.get?_put_of_ne (.ofLawful _) (.ofLawful _) hname]
        simp [lastEntity?, hname]
  | _ => exact ⟨[], rfl, rfl⟩

/-- After a run a name stands for the entity that it was declared with last. -/
theorem Analysis.run_entityOf? {a b : Analysis} {vs : List Visit} (h : a.run vs = (b, none))
    (name : String) :
    b.metadata.entityOf? name =
      (lastEntity? name (declarations vs)).or (a.metadata.entityOf? name) := by
  induction vs generalizing a with
  | nil =>
    cases h
    rfl
  | cons v vs ih =>
    obtain ⟨c, hstep, hrun⟩ := run_cons h
    obtain ⟨ds, hds, hentity⟩ := step_entityOf? hstep vs name
    rw [ih hrun, hentity, hds, lastEntity?_append, Option.or_assoc]

/-- In the metadata of a statement a name stands for the entity that it was declared with last. -/
theorem Node.analyze_entityOf? {node : Node} {query : String} {m : Metadata} {book : Log.Book}
    (h : ((node.analyze query).run book).1 = .ok m) (name : String) :
    m.entityOf? name = lastEntity? name (declarations node.visits) := by
  obtain ⟨kind, last, hrun, rfl⟩ := Node.analyze_run h
  rw [Analysis.run_entityOf? hrun]
  exact Option.or_none

theorem declare_of_mem_declarations {d : Declaration} {vs : List Visit} (h : d ∈ declarations vs) :
    ∃ asName, .declare d.inferred asName ∈ vs := by
  fun_induction declarations vs with
  | case1 => cases h
  | case2 entity asName rest ih =>
    rcases List.mem_append.mp h with h | h
    · obtain ⟨name, -, rfl⟩ := List.mem_map.mp h
      exact ⟨asName, List.mem_cons_self⟩
    · obtain ⟨asName', hd⟩ := ih h
      exact ⟨asName', List.mem_cons_of_mem _ hd⟩
  | case3 _ rest _ ih =>
    obtain ⟨asName, hd⟩ := ih h
    exact ⟨asName, List.mem_cons_of_mem _ hd⟩

/-- The entities that an analysis finds have names that a query can give. -/
theorem Node.entityText_of_entityOf? {node : Node} (h : WellFormedStatement node) {query : String}
    {m : Metadata} {book : Log.Book} (hm : ((node.analyze query).run book).1 = .ok m)
    {name entity : String} (he : m.entityOf? name = some entity) : EntityText entity := by
  rw [Node.analyze_entityOf? hm] at he
  obtain ⟨d, hd, rfl⟩ := Option.map_eq_some_iff.mp he
  obtain ⟨asName, hv⟩ :=
    declare_of_mem_declarations (List.mem_reverse.mp (List.mem_of_find?_eq_some hd))
  exact entityText_of_declare h hv

/-- The parameters of a statement are those that it has as a whole. -/
theorem Node.mem_parameters {node : Node} (h : WellFormedStatement node) {query : String}
    {m : Metadata} {book : Log.Book} (hm : ((node.analyze query).run book).1 = .ok m)
    (name : String) : name ∈ m.parameters ↔ node.HasParameter name := by
  obtain ⟨kind, last, hrun, rfl⟩ := Node.analyze_run hm
  rw [Analysis.run_parameters hrun, ← parameter_mem_visits_statement h]
  simp

/-- A statement that a query can spell is analyzed by any analyzer, which is outside of updates and
deletes then. -/
theorem Analyzer.analyze_statement {n : Node} (h : WellFormedStatement n) (z : Analyzer)
    (query : String) (book : Log.Book) :
    ∃ m, ((z.analyze n query).run book).1 = (.ok m, { target := none }) := by
  obtain ⟨kind, hkind⟩ : ∃ kind, n.statementKind? = some kind := by
    cases h with
    | query _ hk => exact ⟨_, hk⟩
    | _ => exact ⟨_, rfl⟩
  obtain ⟨b, hrun, hb⟩ := Analysis.run_statement h ⟨{ query, kind }, none, book⟩ rfl
  refine ⟨b.metadata, ?_⟩
  unfold Analyzer.analyze
  rw [hkind]
  simp only [StateT.run_bind, StateT.run_get, pure_bind, StateT.run_set, hrun]
  rw [← hb]
  rfl

end EntityQuery
