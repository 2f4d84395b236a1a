import EntityQuery.Proofs.Sql.WellFormed

/-!
# What is in a tree

`Node.nodes` lists a node and everything below it. A join without an alias has no counterpart in
SQL, and its condition goes with it: taken as a whole, a tree has the nodes of such conditions too,
otherwise it has not.

1. `nodes_eq`: the nodes of a tree are the tree itself and the nodes of its children.
2. `mem_nodes_whole`: the nodes that only the whole tree has are those in the conditions of joins
   without an alias.
-/

namespace EntityQuery

namespace Node

/-- The nodes directly below a node. Unless the tree is taken as a whole, the condition of a join
without an alias is left out. -/
def children (whole : Bool) : Node → List Node
  | .literal .. | .path .. | .parameter .. | .star => []
  | .call _ args _ _ _ char _ => args ++ char.toList
  | .paren e | .unary _ e | .isNull e _ | .existsQuery e | .subquery e | .selectItem e _
  | .orderItem e _ _ => [e]
  | .binary e _ e' | .memberOf e e' _ | .branch e e' | .assignment e e' => [e, e']
  | .between e lower upper _ => [e, lower, upper]
  | .inSet e values query single _ => e :: (values ++ query.toList ++ single.toList)
  | .like e pattern escape _ => e :: pattern :: escape.toList
  | .caseOf operand branches otherwise => operand.toList ++ branches ++ otherwise.toList
  | .constructor _ args _ => args
  | .join _ along asName _ condition =>
    along :: if whole || asName.isSome then condition.toList else []
  | .fromItem _ _ joins => joins
  | .select items sources _ condition grouping having ordering =>
    items ++ sources ++ condition.toList ++ grouping ++ having.toList ++ ordering
  | .update _ _ assignments condition => assignments ++ condition.toList
  | .delete _ _ condition => condition.toList
  | .insert _ targets source => targets ++ source.toList

mutual

/-- A node and all nodes below it. Unless the tree is taken as a whole, the conditions of joins
without an alias are left out. -/
def nodes (whole : Bool) : Node → List Node
  | .literal value kind => [.literal value kind]
  | .path parts => [.path parts]
  | .parameter name positional => [.parameter name positional]
  | .star => [.star]
  | .call name args distinct known side char type =>
    .call name args distinct known side char type ::
      (nodesOfList whole args ++ nodesOfOption whole char)
  | .paren e => .paren e :: e.nodes whole
  | .unary operator e => .unary operator e :: e.nodes whole
  | .binary left operator right =>
    .binary left operator right :: (left.nodes whole ++ right.nodes whole)
  | .isNull e negated => .isNull e negated :: e.nodes whole
  | .between e lower upper negated =>
    .between e lower upper negated :: (e.nodes whole ++ lower.nodes whole ++ upper.nodes whole)
  | .inSet e values query single negated =>
    .inSet e values query single negated ::
      (e.nodes whole ++ nodesOfList whole values ++ nodesOfOption whole query ++
        nodesOfOption whole single)
  | .like e pattern escape negated =>
    .like e pattern escape negated ::
      (e.nodes whole ++ pattern.nodes whole ++ nodesOfOption whole escape)
  | .memberOf e collection negated =>
    .memberOf e collection negated :: (e.nodes whole ++ collection.nodes whole)
  | .existsQuery query => .existsQuery query :: query.nodes whole
  | .subquery query => .subquery query :: query.nodes whole
  | .branch condition result =>
    .branch condition result :: (condition.nodes whole ++ result.nodes whole)
  | .caseOf operand branches otherwise =>
    .caseOf operand branches otherwise ::
      (nodesOfOption whole operand ++ nodesOfList whole branches ++ nodesOfOption whole otherwise)
  | .selectItem e asName => .selectItem e asName :: e.nodes whole
  | .constructor className args asName =>
    .constructor className args asName :: nodesOfList whole args
  | .join kind along asName fetch condition =>
    .join kind along asName fetch condition ::
      (along.nodes whole ++ if whole || asName.isSome then nodesOfOption whole condition else [])
  | .fromItem entity asName joins => .fromItem entity asName joins :: nodesOfList whole joins
  | .assignment target value =>
    .assignment target value :: (target.nodes whole ++ value.nodes whole)
  | .orderItem e direction nulls => .orderItem e direction nulls :: e.nodes whole
  | .select items sources distinct condition grouping having ordering =>
    .select items sources distinct condition grouping having ordering ::
      (nodesOfList whole items ++ nodesOfList whole sources ++ nodesOfOption whole condition ++
        nodesOfList whole grouping ++ nodesOfOption whole having ++ nodesOfList whole ordering)
  | .update entity asName assignments condition =>
    .update entity asName assignments condition ::
      (nodesOfList whole assignments ++ nodesOfOption whole condition)
  | .delete entity asName condition =>
    .delete entity asName condition :: nodesOfOption whole condition
  | .insert entity targets source =>
    .insert entity targets source :: (nodesOfList whole targets ++ nodesOfOption whole source)

/-- All nodes of the trees of a list. -/
def nodesOfList (whole : Bool) : List Node → List Node
  | [] => []
  | node :: rest => node.nodes whole ++ nodesOfList whole rest

/-- All nodes of an optional tree. -/
def nodesOfOption (whole : Bool) : Option Node → List Node
  | none => []
  | some node => node.nodes whole

end

section

-- The equations of the recursions are generated here, once for all modules that rewrite with them.
attribute [local simp] children nodes

end

theorem nodesOfList_eq (whole : Bool) (ns : List Node) :
    nodesOfList whole ns = ns.flatMap (nodes whole) := by
  induction ns with
  | nil => rfl
  | cons n ns ih => rw [nodesOfList, ih, List.flatMap_cons]

theorem nodesOfOption_eq (whole : Bool) (n? : Option Node) :
    nodesOfOption whole n? = n?.toList.flatMap (nodes whole) := by
  cases n? with
  | none => rfl
  | some n => simp [nodesOfOption]

/-- The nodes of a tree are the tree itself and the nodes of its children. -/
theorem nodes_eq (whole : Bool) (n : Node) :
    n.nodes whole = n :: (n.children whole).flatMap (nodes whole) := by
  cases n with
  | join kind along asName fetch condition =>
    rw [nodes, children, List.flatMap_cons]
    split
    · rw [nodesOfOption_eq]
    · rfl
  | _ => simp [nodes, children, nodesOfList_eq, nodesOfOption_eq]

theorem mem_nodes_self (whole : Bool) (n : Node) : n ∈ n.nodes whole := by
  rw [nodes_eq]
  exact List.mem_cons_self

theorem mem_nodes {whole : Bool} {m n : Node} :
    m ∈ n.nodes whole ↔ m = n ∨ ∃ c ∈ n.children whole, m ∈ c.nodes whole := by
  rw [nodes_eq, List.mem_cons, List.mem_flatMap]

/-- All nodes of a tree have a property if it has and those of its children have. -/
theorem forall_nodes {whole : Bool} {n : Node} {P : Node → Prop} :
    (∀ m ∈ n.nodes whole, P m) ↔ P n ∧ ∀ c ∈ n.children whole, ∀ m ∈ c.nodes whole, P m := by
  rw [nodes_eq, List.forall_mem_cons]
  simp only [List.mem_flatMap, forall_exists_index, and_imp]
  exact and_congr_right fun _ => ⟨fun h c hc m hm => h m c hc hm, fun h m c hc hm => h c hc m hm⟩

/-- A node below another one is the smaller of the two. -/
theorem sizeOf_lt_of_mem_children {whole : Bool} {c n : Node} (h : c ∈ n.children whole) :
    sizeOf c < sizeOf n := by
  have hlist : ∀ {ns : List Node}, c ∈ ns → sizeOf c < sizeOf ns := fun h => List.sizeOf_lt_of_mem h
  have hoption : ∀ {n? : Option Node}, c ∈ n?.toList → sizeOf c < sizeOf n? := by
    rintro (_ | n) h
    · cases h
    · rw [List.mem_singleton.mp h, Option.some.sizeOf_spec]
      omega
  cases n with
  | join kind along asName fetch condition =>
    simp only [children, List.mem_cons] at h
    split at h <;> grind [join.sizeOf_spec]
  | literal | path | parameter | star => cases h
  | _ =>
    simp only [children, List.mem_cons, List.mem_append, List.not_mem_nil, or_false] at h
    grind

/-- What is directly below a node of a tree is a node of the tree. -/
theorem mem_nodes_of_mem_children {whole : Bool} {node n c : Node} (hn : n ∈ node.nodes whole)
    (hc : c ∈ n.children whole) :
    c ∈ node.nodes whole := by
  rcases mem_nodes.mp hn with rfl | ⟨d, hd, hnd⟩
  · exact mem_nodes.mpr (.inr ⟨c, hc, mem_nodes_self whole c⟩)
  · exact mem_nodes.mpr (.inr ⟨d, hd, mem_nodes_of_mem_children hnd hc⟩)
termination_by sizeOf node
decreasing_by exact sizeOf_lt_of_mem_children hd

/-! ## What is left out -/

/-- A join without an alias. -/
def isAliasless : Node → Bool
  | .join _ _ asName _ _ => asName.isNone
  | _ => false

/-- The nodes of the condition that a join without an alias takes along. -/
def dropped : Node → List Node
  | .join _ _ none _ condition => nodesOfOption true condition
  | _ => []

theorem isAliasless_of_mem_dropped {m n : Node} (h : m ∈ n.dropped) : n.isAliasless = true := by
  unfold dropped at h
  split at h
  · rfl
  · cases h

/-- A child that only the whole tree has is the condition of a join without an alias. -/
theorem mem_children_whole {c n : Node} (h : c ∈ n.children true) :
    c ∈ n.children false ∨ ∀ m ∈ c.nodes true, m ∈ n.dropped := by
  cases n with
  | join kind along asName fetch condition =>
    cases asName with
    | some name => exact .inl h
    | none =>
      rcases List.mem_cons.mp h with rfl | hc
      · exact .inl List.mem_cons_self
      · obtain rfl : condition = some c := Option.mem_toList.mp hc
        exact .inr fun _ hm => hm
  | _ => exact .inl h

theorem children_subset_whole {c n : Node} (h : c ∈ n.children false) : c ∈ n.children true := by
  cases n with
  | join kind along asName fetch condition =>
    cases asName with
    | some name => exact h
    | none =>
      rw [List.mem_singleton.mp h]
      exact List.mem_cons_self
  | _ => exact h

theorem dropped_subset_whole {m n : Node} (h : m ∈ n.dropped) : m ∈ n.nodes true := by
  unfold dropped at h
  split at h
  · rw [nodes]
    exact List.mem_cons_of_mem _ (List.mem_append_right _ h)
  · cases h

/-- The nodes that only the whole tree has are those in the conditions of joins without an alias. -/
theorem mem_nodes_whole {m : Node} (n : Node) :
    m ∈ n.nodes true ↔ m ∈ n.nodes false ∨ ∃ j ∈ n.nodes false, m ∈ j.dropped := by
  -- By induction on the size of the tree: what holds below each child holds below the node.
  have ih : ∀ c ∈ n.children true, m ∈ c.nodes true ↔ m ∈ c.nodes false ∨ ∃ j ∈ c.nodes false,
      m ∈ j.dropped :=
    fun c hc => mem_nodes_whole c
  constructor
  · intro hm
    rcases mem_nodes.mp hm with rfl | ⟨c, hc, hmc⟩
    · exact .inl (mem_nodes_self false _)
    · rcases mem_children_whole hc with hc' | hdropped
      · rcases (ih c hc).mp hmc with hmc | ⟨j, hj, hmj⟩
        · exact .inl (mem_nodes.mpr (.inr ⟨c, hc', hmc⟩))
        · exact .inr ⟨j, mem_nodes.mpr (.inr ⟨c, hc', hj⟩), hmj⟩
      · exact .inr ⟨n, mem_nodes_self false n, hdropped m hmc⟩
  · rintro (hm | ⟨j, hj, hmj⟩)
    · rcases mem_nodes.mp hm with rfl | ⟨c, hc, hmc⟩
      · exact mem_nodes_self true _
      · have hc' := children_subset_whole hc
        exact mem_nodes.mpr (.inr ⟨c, hc', (ih c hc').mpr (.inl hmc)⟩)
    · rcases mem_nodes.mp hj with rfl | ⟨c, hc, hjc⟩
      · exact dropped_subset_whole hmj
      · have hc' := children_subset_whole hc
        exact mem_nodes.mpr (.inr ⟨c, hc', (ih c hc').mpr (.inr ⟨j, hjc, hmj⟩)⟩)
termination_by sizeOf n
decreasing_by exact sizeOf_lt_of_mem_children hc

/-- A tree has a join without an alias as a whole only if it has one outside of what such joins take
along. -/
theorem exists_isAliasless_whole {n : Node} :
    (∃ m ∈ n.nodes true, m.isAliasless = true) ↔ ∃ m ∈ n.nodes false, m.isAliasless = true := by
  constructor
  · rintro ⟨m, hm, ha⟩
    rcases (mem_nodes_whole n).mp hm with hm | ⟨j, hj, hmj⟩
    · exact ⟨m, hm, ha⟩
    · exact ⟨j, hj, isAliasless_of_mem_dropped hmj⟩
  · rintro ⟨m, hm, ha⟩
    exact ⟨m, (mem_nodes_whole n).mpr (.inl hm), ha⟩

end Node

namespace Sql

open Node Grammar

/-- Below a tree that a query can spell there are only such trees. -/
theorem WellFormed.children {n : Node} (h : WellFormed n) :
    ∀ c ∈ n.children true, WellFormed c := by
  cases h <;> simp_all [Node.children, plainCall, WellFormed.path, or_imp]

theorem WellFormedStatement.children {n : Node} (h : WellFormedStatement n) :
    ∀ c ∈ n.children true, WellFormed c := by
  cases h with
  | query h => exact h.children
  | insert _ ht h =>
    simp only [Node.children, Option.toList_some, List.mem_append, List.mem_singleton]
    rintro c (hc | rfl)
    · obtain ⟨ps, rfl, hps⟩ := ht c hc
      exact .path hps
    · exact h
  | _ => simp_all [Node.children, or_imp]

/-- All nodes of such a tree are such trees. -/
theorem WellFormed.nodes {n : Node} (h : WellFormed n) : ∀ m ∈ n.nodes true, WellFormed m := by
  intro m hm
  rcases mem_nodes.mp hm with rfl | ⟨c, hc, hm⟩
  · exact h
  · exact (h.children c hc).nodes m hm
termination_by sizeOf n
decreasing_by exact sizeOf_lt_of_mem_children hc

/-- All nodes of a statement are such trees, but for the statement itself. -/
theorem WellFormedStatement.nodes {n : Node} (h : WellFormedStatement n) :
    ∀ m ∈ n.nodes true, m = n ∨ WellFormed m := by
  intro m hm
  rcases mem_nodes.mp hm with rfl | ⟨c, hc, hm⟩
  · exact .inl rfl
  · exact .inr ((h.children c hc).nodes m hm)

end Sql

end EntityQuery
