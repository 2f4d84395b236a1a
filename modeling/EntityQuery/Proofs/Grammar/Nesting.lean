import EntityQuery.Proofs.Grammar.Derivation

/-!
# Nesting depth

How many nesting levels a tree needs. A level is entered for every whole expression (a condition, an
argument, an item of a list, the inside of parentheses, each part of a case expression), for every
select statement, and behind every `NOT` and every sign. Chains of operators do not nest, however
long they are.

`Node.nesting` counts the levels below a node, the level that is entered for the node itself not
included; `Node.depth` counts all levels of a statement.
-/

namespace EntityQuery

namespace Node

mutual

/-- The levels below a node. -/
def nesting : Node → Nat
  | .literal .. => 0
  | .path .. => 0
  | .parameter .. => 0
  | .star => 0
  | .call _ args _ _ _ trimChar _ => max (entries args) (entryOption trimChar)
  | .paren e => nesting e + 1
  | .unary _ e => nesting e + 1
  | .binary l _ r => max (nesting l) (nesting r)
  | .isNull e _ => nesting e
  | .between e lower upper _ => max (nesting e) (max (nesting lower) (nesting upper))
  | .inSet e values query _ _ => max (nesting e) (max (entries values) (entryOption query))
  | .like e pattern escape _ => max (nesting e) (max (nesting pattern) (nesting? escape))
  | .memberOf e _ _ => nesting e
  | .existsQuery q => nesting q + 1
  | .subquery q => nesting q + 1
  | .branch condition result => max (nesting condition + 1) (nesting result + 1)
  | .caseOf operand branches otherwise =>
    max (entryOption operand) (max (nestings branches) (entryOption otherwise))
  | .selectItem e _ => nesting e + 1
  | .constructor _ args _ => entries args
  | .join _ _ _ _ condition => entryOption condition
  | .fromItem _ _ joins => nestings joins
  | .assignment _ value => nesting value + 1
  | .orderItem e _ _ => nesting e + 1
  | .select items sources _ condition grouping having ordering =>
    max (nestings items)
      (max (nestings sources) (max (entryOption condition) (max (entries grouping)
      (max (entryOption having) (nestings ordering)))))
  | .update _ _ assignments condition => max (nestings assignments) (entryOption condition)
  | .delete _ _ condition => entryOption condition
  | .insert _ _ source => entryOption source

/-- The levels below the deepest of some nodes. -/
def nestings : List Node → Nat
  | [] => 0
  | node :: rest => max (nesting node) (nestings rest)

/-- The levels of the deepest of some arguments. The star of `COUNT(*)` needs none. -/
def entries : List Node → Nat
  | [] => 0
  | .star :: rest => entries rest
  | node :: rest => max (nesting node + 1) (entries rest)

/-- The levels below an optional node. -/
def nesting? : Option Node → Nat
  | none => 0
  | some node => nesting node

/-- The levels of an optional expression. -/
def entryOption : Option Node → Nat
  | none => 0
  | some node => nesting node + 1

end

-- The equations of the recursion are generated here, once for all modules that rewrite with them.
attribute [local simp] nesting

/-- The levels of an argument. -/
def entry : Node → Nat
  | .star => 0
  | node => nesting node + 1

/-- The levels of a statement: a select statement enters one of its own. -/
def depth : Node → Nat
  | node@(.select ..) => nesting node + 1
  | node => nesting node

theorem entry_of_ne_star {node : Node} (h : node ≠ .star) : entry node = nesting node + 1 := by
  unfold entry
  split
  · exact absurd rfl h
  · rfl

theorem entries_cons (node : Node) (rest : List Node) :
    entries (node :: rest) = max (entry node) (entries rest) := by
  by_cases h : node = .star
  · subst h
    rw [entries, entry, Nat.zero_max]
  · rw [entry_of_ne_star h, entries]
    exact h

end Node

namespace Grammar

/-- The levels that a part of the grammar needs. -/
def Part.levels : Part → Node → Nat
  | .argument, node => node.entry
  | .select, node => node.nesting + 1
  | .statement, node => node.depth
  | _, node => node.nesting

/-- The levels that the deepest of some parts needs. -/
def Part.levelsOf (k : Part) : List Node → Nat
  | [] => 0
  | node :: rest => max (k.levels node) (k.levelsOf rest)

/-- The levels that a phrase needs. -/
def Phrase.levels : Phrase → Nat
  | .expression _ e => e.nesting
  | .part k node => k.levels node
  | .list k nodes => k.levelsOf nodes
  | .joins nodes => Part.join.levelsOf nodes
  | .branches nodes => Node.nestings nodes
  | .arguments nodes => Part.argument.levelsOf nodes
  | .clause _ e => Node.entryOption e
  | .byClause _ k nodes => k.levelsOf nodes

theorem Part.levelsOf_append (k : Part) (ns : List Node) (n : Node) :
    k.levelsOf (ns ++ [n]) = max (k.levelsOf ns) (k.levels n) := by
  induction ns with
  | nil => simp [levelsOf]
  | cons m ns ih => rw [List.cons_append, levelsOf, levelsOf, ih, Nat.max_assoc]

theorem nestings_append (ns : List Node) (n : Node) :
    Node.nestings (ns ++ [n]) = max (Node.nestings ns) n.nesting := by
  induction ns with
  | nil => simp [Node.nestings]
  | cons m ns ih => rw [List.cons_append, Node.nestings, Node.nestings, ih, Nat.max_assoc]

theorem levelsOf_argument (ns : List Node) : Part.argument.levelsOf ns = Node.entries ns := by
  induction ns with
  | nil => rw [Part.levelsOf, Node.entries]
  | cons n ns ih => rw [Part.levelsOf, Node.entries_cons, ih]; rfl

/-- Parts that enter no level of their own are as deep as their nodes. -/
theorem levelsOf_eq_nestings {k : Part} (hk : ∀ n, k.levels n = n.nesting) (ns : List Node) :
    k.levelsOf ns = Node.nestings ns := by
  induction ns with
  | nil => rw [Part.levelsOf, Node.nestings]
  | cons n ns ih => rw [Part.levelsOf, Node.nestings, ih, hk]

end Grammar

end EntityQuery
