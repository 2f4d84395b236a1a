import EntityQuery.Metadata

/-!
# What an analysis meets

The parts of a tree that matter to its metadata, in the order in which an analysis meets them. The
sources of a select statement come before everything else, so that aliases are known where they are
used; elsewhere the order is that of the tree.
-/

namespace EntityQuery

/-- One thing that an analysis meets. -/
inductive Visit where
  /-- An entity with its alias: a source, a join, the target of a statement. -/
  | declare (entity : String) (asName : Option String)
  /-- A join along a path of several names. -/
  | joined (join : JoinPath)
  /-- A field that an insert fills. -/
  | filled (entity field : String)
  /-- A path in an expression. -/
  | mention (parts : List String)
  /-- A parameter. -/
  | parameter (name : String)
  /-- The start of what belongs to the target of an update or a delete. -/
  | enter (entity : String)
  /-- Its end. -/
  | leave
  /-- A place where the tree makes no sense. -/
  | broken (fault : TreeFault)
  deriving DecidableEq, Repr

namespace Visit

/-- The visits of a join, before those of its condition. -/
def ofJoin (along : Node) (asName : Option String) : List Visit :=
  match along.pathParts with
  | .error f => [.broken f]
  | .ok parts =>
    match inferEntity parts with
    | .error f => [.broken f]
    | .ok entity =>
      .declare entity asName ::
        match parts with
        | first :: _ :: _ => [.joined ⟨first, dotted parts, asName, some entity⟩]
        | _ => []

/-- The visit of a target of an insert. -/
def ofTarget (entity : String) (target : Node) : Visit :=
  match target.pathText with
  | .ok text => .filled entity text
  | .error f => .broken f

end Visit

namespace Node

mutual

/-- What an analysis meets in a node, in order. -/
def visits : Node → List Visit
  | .literal .. => []
  | .path parts => [.mention parts]
  | .parameter name _ => [.parameter name]
  | .star => []
  | .call _ args _ _ _ trimChar _ => visitsOfList args ++ visitsOfOption trimChar
  | .paren inner => visits inner
  | .unary _ operand => visits operand
  | .binary left _ right => visits left ++ visits right
  | .isNull e _ => visits e
  | .between e lower upper _ => visits e ++ visits lower ++ visits upper
  | .inSet e values query param _ =>
    visits e ++ visitsOfList values ++ visitsOfOption query ++ visitsOfOption param
  | .like e pattern escape _ => visits e ++ visits pattern ++ visitsOfOption escape
  | .memberOf element collection _ => visits element ++ visits collection
  | .existsQuery query => visits query
  | .subquery query => visits query
  | .branch condition result => visits condition ++ visits result
  | .caseOf operand branches otherwise =>
    visitsOfOption operand ++ visitsOfList branches ++ visitsOfOption otherwise
  | .selectItem e _ => visits e
  | .constructor _ args _ => visitsOfList args
  | .join _ along asName _ condition => Visit.ofJoin along asName ++ visitsOfOption condition
  | .fromItem entity asName joins => .declare entity asName :: visitsOfList joins
  | .assignment target value => visits target ++ visits value
  | .orderItem e _ _ => visits e
  | .select items sources _ condition grouping having ordering =>
    visitsOfList sources ++ visitsOfList items ++ visitsOfOption condition ++
      visitsOfList grouping ++ visitsOfOption having ++ visitsOfList ordering
  | .update entity asName assignments condition =>
    [.declare entity asName, .enter entity] ++ visitsOfList assignments ++
      visitsOfOption condition ++ [.leave]
  | .delete entity asName condition =>
    [.declare entity asName, .enter entity] ++ visitsOfOption condition ++ [.leave]
  | .insert entity targets source =>
    .declare entity none :: targets.map (Visit.ofTarget entity) ++ visitsOfOption source

/-- What an analysis meets in a list of nodes. -/
def visitsOfList : List Node → List Visit
  | [] => []
  | node :: rest => visits node ++ visitsOfList rest

/-- What an analysis meets in an optional node. -/
def visitsOfOption : Option Node → List Visit
  | none => []
  | some node => visits node

end

end Node

end EntityQuery
