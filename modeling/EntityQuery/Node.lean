/-!
# Syntax trees

One type holds every part of a query: statements, the items of their clauses, and expressions. Any
node may stand in any slot, so a tree that was put together by hand need not be one that a query can
spell; operations that need a certain kind of node in a slot say so in their result.

Text is kept as the query has it: literals with their quotes and suffixes, operators in the spelling
that was used.
-/

namespace EntityQuery

/-- The kinds of literals. -/
inductive LiteralKind where
  | integer | decimal | string | boolean | null
  deriving DecidableEq, Repr

/-- The kinds of joins, as a query spells them. -/
inductive JoinKind where
  | plain | inner | left | leftOuter | right | rightOuter
  deriving DecidableEq, Repr

/-- The direction of an ordering. -/
inductive Direction where
  | ascending | descending
  deriving DecidableEq, Repr

/-- A node of a syntax tree. -/
inductive Node where
  /-- A literal in its spelling. -/
  | literal (value : String) (kind : LiteralKind)
  /-- A name, or names joined by points. -/
  | path (parts : List String)
  /-- A parameter: the name after a colon, or the whole text of a positional one. -/
  | parameter (name : String) (positional : Bool)
  /-- The star of `COUNT(*)`. -/
  | star
  /-- A call. Trimming alone has a specification and a character, casting alone has a type. -/
  | call (name : String) (args : List Node) (distinct known : Bool) (trimSpec : Option String)
      (trimChar : Option Node) (castType : Option String)
  /-- An expression in parentheses. -/
  | paren (inner : Node)
  /-- `NOT` or a sign before an operand. -/
  | unary (operator : String) (operand : Node)
  /-- Two operands around an operator. -/
  | binary (left : Node) (operator : String) (right : Node)
  /-- `x IS [NOT] NULL`. -/
  | isNull (expression : Node) (negated : Bool)
  /-- `x [NOT] BETWEEN a AND b`. -/
  | between (expression lower upper : Node) (negated : Bool)
  /-- `x [NOT] IN`, with a list, a sub-query or a parameter. -/
  | inSet (expression : Node) (values : List Node) (subquery parameter : Option Node)
      (negated : Bool)
  /-- `x [NOT] LIKE pattern [ESCAPE c]`. -/
  | like (expression pattern : Node) (escape : Option Node) (negated : Bool)
  /-- `x [NOT] MEMBER [OF] collection`. -/
  | memberOf (element collection : Node) (negated : Bool)
  /-- `EXISTS (query)`. -/
  | existsQuery (query : Node)
  /-- A query in parentheses as an operand. -/
  | subquery (query : Node)
  /-- One branch of a case expression. -/
  | branch (condition result : Node)
  /-- `CASE [operand] WHEN … [ELSE …] END`. -/
  | caseOf (operand : Option Node) (branches : List Node) (otherwise : Option Node)
  /-- An expression in a select list. -/
  | selectItem (expression : Node) (asName : Option String)
  /-- `NEW class(args)` in a select list. -/
  | constructor (className : String) (args : List Node) (asName : Option String)
  /-- A join along a path. -/
  | join (kind : JoinKind) (path : Node) (asName : Option String) (fetch : Bool)
      (condition : Option Node)
  /-- An entity in a from list, with its joins. -/
  | fromItem (entity : String) (asName : Option String) (joins : List Node)
  /-- `target = value` in an update. -/
  | assignment (target value : Node)
  /-- An expression in an ordering. -/
  | orderItem (expression : Node) (direction : Option Direction) (nulls : Option String)
  /-- A select statement. -/
  | select (items sources : List Node) (distinct : Bool) (condition : Option Node)
      (grouping : List Node) (having : Option Node) (ordering : List Node)
  /-- An update statement. -/
  | update (entity : String) (asName : Option String) (assignments : List Node)
      (condition : Option Node)
  /-- A delete statement. -/
  | delete (entity : String) (asName : Option String) (condition : Option Node)
  /-- An insert statement with the query that supplies the rows. -/
  | insert (entity : String) (targets : List Node) (source : Option Node)
  deriving Inhabited

/-- The keyword of a statement. -/
inductive StatementKind where
  | select | update | delete | insert
  deriving DecidableEq, Repr

/-- The keyword in capitals. -/
def StatementKind.name : StatementKind → String
  | .select => "SELECT"
  | .update => "UPDATE"
  | .delete => "DELETE"
  | .insert => "INSERT"

/-- The statement of a keyword in capitals. -/
def StatementKind.ofName? (name : String) : Option StatementKind :=
  [StatementKind.select, .update, .delete, .insert].find? fun k => k.name == name

namespace Node

/-- Which statement a node is, if it is one. -/
def statementKind? : Node → Option StatementKind
  | .select .. => some .select
  | .update .. => some .update
  | .delete .. => some .delete
  | .insert .. => some .insert
  | _ => none

/-- The name of a node's kind in messages. -/
def kindName : Node → String
  | .literal .. => "Literal"
  | .path .. => "Path"
  | .parameter .. => "Parameter"
  | .star => "StarExpression"
  | .call .. => "FunctionCall"
  | .paren .. => "ParenthesizedExpression"
  | .unary .. => "UnaryExpression"
  | .binary .. => "BinaryExpression"
  | .isNull .. => "IsNullExpression"
  | .between .. => "BetweenExpression"
  | .inSet .. => "InExpression"
  | .like .. => "LikeExpression"
  | .memberOf .. => "MemberOfExpression"
  | .existsQuery .. => "ExistsExpression"
  | .subquery .. => "SubqueryExpression"
  | .branch .. => "WhenClause"
  | .caseOf .. => "CaseExpression"
  | .selectItem .. => "SelectItem"
  | .constructor .. => "ConstructorItem"
  | .join .. => "JoinClause"
  | .fromItem .. => "FromItem"
  | .assignment .. => "Assignment"
  | .orderItem .. => "OrderByItem"
  | .select .. => "SelectStatement"
  | .update .. => "UpdateStatement"
  | .delete .. => "DeleteStatement"
  | .insert .. => "InsertStatement"

end Node

/-- The spelling of a join kind before the word `JOIN`, empty for a plain join. -/
def JoinKind.words : JoinKind → String
  | .plain => ""
  | .inner => "INNER"
  | .left => "LEFT"
  | .leftOuter => "LEFT OUTER"
  | .right => "RIGHT"
  | .rightOuter => "RIGHT OUTER"

/-- The spelling of a direction. -/
def Direction.word : Direction → String
  | .ascending => "ASC"
  | .descending => "DESC"

/-- The name of a literal kind in exported trees. -/
def LiteralKind.name : LiteralKind → String
  | .integer => "integer"
  | .decimal => "decimal"
  | .string => "string"
  | .boolean => "boolean"
  | .null => "null"

/-! ## Paths -/

/-- The names of a path joined by points. -/
def dotted (parts : List String) : String :=
  ".".intercalate parts

/-- A text that is given and not empty. -/
def given? (s : Option String) : Option String :=
  s.filter fun t => t != ""

/-- The text of a parameter in a query. -/
def parameterText (name : String) (positional : Bool) : String :=
  if positional then name else ":" ++ name

/-- What is wrong with a tree that was put together by hand. -/
inductive TreeFault where
  /-- A path is needed where another node stands. -/
  | notAPath
  /-- A path without parts, or one whose last part is empty, where a name is needed. -/
  | emptyPath
  /-- A call without the argument that it needs. -/
  | missingArgument
  deriving DecidableEq, Repr

namespace Node

/-- The text of a node that may stand for a path: a path or a parameter. -/
def pathText : Node → Except TreeFault String
  | .path parts => .ok (dotted parts)
  | .parameter name positional => .ok (parameterText name positional)
  | _ => .error .notAPath

/-- The parts of a path. -/
def pathParts : Node → Except TreeFault (List String)
  | .path parts => .ok parts
  | _ => .error .notAPath

end Node

end EntityQuery
