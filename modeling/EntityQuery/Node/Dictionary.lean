import EntityQuery.Json
import EntityQuery.Node

/-!
# The dictionary form of a tree

A tree as a JSON value: one object for each node, with its label first. Optional parts that are
absent or empty leave no field, except the alias and the condition of an update or a delete and the
source of an insert, which are then null. Paths are written as dotted text.
-/

namespace EntityQuery.Node

/-- The dictionary of a node: its label, then its fields. -/
def labelled (label : String) (fields : List (String × Json)) : Json :=
  .obj (("node_type", .str label) :: fields)

/-- A field for a text, or none if the text is absent or empty. -/
def textField (key : String) (value : Option String) : List (String × Json) :=
  match given? value with
  | some s => [(key, .str s)]
  | none => []

/-- A field for a value, or none if it is absent. -/
def optionalField (key : String) (value : Option Json) : List (String × Json) :=
  match value with
  | some v => [(key, v)]
  | none => []

/-- A field for a list, or none if it is empty. -/
def listField (key : String) (items : List Json) : List (String × Json) :=
  if items.isEmpty then [] else [(key, .arr items)]

/-- The texts of nodes that stand for paths. -/
def pathTexts : List Node → Except TreeFault (List String)
  | [] => .ok []
  | node :: rest => do
    let first ← node.pathText
    let rest ← pathTexts rest
    .ok (first :: rest)

mutual

/-- The dictionary form of a node. -/
def dictionary : Node → Except TreeFault Json
  | .literal value kind =>
    .ok (labelled "Literal" [("value", .str value), ("literal_type", .str kind.name)])
  | .path parts => .ok (labelled "Path" [("path", .str (dotted parts))])
  | .parameter name positional =>
    .ok (labelled "Parameter" [("name", .str name), ("positional", .bool positional)])
  | .star => .ok (labelled "Star" [])
  | .call name args distinct known trimSpec trimChar castType => do
    let args ← dictionaries args
    let char ← dictionary? trimChar
    .ok (labelled "FunctionCall"
      ([("name", .str name), ("arguments", .arr args)] ++
        (if distinct then [("distinct", .bool true)] else []) ++
        (if known then [] else [("known", .bool false)]) ++
        textField "trim_specification" trimSpec ++
        optionalField "trim_character" char ++
        textField "cast_type" castType))
  | .paren inner => do
    let inner ← dictionary inner
    .ok (labelled "Parenthesized" [("expression", inner)])
  | .unary operator operand => do
    let operand ← dictionary operand
    .ok (labelled "UnaryExpression" [("operator", .str operator), ("operand", operand)])
  | .binary left operator right => do
    let left ← dictionary left
    let right ← dictionary right
    .ok (labelled "BinaryExpression" [("operator", .str operator), ("left", left),
      ("right", right)])
  | .isNull e negated => do
    let e ← dictionary e
    .ok (labelled "IsNullExpression" [("expression", e), ("negated", .bool negated)])
  | .between e lower upper negated => do
    let e ← dictionary e
    let lower ← dictionary lower
    let upper ← dictionary upper
    .ok (labelled "BetweenExpression"
      [("expression", e), ("lower", lower), ("upper", upper), ("negated", .bool negated)])
  | .inSet e _ (some query) _ negated => do
    let e ← dictionary e
    let query ← dictionary query
    .ok (labelled "InExpression" [("expression", e), ("negated", .bool negated),
      ("subquery", query)])
  | .inSet e _ none (some param) negated => do
    let e ← dictionary e
    let param ← dictionary param
    .ok (labelled "InExpression" [("expression", e), ("negated", .bool negated),
      ("parameter", param)])
  | .inSet e values none none negated => do
    let e ← dictionary e
    let values ← dictionaries values
    .ok (labelled "InExpression" [("expression", e), ("negated", .bool negated),
      ("values", .arr values)])
  | .like e pattern escape negated => do
    let e ← dictionary e
    let pattern ← dictionary pattern
    let escape ← dictionary? escape
    .ok (labelled "LikeExpression"
      ([("expression", e), ("pattern", pattern), ("negated", .bool negated)] ++
        optionalField "escape" escape))
  | .memberOf element collection negated => do
    let element ← dictionary element
    let collection ← dictionary collection
    .ok (labelled "MemberOfExpression" [("element", element), ("collection", collection),
      ("negated", .bool negated)])
  | .existsQuery query => do
    let query ← dictionary query
    .ok (labelled "ExistsExpression" [("subquery", query)])
  | .subquery query => do
    let query ← dictionary query
    .ok (labelled "SubqueryExpression" [("query", query)])
  | .branch condition result => do
    let condition ← dictionary condition
    let result ← dictionary result
    .ok (labelled "WhenClause" [("when", condition), ("then", result)])
  | .caseOf operand branches otherwise => do
    let branches ← dictionaries branches
    let operand ← dictionary? operand
    let otherwise ← dictionary? otherwise
    .ok (labelled "CaseExpression"
      ([("when_clauses", .arr branches)] ++ optionalField "operand" operand ++
        optionalField "else" otherwise))
  | .selectItem e asName => do
    let e ← dictionary e
    .ok (labelled "SelectItem" ([("expression", e)] ++ textField "alias" asName))
  | .constructor className args asName => do
    let args ← dictionaries args
    .ok (labelled "ConstructorItem"
      ([("class_name", .str className), ("arguments", .arr args)] ++ textField "alias" asName))
  | .join kind along asName fetch condition => do
    let along ← along.pathText
    let condition ← dictionary? condition
    .ok (labelled "JoinClause"
      ([("kind", .str (if kind = .plain then "JOIN" else kind.words)), ("path", .str along),
        ("fetch", .bool fetch)] ++ textField "alias" asName ++ optionalField "on" condition))
  | .fromItem entity asName joins => do
    let joins ← dictionaries joins
    .ok (labelled "FromItem" ([("entity", .str entity)] ++ textField "alias" asName ++
      listField "joins" joins))
  | .assignment target value => do
    let target ← target.pathText
    let value ← dictionary value
    .ok (labelled "Assignment" [("target", .str target), ("value", value)])
  | .orderItem e direction nulls => do
    let e ← dictionary e
    .ok (labelled "OrderByItem"
      ([("expression", e)] ++ textField "direction" (direction.map Direction.word) ++
        textField "nulls" nulls))
  | .select items sources distinct condition grouping having ordering => do
    let items ← dictionaries items
    let sources ← dictionaries sources
    let condition ← dictionary? condition
    let grouping ← dictionaries grouping
    let having ← dictionary? having
    let ordering ← dictionaries ordering
    .ok (labelled "SelectStatement"
      ([("distinct", .bool distinct), ("select", .arr items), ("from", .arr sources)] ++
        optionalField "where" condition ++ listField "group_by" grouping ++
        optionalField "having" having ++ listField "order_by" ordering))
  | .update entity asName assignments condition => do
    let assignments ← dictionaries assignments
    let condition ← dictionary? condition
    .ok (labelled "UpdateStatement"
      [("entity", .str entity), ("alias", .textOrNull asName), ("set", .arr assignments),
        ("where", condition.getD .null)])
  | .delete entity asName condition => do
    let condition ← dictionary? condition
    .ok (labelled "DeleteStatement"
      [("entity", .str entity), ("alias", .textOrNull asName), ("where", condition.getD .null)])
  | .insert entity targets source => do
    let targets ← pathTexts targets
    let source ← dictionary? source
    .ok (labelled "InsertStatement"
      [("entity", .str entity), ("columns", .arr (targets.map Json.str)),
        ("select", source.getD .null)])

/-- The dictionary forms of a list of nodes. -/
def dictionaries : List Node → Except TreeFault (List Json)
  | [] => .ok []
  | node :: rest => do
    let first ← dictionary node
    let rest ← dictionaries rest
    .ok (first :: rest)

/-- The dictionary form of an optional node. -/
def dictionary? : Option Node → Except TreeFault (Option Json)
  | none => .ok none
  | some node => do
    let value ← dictionary node
    .ok (some value)

end

end EntityQuery.Node
