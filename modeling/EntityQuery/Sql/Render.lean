import EntityQuery.Metadata
import EntityQuery.Sql.Fragment
import EntityQuery.Sql.Schema

/-!
# Rendering

The SQL text of a tree, on one line. Names of tables and columns come from the schema; what an alias
stands for comes from the metadata.

Inside an update or a delete a single name is a column of its target. The left side of an assignment
loses the alias of the target, because SQL wants a bare column there.
-/

namespace EntityQuery.Sql

/-- What a rendering may look up. The columns of the schema are those at the start. -/
structure Scope where
  schema : Schema
  metadata : Metadata

/-- What changes during a rendering: the target of the update or delete around, the alias of the
update, the columns, and the log. -/
structure RenderState where
  target : Option String := none
  targetAlias : Option String := none
  columns : Columns := {}
  book : Log.Book := []

/-- Computations that render. What was logged, and which columns were extended, before a fault is
kept. -/
abbrev Rendering := ExceptT RenderFault (StateM RenderState)

namespace Rendering

/-- Runs a computation that only logs. -/
def logging {α : Type} (x : Log.Logging α) : Rendering α := do
  let s ← get
  let (a, book) := x.run s.book
  set { s with book }
  pure a

/-- Takes a result or its fault. -/
def ofExcept {α : Type} : Except RenderFault α → Rendering α
  | .ok a => pure a
  | .error f => throw f

/-- Takes a result or its fault in the tree. -/
def ofTree {α : Type} : Except TreeFault α → Rendering α
  | .ok a => pure a
  | .error f => throw (.tree f)

/-- Pieces strung together, as one piece. -/
def strung (separator : String) (pieces : List Fragment) : Rendering String :=
  ofExcept (Fragment.strung separator pieces)

/-- A keyword with a piece after it, as one piece. -/
def after (keyword : String) (piece : Fragment) : Rendering Fragment := do
  let text ← ofExcept (Fragment.after keyword piece)
  pure (.text text)

/-- A piece as it is formatted now. -/
def shown (piece : Fragment) : Rendering String := do
  match piece with
  | .text s => pure s
  | .value v => pure v.display
  | .column entity field => do
    let s ← get
    pure (Json.arr (s.columns.items entity field)).display

/-- Whether a piece has anything in it now. -/
def isPresent (piece : Fragment) : Rendering Bool := do
  match piece with
  | .text s => pure (s != "")
  | .value v => pure v.truthy
  | .column entity field => do
    let s ← get
    pure !(s.columns.items entity field).isEmpty

/-- Words after a piece, if there are any. -/
def extendedBy (piece : Fragment) (words? : Option String) : Rendering Fragment := do
  match words? with
  | none => pure piece
  | some words =>
    match piece with
    | .text s => pure (.text (s ++ words))
    | .column entity field => do
      modify fun s => { s with columns := s.columns.extend entity field words }
      pure piece
    | .value _ => throw (.notExtendable piece.typeName)

end Rendering

open Rendering

/-! ## Names -/

/-- The column of a field, as a piece. -/
def columnPiece (z : Scope) (entity? : Option String) (field : String) : Rendering Fragment := do
  let s ← get
  let column ← logging ({ z.schema with columns := s.columns }.columnFor entity? field)
  match entity?, column with
  | some entity, .arr _ => pure (.column entity field)
  | _, column => pure (.ofJson column)

/-- A path in an expression. -/
def renderPath (z : Scope) (parts : List String) : Rendering Fragment := do
  match parts with
  | [] => throw (.tree .emptyPath)
  | [name] =>
    match (← get).target, z.metadata.entityOf? name with
    | some target, none => columnPiece z (some target) name
    | _, _ => pure (.text name)
  | first :: second :: rest =>
    let entity? :=
      match z.metadata.entityOf? first with
      | some entity => some entity
      | none => if z.schema.tables.contains (.str first) then some first else none
    match entity? with
    | none => pure (.text (dotted parts))
    | some entity => do
      let column ← columnPiece z (some entity) second
      let text ← strung "." (.text first :: column :: rest.map Fragment.text)
      pure (.text text)

/-- The left side of an assignment. -/
def renderTarget (z : Scope) (parts : List String) : Rendering Fragment := do
  match parts with
  | [] => throw (.tree .emptyPath)
  | [name] => columnPiece z (← get).target name
  | first :: second :: rest => do
    let entity := (given? (z.metadata.entityOf? first)).getD first
    let column ← columnPiece z (some entity) second
    let s ← get
    let own := (s.targetAlias == some first || s.target == some first) && s.target == some entity
    let names := column :: rest.map Fragment.text
    let text ← strung "." (if own then names else .text first :: names)
    pure (.text text)

/-! ## Joins -/

/-- The alias and the relation that a join along a path goes through. -/
def joinRelation (z : Scope) (parts : List String) : Option (String × Relation) :=
  match parts with
  | [source, property] => do
    let entity ← z.metadata.entityOf? source
    let relation ← z.schema.relation? entity property
    pure (source, relation)
  | _ => none

/-- The table of the entity behind the alias of a join, or behind its path if the alias is
unknown. -/
def aliasTable (z : Scope) (parts : List String) (asName : String) : Rendering Json := do
  match z.metadata.entityOf? asName with
  | some entity => logging (z.schema.tableFor entity)
  | none => do
    let entity ← ofTree (inferEntity parts)
    logging (Log.write .conversion .warning
      ("Join alias " ++ asName ++ " is unknown to the metadata, assuming entity " ++ entity))
    logging (z.schema.tableFor entity)

/-- The table that a join goes to: that of the relation's target, the relation's own, or that of the
alias. -/
def joinTable (z : Scope) (parts : List String) (asName : String) (relation? : Option Relation) :
    Rendering Json := do
  match relation? with
  | none => aliasTable z parts asName
  | some r =>
    if !Names.isKey r.targetEntity then
      throw (.notAName r.targetEntity.typeName)
    else
      match z.schema.tables.get? r.targetEntity with
      | some table => pure table
      | none => if r.targetTable.truthy then pure r.targetTable else aliasTable z parts asName

/-- The words that a join starts with. -/
def joinWords (kind : JoinKind) : String :=
  if kind.words == "" then "JOIN" else kind.words ++ " JOIN"

/-- A join without an alias: nothing, or a fault. -/
def renderAliasless (z : Scope) (along : Node) : Rendering Fragment := do
  let text ← ofTree along.pathText
  if z.schema.options.dropAliaslessJoins then do
    logging (Log.write .conversion .warning ("Dropping join without alias: " ++ text))
    pure (.text "")
  else
    throw (.unsupported ("JOIN without alias (" ++ text ++ ")"))

/-- A join up to its condition, and the relation it goes through. -/
def renderJoinHead (z : Scope) (kind : JoinKind) (parts : List String) (asName : String) :
    Rendering String := do
  let table ← joinTable z parts asName ((joinRelation z parts).map Prod.snd)
  pure (joinWords kind ++ " " ++ table.display ++ " " ++ asName)

/-- A join without a condition of its own: its relation gives one, if there is one. -/
def renderJoinByRelation (z : Scope) (parts : List String) (asName head : String) :
    Rendering Fragment := do
  match joinRelation z parts with
  | none => do
    logging (Log.write .conversion .warning
      ("No relationship metadata for join " ++ dotted parts ++ ", emitting JOIN without ON"))
    pure (.text head)
  | some (source, relation) => do
    match ← logging (z.schema.resolver.resolve source (dotted parts) asName (some relation)) with
    | some condition => pure (.text (head ++ " ON " ++ condition))
    | none => pure (.text head)

/-! ## Small parts -/

/-- `NOT` between a subject and its test. -/
def notWord (negated : Bool) : String :=
  if negated then " NOT" else ""

/-- Words for an alias. -/
def aliasWords (asName : Option String) : Option String :=
  (given? asName).map fun a => " AS " ++ a

/-- The functions that are written without parentheses. -/
def niladic : List String :=
  ["CURRENT_DATE", "CURRENT_TIME", "CURRENT_TIMESTAMP"]

/-- An optional text as a list of pieces. -/
def optionalText (text : Option String) : List Fragment :=
  match given? text with
  | some s => [.text s]
  | none => []

/-- A clause of several expressions, if there are any. -/
def itemsClause (keyword : String) (items : List Fragment) : Rendering (List Fragment) :=
  if items.isEmpty then
    pure []
  else do
    let text ← strung ", " items
    pure [.text (keyword ++ text)]

/-! ## Trees -/

mutual

/-- Renders a node. -/
def render (z : Scope) : Node → Rendering Fragment
  | .literal value _ => pure (.text value)
  | .path parts => renderPath z parts
  | .parameter name positional => pure (.text (parameterText name positional))
  | .star => pure (.text "*")
  | .call name args distinct known trimSpec trimChar castType =>
    if !known then do
      let list ← strung ", " (← renderList z args)
      pure (.text (name ++ "(" ++ list ++ ")"))
    else if name == "SIZE" then
      throw (.unsupported "SIZE()")
    else if niladic.contains name then
      pure (.text name)
    else if name == "TRIM" then do
      let char ← renderOption z trimChar
      let before := optionalText trimSpec ++ char.toList
      let before := if before.isEmpty then before else before ++ [.text "FROM"]
      let first ← renderFirst z args
      let text ← strung " " (before ++ [first])
      pure (.text ("TRIM(" ++ text ++ ")"))
    else if name == "CAST" then do
      let first ← shown (← renderFirst z args)
      pure (.text ("CAST(" ++ first ++ " AS " ++ castType.getD "None" ++ ")"))
    else do
      let list ← strung ", " (← renderList z args)
      pure (.text (name ++ "(" ++ (if distinct then "DISTINCT " else "") ++ list ++ ")"))
  | .paren inner => do
    let inner ← shown (← render z inner)
    pure (.text ("(" ++ inner ++ ")"))
  | .unary operator operand => do
    let operand ← shown (← render z operand)
    pure (.text ((if operator == "NOT" then "NOT " else operator) ++ operand))
  | .binary left operator right => do
    let left ← shown (← render z left)
    let right ← shown (← render z right)
    pure (.text (left ++ " " ++ operator ++ " " ++ right))
  | .isNull e negated => do
    let e ← shown (← render z e)
    pure (.text (e ++ " IS" ++ notWord negated ++ " NULL"))
  | .between e lower upper negated => do
    let e ← shown (← render z e)
    let lower ← shown (← render z lower)
    let upper ← shown (← render z upper)
    pure (.text (e ++ notWord negated ++ " BETWEEN " ++ lower ++ " AND " ++ upper))
  | .inSet e _ (some query) _ negated => do
    let inner ← render z query
    let e ← shown (← render z e)
    let inner ← shown inner
    pure (.text (e ++ notWord negated ++ " IN (" ++ inner ++ ")"))
  | .inSet e _ none (some param) negated => do
    let inner ← render z param
    let e ← shown (← render z e)
    let inner ← shown inner
    pure (.text (e ++ notWord negated ++ " IN (" ++ inner ++ ")"))
  | .inSet e values none none negated => do
    let inner ← strung ", " (← renderList z values)
    let e ← shown (← render z e)
    pure (.text (e ++ notWord negated ++ " IN (" ++ inner ++ ")"))
  | .like e pattern escape negated => do
    let e ← shown (← render z e)
    let pattern ← shown (← render z pattern)
    match ← renderOption z escape with
    | none => pure (.text (e ++ notWord negated ++ " LIKE " ++ pattern))
    | some c => do
      let c ← shown c
      pure (.text (e ++ notWord negated ++ " LIKE " ++ pattern ++ " ESCAPE " ++ c))
  | .memberOf .. => throw (.unsupported "MEMBER OF")
  | .existsQuery query => do
    let query ← shown (← render z query)
    pure (.text ("EXISTS (" ++ query ++ ")"))
  | .subquery query => do
    let query ← shown (← render z query)
    pure (.text ("(" ++ query ++ ")"))
  | .branch condition result => do
    let condition ← shown (← render z condition)
    let result ← shown (← render z result)
    pure (.text ("WHEN " ++ condition ++ " THEN " ++ result))
  | .caseOf operand branches otherwise => do
    let operand ← renderOption z operand
    let branches ← renderList z branches
    let ending ← match ← renderOption z otherwise with
      | none => pure []
      | some e => do
        let e ← shown e
        pure [Fragment.text ("ELSE " ++ e)]
    let text ← strung " " (.text "CASE" :: operand.toList ++ branches ++ ending ++ [.text "END"])
    pure (.text text)
  | .selectItem e asName => do
    let e ← render z e
    extendedBy e (aliasWords asName)
  | .constructor _ args asName =>
    if args.isEmpty then
      throw (.unsupported "NEW without arguments")
    else do
      let list ← strung ", " (← renderList z args)
      extendedBy (.text list) (aliasWords asName)
  | .join kind along asName _ condition =>
    match given? asName with
    | none => renderAliasless z along
    | some name => do
      let parts ← ofTree along.pathParts
      let head ← renderJoinHead z kind parts name
      match ← renderOption z condition with
      | some test => do
        let test ← shown test
        pure (.text (head ++ " ON " ++ test))
      | none => renderJoinByRelation z parts name head
  | .fromItem entity asName joins => do
    let table ← logging (z.schema.tableFor entity)
    let joins ← renderPresent z joins
    let text ← strung " " (.ofJson table :: optionalText asName ++ joins)
    pure (.text text)
  | .assignment target value => do
    let parts ← ofTree target.pathParts
    let left ← shown (← renderTarget z parts)
    let value ← shown (← render z value)
    pure (.text (left ++ " = " ++ value))
  | .orderItem e direction nulls => do
    let e ← render z e
    let e ← extendedBy e (direction.map fun d => " " ++ d.word)
    extendedBy e ((given? nulls).map fun n => " NULLS " ++ n)
  | .select items sources distinct condition grouping having ordering => do
    let sources ← strung ", " (← renderList z sources)
    let items ← strung ", " (← renderList z items)
    let condition ← renderClause z "WHERE " condition
    let grouping ← itemsClause "GROUP BY " (← renderList z grouping)
    let having ← renderClause z "HAVING " having
    let ordering ← itemsClause "ORDER BY " (← renderList z ordering)
    let text ← strung " "
      ([.text ((if distinct then "SELECT DISTINCT " else "SELECT ") ++ items),
        .text ("FROM " ++ sources)] ++ condition ++ grouping ++ having ++ ordering)
    pure (.text text)
  | .update entity asName assignments condition => do
    modify fun s => { s with target := some entity, targetAlias := asName }
    let table ← logging (z.schema.tableFor entity)
    let assignments ← strung ", " (← renderList z assignments)
    let condition ← renderClause z "WHERE " condition
    modify fun s => { s with target := none, targetAlias := none }
    let text ← strung " "
      (.text "UPDATE" :: .ofJson table :: optionalText asName ++ [.text ("SET " ++ assignments)] ++
        condition)
    pure (.text text)
  | .delete entity asName condition => do
    modify fun s => { s with target := some entity }
    let table ← logging (z.schema.tableFor entity)
    let condition ← renderClause z "WHERE " condition
    modify fun s => { s with target := none }
    let text ← strung " " (.text "DELETE FROM" :: .ofJson table :: optionalText asName ++ condition)
    pure (.text text)
  | .insert .. => throw (.unsupported "INSERT")

/-- Renders the nodes of a list in turn. -/
def renderList (z : Scope) : List Node → Rendering (List Fragment)
  | [] => pure []
  | node :: rest => do
    let piece ← render z node
    let more ← renderList z rest
    pure (piece :: more)

/-- Renders the nodes of a list in turn and keeps the pieces that have anything in them then. -/
def renderPresent (z : Scope) : List Node → Rendering (List Fragment)
  | [] => pure []
  | node :: rest => do
    let piece ← render z node
    let present ← isPresent piece
    let more ← renderPresent z rest
    pure (if present then piece :: more else more)

/-- Renders the first node of a list. -/
def renderFirst (z : Scope) : List Node → Rendering Fragment
  | [] => throw (.tree .missingArgument)
  | node :: _ => render z node

/-- Renders an optional node. -/
def renderOption (z : Scope) : Option Node → Rendering (Option Fragment)
  | none => pure none
  | some node => do
    let piece ← render z node
    pure (some piece)

/-- Renders a clause of one expression, if it is there. -/
def renderClause (z : Scope) (keyword : String) : Option Node → Rendering (List Fragment)
  | none => pure []
  | some node => do
    let piece ← render z node
    let clause ← after keyword piece
    pure [clause]

end

end EntityQuery.Sql
