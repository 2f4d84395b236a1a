import EntityQuery.Proofs.Grammar.Derivation
import EntityQuery.Sql.Render
import EntityQuery.Token.Lexeme

/-!
# The statement that a conversion writes

A conversion writes another statement of the query language: `translate` is that statement, tree to
tree and without any text. Entities become tables and fields become columns; a join goes to its
table and gets a condition from its relation if it has none of its own; joins without an alias and
the word `FETCH` are left out; a constructor becomes its arguments; a parameter behind `IN` becomes
a list of one. Everything else stays as it is.

`isWritable` says under which conditions the text of a conversion can be read as that statement.
-/

namespace EntityQuery.Sql

/-! ## Names -/

/-- The parts of a name with points in it. -/
def nameParts (text : String) : List String :=
  (text.toList.splitOn '.').map String.ofList

/-- A text that is one token, an identifier. -/
def isIdentifier (text : String) : Bool :=
  match text.toList with
  | [] => false
  | c :: cs =>
    match Lexeme.front c cs with
    | .token .identifier _ [] => true
    | _ => false

/-- A word that is spelled like the side of a `TRIM`; case does not count. -/
def isSideWord (text : String) : Bool :=
  ["LEADING", "TRAILING", "BOTH"].contains (Text.upper text)

/-- An identifier that is spelled like the side of a `TRIM`. -/
def isSideName (text : String) : Bool :=
  isIdentifier text && isSideWord text

/-- A name made of identifiers, none of them spelled like the side of a `TRIM`. -/
def isPlainName (text : String) : Bool :=
  (nameParts text).all fun part => isIdentifier part && !isSideWord part

namespace Schema

/-- The table of an entity. -/
def tableName (s : Schema) (entity : String) : Json :=
  (s.table? entity).getD (.str (Text.lower entity))

/-- The column of a field. -/
def columnName (s : Schema) (entity? : Option String) (field : String) : Json :=
  (entity?.bind fun entity => s.column? entity field).getD (.str (Text.snakeCase field))

end Schema

/-- Where a tree stands: what may be looked up, the target of the update or delete around, and the
alias of the update. -/
structure Place where
  scope : Scope
  target : Option String := none
  targetAlias : Option String := none

namespace Place

variable (q : Place)

/-- The text of the column of a field. -/
def column (entity? : Option String) (field : String) : String :=
  (q.scope.schema.columnName entity? field).display

/-- The text of the table of an entity. -/
def table (entity : String) : String :=
  (q.scope.schema.tableName entity).display

/-- The entity that the first name of a path stands for: that of an alias, or one that has a
table. -/
def owner? (first : String) : Option String :=
  match q.scope.metadata.entityOf? first with
  | some entity => some entity
  | none => if q.scope.schema.tables.contains (.str first) then some first else none

/-- The column that a path names, if it names one. -/
def pathColumn? : List String → Option String
  | [] => none
  | [name] =>
    match q.target, q.scope.metadata.entityOf? name with
    | some target, none => some (q.column (some target) name)
    | _, _ => none
  | first :: second :: _ => (q.owner? first).map fun entity => q.column (some entity) second

/-- A path with the column that it names. -/
def path (parts : List String) : List String :=
  match q.pathColumn? parts, parts with
  | none, _ => parts
  | some column, first :: _ :: rest => first :: nameParts column ++ rest
  | some column, _ => nameParts column

/-- The entity that the left side of an assignment belongs to. -/
def targetEntity (first : String) : String :=
  (given? (q.scope.metadata.entityOf? first)).getD first

/-- The column that the left side of an assignment names. -/
def targetColumn : List String → String
  | [] => ""
  | [name] => q.column q.target name
  | first :: second :: _ => q.column (some (q.targetEntity first)) second

/-- Whether the left side of an assignment is a column of the target itself. -/
def isOwn (first : String) : Bool :=
  (q.targetAlias == some first || q.target == some first) && q.target == some (q.targetEntity first)

/-- The left side of an assignment. The target itself is not named. -/
def targetPath (parts : List String) : List String :=
  let names := nameParts (q.targetColumn parts)
  match parts with
  | first :: _ :: rest => if q.isOwn first then names ++ rest else first :: names ++ rest
  | _ => names

/-! ## Joins -/

/-- The table of the entity behind the alias of a join, or behind its path if the alias is
unknown. -/
def aliasTable (parts : List String) (asName : String) : Json :=
  let inferred := (inferEntity parts).toOption.getD ""
  q.scope.schema.tableName ((q.scope.metadata.entityOf? asName).getD inferred)

/-- The table that a join goes to. -/
def joinTable (parts : List String) (asName : String) : Json :=
  match joinRelation q.scope parts with
  | none => q.aliasTable parts asName
  | some (_, r) =>
    match q.scope.schema.tables.get? r.targetEntity with
    | some table => table
    | none => if r.targetTable.truthy then r.targetTable else q.aliasTable parts asName

/-- Whether a join goes to a collection. -/
def isCollection (parts : List String) (r : Relation) : Bool :=
  (q.scope.schema.resolver.isCollection (lastName (dotted parts)) (some r)).truthy

/-- Two columns with the names that they belong to. -/
structure Equation where
  leftAlias : String
  leftColumn : String
  rightAlias : String
  rightColumn : String
  deriving DecidableEq

/-- The condition that two columns are equal. -/
def Equation.node (e : Equation) : Node :=
  .binary (.path (e.leftAlias :: nameParts e.leftColumn)) "="
    (.path (e.rightAlias :: nameParts e.rightColumn))

/-- The columns that a relation joins over; a collection has the foreign key at its end. -/
def joinEquation? (parts : List String) (asName : String) : Option Equation :=
  (joinRelation q.scope parts).map fun (source, r) =>
    if q.isCollection parts r then ⟨asName, r.joinColumn.display, source,
      r.referencedColumn.display⟩
    else ⟨source, r.joinColumn.display, asName, r.referencedColumn.display⟩

end Place

/-- The parts of a node that is a path. -/
def partsOf : Node → List String
  | .path parts => parts
  | _ => []

/-- The items that the arguments of a constructor become. The alias goes to the last one. -/
def constructorItems (asName : Option String) : List Node → List Node
  | [] => []
  | [e] => [.selectItem e asName]
  | e :: rest => .selectItem e none :: constructorItems asName rest

/-! ## Trees -/

mutual

/-- The tree that a conversion writes. -/
def translate (q : Place) : Node → Node
  | .literal value kind => .literal value kind
  | .path parts => .path (q.path parts)
  | .parameter name positional => .parameter name positional
  | .star => .star
  | .call name args distinct known trimSpec trimChar castType =>
    .call name (translateList q args) distinct known trimSpec (translateOption q trimChar) castType
  | .paren e => .paren (translate q e)
  | .unary operator e => .unary operator (translate q e)
  | .binary left operator right => .binary (translate q left) operator (translate q right)
  | .isNull e negated => .isNull (translate q e) negated
  | .between e lower upper negated =>
    .between (translate q e) (translate q lower) (translate q upper) negated
  | .inSet e values query parameter negated =>
    .inSet (translate q e) (translateList q values ++ (translateOption q parameter).toList)
      (translateOption q query) none negated
  | .like e pattern escape negated =>
    .like (translate q e) (translate q pattern) (translateOption q escape) negated
  | .memberOf e collection negated => .memberOf (translate q e) (translate q collection) negated
  | .existsQuery query => .existsQuery (translate q query)
  | .subquery query => .subquery (translate q query)
  | .branch condition result => .branch (translate q condition) (translate q result)
  | .caseOf operand branches otherwise =>
    .caseOf (translateOption q operand) (translateList q branches) (translateOption q otherwise)
  | .selectItem e asName => .selectItem (translate q e) asName
  | .constructor className args asName => .constructor className (translateList q args) asName
  | .join kind along asName _ condition =>
    let name := asName.getD ""
    let condition := match condition with
      | some e => some (translate q e)
      | none => (q.joinEquation? (partsOf along) name).map Place.Equation.node
    .join kind (.path (nameParts (q.joinTable (partsOf along) name).display)) asName false condition
  | .fromItem entity asName joins => .fromItem (q.table entity) asName (translateJoins q joins)
  | .assignment target value =>
    .assignment (.path (q.targetPath (partsOf target))) (translate q value)
  | .orderItem e direction nulls => .orderItem (translate q e) direction nulls
  | .select items sources distinct condition grouping having ordering =>
    .select (translateItems q items) (translateList q sources) distinct
      (translateOption q condition)
      (translateList q grouping) (translateOption q having) (translateList q ordering)
  | .update entity asName assignments condition =>
    let inside := { q with target := some entity, targetAlias := asName }
    .update (q.table entity) asName (translateList inside assignments)
      (translateOption inside condition)
  | .delete entity asName condition =>
    .delete (q.table entity) asName (translateOption { q with target := some entity } condition)
  | .insert entity targets source => .insert entity targets source

/-- The trees that a list of trees becomes, one for one. -/
def translateList (q : Place) : List Node → List Node
  | [] => []
  | node :: rest => translate q node :: translateList q rest

/-- The items that a select list becomes: a constructor becomes one item for each argument. -/
def translateItems (q : Place) : List Node → List Node
  | [] => []
  | .constructor _ args asName :: rest =>
    constructorItems asName (translateList q args) ++ translateItems q rest
  | node :: rest => translate q node :: translateItems q rest

/-- The joins that are written: those with an alias. -/
def translateJoins (q : Place) : List Node → List Node
  | [] => []
  | .join _ _ none _ _ :: rest => translateJoins q rest
  | node :: rest => translate q node :: translateJoins q rest

/-- What an optional tree becomes. -/
def translateOption (q : Place) : Option Node → Option Node
  | none => none
  | some node => some (translate q node)

end

/-! ## What can be written -/

/-- The names that a node itself writes for tables and columns are plain. -/
def writesPlainNames (q : Place) : Node → Bool
  | .path parts => (q.pathColumn? parts).all isPlainName
  | .join _ along asName _ condition =>
    let name := asName.getD ""
    isPlainName (q.joinTable (partsOf along) name).display &&
      (condition.isSome || (q.joinEquation? (partsOf along) name).all fun e =>
        isPlainName e.leftColumn && isPlainName e.rightColumn)
  | .fromItem entity _ _ => isPlainName (q.table entity)
  | .update entity _ _ _ => isPlainName (q.table entity)
  | .delete entity _ _ => isPlainName (q.table entity)
  | .assignment target _ => isPlainName (q.targetColumn (partsOf target))
  | _ => true

/-- The alias that a source, a join or a target declares is an identifier. -/
def hasPlainAlias : Node → Bool
  | .join _ _ asName _ _ => asName.all isIdentifier
  | .fromItem _ asName _ => asName.all isIdentifier
  | .update _ asName _ _ => asName.all isIdentifier
  | .delete _ asName _ => asName.all isIdentifier
  | _ => true

/-- Not a minus sign directly on another one, which would start a comment. -/
def hasSingleMinus : Node → Bool
  | .unary operator (.unary operator' _) => !(operator == "-" && operator' == "-")
  | _ => true

/-- The name that an expression opens with, unless a point stands behind it. -/
def openingName? : Node → Option String
  | .path [name] => some name
  | .call name _ _ false _ _ _ => some name
  | .binary left _ _ => openingName? left
  | .isNull e _ => openingName? e
  | .between e _ _ _ => openingName? e
  | .inSet e _ _ _ _ => openingName? e
  | .like e _ _ _ => openingName? e
  | .memberOf e _ _ => openingName? e
  | _ => none

/-- A name without points. -/
def isBareName : Node → Bool
  | .path [_] => true
  | _ => false

/-- An operand that opens with the name of a side and goes on behind it. A `TRIM` takes such a name
for its side. -/
def opensWithSideName (e : Node) : Bool :=
  !isBareName e && (openingName? e).any isSideName

/-- The operand of a `TRIM` with nothing before it, as it is written, does not open with the name of
a side. -/
def hasPlainTrim (q : Place) : Node → Bool
  | .call name args _ known none none _ =>
    !(known && name == "TRIM") || args.all fun e => !opensWithSideName (translate q e)
  | _ => true

/-- A node itself can be written in the place where it stands. -/
def isWritableHere (q : Place) (node : Node) : Bool :=
  writesPlainNames q node && hasPlainAlias node && hasSingleMinus node && hasPlainTrim q node

mutual

/-- All nodes of a tree that are written pass a test, each in the place where it stands. -/
def everywhere (test : Place → Node → Bool) (q : Place) : Node → Bool
  | .literal value kind => test q (.literal value kind)
  | .path parts => test q (.path parts)
  | .parameter name positional => test q (.parameter name positional)
  | .star => test q .star
  | .call name args distinct known trimSpec trimChar castType =>
    test q (.call name args distinct known trimSpec trimChar castType) &&
      everywhereList test q args && everywhereOption test q trimChar
  | .paren e => test q (.paren e) && everywhere test q e
  | .unary operator e => test q (.unary operator e) && everywhere test q e
  | .binary left operator right =>
    test q (.binary left operator right) && everywhere test q left && everywhere test q right
  | .isNull e negated => test q (.isNull e negated) && everywhere test q e
  | .between e lower upper negated =>
    test q (.between e lower upper negated) && everywhere test q e && everywhere test q lower &&
      everywhere test q upper
  | .inSet e values query parameter negated =>
    test q (.inSet e values query parameter negated) && everywhere test q e &&
      everywhereList test q values &&
      everywhereOption test q query && everywhereOption test q parameter
  | .like e pattern escape negated =>
    test q (.like e pattern escape negated) && everywhere test q e && everywhere test q pattern &&
      everywhereOption test q escape
  | .memberOf e collection negated =>
    test q (.memberOf e collection negated) && everywhere test q e && everywhere test q collection
  | .existsQuery query => test q (.existsQuery query) && everywhere test q query
  | .subquery query => test q (.subquery query) && everywhere test q query
  | .branch condition result =>
    test q (.branch condition result) && everywhere test q condition && everywhere test q result
  | .caseOf operand branches otherwise =>
    test q (.caseOf operand branches otherwise) && everywhereOption test q operand &&
      everywhereList test q branches && everywhereOption test q otherwise
  | .selectItem e asName => test q (.selectItem e asName) && everywhere test q e
  | .constructor className args asName =>
    test q (.constructor className args asName) && everywhereList test q args
  | .join _ _ none _ _ => true
  | .join kind along (some name) fetch condition =>
    test q (.join kind along (some name) fetch condition) && everywhereOption test q condition
  | .fromItem entity asName joins =>
    test q (.fromItem entity asName joins) && everywhereList test q joins
  | .assignment target value => test q (.assignment target value) && everywhere test q value
  | .orderItem e direction nulls => test q (.orderItem e direction nulls) && everywhere test q e
  | .select items sources distinct condition grouping having ordering =>
    test q (.select items sources distinct condition grouping having ordering) &&
      everywhereList test q items &&
      everywhereList test q sources && everywhereOption test q condition &&
      everywhereList test q grouping &&
      everywhereOption test q having && everywhereList test q ordering
  | .update entity asName assignments condition =>
    let inside := { q with target := some entity, targetAlias := asName }
    test q (.update entity asName assignments condition) &&
      everywhereList test inside assignments && everywhereOption test inside condition
  | .delete entity asName condition =>
    test q (.delete entity asName condition) &&
      everywhereOption test { q with target := some entity } condition
  | .insert entity targets source => test q (.insert entity targets source)

/-- All nodes of a list of trees pass a test. -/
def everywhereList (test : Place → Node → Bool) (q : Place) : List Node → Bool
  | [] => true
  | node :: rest => everywhere test q node && everywhereList test q rest

/-- All nodes of an optional tree pass a test. -/
def everywhereOption (test : Place → Node → Bool) (q : Place) : Option Node → Bool
  | none => true
  | some node => everywhere test q node

end

/--
A statement can be written: names of tables and columns, and the aliases of sources, joins and
targets, are made of identifiers, no minus sign stands directly on another one, and no operand of a
`TRIM` can be taken for its side.
-/
def isWritable (z : Scope) (node : Node) : Bool :=
  everywhere isWritableHere ⟨z, none, none⟩ node

-- The equations of the large recursions are generated here, once for all modules that rewrite with
-- them.
attribute [local simp] render translate everywhere

end EntityQuery.Sql
