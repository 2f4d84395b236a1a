import EntityQuery.Json
import EntityQuery.Text.LetterCase

/-!
# Relations between entities

A relation says how a property of one entity leads to another entity: over which columns, and to
which table. Its values come from a mapping file and are kept as they stand there; they are looked
at only where they are used.
-/

namespace EntityQuery

/-- Why a mapping is refused. -/
inductive MappingFault where
  /-- The whole configuration is no object. -/
  | notAnObject
  /-- Sections that a configuration does not have. -/
  | unknownSections (names : List String)
  /-- A relation without one of its two required keys. -/
  | missingKey (property key : String)
  /-- A relation with a join type that does not exist. -/
  | unknownJoinType (value : Json) (property : String)
  /-- An entry of a list of pairs that has another length than two. -/
  | notAPair (index length : Nat)
  /-- A value of a type that cannot be used in its place. -/
  | wrongType
  /-- A section, or a part of one, that has no fields. -/
  | noFields

/-- The wording of a fault of structure. A value of a wrong type has none. -/
def MappingFault.message? : MappingFault → Option String
  | .notAnObject => some "Mapping configuration must be a JSON object"
  | .unknownSections names => some ("Unknown mapping sections: " ++ ", ".intercalate names)
  | .missingKey property key =>
    some ("Relationship '" ++ property ++ "' is missing '" ++ key ++ "'")
  | .unknownJoinType value property =>
    some ("Unknown join_type " ++ value.quoted ++ " for relationship '" ++ property ++ "'")
  | .notAPair index length =>
    some ("dictionary update sequence element #" ++ toString index ++ " has length " ++
      toString length ++ "; 2 is required")
  | .wrongType => none
  | .noFields => none

/-- The join that a relation suggests. Nothing depends on it. -/
inductive JoinType where
  | inner | left | right
  deriving DecidableEq, Repr

/-- The name of a join type. -/
def JoinType.name : JoinType → String
  | .inner => "INNER"
  | .left => "LEFT"
  | .right => "RIGHT"

/-- The join type of a name in capitals. -/
def JoinType.ofName? (name : String) : Option JoinType :=
  [JoinType.inner, .left, .right].find? fun t => t.name == name

/-- A relation from an entity to another, along a property. -/
structure Relation where
  property : String
  targetEntity : Json
  joinColumn : Json
  referencedColumn : Json := .str "id"
  joinType : JoinType := .inner
  sourceTable : Json := .null
  targetTable : Json := .null
  /-- Null leaves it to the property's name whether it is a collection. -/
  isCollection : Json := .null

namespace Relation

/-- Equality, value by value. -/
def equal (r s : Relation) : Bool :=
  r.property == s.property && r.targetEntity.equal s.targetEntity &&
    r.joinColumn.equal s.joinColumn &&
    r.referencedColumn.equal s.referencedColumn && r.joinType == s.joinType &&
    r.sourceTable.equal s.sourceTable &&
    r.targetTable.equal s.targetTable && r.isCollection.equal s.isCollection

/-! ## Reading -/

/-- Whether a text occurs in another. -/
def occursIn (part : List Char) : List Char → Bool
  | [] => part.isEmpty
  | c :: rest => part.isPrefixOf (c :: rest) || occursIn part rest

/-- Whether a value mentions a key: an object as a field, a list as an item, a text as a
part of it. -/
def mentions (data : Json) (key : String) : Except MappingFault Bool :=
  match data with
  | .obj fields => .ok (Json.field? fields key).isSome
  | .arr items => .ok (items.any fun item => item.equal (.str key))
  | .str s => .ok (occursIn key.toList s.toList)
  | _ => .error .wrongType

/-- Refuses a relation that does not mention a key. -/
def require (property : String) (data : Json) (key : String) : Except MappingFault Unit := do
  unless ← mentions data key do
    throw (.missingKey property key)

/-- The relation that the fields of an object describe. -/
def ofFields (property : String) (fields : List (String × Json)) :
    Except MappingFault Relation := do
  let value (key : String) (fallback : Json) : Json := (Json.field? fields key).getD fallback
  let suggested := value "join_type" (.str "INNER")
  match JoinType.ofName? (Text.upper suggested.display) with
  | none => throw (.unknownJoinType suggested property)
  | some joinType =>
    pure {
      property
      targetEntity := value "target_entity" .null
      joinColumn := value "join_column" .null
      referencedColumn := value "referenced_column" (.str "id")
      joinType
      sourceTable := value "source_table" .null
      targetTable := value "target_table" .null
      isCollection := value "is_collection" .null }

/-- Reads a relation. -/
def ofJson (property : String) (data : Json) : Except MappingFault Relation := do
  require property data "target_entity"
  require property data "join_column"
  match data with
  | .obj fields => ofFields property fields
  | _ => throw .noFields

/-! ## Writing -/

/-- A field that is written only under a condition. -/
def fieldIf (condition : Bool) (key : String) (value : Json) : List (String × Json) :=
  if condition then [(key, value)] else []

/-- The dictionary form. Tables that are not given are left out. -/
def dictionary (r : Relation) : Json :=
  .obj
    ([("target_entity", r.targetEntity), ("join_column", r.joinColumn),
      ("referenced_column", r.referencedColumn), ("join_type", .str r.joinType.name)] ++
      fieldIf r.sourceTable.truthy "source_table" r.sourceTable ++
      fieldIf r.targetTable.truthy "target_table" r.targetTable ++
      fieldIf (!r.isCollection.equal .null) "is_collection" r.isCollection)

end Relation

end EntityQuery
