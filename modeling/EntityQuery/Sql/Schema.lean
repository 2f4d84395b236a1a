import EntityQuery.Mapping.Config
import EntityQuery.Mapping.Resolver
import EntityQuery.Text.SnakeCase

/-!
# Schemas

What a conversion knows about the database: the tables of entities, the columns of their fields, the
relations between them, and the options for what these leave open. An entity without a table has its
name in small letters, a field without a column has its name in snake case.
-/

namespace EntityQuery.Sql

/-- The columns of the fields of each entity. -/
abbrev Columns := Registry Json Names

namespace Columns

/-- The columns of an entity, none if it is unknown. -/
def ofEntity (c : Columns) (entity : Json) : Names :=
  (c.get? entity).getD {}

/-- Gives a field its column. -/
def putColumn (c : Columns) (entity field column : Json) : Columns :=
  c.put entity ((c.ofEntity entity).put field column)

/-- What a field is mapped to. -/
def column? (c : Columns) (entity field : String) : Option Json :=
  (c.ofEntity (.str entity)).get? (.str field)

/-- The items of the list that a field is mapped to. -/
def items (c : Columns) (entity field : String) : List Json :=
  match c.column? entity field with
  | some (.arr items) => items
  | _ => []

/-- Puts the letters of a text at the end of the list that a field is mapped to. -/
def extend (c : Columns) (entity field : String) (words : String) : Columns :=
  c.putColumn (.str entity) (.str field)
    (.arr (c.items entity field ++ words.toList.map fun letter => .str (String.ofList [letter])))

end Columns

/-- Tables, columns and relations, with the options of the conversion. -/
structure Schema where
  options : ConverterOptions := {}
  tables : Names := {}
  columns : Columns := {}
  relations : Registry String (Registry String Relation) := {}

namespace Schema

/-! ## Registering -/

/-- Gives an entity its table. -/
def putTable (s : Schema) (entity table : Json) : Schema :=
  { s with tables := s.tables.put entity table }

/-- Gives a field its column. -/
def putColumn (s : Schema) (entity field column : Json) : Schema :=
  { s with columns := s.columns.putColumn entity field column }

/-- Gives an entity its table, if it can be a name. -/
def registerTable (s : Schema) (entity table : Json) : Except MappingFault Schema :=
  if Names.isKey entity then .ok (s.putTable entity table) else .error .wrongType

/-- Gives a field its column, if both can be names. The entity is entered even if the field is
refused. -/
def registerColumn (s : Schema) (entity field column : Json) : Except MappingFault Unit × Schema :=
  if !Names.isKey entity then (.error .wrongType, s)
  else if !Names.isKey field then
    (.error .wrongType, { s with columns := s.columns.put entity (s.columns.ofEntity entity) })
  else (.ok (), s.putColumn entity field column)

/-- Puts other relations in place of the known ones. -/
def setRelations (s : Schema) (relations : Registry String (Registry String Relation)) : Schema :=
  { s with relations }

/-- Takes over a configuration. Relations that it does not have are left as they are only if it has
none at all. -/
def apply (s : Schema) (c : MappingConfig) : Schema :=
  let s := c.entities.entries.foldl (fun t e => t.putTable e.1 e.2) s
  let s :=
    c.fields.entries.foldl (fun t e =>
      e.2.entries.foldl (fun u f => u.putColumn (.str e.1) f.1 f.2) t) s
  if c.relations.isEmpty then s else s.setRelations c.relations

/-! ## Looking up -/

/-- The resolver that the options ask for. -/
def resolver (s : Schema) : Resolver :=
  .ofNames s.options.collectionExceptions

/-- A value unless it is null. -/
def nonNull? (value? : Option Json) : Option Json :=
  value?.filter fun v => !v.equal .null

/-- The table that an entity is given. -/
def table? (s : Schema) (entity : String) : Option Json :=
  nonNull? (s.tables.get? (.str entity))

/-- The column that a field is given. -/
def column? (s : Schema) (entity field : String) : Option Json :=
  nonNull? (s.columns.column? entity field)

/-- The relation of a property. -/
def relation? (s : Schema) (entity property : String) : Option Relation :=
  (s.relations.get? entity).bind fun properties => properties.get? property

/-- The table of an entity. -/
def tableFor (s : Schema) (entity : String) : Log.Logging Json := do
  match s.table? entity with
  | some table => pure table
  | none => do
    Log.write .conversion .debug ("No table mapping for " ++ entity ++ ", using " ++
      Text.lower entity)
    pure (.str (Text.lower entity))

/-- The column of a field. -/
def columnFor (s : Schema) (entity? : Option String) (field : String) : Log.Logging Json := do
  match entity?.bind fun entity => s.column? entity field with
  | some column => pure column
  | none => do
    Log.write .conversion .debug ("No column mapping for " ++ entity?.getD "None" ++ "." ++ field ++
      ", using " ++ Text.snakeCase field)
    pure (.str (Text.snakeCase field))

end Schema

end EntityQuery.Sql
