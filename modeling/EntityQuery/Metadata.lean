import EntityQuery.Json
import EntityQuery.Node
import EntityQuery.Text.LetterCase

/-!
# Metadata of a query

The entities, aliases, fields, parameters and join paths that a query mentions. Names are listed in
the order in which they first came up; an alias or a join path that comes up again keeps its place
and takes its new value.
-/

namespace EntityQuery

/-- A join along a path, as the query declares it. -/
structure JoinPath where
  sourceAlias : String
  path : String
  targetAlias : Option String
  targetEntity : Option String
  deriving DecidableEq, Repr

/-- The last name of a dotted text. -/
def lastName (text : String) : String :=
  String.ofList (text.toList.reverse.takeWhile fun c => c != '.').reverse

/-- The property that a join follows. -/
def JoinPath.propertyName (j : JoinPath) : String :=
  lastName j.path

/-- What a query mentions. -/
structure Metadata where
  query : String := ""
  kind : StatementKind := .select
  entities : List String := []
  aliases : Registry String String := {}
  fields : Registry String (List String) := {}
  parameters : List String := []
  joinPaths : Registry String JoinPath := {}

namespace Metadata

/-- Nothing yet, about a kind of statement given by its keyword. The message of a failure names the
keyword. -/
def ofKindName (query kindName : String) : Except String Metadata :=
  match StatementKind.ofName? kindName with
  | some kind => .ok { query, kind }
  | none => .error (Text.quoted kindName ++ " is not a valid QueryType")

/-! ## Collecting -/

/-- Enters an entity, and its alias if one is given. -/
def addEntity (m : Metadata) (entity : String) (asName : Option String) : Metadata :=
  let m := { m with entities := appendNew m.entities entity }
  match given? asName with
  | some a => { m with aliases := m.aliases.put a entity }
  | none => m

/-- Enters a field, and its entity with it. -/
def addField (m : Metadata) (entity field : String) : Metadata :=
  { m with
    entities := appendNew m.entities entity
    fields := m.fields.put entity (appendNew ((m.fields.get? entity).getD []) field) }

/-- Enters a parameter. -/
def addParameter (m : Metadata) (name : String) : Metadata :=
  { m with parameters := appendNew m.parameters name }

/-- Enters a join path. -/
def addJoinPath (m : Metadata) (j : JoinPath) : Metadata :=
  { m with joinPaths := m.joinPaths.put j.path j }

/-! ## Asking -/

/-- Whether an entity has been entered. -/
def hasEntity (m : Metadata) (entity : String) : Bool :=
  m.entities.contains entity

/-- Whether a name is an alias. -/
def isAlias (m : Metadata) (name : String) : Bool :=
  m.aliases.contains name

/-- The entity of an alias. -/
def entityOf? (m : Metadata) (asName : String) : Option String :=
  m.aliases.get? asName

/-- The fields of an entity. -/
def fieldsOf (m : Metadata) (entity : String) : List String :=
  (m.fields.get? entity).getD []

/-! ## Forms -/

/-- A list of names, or a dash. -/
def listed (names : List String) : String :=
  let text := ", ".intercalate names
  if text == "" then "-" else text

/-- The readable form, one line for each heading. -/
def text (m : Metadata) : String :=
  "\n".intercalate
    (["Query type: " ++ m.kind.name,
      "Entities: " ++ listed m.entities,
      "Aliases: " ++ listed (m.aliases.entries.map fun e => e.1 ++ " -> " ++ e.2)] ++
      m.fields.entries.map (fun e => "Fields of " ++ e.1 ++ ": " ++ ", ".intercalate e.2) ++
      ["Parameters: " ++ listed m.parameters])

/-- The dictionary form of a join path. -/
def joinPathDictionary (j : JoinPath) : Json :=
  .obj [("source_alias", .str j.sourceAlias), ("path", .str j.path),
    ("target_alias", .textOrNull j.targetAlias), ("target_entity", .textOrNull j.targetEntity)]

/-- A list of texts. -/
def texts (names : List String) : Json :=
  .arr (names.map Json.str)

/-- The dictionary form. -/
def dictionary (m : Metadata) : Json :=
  .obj [("query_type", .str m.kind.name),
    ("entities", texts m.entities),
    ("aliases", .obj (m.aliases.entries.map fun e => (e.1, .str e.2))),
    ("fields", .obj (m.fields.entries.map fun e => (e.1, texts e.2))),
    ("parameters", texts m.parameters),
    ("join_paths", .obj (m.joinPaths.entries.map fun e => (e.1, joinPathDictionary e.2)))]

end Metadata

/-! ## The entity behind a path -/

/-- A property name in the singular with a capital: an `s` at the end is dropped unless it is the
whole name. -/
def entityOfProperty (property : List Char) : Except TreeFault String :=
  let singular :=
    if property.getLast? = some 's' ∧ property.length > 1 then property.dropLast else property
  match singular with
  | [] => .error .emptyPath
  | c :: rest => .ok (String.ofList (Text.upperChar c ++ rest))

/-- The entity that a join path leads to, as far as names tell: a single name is an entity, a
property names one. -/
def inferEntity (parts : List String) : Except TreeFault String :=
  match parts with
  | first :: second :: rest => entityOfProperty (((second :: rest).getLast?.getD first).toList)
  | _ => .ok (dotted parts)

end EntityQuery
