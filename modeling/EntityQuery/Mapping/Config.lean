import EntityQuery.Json.Reader
import EntityQuery.Log
import EntityQuery.Mapping.Relation

/-!
# Mapping configurations

A configuration has three sections: the tables of entities, the columns of their fields, and their
relations. A table of names may be written as an object or as a list of pairs; a pair is any
sequence of two, and its key may be any value that is not itself a container.
-/

namespace EntityQuery

/-- Names with what they are mapped to. -/
abbrev Names := Registry Json Json

/-- Keys are compared as values. -/
instance : BEq Json := ⟨Json.equal⟩

namespace Names

/-- Whether a value may be a key: anything but a container. -/
def isKey : Json → Bool
  | .arr _ => false
  | .obj _ => false
  | _ => true

/-- The items of a value that is a sequence. An object is the sequence of its keys, a text that of
its characters. -/
def items? : Json → Option (List Json)
  | .arr items => some items
  | .str s => some (s.toList.map fun c => .str (String.ofList [c]))
  | .obj fields => some (fields.map fun f => .str f.1)
  | _ => none

/-- Reads the pair at a place of a list. -/
def pair (index : Nat) (item : Json) : Except MappingFault (Json × Json) :=
  match items? item with
  | none => .error .wrongType
  | some [key, value] => if isKey key then .ok (key, value) else .error .wrongType
  | some items => .error (.notAPair index items.length)

/-- Enters the pairs of a list, the first of them at the given place. -/
def addPairs (names : Names) (index : Nat) : List Json → Except MappingFault Names
  | [] => .ok names
  | item :: rest =>
    match pair index item with
    | .ok (key, value) => addPairs (names.put key value) (index + 1) rest
    | .error f => .error f

/-- Reads a table of names. -/
def ofJson (data : Json) : Except MappingFault Names :=
  match data with
  | .obj fields => .ok (Registry.ofList (fields.map fun f => (Json.str f.1, f.2)))
  | _ =>
    match items? data with
    | some items => addPairs {} 0 items
    | none => .error .wrongType

/-- The entries as fields of an object, if every key is a text. -/
def fields? : List (Json × Json) → Option (List (String × Json))
  | [] => some []
  | (.str key, value) :: rest => (fields? rest).map fun more => (key, value) :: more
  | _ => none

/-- The dictionary form: an object, or a list of pairs if some key is no text. -/
def dictionary (names : Names) : Json :=
  match fields? names.entries with
  | some fields => .obj fields
  | none => .arr (names.entries.map fun e => .arr [e.1, e.2])

end Names

/-- A mapping configuration. -/
structure MappingConfig where
  entities : Names := {}
  fields : Registry String Names := {}
  relations : Registry String (Registry String Relation) := {}

namespace MappingConfig

/-- The names of the sections. -/
def sections : List String :=
  ["entities", "fields", "relationships"]

/-- The names that are no sections, in order of their letters. -/
def unknownSections (fields : List (String × Json)) : List String :=
  ((fields.map Prod.fst).filter fun name => !sections.contains name).mergeSort fun a b =>
    !decide (b < a)

/-- The fields of a section, none if it is absent. -/
def sectionFields (section? : Option Json) : Except MappingFault (List (String × Json)) :=
  match section? with
  | none => .ok []
  | some (.obj fields) => .ok fields
  | some _ => .error .noFields

/-- Reads the relations of an entity. -/
def relationsOf (properties : Json) : Except MappingFault (Registry String Relation) := do
  let fields ← sectionFields (some properties)
  let read ← fields.mapM fun f => do
    let relation ← Relation.ofJson f.1 f.2
    pure (f.1, relation)
  pure (Registry.ofList read)

/-- Reads the relations of all entities. -/
def relationsOfAll (fields : List (String × Json)) :
    Except MappingFault (Registry String (Registry String Relation)) := do
  let read ← fields.mapM fun f => do
    let relations ← relationsOf f.2
    pure (f.1, relations)
  pure (Registry.ofList read)

/-- Reads the columns of all entities. -/
def columnsOfAll (fields : List (String × Json)) : Except MappingFault (Registry String Names) := do
  let read ← fields.mapM fun f => do
    let columns ← Names.ofJson f.2
    pure (f.1, columns)
  pure (Registry.ofList read)

/-- Reads a configuration. Relations come first, then tables, then columns. -/
def ofJson (data : Json) : Except MappingFault MappingConfig :=
  match data with
  | .obj fields => do
    unless (unknownSections fields).isEmpty do
      throw (.unknownSections (unknownSections fields))
    let relations ← relationsOfAll (← sectionFields (Json.field? fields "relationships"))
    let entities ← Names.ofJson ((Json.field? fields "entities").getD (.obj []))
    let columns ← columnsOfAll (← sectionFields (Json.field? fields "fields"))
    pure { entities, fields := columns, relations }
  | _ => throw .notAnObject

/-- Reads a configuration and says how much is in it. -/
def load (data : Json) : Log.Logging (Except MappingFault MappingConfig) := do
  match ofJson data with
  | .error f => pure (.error f)
  | .ok c => do
    Log.write .config .debug ("Loaded " ++ toString c.entities.size ++ " entity mappings, " ++
      toString c.relations.size ++ " relationship sources")
    pure (.ok c)

/-- Why the text of a configuration is refused. -/
inductive TextFault where
  | json (fault : Json.SyntaxFault)
  | mapping (fault : MappingFault)

/-- Reads a configuration from its text. -/
def loadText (text : String) : Log.Logging (Except TextFault MappingConfig) := do
  match Json.parse text with
  | .error f => pure (.error (.json f))
  | .ok data => do
    match ← load data with
    | .error f => pure (.error (.mapping f))
    | .ok c => pure (.ok c)

/-- The relations of an entity in dictionary form. -/
def relationFields (properties : Registry String Relation) : List (String × Json) :=
  properties.entries.map fun e => (e.1, e.2.dictionary)

/-- The dictionary form. -/
def dictionary (c : MappingConfig) : Json :=
  .obj [("entities", c.entities.dictionary),
    ("fields", .obj (c.fields.entries.map fun e => (e.1, e.2.dictionary))),
    ("relationships", .obj (c.relations.entries.map fun e => (e.1, .obj (relationFields e.2))))]

end MappingConfig

end EntityQuery
