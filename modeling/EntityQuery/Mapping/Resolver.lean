import EntityQuery.Log
import EntityQuery.Mapping.Relation
import EntityQuery.Metadata

/-!
# Join conditions

A join along a property does not say which side holds the foreign key. For a collection it is the
target, for a direct relation the source. A relation may say which of the two it is; otherwise a
property is a collection if its name is a plural, that is, longer than one letter with an `s` at its
end, and not one of the known exceptions.
-/

namespace EntityQuery

/-- Singular names that end in `s`. -/
def defaultExceptions : List String :=
  ["status", "address", "process", "class", "access", "business", "alias", "bonus", "canvas",
    "campus", "census", "corpus", "focus", "genus", "radius", "series", "species", "success",
    "progress", "analysis", "basis", "axis", "news"]

/-- How a conversion treats what mappings leave open. -/
structure ConverterOptions where
  /-- Names that are no collections although they end in `s`; no name stands twice. -/
  collectionExceptions : List String := defaultExceptions
  /-- Whether a join without an alias is left out; otherwise it is refused. -/
  dropAliaslessJoins : Bool := true

namespace ConverterOptions

/-- Options with the given exceptions in place of the default ones. -/
def exceptions (o : ConverterOptions) (names : List String) : ConverterOptions :=
  { o with collectionExceptions := names.foldl appendNew [] }

/-- Options with further exceptions. -/
def withExceptions (o : ConverterOptions) (names : List String) : ConverterOptions :=
  { o with collectionExceptions := names.foldl appendNew o.collectionExceptions }

end ConverterOptions

/-- Decides on which side the foreign key of a join is. -/
structure Resolver where
  /-- The exceptions in small letters. -/
  exceptions : List String

namespace Resolver

/-- A resolver with the given exceptions. -/
def ofNames (names : List String) : Resolver :=
  ⟨names.map Text.lower⟩

/-- Whether a name is a plural. -/
def isPlural (z : Resolver) (property : String) : Bool :=
  let name := (Text.lower property).toList
  decide (name.length > 1) && name.getLast? == some 's' &&
    !z.exceptions.contains (String.ofList name)

/-- Whether a property is a collection, in the words of its relation if that says so. -/
def isCollection (z : Resolver) (property : String) (relation? : Option Relation) : Json :=
  match relation? with
  | some r => if r.isCollection.equal .null then .bool (z.isPlural property) else r.isCollection
  | none => .bool (z.isPlural property)

/-- The condition that two columns are equal. -/
def equation (leftAlias : String) (leftColumn : Json) (rightAlias : String) (rightColumn : Json) :
    String :=
  leftAlias ++ "." ++ leftColumn.display ++ " = " ++ rightAlias ++ "." ++ rightColumn.display

/-- The condition of a join along a path, if its relation is known. -/
def resolve (z : Resolver) (sourceAlias path targetAlias : String) (relation? : Option Relation) :
    Log.Logging (Option String) := do
  match relation? with
  | none => do
    Log.write .relations .debug ("No relationship metadata for " ++ path)
    pure none
  | some r =>
    if (z.isCollection (lastName path) (some r)).truthy then do
      Log.write .relations .debug (path ++ " treated as a collection: foreign key on " ++
        targetAlias)
      pure (some (equation targetAlias r.joinColumn sourceAlias r.referencedColumn))
    else do
      Log.write .relations .debug (path ++ " treated as a direct relation: foreign key on " ++
        sourceAlias)
      pure (some (equation sourceAlias r.joinColumn targetAlias r.referencedColumn))

end Resolver

end EntityQuery
