import EntityQuery.Metadata.Analysis
import EntityQuery.Query
import EntityQuery.Sql.Render

/-!
# Conversion

From the text of a query to SQL: the query is parsed, analyzed unless its metadata is given, and
rendered.
-/

namespace EntityQuery.Sql

/-- Why a query is not converted. -/
inductive ConvertError where
  /-- The query is malformed. -/
  | malformed (e : QueryError)
  /-- The statement cannot be analyzed. -/
  | analysis (e : AnalysisError)
  /-- The statement has a construct without a counterpart in SQL. -/
  | unsupported (feature : String) (kind : StatementKind)
  /-- The statement cannot be rendered with these mappings. -/
  | failed (fault : RenderFault) (kind : StatementKind)

/-- The error that a fault in a statement becomes. -/
def ConvertError.ofFault (kind : StatementKind) : RenderFault → ConvertError
  | .unsupported feature => .unsupported feature kind
  | fault => .failed fault kind

/-- The wording of a failed conversion. -/
def failureMessage (fault : RenderFault) (kind : StatementKind) : String :=
  "Failed to convert " ++ kind.name ++ " statement: " ++ fault.message

/-- Renders a tree under a schema and metadata, and gives the schema with the columns as they are
then. -/
def renderTree (schema : Schema) (metadata : Metadata) (node : Node) :
    Log.Logging (Except RenderFault String × Schema) := do
  let rendering : Rendering String := do Rendering.shown (← render ⟨schema, metadata⟩ node)
  let (result, s) := rendering.run.run { columns := schema.columns, book := ← get }
  set s.book
  pure (result, { schema with columns := s.columns })

/-- Renders a statement. -/
def renderStatement (schema : Schema) (metadata : Metadata) (kind : StatementKind) (node : Node) :
    Log.Logging (Except ConvertError String × Schema) := do
  match ← renderTree schema metadata node with
  | (.ok sql, after) => pure (.ok sql, after)
  | (.error f, after) => pure (.error (.ofFault kind f), after)

/-- A schema with the nesting limit for queries. -/
structure Converter where
  schema : Schema := {}
  maxDepth : Int := defaultMaxDepth

namespace Converter

/-- The metadata to convert a statement with. -/
def metadataFor (node : Node) (query : String) (given? : Option Metadata) :
    Log.Logging (Except AnalysisError Metadata) :=
  match given? with
  | some m => pure (.ok m)
  | none => node.analyze query

/-- Converts a query, and gives the converter as it is then: lists among its columns may
have grown. -/
def convert (c : Converter) (query : String) (metadata? : Option Metadata) :
    Log.Logging (Except ConvertError String × Converter) := do
  let (parsed, _) ← ({ maxDepth := c.maxDepth } : Parser).parse query
  match parsed with
  | .error e => pure (.error (.malformed e), c)
  | .ok node => do
    match ← metadataFor node query metadata? with
    | .error e => pure (.error (.analysis e), c)
    | .ok metadata => do
      let (result, schema) ← renderStatement c.schema metadata
          (node.statementKind?.getD .select) node
      pure (result, { c with schema })

end Converter

end EntityQuery.Sql
