import EntityQuery.Json.Writer
import EntityQuery.Metadata
import EntityQuery.Node.Dictionary

/-!
# Exported documents

A statement as a JSON document, with its metadata beside it if that is wanted. A compact document
stands on one line and has no metadata.
-/

namespace EntityQuery

/-- What an exported document looks like. -/
structure ExportOptions where
  /-- The indentation of each level; none puts the document on one line. -/
  indent : Option Int := some 2
  includeMetadata : Bool := true
  compact : Bool := false

namespace ExportOptions

/-- The layout of the document. -/
def layout (o : ExportOptions) : Except Json.LayoutFault Json.Layout :=
  Json.Layout.ofIndent (if o.compact then none else o.indent)

/-- Whether metadata that is there goes into the document. -/
def showsMetadata (o : ExportOptions) : Bool :=
  o.includeMetadata && !o.compact

end ExportOptions

/-- Why a statement is not exported. -/
inductive ExportFault where
  | tree (fault : TreeFault)
  | layout (fault : Json.LayoutFault)
  deriving DecidableEq, Repr

namespace Node

/-- The fields of an exported document. -/
def exportFields (o : ExportOptions) (node : Node) (metadata? : Option Metadata) :
    Except TreeFault (List (String × Json)) := do
  let statement ← node.dictionary
  let beside :=
    match metadata? with
    | some m => if o.showsMetadata then [("metadata", m.dictionary)] else []
    | none => []
  pure (("statement", statement) :: beside)

/-- The text of an exported document. -/
def exportText (o : ExportOptions) (node : Node) (metadata? : Option Metadata) :
    Except ExportFault String :=
  match node.exportFields o metadata? with
  | .error f => .error (.tree f)
  | .ok fields =>
    match o.layout with
    | .error f => .error (.layout f)
    | .ok layout => .ok (Json.text layout (.obj fields))

end Node

end EntityQuery
