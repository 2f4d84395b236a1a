import EntityQuery.Log
import EntityQuery.Metadata.Visit

/-!
# Analysis

The metadata of a statement, collected from what an analysis meets in it.

A path of several names counts as a field if its first name is an alias or a declared entity; every
longer prefix of it is a field too. Any other such path is opaque: a constant, or a reference to
something unknown. A single name counts as a field only inside an update or a delete, and only if it
is no alias.
-/

namespace EntityQuery

/-- An analysis under way: what has been collected, the target of the update or delete around it,
and the log. -/
structure Analysis where
  metadata : Metadata
  target : Option String
  book : Log.Book

namespace Analysis

/-- The fields that a path adds after its second name: each further name makes a longer one. -/
def addLonger (m : Metadata) (entity field : String) : List String → Metadata
  | [] => m
  | name :: rest =>
    addLonger (m.addField entity (field ++ "." ++ name)) entity (field ++ "." ++ name) rest

/-- The fields that a path of several names adds to an entity. -/
def addPath (m : Metadata) (entity second : String) (rest : List String) : Metadata :=
  addLonger (m.addField entity second) entity second rest

/-- The entity that the first name of a path stands for. -/
def owner? (m : Metadata) (first : String) : Option String :=
  match m.entityOf? first with
  | some e => some e
  | none => if m.hasEntity first then some first else none

/-- Meets a path. -/
def mention (a : Analysis) (parts : List String) : Except TreeFault Analysis :=
  match parts with
  | [] => .error .emptyPath
  | [name] =>
    match a.target with
    | some entity =>
      .ok (if a.metadata.isAlias name then a
        else { a with metadata := a.metadata.addField entity name })
    | none => .ok a
  | first :: second :: rest =>
    match owner? a.metadata first with
    | some entity => .ok { a with metadata := addPath a.metadata entity second rest }
    | none => .ok { a with book := a.book ++ [⟨.analysis, .debug, "Opaque path " ++ dotted parts⟩] }

/-- Meets one thing. -/
def step (a : Analysis) : Visit → Except TreeFault Analysis
  | .declare entity asName => .ok { a with metadata := a.metadata.addEntity entity asName }
  | .joined join => .ok { a with metadata := a.metadata.addJoinPath join }
  | .filled entity field => .ok { a with metadata := a.metadata.addField entity field }
  | .mention parts => a.mention parts
  | .parameter name => .ok { a with metadata := a.metadata.addParameter name }
  | .enter entity => .ok { a with target := some entity }
  | .leave => .ok { a with target := none }
  | .broken fault => .error fault

/-- Meets one thing after the other, up to the first that makes no sense. -/
def run (a : Analysis) : List Visit → Analysis × Option TreeFault
  | [] => (a, none)
  | v :: rest =>
    match a.step v with
    | .ok b => b.run rest
    | .error f => (a, some f)

end Analysis

/-- Why a tree cannot be analyzed. -/
inductive AnalysisError where
  /-- The tree is no statement. -/
  | notAStatement (kindName : String)
  | tree (fault : TreeFault)
  deriving DecidableEq, Repr

/-- What an analysis has to say about its result. -/
def Metadata.summary (m : Metadata) : String :=
  "Analyzed " ++ m.kind.name ++ ": " ++ toString m.entities.length ++ " entities, " ++
    toString m.aliases.size ++ " aliases, " ++ toString m.parameters.length ++ " parameters"

/-- An analyzer that is used again: the target that its last analysis left behind. -/
structure Analyzer where
  target : Option String := none

/-- Analyzes a statement. -/
def Analyzer.analyze (z : Analyzer) (node : Node) (query : String) :
    Log.Logging (Except AnalysisError Metadata × Analyzer) := do
  match node.statementKind? with
  | none => pure (.error (.notAStatement node.kindName), z)
  | some kind =>
    let start : Analysis := ⟨{ query, kind }, none, ← get⟩
    let (last, fault?) := start.run node.visits
    set last.book
    match fault? with
    | some f => pure (.error (.tree f), ⟨last.target⟩)
    | none => do
      Log.write .analysis .debug last.metadata.summary
      pure (.ok last.metadata, ⟨last.target⟩)

/-- The metadata of a statement. -/
def Node.analyze (node : Node) (query : String) : Log.Logging (Except AnalysisError Metadata) := do
  let (result, _) ← ({} : Analyzer).analyze node query
  pure result

end EntityQuery
