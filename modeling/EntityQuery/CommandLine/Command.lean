import EntityQuery.CommandLine.Arguments
import EntityQuery.Export
import EntityQuery.Sql.Converter
import EntityQuery.Text.LineEnding
import EntityQuery.Token.Listing

/-!
# The command

What the command does with its arguments, as a value: what it prints, what it logs, which file it
saves, and how it exits. Files are read before, and written and printed after, by the layer around
it.
-/

namespace EntityQuery.CommandLine

/-- What a path leads to. -/
inductive Place where
  | absent
  | directory
  /-- A path that goes on below a file. -/
  | belowFile
  /-- A path with a name that is too long. -/
  | tooLong
  /-- A path with a character that no path can have. -/
  | unnameable
  | file (text : String)
  deriving DecidableEq, Repr

/-- What the command finds: the two files that its arguments name, and its input unless that is a
terminal. -/
structure Surroundings where
  queryFile : Place := .absent
  mappingFile : Place := .absent
  input : Option String := none

/-- What the command has to say. -/
structure Report where
  code : Nat := 0
  output : String := ""
  complaint : String := ""
  /-- A file to save: its path and its text. The output is printed once that is done. -/
  save : Option (String × String) := none
  deriving DecidableEq, Repr

/-- What the command is not prepared for. -/
inductive Breakdown where
  /-- A directory in place of the query's file. -/
  | queryDirectory
  /-- A path to the query's file that is too long. -/
  | queryPathTooLong
  /-- A document without an indentation. -/
  | noIndent
  /-- A document with an indentation that gives no layout. -/
  | layout (fault : Json.LayoutFault)
  /-- A mapping with a value of a wrong type. -/
  | mapping (fault : MappingFault)

/-- A result, or the report or the breakdown that ends the command. -/
inductive Outcome (α : Type) where
  | value (a : α)
  | report (r : Report)
  | breakdown (b : Breakdown)

/-- The report of a failure. -/
def refusal (complaint : String) : Report :=
  { code := 1, complaint := complaint ++ "\n" }

/-! ## The query -/

/-- The message for a terminal without a query. -/
def noQuery : String :=
  "Erreur: Aucune requête HQL fournie.\nUsage: python -m hql_parser \"SELECT u FROM User u\"\n" ++
    "       python -m hql_parser -f query.hql"

/-- The text of the query: from a file, from the arguments, or from the input. -/
def queryText (a : Arguments) (w : Surroundings) : Outcome String :=
  match given? a.file with
  | some path =>
    match w.queryFile with
    | .file text => .value (Text.unifiedLines text)
    | .directory => .breakdown .queryDirectory
    | .tooLong => .breakdown .queryPathTooLong
    | _ => .report (refusal ("Erreur: Le fichier '" ++ path ++ "' n'existe pas."))
  | none =>
    match given? a.query with
    | some query => .value query
    | none =>
      match w.input with
      | some text => .value (Text.unifiedLines text)
      | none => .report (refusal noQuery)

/-! ## The mappings -/

/-- The report of a mapping that cannot be used. -/
def unusable (reason : String) : Report :=
  refusal ("Erreur de configuration: " ++ reason)

/-- The report of a file that cannot be read. -/
def unreadable (number : Nat) (reason path : String) : Report :=
  unusable ("[Errno " ++ toString number ++ "] " ++ reason ++ ": " ++ Text.quoted path)

/-- The schema of a conversion. -/
def schemaOf (a : Arguments) (w : Surroundings) : Log.Logging (Outcome Sql.Schema) := do
  match given? a.mappings with
  | none => pure (.value {})
  | some path =>
    match w.mappingFile with
    | .absent => pure (.report (unreadable 2 "No such file or directory" path))
    | .directory => pure (.report (unreadable 21 "Is a directory" path))
    | .belowFile => pure (.report (unreadable 20 "Not a directory" path))
    | .tooLong => pure (.report (unreadable 36 "File name too long" path))
    | .unnameable => pure (.report (unusable "embedded null byte"))
    | .file text => do
      match ← MappingConfig.loadText (Text.unifiedLines text) with
      | .ok config => pure (.value (({} : Sql.Schema).apply config))
      | .error (.json f) => pure (.report (unusable f.message))
      | .error (.mapping f) =>
        match f.message? with
        | some message => pure (.report (unusable message))
        | none => pure (.breakdown (.mapping f))

/-! ## The modes -/

/-- The report of a malformed query. -/
def malformed {α : Type} (e : QueryError) : Outcome α :=
  .report (refusal ("Erreur de parsing: " ++ e.message))

/-- The report of a query that is not converted. -/
def notConverted {α : Type} (e : Sql.ConvertError) : Outcome α :=
  match e with
  | .malformed e => malformed e
  | .unsupported feature _ =>
    .report (refusal ("Erreur de conversion: " ++ (Sql.RenderFault.unsupported feature).message))
  | .failed fault kind =>
    .report (refusal ("Erreur de conversion: " ++ Sql.failureMessage fault kind))
  | .analysis (.notAStatement name) => .report (refusal ("Cannot analyze " ++ name))
  | .analysis (.tree fault) => .report (refusal (Sql.RenderFault.tree fault).message)

/-- A document with the indentation that is asked for. -/
def document (a : Arguments) (data : Json) : Outcome String :=
  match a.indent with
  | none => .breakdown .noIndent
  | some n =>
    match Json.Layout.ofIndent (some n) with
    | .ok layout => .value (Json.text layout data)
    | .error fault => .breakdown (.layout fault)

/-- The tokens of a query as a document. -/
def tokenDocument (a : Arguments) (query : String) : Log.Logging (Outcome String) := do
  let scan := scan query
  scan.report query
  match scan.result with
  | .error e => pure (malformed (.lexical e))
  | .ok tokens => pure (document a (.obj [("tokens", Token.listing tokens)]))

/-- The tree of a query as a document. -/
def treeDocument (a : Arguments) (query : String) : Log.Logging (Outcome String) := do
  let (parsed, _) ← ({} : Parser).parse query
  match parsed with
  | .error e => pure (malformed e)
  | .ok node =>
    match node.exportFields {} none with
    | .ok fields => pure (document a (.obj fields))
    | .error fault => pure (notConverted (.analysis (.tree fault)))

/-- The metadata of a query as a document. -/
def metadataDocument (a : Arguments) (query : String) : Log.Logging (Outcome String) := do
  let (parsed, _) ← ({} : Parser).parse query
  match parsed with
  | .error e => pure (malformed e)
  | .ok node => do
    match ← node.analyze query with
    | .ok m => pure (document a m.dictionary)
    | .error e => pure (notConverted (.analysis e))

/-- The SQL of a query. Mappings are read before the query is looked at. -/
def conversion (a : Arguments) (w : Surroundings) (query : String) :
    Log.Logging (Outcome String) := do
  match ← schemaOf a w with
  | .report r => pure (.report r)
  | .breakdown b => pure (.breakdown b)
  | .value schema => do
    let (result, _) ← ({ schema } : Sql.Converter).convert query none
    match result with
    | .ok sql => pure (.value sql)
    | .error e => pure (notConverted e)

/-- The text that a query is turned into. -/
def product (a : Arguments) (w : Surroundings) (query : String) : Log.Logging (Outcome String) :=
  match a.mode with
  | some .tokens => tokenDocument a query
  | some .tree => treeDocument a query
  | some .convert => conversion a w query
  | _ => metadataDocument a query

/-- The verdict on a query. -/
def verdict (query : String) : Log.Logging Report := do
  let (valid, _) ← ({} : Parser).isValid query
  pure (if valid then { output := "valid\n" } else { code := 1, output := "invalid\n" })

/-- The report of a text, printed or saved. -/
def delivery (a : Arguments) (text : String) : Report :=
  match given? a.output with
  | some path =>
    { output := "Résultat sauvegardé dans '" ++ path ++ "'\n", save := some (path, text) }
  | none => { output := text ++ "\n" }

/-- Runs the command. -/
def run (a : Arguments) (w : Surroundings) : Log.Logging (Except Breakdown Report) := do
  match queryText a w with
  | .report r => pure (.ok r)
  | .breakdown b => pure (.error b)
  | .value query =>
    if Text.isBlankText query then
      pure (.ok (refusal "Erreur: La requête HQL est vide."))
    else if a.mode == some .validate then do
      let r ← verdict query
      pure (.ok r)
    else do
      match ← product a w query with
      | .value text => pure (.ok (delivery a text))
      | .report r => pure (.ok r)
      | .breakdown b => pure (.error b)

/-- The printed lines of a log. Only a verbose command prints everything. -/
def logText (verbose : Bool) (timestamp : String) (book : Log.Book) : String :=
  let shown := book.filter fun e => verbose || e.level == .warning
  String.join (shown.map fun e => e.line timestamp ++ "\n")

end EntityQuery.CommandLine
