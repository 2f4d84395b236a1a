import EntityQuery.CommandLine.Command
import Std.Time.Format

/-!
# The program

Reads what the arguments name, runs the command, prints its report and saves its file.
-/

namespace EntityQuery.Program

open EntityQuery.CommandLine

/-- How the command is used. -/
def usage : String :=
  "usage: hql_parser [-h] [-f FILE] [-o OUTPUT] " ++
    "[--tokens | --ast | --analyze | --convert | --validate]\n" ++
    "                  [-m MAPPINGS] [--indent INDENT] [-v]\n" ++
    "                  [query]\n"

/-- The options, one on each line. -/
def help : String :=
  usage ++
    "\nAnalyse des requêtes HQL/JPQL et conversion vers PostgreSQL.\n" ++
    "\npositional arguments:\n" ++
    "  query                 Requête HQL à traiter\n" ++
    "\noptions:\n" ++
    "  -h, --help            show this help message and exit\n" ++
    "  -f FILE, --file FILE  Fichier contenant la requête HQL\n" ++
    "  -o OUTPUT, --output OUTPUT\n" ++
    "                        Fichier de sortie\n" ++
    "  --tokens              Afficher seulement les tokens (analyse lexicale)\n" ++
    "  --ast                 Afficher l'arbre syntaxique en JSON\n" ++
    "  --analyze             Afficher les métadonnées en JSON (défaut)\n" ++
    "  --convert             Convertir la requête en PostgreSQL\n" ++
    "  --validate            Afficher valid/invalid\n" ++
    "  -m MAPPINGS, --mappings MAPPINGS\n" ++
    "                        Fichier JSON des correspondances entités/champs/relations " ++
    "(avec --convert)\n" ++
    "  --indent INDENT       Indentation du JSON (défaut: 2)\n" ++
    "  -v, --verbose         Journalisation détaillée (DEBUG)\n"

/-- What a path leads to. -/
def look (path? : Option String) : IO Place := do
  match given? path? with
  | none => pure .absent
  | some path =>
    try
      pure (.file (← IO.FS.readFile path))
    catch
      | .noFileOrDirectory .. => pure .absent
      | .inappropriateType .. => pure .directory
      | .invalidArgument .. => pure .tooLong
      | _ => pure .belowFile

/-- The input of the program, unless it is a terminal or not asked for. -/
def input (a : Arguments) : IO (Option String) := do
  let stdin ← IO.getStdin
  if (given? a.file).isSome || (given? a.query).isSome || (← stdin.isTty) then
    pure none
  else
    pure (some (← stdin.readToEnd))

/-- The time, as log lines have it. -/
def timestamp : IO String := do
  let now ← Std.Time.PlainDateTime.now
  pure (now.format "uuuu-MM-dd HH:mm:ss,SSS")

/-- Runs the command with its arguments. -/
def start (a : Arguments) : IO UInt32 := do
  let w : Surroundings := ⟨← look a.file, ← look a.mappings, ← input a⟩
  let (result, book) := (run a w).run []
  IO.eprint (logText a.verbose (← timestamp) book)
  match result with
  | .error .queryDirectory => throw (IO.userError "the query file is a directory")
  | .error .queryPathTooLong => throw (IO.userError "the path of the query file is too long")
  | .error .noIndent => throw (IO.userError "there is no indentation")
  | .error (.layout _) => throw (IO.userError "the indentation is too large")
  | .error (.mapping _) => throw (IO.userError "a mapping has a value of a wrong type")
  | .ok report => do
    IO.eprint report.complaint
    match report.save with
    | some (path, text) => IO.FS.writeFile path text
    | none => pure ()
    IO.print report.output
    pure (UInt32.ofNat report.code)

end EntityQuery.Program

/-- The program. -/
def main (argv : List String) : IO UInt32 := do
  match EntityQuery.CommandLine.Arguments.parse argv with
  | .error .help => do
    IO.print EntityQuery.Program.help
    pure 0
  | .error .misuse => do
    IO.eprint EntityQuery.Program.usage
    pure 2
  | .ok a => EntityQuery.Program.start a
