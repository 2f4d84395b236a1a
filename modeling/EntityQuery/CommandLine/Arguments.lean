import EntityQuery.Text.Integer

/-!
# Arguments

The arguments of the command: options and at most one query.

Every argument is classified on its own first. A long option may be shortened as long as one option
is meant; its value may follow an equals sign. Short options may be run together, and a value may
follow the last one directly; an equals sign before it is left out only if a single option stands
there. What looks like a negative number, or has a space in it and names no option, is no option.
Everything after `--` is no option either.

Then the options take their values, from left to right. Two dashes in one argument with an option
stand for no value. Asking for help ends the reading; anything left over at the end is an error.
-/

namespace EntityQuery.CommandLine

/-- What the command does with a query. -/
inductive Mode where
  | tokens | tree | analyze | convert | validate
  deriving DecidableEq, Repr

/-- An option. -/
inductive Flag where
  | help | file | output | mode (m : Mode) | mappings | indent | verbose
  deriving DecidableEq, Repr

namespace Flag

/-- All options. -/
def all : List Flag :=
  [.help, .file, .output, .mode .tokens, .mode .tree, .mode .analyze, .mode .convert,
    .mode .validate, .mappings, .indent, .verbose]

/-- The long name. -/
def longName : Flag → String
  | .help => "--help"
  | .file => "--file"
  | .output => "--output"
  | .mode .tokens => "--tokens"
  | .mode .tree => "--ast"
  | .mode .analyze => "--analyze"
  | .mode .convert => "--convert"
  | .mode .validate => "--validate"
  | .mappings => "--mappings"
  | .indent => "--indent"
  | .verbose => "--verbose"

/-- The short name, if there is one. -/
def letter? : Flag → Option Char
  | .help => some 'h'
  | .file => some 'f'
  | .output => some 'o'
  | .mappings => some 'm'
  | .verbose => some 'v'
  | .mode _ => none
  | .indent => none

/-- Whether the option takes a value. -/
def takesValue : Flag → Bool
  | .file => true
  | .output => true
  | .mappings => true
  | .indent => true
  | .help => false
  | .mode _ => false
  | .verbose => false

/-- The option of a letter. -/
def ofLetter? (c : Char) : Option Flag :=
  all.find? fun f => f.letter? == some c

/-- The options whose long name starts with the given characters. -/
def startingWith (cs : List Char) : List Flag :=
  all.filter fun f => cs.isPrefixOf f.longName.toList

end Flag

/-! ## Classification -/

/-- Text that stands in one argument with an option, the equals sign between them left out. -/
abbrev Attached := Option (List Char)

/-- An argument on its own. -/
inductive Word where
  /-- No option. -/
  | plain (text : String)
  /-- The two dashes after which there are no options. -/
  | divider
  /-- A long option. -/
  | long (flag : Flag) (attached : Attached)
  /-- A short option. -/
  | short (flag : Flag) (attached : Attached)
  /-- An option that does not exist. -/
  | unknown
  deriving DecidableEq, Repr

/-- Why no arguments come out. -/
inductive Stop where
  /-- Help is asked for. -/
  | help
  /-- The command is not used as it should be. -/
  | misuse
  deriving DecidableEq, Repr

/-- What stands after the letter of a short option. -/
def attachedAfter : List Char → Attached
  | [] => none
  | '=' :: rest => some rest
  | rest => some rest

/-- What stands after the name of a long option. -/
def attachedFrom : List Char → Attached
  | [] => none
  | _ :: rest => some rest

/-- Decimal digits of any script, at least one. -/
def isDigits (cs : List Char) : Bool :=
  !cs.isEmpty && cs.all fun c => (Text.decimalValue? c).isSome

/-- Whether the characters after a dash make a negative number. A line feed at the end does not
count. -/
def isNumber (cs : List Char) : Bool :=
  let cs := if cs.getLast? == some '\n' then cs.dropLast else cs
  let whole := cs.takeWhile fun c => c != '.'
  match cs.dropWhile fun c => c != '.' with
  | [] => isDigits whole
  | _ :: fraction => (whole.isEmpty || isDigits whole) && isDigits fraction

/-- An argument that starts with a dash and names no option. -/
def unnamed (cs : List Char) : Word :=
  if isNumber (cs.drop 1) || cs.contains ' ' then .plain (String.ofList cs) else .unknown

/-- Classifies an argument. -/
def classify (argument : String) : Except Stop Word :=
  match argument.toList with
  | '-' :: '-' :: [] => .ok .divider
  | '-' :: '-' :: name =>
    let cs := '-' :: '-' :: name
    match Flag.startingWith (cs.takeWhile fun c => c != '=') with
    | [] => .ok (unnamed cs)
    | [flag] => .ok (.long flag (attachedFrom (cs.dropWhile fun c => c != '=')))
    | _ => .error .misuse
  | '-' :: c :: rest =>
    match Flag.ofLetter? c with
    | some flag => .ok (.short flag (attachedAfter rest))
    | none => .ok (unnamed ('-' :: c :: rest))
  | _ => .ok (.plain argument)

/-- Classifies all arguments. -/
def classifyAll : List String → Except Stop (List Word)
  | [] => .ok []
  | argument :: rest => do
    match ← classify argument with
    | .divider => pure (.divider :: rest.map Word.plain)
    | word => do
      let words ← classifyAll rest
      pure (word :: words)

/-! ## Values -/

/-- Arguments as they are used. -/
structure Arguments where
  query : Option String := none
  file : Option String := none
  output : Option String := none
  mode : Option Mode := none
  mappings : Option String := none
  indent : Option Int := some 2
  verbose : Bool := false
  deriving DecidableEq, Repr

/-- An option with its value, if it has one. -/
structure Setting where
  flag : Flag
  value : Option String := none
  deriving DecidableEq, Repr

/-- The value that is attached to an option. -/
def attachedValue (cs : List Char) : Option String :=
  if cs = ['-', '-'] then none else some (String.ofList cs)

/-- The indentation that a value stands for. -/
def indentation : Option String → Except Stop (Option Int)
  | none => .ok none
  | some text =>
    match Text.integer? text with
    | some n => .ok (some n)
    | none => .error .misuse

/-- Carries out an option. Two different modes exclude each other. -/
def Arguments.set (a : Arguments) (s : Setting) : Except Stop Arguments :=
  match s.flag with
  | .help => .error .help
  | .file => .ok { a with file := s.value }
  | .output => .ok { a with output := s.value }
  | .mappings => .ok { a with mappings := s.value }
  | .verbose => .ok { a with verbose := true }
  | .indent => do
    let indent ← indentation s.value
    pure { a with indent }
  | .mode m =>
    if a.mode.any fun other => other != m then .error .misuse else .ok { a with mode := some m }

/-- Carries out options in turn. -/
def Arguments.setAll (a : Arguments) : List Setting → Except Stop Arguments
  | [] => .ok a
  | s :: rest => do
    let b ← a.set s
    b.setAll rest

/-- What an argument with options comes to: settings, and what is still open after them. -/
inductive Pending where
  /-- Nothing. -/
  | settled (settings : List Setting)
  /-- The last option takes the next argument as its value. -/
  | wanting (settings : List Setting) (flag : Flag)

/-- Puts a setting before the others. -/
def Pending.after (s : Setting) : Pending → Pending
  | .settled settings => .settled (s :: settings)
  | .wanting settings flag => .wanting (s :: settings) flag

/-- An option with nothing attached. -/
def bare (flag : Flag) : Pending :=
  if flag.takesValue then .wanting [] flag else .settled [{ flag }]

/-- An option with an attached value. -/
def valued (flag : Flag) (cs : List Char) : Pending :=
  .settled [{ flag, value := attachedValue cs }]

/-- Short options that are run together: an option, and what stands after its letter. -/
def runTogether (flag : Flag) : List Char → Except Stop Pending
  | [] => .ok (bare flag)
  | c :: rest =>
    if flag.takesValue then .ok (valued flag (c :: rest))
    else
      match Flag.ofLetter? c with
      | some next => do
        let pending ← runTogether next rest
        pure (pending.after { flag })
      | none => .error .misuse

/-- What an argument with a short option comes to. -/
def pendingShort (flag : Flag) : Attached → Except Stop Pending
  | none => .ok (bare flag)
  | some [] => if flag.takesValue then .ok (valued flag []) else .error .misuse
  | some cs => runTogether flag cs

/-- What an argument with a long option comes to. -/
def pendingLong (flag : Flag) : Attached → Except Stop Pending
  | none => .ok (bare flag)
  | some cs => if flag.takesValue then .ok (valued flag cs) else .error .misuse

/-- Arguments under way: what is set, whether the query has had its turn, and whether something is
left over. -/
structure Progress where
  arguments : Arguments := {}
  queryTaken : Bool := false
  leftOver : Bool := false

/-- Lets the query take its turn. -/
def Progress.takeQuery (p : Progress) (query : Option String) : Progress :=
  if p.queryTaken then { p with leftOver := true }
  else { p with arguments := { p.arguments with query }, queryTaken := true }

/-- Carries out settings. -/
def Progress.set (p : Progress) (settings : List Setting) : Except Stop Progress := do
  let arguments ← p.arguments.setAll settings
  pure { p with arguments }

/-- What an argument that is an option comes to. -/
def Word.pending : Word → Except Stop Pending
  | .long flag attached => pendingLong flag attached
  | .short flag attached => pendingShort flag attached
  | .unknown => .ok (.settled [])
  | .plain _ => .ok (.settled [])
  | .divider => .ok (.settled [])

/-- Goes through the classified arguments. The query also takes the two dashes that stand
next to it. -/
def consume (p : Progress) : List Word → Except Stop Progress
  | [] => .ok p
  | .plain text :: .divider :: rest => consume (p.takeQuery (some text)) rest
  | .plain text :: rest => consume (p.takeQuery (some text)) rest
  | .divider :: .plain text :: rest => consume (p.takeQuery (some text)) rest
  | .divider :: rest => consume (p.takeQuery none) rest
  | .unknown :: rest => consume { p with leftOver := true } rest
  | word :: rest =>
    match word.pending with
    | .error e => .error e
    | .ok (.settled settings) =>
      match p.set settings with
      | .error e => .error e
      | .ok q => consume q rest
    | .ok (.wanting settings flag) =>
      match rest with
      | .plain value :: others =>
        match p.set (settings ++ [{ flag, value := some value }]) with
        | .error e => .error e
        | .ok q => consume q others
      | _ => .error .misuse

/-- Reads the arguments of the command. -/
def Arguments.parse (argv : List String) : Except Stop Arguments := do
  let words ← classifyAll argv
  let p ← consume {} words
  if p.leftOver then throw .misuse
  pure p.arguments

end EntityQuery.CommandLine
