/-!
# Log entries

What a run has to say about itself. Operations return their entries as data, in order; only the
outermost layer prints them.
-/

namespace EntityQuery.Log

/-- How much an entry matters. -/
inductive Level where
  | debug
  | warning
  deriving DecidableEq, Repr

/-- The part of the program that speaks. -/
inductive Channel where
  | tokens
  | parsing
  | analysis
  | conversion
  | relations
  | config
  deriving DecidableEq, Repr

/-- One entry of the log. -/
structure Entry where
  channel : Channel
  level : Level
  message : String
  deriving DecidableEq, Repr

/-- The name of a level in a printed line. -/
def Level.name : Level → String
  | .debug => "DEBUG"
  | .warning => "WARNING"

/-- The name of a channel in a printed line. -/
def Channel.name : Channel → String
  | .tokens => "hql_parser.tokenizer"
  | .parsing => "hql_parser.parser"
  | .analysis => "hql_parser.analyzer"
  | .conversion => "hql_parser.converter"
  | .relations => "hql_parser.relationships"
  | .config => "hql_parser.config"

/-- The log of a run, oldest entry first. -/
abbrev Book := List Entry

/-- Computations that keep a log. -/
abbrev Logging := StateM Book

/-- Writes an entry. -/
def write (channel : Channel) (level : Level) (message : String) : Logging Unit :=
  modify fun book => book ++ [⟨channel, level, message⟩]

/-- The printed line of an entry, without its line break. -/
def Entry.line (timestamp : String) (e : Entry) : String :=
  "[" ++ timestamp ++ "] [" ++ e.channel.name ++ "] [" ++ e.level.name ++ "] " ++ e.message

end EntityQuery.Log
