import EntityQuery.Text.LetterCase
import EntityQuery.Text.Quoted

/-!
# Tokens

The words and signs of the query language, the kinds of tokens, and tokens with their place in the
query.

Words come in four groups that the grammar treats differently. Reserved words structure a statement.
Function names are names unless a parenthesis follows them. Clock functions are called without
parentheses. Every other word is an identifier.
-/

namespace EntityQuery

/-! ## Places -/

/-- A place in a text: line and column count from one, the offset counts the characters
before it. -/
structure Position where
  line : Nat := 1
  column : Nat := 1
  offset : Nat := 0
  deriving DecidableEq, Repr

/-- The place after one character. Only a line feed starts a new line. -/
def Position.next (p : Position) (c : Char) : Position :=
  if c = '\n' then ⟨p.line + 1, 1, p.offset + 1⟩ else ⟨p.line, p.column + 1, p.offset + 1⟩

/-- The place after a piece of text. -/
def Position.after (p : Position) (text : List Char) : Position :=
  text.foldl Position.next p

/-! ## Words -/

/-- Words that structure a statement. Where the bare word is taken, the name ends in `Word`. -/
inductive Reserved where
  | select | update | delete | insert | into | set
  | fromWord | whereWord | group | byWord | having | order | asc | desc | nulls | first | last
  | distinct | asWord | new
  | join | inner | left | right | outer | fetch | on
  | and | or | not | is | null | between | inWord | like | escape | member | of | exists | trueWord
  | falseWord
  | case | whenWord | thenWord | elseWord | endWord
  deriving DecidableEq, Repr

namespace Reserved

/-- The lower case spelling. -/
def word : Reserved → String
  | .select =>
    "select" | .update => "update" | .delete => "delete" | .insert => "insert" | .into => "into"
  | .set =>
    "set" | .fromWord => "from" | .whereWord => "where" | .group => "group" | .byWord => "by"
  | .having => "having" | .order => "order" | .asc => "asc" | .desc => "desc" | .nulls => "nulls"
  | .first => "first" | .last => "last" | .distinct => "distinct" | .asWord => "as" | .new => "new"
  | .join => "join" | .inner => "inner" | .left => "left" | .right => "right" | .outer => "outer"
  | .fetch => "fetch" | .on => "on" | .and => "and" | .or => "or" | .not => "not" | .is =>
      "is" | .null => "null"
  | .between =>
    "between" | .inWord => "in" | .like => "like" | .escape => "escape" | .member => "member"
  | .of =>
    "of" | .exists => "exists" | .trueWord => "true" | .falseWord => "false" | .case => "case"
  | .whenWord => "when" | .thenWord => "then" | .elseWord => "else" | .endWord => "end"

/-- All reserved words. -/
def all : List Reserved :=
  [.select, .update, .delete, .insert, .into, .set,
   .fromWord, .whereWord, .group, .byWord, .having, .order, .asc, .desc, .nulls, .first, .last,
   .distinct, .asWord, .new, .join, .inner, .left, .right, .outer, .fetch, .on,
   .and, .or, .not, .is, .null, .between, .inWord, .like, .escape, .member, .of, .exists, .trueWord,
   .falseWord, .case, .whenWord, .thenWord, .elseWord, .endWord]

end Reserved

/-- Functions with a name of their own in the language. -/
inductive Function where
  | avg | count | max | min | sum
  | upper | lower | trim | length | concat | substring | size | abs | sqrt | mod | coalesce
  | nullif | cast
  deriving DecidableEq, Repr

namespace Function

/-- The lower case spelling. -/
def word : Function → String
  | .avg =>
    "avg" | .count => "count" | .max => "max" | .min => "min" | .sum => "sum" | .upper => "upper"
  | .lower => "lower" | .trim => "trim" | .length => "length" | .concat => "concat" | .substring =>
      "substring"
  | .size => "size" | .abs => "abs" | .sqrt => "sqrt" | .mod => "mod" | .coalesce => "coalesce"
  | .nullif => "nullif" | .cast => "cast"

/-- All function names. -/
def all : List Function :=
  [.avg, .count, .max, .min, .sum,
   .upper, .lower, .trim, .length, .concat, .substring, .size, .abs, .sqrt, .mod, .coalesce,
   .nullif, .cast]

/-- Functions over a group of rows: they take one argument, which may be marked distinct. -/
def isAggregate : Function → Bool
  | .avg | .count | .max | .min | .sum => true
  | _ => false

end Function

/-- Functions that are called without parentheses. -/
inductive Clock where
  | currentDate | currentTime | currentTimestamp
  deriving DecidableEq, Repr

namespace Clock

/-- The lower case spelling. -/
def word : Clock → String
  | .currentDate => "current_date"
  | .currentTime => "current_time"
  | .currentTimestamp => "current_timestamp"

/-- All clock functions. -/
def all : List Clock :=
  [.currentDate, .currentTime, .currentTimestamp]

end Clock

/-! ## Signs -/

/-- Operators and punctuation. -/
inductive Symbol where
  | equals | notEquals | lessThan | greaterThan | lessEqual | greaterEqual
  | plus | minus | star | divide | modulo | concat
  | comma | dot | semicolon | leftParen | rightParen
  deriving DecidableEq, Repr

/-- The name of a sign's kind. -/
def Symbol.name : Symbol → String
  | .equals => "EQUALS" | .notEquals => "NOT_EQUALS" | .lessThan => "LESS_THAN" | .greaterThan =>
      "GREATER_THAN"
  | .lessEqual =>
    "LESS_EQUAL" | .greaterEqual => "GREATER_EQUAL" | .plus => "PLUS" | .minus => "MINUS"
  | .star =>
    "STAR" | .divide => "DIVIDE" | .modulo => "MODULO" | .concat => "CONCAT_OP" | .comma => "COMMA"
  | .dot => "DOT" | .semicolon => "SEMICOLON" | .leftParen => "LPAREN" | .rightParen => "RPAREN"

/-! ## Kinds of tokens -/

/-- What a token is. -/
inductive TokenKind where
  | reserved (w : Reserved)
  | function (f : Function)
  | clock (c : Clock)
  | integer
  | decimal
  | string
  | identifier
  | namedParameter
  | positionalParameter
  | symbol (s : Symbol)
  | endOfInput
  deriving DecidableEq, Repr

namespace TokenKind

/-- A spelling in capitals. -/
def capitals (word : String) : String :=
  String.ofList (word.toList.map Char.toUpper)

/-- The name of a kind. The name of a word is the word in capitals. -/
def name : TokenKind → String
  | .reserved w => capitals w.word
  | .function f => capitals f.word
  | .clock c => capitals c.word
  | .integer => "INTEGER"
  | .decimal => "DECIMAL"
  | .string => "STRING"
  | .identifier => "IDENTIFIER"
  | .namedParameter => "NAMED_PARAMETER"
  | .positionalParameter => "POSITIONAL_PARAMETER"
  | .symbol s => s.name
  | .endOfInput => "EOF"

/-- The kind of a word whose lower case spelling is given. -/
def ofLowerWord (w : String) : TokenKind :=
  match Reserved.all.find? fun r => r.word == w with
  | some r => .reserved r
  | none =>
    match Function.all.find? fun f => f.word == w with
    | some f => .function f
    | none =>
      match Clock.all.find? fun c => c.word == w with
      | some c => .clock c
      | none => .identifier

/-- The kind of a word: case does not count. -/
def ofWord (text : String) : TokenKind :=
  ofLowerWord (Text.lower text)

/-- Any word, reserved or not; after a point every word is a name. -/
def isWord : TokenKind → Bool
  | .reserved _ | .function _ | .clock _ | .identifier => true
  | _ => false

/-- A word that may be a name without a point before it. -/
def isName : TokenKind → Bool
  | .identifier | .function _ => true
  | _ => false

/-- A query parameter. -/
def isParameter : TokenKind → Bool
  | .namedParameter | .positionalParameter => true
  | _ => false

end TokenKind

/-! ## Tokens -/

/-- A token: its kind, its text as written, and the place of its first character. -/
structure Token where
  kind : TokenKind
  text : String
  pos : Position
  deriving DecidableEq, Repr

namespace Token

/-- The token that ends every list of tokens. -/
def ending (pos : Position) : Token :=
  ⟨.endOfInput, "", pos⟩

/-- How a message names a token. -/
def describe (t : Token) : String :=
  if t.kind = .endOfInput then "end of input" else Text.quoted t.text

/-- A token on one line, with its kind, text and place. -/
def summary (t : Token) : String :=
  "Token(" ++ t.kind.name ++ ", " ++ Text.quoted t.text ++ ", line=" ++ toString t.pos.line ++
    ", col=" ++ toString t.pos.column ++ ")"

end Token

end EntityQuery
