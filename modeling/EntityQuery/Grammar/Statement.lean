import EntityQuery.Grammar.Expression

/-!
# Statements

Clauses and statements, and the levels of a query.

`level` is recursive in the number of nesting levels that are left. The limit on nesting is
therefore also the reason why reading ends: with no level left, every place where a query nests
fails with `GrammarFault.tooDeep`.
-/

namespace EntityQuery.Reading

variable (inner : Entry → Reading Node)

/-! ## Clauses -/

/-- An item of a select list. -/
def selectItem : Reading Node := do
  if ← accept (.reserved .new) then
    let className ← entityName
    let _ ← expect (.symbol .leftParen) .noConstructorOpen
    let args ← arguments inner .noConstructorClose
    let asName ← alias?
    pure (.constructor className args asName)
  else
    let e ← inner .expression
    let asName ← alias?
    pure (.selectItem e asName)

/-- The words before `JOIN`. -/
def joinKind : Reading JoinKind := do
  if ← accept (.reserved .inner) then pure .inner
  else if ← accept (.reserved .left) then
    if ← accept (.reserved .outer) then pure .leftOuter else pure .left
  else if ← accept (.reserved .right) then
    if ← accept (.reserved .outer) then pure .rightOuter else pure .right
  else pure .plain

/-- A join. -/
def join : Reading Node := do
  let kind ← joinKind
  let _ ← expect (.reserved .join) (.noToken (.reserved .join))
  let fetch ← accept (.reserved .fetch)
  let along ← path
  let asName ← alias?
  let condition ← behind (.reserved .on) (inner .expression)
  pure (.join kind along asName fetch condition)

/-- The words that a join may start with. -/
def startsJoin : TokenKind → Bool
  | .reserved .join | .reserved .inner | .reserved .left | .reserved .right => true
  | _ => false

/-- The joins of an item of a from list. -/
def joins : Reading (List Node) :=
  loop (fun done => do
    let t ← current
    if startsJoin t.kind then
      let j ← join inner
      pure (some (done ++ [j]))
    else pure none) []

/-- An item of a from list. -/
def fromItem : Reading Node := do
  let entity ← entityName
  let asName ← alias?
  let joins ← joins inner
  pure (.fromItem entity asName joins)

/-- The direction of an ordering. -/
def direction? : Reading (Option Direction) := do
  if ← accept (.reserved .asc) then pure (some .ascending)
  else if ← accept (.reserved .desc) then pure (some .descending)
  else pure none

/-- The place of nulls in an ordering. -/
def nullsPlace? : Reading (Option String) := do
  if ← accept (.reserved .nulls) then
    if ← accept (.reserved .first) then pure (some "FIRST")
    else if ← accept (.reserved .last) then pure (some "LAST")
    else fail .noNullsPlace
  else pure none

/-- An item of an ordering. -/
def orderItem : Reading Node := do
  let e ← inner .expression
  let direction ← direction?
  let nulls ← nullsPlace?
  pure (.orderItem e direction nulls)

/-- The grouping of a select statement, empty if there is none. -/
def grouping : Reading (List Node) := do
  if ← accept (.reserved .group) then
    let _ ← expect (.reserved .byWord) .noByAfterGroup
    commaSeparated (inner .expression)
  else pure []

/-- The ordering of a select statement, empty if there is none. -/
def ordering : Reading (List Node) := do
  if ← accept (.reserved .order) then
    let _ ← expect (.reserved .byWord) .noByAfterOrder
    commaSeparated (orderItem inner)
  else pure []

/-- A condition, if there is one. -/
def condition? : Reading (Option Node) :=
  behind (.reserved .whereWord) (inner .expression)

/-- An assignment of an update. -/
def assignment : Reading Node := do
  let target ← path
  let _ ← expect (.symbol .equals) .noEqualsInSet
  let value ← inner .expression
  pure (.assignment target value)

/-! ## Statements -/

/-- A select statement. -/
def selectStatement : Reading Node := do
  let _ ← expect (.reserved .select) (.noToken (.reserved .select))
  let distinct ← accept (.reserved .distinct)
  let items ← commaSeparated (selectItem inner)
  let _ ← expect (.reserved .fromWord) (.noToken (.reserved .fromWord))
  let sources ← commaSeparated (fromItem inner)
  let condition ← condition? inner
  let grouping ← grouping inner
  let having ← behind (.reserved .having) (inner .expression)
  let ordering ← ordering inner
  pure (.select items sources distinct condition grouping having ordering)

/-- An update statement. -/
def updateStatement : Reading Node := do
  let _ ← expect (.reserved .update) (.noToken (.reserved .update))
  let entity ← entityName
  let asName ← alias?
  let _ ← expect (.reserved .set) (.noToken (.reserved .set))
  let assignments ← commaSeparated (assignment inner)
  let condition ← condition? inner
  pure (.update entity asName assignments condition)

/-- A delete statement; `FROM` may be left out. -/
def deleteStatement : Reading Node := do
  let _ ← expect (.reserved .delete) (.noToken (.reserved .delete))
  let _ ← accept (.reserved .fromWord)
  let entity ← entityName
  let asName ← alias?
  let condition ← condition? inner
  pure (.delete entity asName condition)

/-- An insert statement, whose rows come from a select statement. -/
def insertStatement : Reading Node := do
  let _ ← expect (.reserved .insert) (.noToken (.reserved .insert))
  let _ ← expect (.reserved .into) .noInto
  let entity ← entityName
  let _ ← expect (.symbol .leftParen) .noTargetsOpen
  let targets ← commaSeparated path
  let _ ← expect (.symbol .rightParen) .noTargetsClose
  if ← at? (.reserved .select) then
    let source ← inner .select
    pure (.insert entity targets (some source))
  else fail .noInsertSource

/-- A statement, chosen by its first word. -/
def statement : Reading Node := do
  let t ← current
  match t.kind with
  | .reserved .select => inner .select
  | .reserved .update => updateStatement inner
  | .reserved .delete => deleteStatement inner
  | .reserved .insert => insertStatement inner
  | _ => fail .noStatement

/-- A whole query: a statement, one semicolon if there is one, and nothing more. -/
def query : Reading Node := do
  let node ← statement inner
  let _ ← accept (.symbol .semicolon)
  if ← at? .endOfInput then pure node else fail .trailingToken

/-! ## Levels -/

/-- What is read at a place where a query nests, given the readings one level further in. -/
def atEntry : Entry → Reading Node
  | .expression => disjunction inner
  | .select => selectStatement inner
  | .negation => negatable inner
  | .sign => signed inner

/-- The readings of the places where a query nests, with a number of nesting levels left. -/
def level (limit : Int) : Nat → Entry → Reading Node
  | 0, _ => tooDeep limit
  | n + 1, entry => nested (atEntry (level limit n) entry)

end EntityQuery.Reading
