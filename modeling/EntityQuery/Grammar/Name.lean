import EntityQuery.Grammar.Reading
import EntityQuery.Node

/-!
# Names

Identifiers, aliases, entity names, paths and types. A name starts with an identifier or a function
name; after a point every word is a name.
-/

namespace EntityQuery.Reading

/-- A name without points; `role` says in a message what it was to name. -/
def name (role : String) : Reading String := do
  let t ← current
  if t.kind.isName then
    let t ← advance
    pure t.text
  else fail (.noName role)

/-- The word after a point. -/
def wordAfterDot : Reading String := do
  let t ← current
  if t.kind.isWord then
    let t ← advance
    pure t.text
  else fail .noWordAfterDot

/-- Names joined by points. -/
def dottedName (role : String) : Reading (List String) := do
  let first ← name role
  loop (fun parts => do
    if ← accept (.symbol .dot) then
      let word ← wordAfterDot
      pure (some (parts ++ [word]))
    else pure none) [first]

/-- An entity name, with its package if it has one. -/
def entityName : Reading String := do
  let parts ← dottedName "entity name"
  pure (dotted parts)

/-- A path. -/
def path : Reading Node := do
  let parts ← dottedName "identifier"
  pure (.path parts)

/-- An alias, if there is one: any name behind `AS`, an identifier without it. -/
def alias? : Reading (Option String) := do
  if ← accept (.reserved .asWord) then
    let a ← name "alias after AS"
    pure (some a)
  else if ← at? .identifier then
    let t ← advance
    pure (some t.text)
  else pure none

/-- A type: a name, and sizes in parentheses if there are any. -/
def typeName : Reading String := do
  let base ← entityName
  if ← accept (.symbol .leftParen) then
    let sizes ← commaSeparated (expect .integer .noTypeSize)
    let _ ← expect (.symbol .rightParen) (.noToken (.symbol .rightParen))
    pure (base ++ "(" ++ ", ".intercalate (sizes.map Token.text) ++ ")")
  else pure base

/-- A parameter. The colon of a named one is dropped. -/
def parameter : Reading Node := do
  let t ← advance
  if t.kind = .namedParameter then pure (.parameter (String.ofList t.text.toList.tail) false)
  else pure (.parameter t.text true)

end EntityQuery.Reading
