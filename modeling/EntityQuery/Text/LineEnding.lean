/-!
# Line endings

Text that is read from a file or a pipe has its line endings unified: a carriage return, alone or
before a line feed, counts as a line feed.
-/

namespace EntityQuery.Text

/-- Characters with unified line endings. -/
def unifiedChars : List Char → List Char
  | [] => []
  | '\r' :: '\n' :: rest => '\n' :: unifiedChars rest
  | '\r' :: rest => '\n' :: unifiedChars rest
  | c :: rest => c :: unifiedChars rest

/-- A text with unified line endings. -/
def unifiedLines (s : String) : String :=
  String.ofList (unifiedChars s.toList)

end EntityQuery.Text
