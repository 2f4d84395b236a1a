/-!
# Registries

A registry holds entries in the order in which their keys first came. Entering a key again replaces
its value and keeps its place. The second container here is a plain list without repetition that
grows at its end.
-/

namespace EntityQuery

/-- Entries in the order in which their keys first came. -/
structure Registry (κ α : Type) where
  entries : List (κ × α) := []

namespace Registry

variable {κ α : Type} [BEq κ]

/-- The value of a key. -/
def get? (r : Registry κ α) (k : κ) : Option α :=
  (r.entries.find? fun e => e.1 == k).map Prod.snd

/-- Whether a key has been entered. -/
def contains (r : Registry κ α) (k : κ) : Bool :=
  r.entries.any fun e => e.1 == k

/-- A list of entries with one value replaced in place, or a new entry at its end. -/
def putEntry (k : κ) (v : α) : List (κ × α) → List (κ × α)
  | [] => [(k, v)]
  | e :: rest => if e.1 == k then (e.1, v) :: rest else e :: putEntry k v rest

/-- Enters a value. -/
def put (r : Registry κ α) (k : κ) (v : α) : Registry κ α :=
  ⟨putEntry k v r.entries⟩

/-- Enters each pair of a list in turn. -/
def ofList (pairs : List (κ × α)) : Registry κ α :=
  pairs.foldl (fun r e => r.put e.1 e.2) {}

/-- Enters all entries of a second registry in turn. -/
def putAll (r s : Registry κ α) : Registry κ α :=
  s.entries.foldl (fun t e => t.put e.1 e.2) r

/-- The keys, in order. -/
def keys (r : Registry κ α) : List κ :=
  r.entries.map Prod.fst

/-- The number of keys. -/
def size (r : Registry κ α) : Nat :=
  r.entries.length

/-- No entry at all. -/
def isEmpty (r : Registry κ α) : Bool :=
  r.entries.isEmpty

end Registry

/-- Puts a name at the end of a list unless the list has it already. -/
def appendNew {α : Type} [BEq α] (xs : List α) (x : α) : List α :=
  if xs.contains x then xs else xs ++ [x]

end EntityQuery
