import EntityQuery.Node.Dictionary
import EntityQuery.Proofs.Json
import EntityQuery.Proofs.Sql.Translation

/-!
# Reading a tree back from its dictionary form

A dictionary form has dotted text for paths, and no fields for what is absent, empty or as usual.
`ofDictionary?` reads the tree back.

Every value is read on its own first, with the fields of an object as a record (`Value.ofJson`), so
that the recursion follows the values. `assemble` then makes a node from a label and the record,
without recursion: it only looks fields up.

`ofJson_eq_of_equal`: equal values are read alike. So the order of the fields and the spelling of
truth values as numbers do not count.
-/

namespace EntityQuery

/-! ## Names of kinds -/

/-- The literal kind of a name. -/
def LiteralKind.ofName? (name : String) : Option LiteralKind :=
  [LiteralKind.integer, .decimal, .string, .boolean, .null].find? fun k => k.name == name

@[simp] theorem LiteralKind.ofName?_name (kind : LiteralKind) :
    LiteralKind.ofName? kind.name = some kind := by
  cases kind <;> rfl

/-- The direction of a word. -/
def Direction.ofWord? (word : String) : Option Direction :=
  [Direction.ascending, .descending].find? fun d => d.word == word

@[simp] theorem Direction.mapM_ofWord? (direction : Option Direction) :
    (direction.map Direction.word).mapM Direction.ofWord? = some direction := by
  rcases direction with - | - | - <;> rfl

/-- The name of a join kind in exported trees. -/
def JoinKind.label (kind : JoinKind) : String :=
  if kind = .plain then "JOIN" else kind.words

/-- The join kind of a name. -/
def JoinKind.ofLabel? (label : String) : Option JoinKind :=
  [JoinKind.plain, .inner, .left, .leftOuter, .right, .rightOuter].find? fun k => k.label == label

/-- No two kinds of joins have the same label, although a plain join has words of its own there. -/
@[simp] theorem JoinKind.ofLabel?_label (kind : JoinKind) :
    JoinKind.ofLabel? kind.label = some kind := by
  cases kind <;> rfl

namespace Node

open Sql

/-- The forms of a node that have labels of their own. -/
inductive Form where
  | literal | path | parameter | star | call | paren | unary | binary | isNull | between | inSet
  | like | memberOf
  | existsQuery | subquery | branch | caseOf | selectItem | constructor | join | fromItem
  | assignment | orderItem
  | select | update | delete | insert

/-- The form of a label. -/
def Form.ofLabel? : String → Option Form
  | "Literal" => some .literal
  | "Path" => some .path
  | "Parameter" => some .parameter
  | "Star" => some .star
  | "FunctionCall" => some .call
  | "Parenthesized" => some .paren
  | "UnaryExpression" => some .unary
  | "BinaryExpression" => some .binary
  | "IsNullExpression" => some .isNull
  | "BetweenExpression" => some .between
  | "InExpression" => some .inSet
  | "LikeExpression" => some .like
  | "MemberOfExpression" => some .memberOf
  | "ExistsExpression" => some .existsQuery
  | "SubqueryExpression" => some .subquery
  | "WhenClause" => some .branch
  | "CaseExpression" => some .caseOf
  | "SelectItem" => some .selectItem
  | "ConstructorItem" => some .constructor
  | "JoinClause" => some .join
  | "FromItem" => some .fromItem
  | "Assignment" => some .assignment
  | "OrderByItem" => some .orderItem
  | "SelectStatement" => some .select
  | "UpdateStatement" => some .update
  | "DeleteStatement" => some .delete
  | "InsertStatement" => some .insert
  | _ => none

/-! ## Values -/

/-- What a value in a dictionary form stands for. -/
inductive Value where
  /-- Null, and what a field that is left out has. -/
  | nothing
  /-- An integer, or a truth value or double as the integer that it is equal to. -/
  | number (n : Int)
  | text (s : String)
  | list (items : List Value)
  | tree (node : Node)
  /-- What nothing is exported as. -/
  | malformed

namespace Value

def text? : Value → Option String
  | .text s => some s
  | _ => none

def optionalText? : Value → Option (Option String)
  | .nothing => some none
  | .text s => some (some s)
  | _ => none

/-- A truth value, which is the usual one if it is left out. -/
def flag? (usual : Bool) : Value → Option Bool
  | .nothing => some usual
  | .number n => if n = 0 then some false else if n = 1 then some true else none
  | _ => none

def node? : Value → Option Node
  | .tree n => some n
  | _ => none

def optionalNode? : Value → Option (Option Node)
  | .nothing => some none
  | .tree n => some (some n)
  | _ => none

/-- Nodes, of which there are none if the list is left out. -/
def nodes? : Value → Option (List Node)
  | .nothing => some []
  | .list items => items.mapM node?
  | _ => none

/-- A path in dotted text. -/
def path? : Value → Option Node
  | .text s => some (.path (nameParts s))
  | _ => none

def paths? : Value → Option (List Node)
  | .list items => items.mapM path?
  | _ => none

end Value

/-- The value of a field in a record. -/
def valueAt (record : List (String × Value)) (key : String) : Value :=
  (record.lookup key).getD .nothing

@[simp] theorem valueAt_nil (key : String) : valueAt [] key = .nothing := rfl

@[simp] theorem valueAt_cons (k : String) (v : Value) (rest : List (String × Value))
    (key : String) :
    valueAt ((k, v) :: rest) key = if k = key then v else valueAt rest key := by
  rw [valueAt, List.lookup_cons]
  by_cases h : k = key
  · simp [h]
  · rw [if_neg h, beq_false_of_ne (Ne.symm h)]
    rfl

/-! ## Nodes -/

/-- The node of a form, from the values of its fields. -/
def assemble (get : String → Value) : Form → Option Node
  | .literal => do
    let kind ← (get "literal_type").text?
    return .literal (← (get "value").text?) (← LiteralKind.ofName? kind)
  | .path => (get "path").path?
  | .parameter => return .parameter (← (get "name").text?) (← (get "positional").flag? false)
  | .star => return .star
  | .call =>
    return .call (← (get "name").text?) (← (get "arguments").nodes?)
      (← (get "distinct").flag? false)
      (← (get "known").flag? true) (← (get "trim_specification").optionalText?)
      (← (get "trim_character").optionalNode?) (← (get "cast_type").optionalText?)
  | .paren => return .paren (← (get "expression").node?)
  | .unary => return .unary (← (get "operator").text?) (← (get "operand").node?)
  | .binary =>
    return .binary (← (get "left").node?) (← (get "operator").text?) (← (get "right").node?)
  | .isNull => return .isNull (← (get "expression").node?) (← (get "negated").flag? false)
  | .between =>
    return .between (← (get "expression").node?) (← (get "lower").node?) (← (get "upper").node?)
      (← (get "negated").flag? false)
  | .inSet =>
    return .inSet (← (get "expression").node?) (← (get "values").nodes?)
      (← (get "subquery").optionalNode?)
      (← (get "parameter").optionalNode?) (← (get "negated").flag? false)
  | .like =>
    return .like (← (get "expression").node?) (← (get "pattern").node?)
      (← (get "escape").optionalNode?) (← (get "negated").flag? false)
  | .memberOf =>
    return .memberOf (← (get "element").node?) (← (get "collection").node?)
      (← (get "negated").flag? false)
  | .existsQuery => return .existsQuery (← (get "subquery").node?)
  | .subquery => return .subquery (← (get "query").node?)
  | .branch => return .branch (← (get "when").node?) (← (get "then").node?)
  | .caseOf =>
    return .caseOf (← (get "operand").optionalNode?) (← (get "when_clauses").nodes?)
      (← (get "else").optionalNode?)
  | .selectItem => return .selectItem (← (get "expression").node?) (← (get "alias").optionalText?)
  | .constructor =>
    return .constructor (← (get "class_name").text?) (← (get "arguments").nodes?)
      (← (get "alias").optionalText?)
  | .join => do
    let kind ← (get "kind").text?
    return .join (← JoinKind.ofLabel? kind) (← (get "path").path?) (← (get "alias").optionalText?)
      (← (get "fetch").flag? false) (← (get "on").optionalNode?)
  | .fromItem =>
    return .fromItem (← (get "entity").text?) (← (get "alias").optionalText?)
      (← (get "joins").nodes?)
  | .assignment => return .assignment (← (get "target").path?) (← (get "value").node?)
  | .orderItem => do
    let direction ← (get "direction").optionalText?
    return .orderItem (← (get "expression").node?) (← direction.mapM Direction.ofWord?)
      (← (get "nulls").optionalText?)
  | .select =>
    return .select (← (get "select").nodes?) (← (get "from").nodes?)
      (← (get "distinct").flag? false)
      (← (get "where").optionalNode?) (← (get "group_by").nodes?) (← (get "having").optionalNode?)
      (← (get "order_by").nodes?)
  | .update =>
    return .update (← (get "entity").text?) (← (get "alias").optionalText?) (← (get "set").nodes?)
      (← (get "where").optionalNode?)
  | .delete =>
    return .delete (← (get "entity").text?) (← (get "alias").optionalText?)
      (← (get "where").optionalNode?)
  | .insert =>
    return .insert (← (get "entity").text?) (← (get "columns").paths?)
      (← (get "select").optionalNode?)

/-- The node of a record that has its label. -/
def ofRecord? (record : List (String × Value)) : Option Node := do
  let label ← (valueAt record "node_type").text?
  let form ← Form.ofLabel? label
  assemble (valueAt record) form

namespace Value

/-- A number, if it is an integer. -/
def ofInt? : Option Int → Value
  | some n => .number n
  | none => .malformed

/-- A node that was made, if one was. -/
def made : Option Node → Value
  | some n => .tree n
  | none => .malformed

mutual

/-- What a value stands for. -/
def ofJson : Json → Value
  | .null => .nothing
  | .bool b => .number (if b then 1 else 0)
  | .int n => .number n
  | .decimal x => .ofInt? x.int?
  | .str s => .text s
  | .arr items => .list (ofItems items)
  | .obj fields => .made (ofRecord? (ofFields fields))

/-- What the items of a list stand for. -/
def ofItems : List Json → List Value
  | [] => []
  | j :: rest => ofJson j :: ofItems rest

/-- The record of an object. -/
def ofFields : List (String × Json) → List (String × Value)
  | [] => []
  | (key, j) :: rest => (key, ofJson j) :: ofFields rest

end

end Value

/-- The tree of a dictionary form. -/
def ofDictionary? (j : Json) : Option Node :=
  (Value.ofJson j).node?

/-! ## Equal values -/

namespace Value

theorem ofItems_eq (js : List Json) : ofItems js = js.map ofJson := by
  induction js with
  | nil => rw [ofItems, List.map_nil]
  | cons j js ih => rw [ofItems, ih, List.map_cons]

/-- The record of an object has the value of each of its fields. -/
theorem valueAt_ofFields (fields : List (String × Json)) (key : String) :
    valueAt (ofFields fields) key = ((Json.field? fields key).map ofJson).getD .nothing := by
  induction fields with
  | nil => rfl
  | cons f rest ih =>
    obtain ⟨k, j⟩ := f
    rw [ofFields, valueAt_cons, Json.field?_cons, ih]
    split <;> rfl

/-- Truth values, integers and doubles that count as one integer are read alike. -/
theorem ofJson_of_asInt? {j : Json} {n : Int} (h : j.asInt? = some n) : ofJson j = .number n := by
  cases j with
  | bool | int =>
    cases h
    rfl
  | decimal x =>
    rw [ofJson, show x.int? = some n from h]
    rfl
  | _ => cases h

/-- Equal lists are read alike, if their items are. -/
theorem map_ofJson_of_equal {xs ys : List Json}
    (h : ∀ x ∈ xs, ∀ {y : Json}, x.equal y = true → ofJson y = ofJson x)
    (hys : List.Forall₂ (fun x y => x.equal y = true) xs ys) : ys.map ofJson = xs.map ofJson := by
  induction hys with
  | nil => rfl
  | cons hy _ ih =>
    rw [List.forall_mem_cons] at h
    rw [List.map_cons, List.map_cons, h.1 hy, ih h.2]

/-- Equal values are read alike. -/
theorem ofJson_eq_of_equal {d j : Json} (hd : d.DistinctKeys) (h : d.equal j = true) :
    ofJson j = ofJson d := by
  induction hd generalizing j with
  | null =>
    cases j with
    | null => rfl
    | _ => cases h
  | bool | int => rw [ofJson_of_asInt? (Json.asInt?_of_equal rfl h), ofJson_of_asInt? rfl]
  | str s =>
    cases j with
    | str t =>
      rw [Json.equal, beq_iff_eq] at h
      rw [h]
    | _ => cases h
  | decimal x =>
    cases hn : x.int? with
    | some n =>
      have hx : (Json.decimal x).asInt? = some n := hn
      rw [ofJson_of_asInt? (Json.asInt?_of_equal hx h), ofJson_of_asInt? hx]
    | none =>
      cases j with
      | decimal y =>
        rw [Json.equal] at h
        rw [ofJson, ofJson, Json.int?_of_equal h]
      | _ => simp [Json.equal, Json.asInt?, Json.sameInt, hn] at h
  | arr _ ih =>
    obtain ⟨ys, rfl, hys⟩ := Json.arr_of_equal h
    rw [ofJson, ofJson, ofItems_eq, ofItems_eq, map_ofJson_of_equal ih hys]
  | @obj fields hk _ ih =>
    obtain ⟨ys, rfl, hys⟩ := Json.obj_of_equal hk h
    -- A node is made from lookups alone, and these give equal values.
    have hvalues : valueAt (ofFields ys) = valueAt (ofFields fields) := by
      funext key
      rw [valueAt_ofFields, valueAt_ofFields]
      have hkey := hys key
      generalize hx : Json.field? fields key = x?, Json.field? ys key = y? at hkey
      cases hkey with
      | none => rfl
      | @some v w hvw =>
        rw [Option.map_some, Option.map_some, ih (key, v) (Json.mem_of_field? hx) hvw]
    rw [ofJson, ofJson, ofRecord?, ofRecord?, hvalues]

end Value

end Node

end EntityQuery
