import EntityQuery.Proofs.Node.Decoding
import EntityQuery.Proofs.Sql.TreeText

/-!
# Dictionary forms lose nothing

`ofDictionary?` reads every tree that a query can spell back from its dictionary form.

1. `Carries`: the fields of an object carry the values of a record, in which also those are listed
   that are left out. A record is read from the fields that carry it (`Carries.valueAt_eq`), as long
   as no key comes twice in it.
2. `exports_wellFormed`: by induction on the tree, with one statement for each form of a node: its
   fields carry a record, and the node is assembled from that.
3. `dictionary_equal_iff`: two statements have equal dictionary forms only if they are the same.
-/

namespace EntityQuery.Node

open Sql

/-! ## Fields -/

/-- Fields carry the values of a record, in its order. Those that are nothing may be left out. -/
inductive Carries : List (String × Json) → List (String × Value) → Prop
  | nil : Carries [] []
  | field (key : String) {j : Json} {v : Value} {fields : List (String × Json)}
      {record : List (String × Value)}
      (hj : j.DistinctKeys) (hv : Value.ofJson j = v) (h : Carries fields record) :
      Carries ((key, j) :: fields) ((key, v) :: record)
  | absent (key : String) {fields : List (String × Json)} {record : List (String × Value)}
      (h : Carries fields record) :
      Carries fields ((key, .nothing) :: record)

/-- Objects are put together from parts, some of which may be left out. -/
theorem Carries.append {xs ys : List (String × Json)} {vs ws : List (String × Value)}
    (h : Carries xs vs) (h' : Carries ys ws) : Carries (xs ++ ys) (vs ++ ws) := by
  induction h with
  | nil => exact h'
  | field key hj hv _ ih => exact .field key hj hv ih
  | absent key _ ih => exact .absent key ih

variable {fields : List (String × Json)} {record : List (String × Value)}

/-- No object inside the fields gives a key twice. -/
theorem Carries.distinctKeys (h : Carries fields record) : ∀ f ∈ fields, f.2.DistinctKeys := by
  induction h with
  | nil => simp
  | field key hj _ _ ih => exact List.forall_mem_cons.mpr ⟨hj, ih⟩
  | absent key _ ih => exact ih

/-- A key of the fields is one of the record, so a record without repeated keys is carried by an
object without repeated keys. -/
theorem Carries.keys_sublist (h : Carries fields record) :
    (fields.map Prod.fst).Sublist (record.map Prod.fst) := by
  induction h with
  | nil => exact .slnil
  | field key _ _ _ ih => exact ih.cons_cons key
  | absent key _ ih => exact ih.cons key

/-- A key that a record does not list has no value. -/
theorem valueAt_of_not_mem {key : String} (h : key ∉ record.map Prod.fst) :
    valueAt record key = .nothing := by
  induction record with
  | nil => rfl
  | cons f rest ih =>
    rw [List.map_cons, List.mem_cons, not_or] at h
    rw [valueAt_cons, if_neg (Ne.symm h.1), ih h.2]

/-- A record is read from the fields that carry it. -/
theorem Carries.valueAt_eq (h : Carries fields record) (hk : (record.map Prod.fst).Nodup) :
    valueAt (Value.ofFields fields) = valueAt record := by
  induction h with
  | nil => rfl
  | field key _ hv _ ih =>
    funext k
    rw [List.map_cons, List.nodup_cons] at hk
    rw [Value.ofFields, valueAt_cons, valueAt_cons, hv, ih hk.2]
  | absent key _ ih =>
    funext k
    rw [List.map_cons, List.nodup_cons] at hk
    rw [valueAt_cons, ih hk.2]
    -- The key of a field that is left out is not found further behind.
    split
    · next heq => rw [← heq, valueAt_of_not_mem hk.1]
    · rfl

/-! ## Values of fields -/

namespace Value

def flag (b : Bool) : Value :=
  .number (if b then 1 else 0)

/-- A truth value that is left out if it is the usual one. -/
def unusual (usual b : Bool) : Value :=
  if b = usual then .nothing else .flag b

def ofText? : Option String → Value
  | some s => .text s
  | none => .nothing

def ofNode? : Option Node → Value
  | some n => .tree n
  | none => .nothing

def trees (ns : List Node) : Value :=
  .list (ns.map .tree)

/-- A list that is left out if it is empty. -/
def someTrees (ns : List Node) : Value :=
  if ns.isEmpty then .nothing else trees ns

@[simp] theorem text?_text (s : String) : (Value.text s).text? = some s := rfl

@[simp] theorem flag?_flag (usual b : Bool) : (flag b).flag? usual = some b := by
  cases b <;> rfl

/-- A truth value that is left out is read as the usual one. -/
@[simp] theorem flag?_unusual (usual b : Bool) : (unusual usual b).flag? usual = some b := by
  unfold unusual
  split
  · next h => rw [h, flag?]
  · exact flag?_flag usual b

@[simp] theorem node?_tree (n : Node) : (tree n).node? = some n := rfl

/-- A text that is null or left out is read as none. -/
@[simp] theorem optionalText?_ofText? (s? : Option String) :
    (ofText? s?).optionalText? = some s? := by
  cases s? <;> rfl

@[simp] theorem optionalNode?_nothing : nothing.optionalNode? = some none := rfl

@[simp] theorem optionalNode?_tree (n : Node) : (tree n).optionalNode? = some (some n) := rfl

@[simp] theorem optionalNode?_ofNode? (n? : Option Node) :
    (ofNode? n?).optionalNode? = some n? := by
  cases n? <;> rfl

@[simp] theorem nodes?_nothing : nothing.nodes? = some [] := rfl

@[simp] theorem nodes?_trees (ns : List Node) : (trees ns).nodes? = some ns := by
  rw [trees, nodes?]
  induction ns with
  | nil => rfl
  | cons n ns ih => simp [ih]

/-- A list that is left out is read as the empty one. -/
@[simp] theorem nodes?_someTrees (ns : List Node) : (someTrees ns).nodes? = some ns := by
  unfold someTrees
  split
  · next h => rw [List.isEmpty_iff.mp h, nodes?]
  · exact nodes?_trees ns

end Value

/-! ## Fields of nodes -/

/-- A dictionary form from which a node is read. -/
structure ReadsAs (j : Json) (n : Node) : Prop where
  distinctKeys : j.DistinctKeys
  ofJson_eq : Value.ofJson j = .tree n

/-- The dictionary form of a child, under its key. -/
theorem Carries.node (key : String) {j : Json} {n : Node} (hj : ReadsAs j n)
    (h : Carries fields record) :
    Carries ((key, j) :: fields) ((key, .tree n) :: record) :=
  .field key hj.distinctKeys hj.ofJson_eq h

theorem Carries.text (key s : String) (h : Carries fields record) :
    Carries ((key, .str s) :: fields) ((key, .text s) :: record) :=
  .field key (.str s) rfl h

theorem Carries.flag (key : String) (b : Bool) (h : Carries fields record) :
    Carries ((key, .bool b) :: fields) ((key, .flag b) :: record) :=
  .field key (.bool b) rfl h

/-- The list of the dictionary forms of children, under one key. -/
theorem Carries.nodes (key : String) {js : List Json} {ns : List Node}
    (hjs : List.Forall₂ ReadsAs js ns) (h : Carries fields record) :
    Carries ((key, .arr js) :: fields) ((key, .trees ns) :: record) := by
  have hitems : (∀ j ∈ js, j.DistinctKeys) ∧ js.map Value.ofJson = ns.map .tree := by
    induction hjs with
    | nil => simp
    | cons hj _ ih =>
      exact ⟨List.forall_mem_cons.mpr ⟨hj.distinctKeys, ih.1⟩, by simp [hj.ofJson_eq, ih.2]⟩
  refine .field key (.arr hitems.1) ?_ h
  rw [Value.ofJson, Value.ofItems_eq, hitems.2, Value.trees]

theorem Carries.texts (key : String) (texts : List String) (h : Carries fields record) :
    Carries ((key, .arr (texts.map Json.str)) :: fields)
      ((key, .list (texts.map .text)) :: record) := by
  refine .field key (.arr ?_) ?_ h
  · rintro j hj
    obtain ⟨s, -, rfl⟩ := List.mem_map.mp hj
    exact .str s
  · rw [Value.ofJson, Value.ofItems_eq, List.map_map]
    rfl

/-- A text that is written also where there is none, as null. -/
theorem Carries.textOrNull (key : String) (s? : Option String) (h : Carries fields record) :
    Carries ((key, Json.textOrNull s?) :: fields) ((key, .ofText? s?) :: record) := by
  cases s? with
  | none => exact .field key .null rfl h
  | some s => exact .text key s h

/-- A child that is written also where there is none, as null. -/
theorem Carries.nodeOrNull (key : String) {j? : Option Json} {n? : Option Node}
    (hj : Option.Rel ReadsAs j? n?) (h : Carries fields record) :
    Carries ((key, j?.getD .null) :: fields) ((key, .ofNode? n?) :: record) := by
  cases hj with
  | none => exact .field key .null rfl h
  | some hj => exact .node key hj h

/-- A text that is left out where there is none. The empty text would be left out as well. -/
theorem carries_textField (key : String) {s? : Option String} (h : ∀ w ∈ s?, w ≠ "") :
    Carries (textField key s?) [(key, .ofText? s?)] := by
  rw [textField, given_eq h]
  cases s? with
  | none => exact .absent key .nil
  | some s => exact .text key s .nil

/-- A child that is left out where there is none. -/
theorem carries_optionalField (key : String) {j? : Option Json} {n? : Option Node}
    (h : Option.Rel ReadsAs j? n?) :
    Carries (optionalField key j?) [(key, .ofNode? n?)] := by
  cases h with
  | none => exact .absent key .nil
  | some hj => exact .node key hj .nil

/-- A list of children that is left out if it is empty. -/
theorem carries_listField (key : String) {js : List Json} {ns : List Node}
    (h : List.Forall₂ ReadsAs js ns) :
    Carries (listField key js) [(key, .someTrees ns)] := by
  cases h with
  | nil => exact .absent key .nil
  | cons hj h => exact .nodes key (.cons hj h) .nil

/-- A truth value that is written only if it is true. -/
theorem carries_ifTrue (key : String) (b : Bool) :
    Carries (if b then [(key, .bool true)] else []) [(key, .unusual false b)] := by
  cases b with
  | false => exact .absent key .nil
  | true => exact .flag key true .nil

/-- A truth value that is written only if it is false. -/
theorem carries_ifFalse (key : String) (b : Bool) :
    Carries (if b then [] else [(key, .bool false)]) [(key, .unusual true b)] := by
  cases b with
  | false => exact .flag key false .nil
  | true => exact .absent key .nil

/-- An object with a label and fields that carry a record is read as the node that is assembled from
the record. -/
theorem readsAs_labelled {label : String} {form : Form} {n : Node}
    (hl : Form.ofLabel? label = some form) (h : Carries fields record)
    (hk : ("node_type" :: record.map Prod.fst).Nodup)
    (hn : assemble (valueAt (("node_type", .text label) :: record)) form = some n) :
    ReadsAs (labelled label fields) n := by
  have hfields : Carries (("node_type", .str label) :: fields)
      (("node_type", .text label) :: record) := .text _ _ h
  refine ⟨.obj (hfields.keys_sublist.nodup hk) hfields.distinctKeys, ?_⟩
  have hmade : ofRecord? (Value.ofFields (("node_type", .str label) :: fields)) = some n := by
    rw [ofRecord?, hfields.valueAt_eq hk, ← hn]
    simp [hl]
  rw [labelled, Value.ofJson, hmade, Value.made]

/-! ## Exports -/

/-- A node that has a dictionary form and is read from it. -/
def Exports (n : Node) : Prop :=
  ∃ j, n.dictionary = .ok j ∧ ReadsAs j n

/-- What is known of one step of a dictionary form is passed on to the next. -/
theorem bind_exports {α β : Type} {P : α → Prop} {Q : β → Prop} {x : Except TreeFault α}
    {f : α → Except TreeFault β} (h : ∃ a, x = .ok a ∧ P a)
    (hf : ∀ a, P a → ∃ b, f a = .ok b ∧ Q b) : ∃ b, (x >>= f) = .ok b ∧ Q b := by
  obtain ⟨a, rfl, ha⟩ := h
  exact hf a ha

/-- Children in a list have dictionary forms, and are read from them one by one. -/
theorem exports_list {ns : List Node} (h : ∀ n ∈ ns, Exports n) :
    ∃ js, dictionaries ns = .ok js ∧ List.Forall₂ ReadsAs js ns := by
  induction ns with
  | nil => exact ⟨[], rfl, .nil⟩
  | cons n ns ih =>
    obtain ⟨hn, hns⟩ := List.forall_mem_cons.mp h
    exact bind_exports hn fun _ hj => bind_exports (ih hns) fun _ hjs => ⟨_, rfl, .cons hj hjs⟩

/-- The same for a child that may be missing. -/
theorem exports_option {n? : Option Node} (h : ∀ n ∈ n?, Exports n) :
    ∃ j?, dictionary? n? = .ok j? ∧ Option.Rel ReadsAs j? n? := by
  cases n? with
  | none => exact ⟨none, rfl, .none⟩
  | some n => exact bind_exports (h n rfl) fun _ hj => ⟨_, rfl, .some hj⟩

/-- A path is written as one text with points and split at them again: a part has no point in it. -/
theorem path?_dotted {parts : List String} (h : PathText parts) :
    (Value.text (dotted parts)).path? = some (.path parts) := by
  rw [Value.path?, nameParts_dotted h]

theorem exports_pathText (parts : List String) :
    ∃ text, (path parts).pathText = .ok text ∧ text = dotted parts :=
  ⟨_, rfl, rfl⟩

/-- The targets of an insert are written as texts, and not as nodes. -/
theorem exports_targets {ns : List Node} (h : ∀ n ∈ ns, ∃ ps, n = .path ps ∧ PathText ps) :
    ∃ texts, pathTexts ns = .ok texts ∧ (Value.list (texts.map .text)).paths? = some ns := by
  induction ns with
  | nil => exact ⟨[], rfl, rfl⟩
  | cons n ns ih =>
    obtain ⟨⟨ps, rfl, hp⟩, hns⟩ := List.forall_mem_cons.mp h
    refine bind_exports (exports_pathText ps) fun text htext =>
      bind_exports (ih hns) fun texts hts => ⟨_, rfl, ?_⟩
    rw [Value.paths?] at hts
    simp [Value.paths?, htext, path?_dotted hp, hts]

/-! ## Expressions -/

theorem exports_literal (value : String) (kind : LiteralKind) : Exports (.literal value kind) := by
  refine ⟨_, rfl, readsAs_labelled rfl (.text _ value (.text _ kind.name .nil)) (by simp) ?_⟩
  simp [assemble]

theorem exports_path {parts : List String} (h : PathText parts) : Exports (.path parts) := by
  refine ⟨_, rfl, readsAs_labelled rfl (.text _ (dotted parts) .nil) (by simp) ?_⟩
  simp [assemble, path?_dotted h]

theorem exports_parameter (name : String) (positional : Bool) :
    Exports (.parameter name positional) := by
  refine ⟨_, rfl, readsAs_labelled rfl (.text _ name (.flag _ positional .nil)) (by simp) ?_⟩
  simp [assemble]

theorem exports_star : Exports .star := by
  refine ⟨_, rfl, readsAs_labelled rfl .nil (by simp) ?_⟩
  simp [assemble]

/-- Of a call, everything but its name and its arguments may be left out. -/
theorem exports_call {name : String} {args : List Node} {distinct known : Bool}
    {side type : Option String} {char : Option Node} (ha : ∀ n ∈ args, Exports n)
    (hs : ∀ w ∈ side, w ≠ "") (hc : ∀ n ∈ char, Exports n) (ht : ∀ w ∈ type, w ≠ "") :
    Exports (.call name args distinct known side char type) := by
  refine bind_exports (exports_list ha) fun _ ha => bind_exports (exports_option hc) fun _ hc =>
    ⟨_, rfl, ?_⟩
  have hfields :=
    Carries.text "name" name (.nodes "arguments" ha .nil)
      |>.append (carries_ifTrue "distinct" distinct)
      |>.append (carries_ifFalse "known" known)
      |>.append (carries_textField "trim_specification" hs)
      |>.append (carries_optionalField "trim_character" hc)
      |>.append (carries_textField "cast_type" ht)
  refine readsAs_labelled rfl hfields (by simp) ?_
  simp [assemble]

theorem exports_paren {e : Node} (h : Exports e) : Exports (.paren e) := by
  refine bind_exports h fun _ h => ⟨_, rfl, readsAs_labelled rfl (.node _ h .nil) (by simp) ?_⟩
  simp [assemble]

theorem exports_unary {operator : String} {e : Node} (h : Exports e) :
    Exports (.unary operator e) := by
  refine bind_exports h fun _ h =>
    ⟨_, rfl, readsAs_labelled rfl (.text _ operator (.node _ h .nil)) (by simp) ?_⟩
  simp [assemble]

theorem exports_binary {left right : Node} {operator : String} (hl : Exports left)
    (hr : Exports right) :
    Exports (.binary left operator right) := by
  refine bind_exports hl fun _ hl => bind_exports hr fun _ hr => ⟨_, rfl, ?_⟩
  refine readsAs_labelled rfl (.text _ operator (.node _ hl (.node _ hr .nil))) (by simp) ?_
  simp [assemble]

theorem exports_isNull {e : Node} {negated : Bool} (h : Exports e) :
    Exports (.isNull e negated) := by
  refine bind_exports h fun _ h =>
    ⟨_, rfl, readsAs_labelled rfl (.node _ h (.flag _ negated .nil)) (by simp) ?_⟩
  simp [assemble]

theorem exports_between {e lower upper : Node} {negated : Bool} (h : Exports e) (hl : Exports lower)
    (hu : Exports upper) :
    Exports (.between e lower upper negated) := by
  refine bind_exports h fun _ h => bind_exports hl fun _ hl => bind_exports hu fun _ hu =>
    ⟨_, rfl, ?_⟩
  refine readsAs_labelled rfl (.node _ h (.node _ hl (.node _ hu (.flag _ negated .nil))))
    (by simp) ?_
  simp [assemble]

/-- The three forms of `IN` differ in the key under which their right side stands. -/
theorem exports_inQuery {e query : Node} {negated : Bool} (h : Exports e) (hq : Exports query) :
    Exports (.inSet e [] (some query) none negated) := by
  refine bind_exports h fun _ h => bind_exports hq fun _ hq => ⟨_, rfl, ?_⟩
  refine readsAs_labelled rfl (.node _ h (.flag _ negated (.node _ hq .nil))) (by simp) ?_
  simp [assemble]

theorem exports_inParameter {e parameter : Node} {negated : Bool} (h : Exports e)
    (hp : Exports parameter) :
    Exports (.inSet e [] none (some parameter) negated) := by
  refine bind_exports h fun _ h => bind_exports hp fun _ hp => ⟨_, rfl, ?_⟩
  refine readsAs_labelled rfl (.node _ h (.flag _ negated (.node _ hp .nil))) (by simp) ?_
  simp [assemble]

theorem exports_inList {e : Node} {values : List Node} {negated : Bool} (h : Exports e)
    (hv : ∀ n ∈ values, Exports n) :
    Exports (.inSet e values none none negated) := by
  refine bind_exports h fun _ h => bind_exports (exports_list hv) fun _ hv => ⟨_, rfl, ?_⟩
  refine readsAs_labelled rfl (.node _ h (.flag _ negated (.nodes _ hv .nil))) (by simp) ?_
  simp [assemble]

/-- Without an escape character there is no key for it. -/
theorem exports_like {e pattern : Node} {escape : Option Node} {negated : Bool} (h : Exports e)
    (hp : Exports pattern) (hc : ∀ n ∈ escape, Exports n) :
    Exports (.like e pattern escape negated) := by
  refine bind_exports h fun _ h => bind_exports hp fun _ hp =>
    bind_exports (exports_option hc) fun _ hc => ⟨_, rfl, ?_⟩
  have hfields :=
    (Carries.node "expression" h (.node "pattern" hp (.flag "negated" negated .nil))).append
    (carries_optionalField "escape" hc)
  refine readsAs_labelled rfl hfields (by simp) ?_
  simp [assemble]

theorem exports_memberOf {element collection : Node} {negated : Bool} (he : Exports element)
    (hc : Exports collection) :
    Exports (.memberOf element collection negated) := by
  refine bind_exports he fun _ he => bind_exports hc fun _ hc => ⟨_, rfl, ?_⟩
  refine readsAs_labelled rfl (.node _ he (.node _ hc (.flag _ negated .nil))) (by simp) ?_
  simp [assemble]

theorem exports_existsQuery {query : Node} (h : Exports query) : Exports (.existsQuery query) := by
  refine bind_exports h fun _ h => ⟨_, rfl, readsAs_labelled rfl (.node _ h .nil) (by simp) ?_⟩
  simp [assemble]

theorem exports_subquery {query : Node} (h : Exports query) : Exports (.subquery query) := by
  refine bind_exports h fun _ h => ⟨_, rfl, readsAs_labelled rfl (.node _ h .nil) (by simp) ?_⟩
  simp [assemble]

theorem exports_branch {condition result : Node} (hc : Exports condition) (hr : Exports result) :
    Exports (.branch condition result) := by
  refine bind_exports hc fun _ hc => bind_exports hr fun _ hr => ⟨_, rfl, ?_⟩
  refine readsAs_labelled rfl (.node _ hc (.node _ hr .nil)) (by simp) ?_
  simp [assemble]

/-- The branches are written first, also before an operand. -/
theorem exports_caseOf {operand otherwise : Option Node} {branches : List Node}
    (ho : ∀ n ∈ operand, Exports n) (hb : ∀ n ∈ branches, Exports n)
    (he : ∀ n ∈ otherwise, Exports n) : Exports (.caseOf operand branches otherwise) := by
  refine bind_exports (exports_list hb) fun _ hb => bind_exports (exports_option ho) fun _ ho =>
    bind_exports (exports_option he) fun _ he => ⟨_, rfl, ?_⟩
  have hfields :=
    ((Carries.nodes "when_clauses" hb .nil).append (carries_optionalField "operand" ho)).append
    (carries_optionalField "else" he)
  refine readsAs_labelled rfl hfields (by simp) ?_
  simp [assemble]

/-! ## Items of clauses -/

/-- An alias is left out where there is none; one that is empty cannot be spelled. -/
theorem exports_selectItem {e : Node} {asName : Option String} (h : Exports e)
    (ha : ∀ a ∈ asName, a ≠ "") :
    Exports (.selectItem e asName) := by
  refine bind_exports h fun _ h => ⟨_, rfl, ?_⟩
  refine readsAs_labelled rfl ((Carries.node _ h .nil).append (carries_textField _ ha)) (by simp) ?_
  simp [assemble]

theorem exports_constructor {className : String} {args : List Node} {asName : Option String}
    (h : ∀ n ∈ args, Exports n) (ha : ∀ a ∈ asName, a ≠ "") :
    Exports (.constructor className args asName) := by
  refine bind_exports (exports_list h) fun _ h => ⟨_, rfl, ?_⟩
  have hfields :=
    (Carries.text "class_name" className (.nodes "arguments" h .nil)).append
      (carries_textField "alias" ha)
  refine readsAs_labelled rfl hfields (by simp) ?_
  simp [assemble]

/-- The path of a join is written as one text. -/
theorem exports_join {kind : JoinKind} {parts : List String} {asName : Option String} {fetch : Bool}
    {condition : Option Node} (hp : PathText parts) (ha : ∀ a ∈ asName, a ≠ "")
    (hc : ∀ n ∈ condition, Exports n) :
    Exports (.join kind (.path parts) asName fetch condition) := by
  refine bind_exports (exports_pathText parts) fun text htext =>
    bind_exports (exports_option hc) fun _ hc => ⟨_, rfl, ?_⟩
  have hfields :=
    ((Carries.text "kind" kind.label (.text "path" text (.flag "fetch" fetch .nil))).append
    (carries_textField "alias" ha)).append (carries_optionalField "on" hc)
  refine readsAs_labelled rfl hfields (by simp) ?_
  simp [assemble, htext, path?_dotted hp]

/-- A source without joins has no list of them. -/
theorem exports_fromItem {entity : String} {asName : Option String} {joins : List Node}
    (ha : ∀ a ∈ asName, a ≠ "") (hj : ∀ n ∈ joins, Exports n) :
    Exports (.fromItem entity asName joins) := by
  refine bind_exports (exports_list hj) fun _ hj => ⟨_, rfl, ?_⟩
  have hfields :=
    ((Carries.text "entity" entity .nil).append (carries_textField "alias" ha)).append
      (carries_listField "joins" hj)
  refine readsAs_labelled rfl hfields (by simp) ?_
  simp [assemble]

/-- The target of an assignment is written as one text. -/
theorem exports_assignment {parts : List String} {value : Node} (hp : PathText parts)
    (h : Exports value) :
    Exports (.assignment (.path parts) value) := by
  refine bind_exports (exports_pathText parts) fun text htext => bind_exports h fun _ h =>
    ⟨_, rfl, ?_⟩
  refine readsAs_labelled rfl (.text _ text (.node _ h .nil)) (by simp) ?_
  simp [assemble, htext, path?_dotted hp]

/-- Direction and place of nulls are words, and left out where there are none. -/
theorem exports_orderItem {e : Node} {direction : Option Direction} {nulls : Option String}
    (h : Exports e) (hn : ∀ w ∈ nulls, w ≠ "") : Exports (.orderItem e direction nulls) := by
  refine bind_exports h fun _ h => ⟨_, rfl, ?_⟩
  have hword : ∀ w ∈ direction.map Direction.word, w ≠ "" := by
    intro w hw
    obtain ⟨d, -, rfl⟩ := Option.map_eq_some_iff.mp hw
    cases d <;> decide
  have hfields :=
    ((Carries.node "expression" h .nil).append (carries_textField "direction" hword)).append
    (carries_textField "nulls" hn)
  refine readsAs_labelled rfl hfields (by simp) ?_
  simp [assemble]

/-! ## Statements -/

/-- Of a query, `DISTINCT` or not, the items and the sources are always written. -/
theorem exports_select {items sources grouping ordering : List Node} {distinct : Bool}
    {condition having : Option Node} (hi : ∀ n ∈ items, Exports n) (hs : ∀ n ∈ sources, Exports n)
    (hc : ∀ n ∈ condition, Exports n) (hg : ∀ n ∈ grouping, Exports n)
    (hh : ∀ n ∈ having, Exports n) (ho : ∀ n ∈ ordering, Exports n) :
    Exports (.select items sources distinct condition grouping having ordering) := by
  refine bind_exports (exports_list hi) fun _ hi => bind_exports (exports_list hs) fun _ hs =>
    bind_exports (exports_option hc) fun _ hc => bind_exports (exports_list hg) fun _ hg =>
      bind_exports (exports_option hh) fun _ hh => bind_exports (exports_list ho) fun _ ho =>
        ⟨_, rfl, ?_⟩
  have hfields :=
    ((((Carries.flag "distinct" distinct (.nodes "select" hi (.nodes "from" hs .nil))).append
    (carries_optionalField "where" hc)).append (carries_listField "group_by" hg)).append
      (carries_optionalField "having" hh)).append (carries_listField "order_by" ho)
  refine readsAs_labelled rfl hfields (by simp) ?_
  simp [assemble]

/-- An update has a key for its alias and its condition also where they are missing. -/
theorem exports_update {entity : String} {asName : Option String} {assignments : List Node}
    {condition : Option Node} (h : ∀ n ∈ assignments, Exports n) (hc : ∀ n ∈ condition, Exports n) :
    Exports (.update entity asName assignments condition) := by
  refine bind_exports (exports_list h) fun _ h => bind_exports (exports_option hc) fun _ hc =>
    ⟨_, rfl, ?_⟩
  have hfields :=
    Carries.text "entity" entity
      (.textOrNull "alias" asName (.nodes "set" h (.nodeOrNull "where" hc .nil)))
  refine readsAs_labelled rfl hfields (by simp) ?_
  simp [assemble]

/-- The same for a delete. -/
theorem exports_delete {entity : String} {asName : Option String} {condition : Option Node}
    (hc : ∀ n ∈ condition, Exports n) : Exports (.delete entity asName condition) := by
  refine bind_exports (exports_option hc) fun _ hc => ⟨_, rfl, ?_⟩
  refine readsAs_labelled rfl (.text _ entity (.textOrNull _ asName (.nodeOrNull _ hc .nil)))
    (by simp) ?_
  simp [assemble]

/-- An insert has a key for its source also where it is missing. -/
theorem exports_insert {entity : String} {targets : List Node} {source : Option Node}
    (ht : ∀ n ∈ targets, ∃ ps, n = .path ps ∧ PathText ps) (h : ∀ n ∈ source, Exports n) :
    Exports (.insert entity targets source) := by
  refine bind_exports (exports_targets ht) fun texts ht =>
    bind_exports (exports_option h) fun _ h => ⟨_, rfl, ?_⟩
  refine readsAs_labelled rfl (.text _ entity (.texts _ texts (.nodeOrNull _ h .nil))) (by simp) ?_
  simp [assemble, ht]

/-! ## Trees of queries -/

/-- A path is not empty, since a name is not. -/
theorem dotted_ne_empty {parts : List String} (h : PathText parts) : dotted parts ≠ "" := by
  intro hempty
  have hparts : parts = [""] := by
    rw [← nameParts_dotted h, hempty]
    rfl
  obtain ⟨first, rest, rfl, ⟨kind, -, hs⟩, -⟩ := h
  exact ne_empty_of_spelling hs (List.cons.inj hparts).1

/-- The name of a type is not empty, so a cast never loses it. -/
theorem ne_empty_of_typeText {type : String} (h : TypeText type) : type ≠ "" := by
  obtain ⟨ts, ht, hp⟩ := h
  cases ht with
  | plain hd => exact dotted_ne_empty (pathText_of_dotted hd hp)
  | sized => simp

/-- Every tree below a statement is read from its dictionary form. -/
theorem exports_wellFormed {n : Node} (h : WellFormed n) : Exports n := by
  induction h with
  | literal => exact exports_literal _ _
  | path h => exact exports_path h
  | parameter => exact exports_parameter _ _
  | star => exact exports_star
  | clock => exact exports_call (by simp) (by simp) (by simp) (by simp)
  | otherCall _ _ ih | functionCall _ _ _ ih => exact exports_call ih (by simp) (by simp) (by simp)
  | cast _ ht ih =>
    exact exports_call (by simpa using ih) (by simp) (by simp)
      (by simpa using ne_empty_of_typeText ht)
  | trim hs _ _ ihc ih =>
    refine exports_call (by simpa using ih) (fun w hw => ?_) ihc (by simp)
    rintro rfl
    simpa using hs _ hw
  | paren _ ih => exact exports_paren ih
  | not _ ih | sign _ _ _ ih => exact exports_unary ih
  | binary _ _ _ ihl ihr => exact exports_binary ihl ihr
  | isNull _ ih => exact exports_isNull ih
  | between _ _ _ ih ihl ihu => exact exports_between ih ihl ihu
  | inQuery _ _ ih ihq => exact exports_inQuery ih ihq
  | inParameter _ _ ih ihp => exact exports_inParameter ih ihp
  | inList _ _ ih ihv => exact exports_inList ih ihv
  | like _ _ _ ih ihp ihc => exact exports_like ih ihp ihc
  | memberOf _ hp ih => exact exports_memberOf ih (exports_path hp)
  | existsQuery _ ih => exact exports_existsQuery ih
  | subquery _ ih => exact exports_subquery ih
  | branch _ _ ihc ihr => exact exports_branch ihc ihr
  | caseOf _ _ _ iho ihb ihe => exact exports_caseOf iho ihb ihe
  | selectItem _ ha ih => exact exports_selectItem ih (ne_empty_of_nameText ha)
  | constructor _ ha ih => exact exports_constructor ih (ne_empty_of_nameText ha)
  | join hp ha _ ih => exact exports_join hp (ne_empty_of_nameText ha) ih
  | fromItem _ ha _ _ ih => exact exports_fromItem (ne_empty_of_nameText ha) ih
  | assignment hp _ ih => exact exports_assignment hp ih
  | orderItem _ hn ih =>
    refine exports_orderItem ih fun w hw => ?_
    rintro rfl
    simpa using hn _ hw
  | select _ _ _ _ _ _ ihi ihs ihc ihg ihh iho => exact exports_select ihi ihs ihc ihg ihh iho

/-- Every statement is read from its dictionary form. -/
theorem exports_statement {n : Node} (h : WellFormedStatement n) : Exports n := by
  cases h with
  | query h => exact exports_wellFormed h
  | update _ _ _ h hc =>
    exact exports_update (fun n hn => exports_wellFormed (h n hn)) fun n hn =>
      exports_wellFormed (hc n hn)
  | delete _ _ hc => exact exports_delete fun n hn => exports_wellFormed (hc n hn)
  | insert _ ht h =>
    refine exports_insert ht ?_
    rintro n ⟨⟩
    exact exports_wellFormed h

/-- The dictionary form of a statement exists, the statement is read from every value that is equal
to it, and no other statement has an equal one. -/
theorem dictionary_equal_iff {maxDepth₁ maxDepth₂ : Int} {query₁ query₂ : String}
    {node₁ node₂ : Node} (h₁ : parse maxDepth₁ query₁ = .ok node₁)
    (h₂ : parse maxDepth₂ query₂ = .ok node₂) :
    ∃ j₁ j₂, node₁.dictionary = .ok j₁ ∧ node₂.dictionary = .ok j₂ ∧
      (∀ j, j₁.equal j = true → ofDictionary? j = some node₁) ∧
      (j₁.equal j₂ = true ↔ node₁ = node₂) := by
  obtain ⟨j₁, hj₁, hr₁⟩ := exports_statement (wellFormed_of_parse h₁)
  obtain ⟨j₂, hj₂, hr₂⟩ := exports_statement (wellFormed_of_parse h₂)
  have hread : ∀ j, j₁.equal j = true → ofDictionary? j = some node₁ := by
    intro j hj
    rw [ofDictionary?, Value.ofJson_eq_of_equal hr₁.distinctKeys hj, hr₁.ofJson_eq,
      Value.node?_tree]
  refine ⟨j₁, j₂, hj₁, hj₂, hread, fun heq => ?_, ?_⟩
  · have hnode := hread j₂ heq
    rw [ofDictionary?, hr₂.ofJson_eq, Value.node?_tree, Option.some.injEq] at hnode
    exact hnode.symm
  · rintro rfl
    rw [hj₁] at hj₂
    cases hj₂
    exact Json.equal_self hr₁.distinctKeys

/-- Two statements that differ in a word for which one dictionary form has a field and the other has
none. -/
theorem dictionary_equal_iff_distinct :
    ∃ node₁ node₂ j₁ j₂, parse 64 "SELECT MAX(t.a.b) FROM T t" = .ok node₁ ∧
      parse 64 "SELECT MAX(DISTINCT t.a.b) FROM T t" = .ok node₂ ∧ node₁.dictionary = .ok j₁ ∧
        node₂.dictionary = .ok j₂ ∧
        (∀ j, j₁.equal j = true → ofDictionary? j = some node₁) ∧ ¬ j₁.equal j₂ = true := by
  have hparse : ∀ distinct : Bool,
      parse 64 (if distinct then "SELECT MAX(DISTINCT t.a.b) FROM T t"
        else "SELECT MAX(t.a.b) FROM T t") = .ok (.select
        [.selectItem (.call "MAX" [.path ["t", "a", "b"]] distinct true none none none) none]
        [.fromItem "T" (some "t") []] false none [] none []) := by
    intro distinct
    cases distinct <;> with_unfolding_all rfl
  obtain ⟨j₁, j₂, hj₁, hj₂, hread, hequal⟩ := dictionary_equal_iff (hparse false) (hparse true)
  exact ⟨_, _, j₁, j₂, hparse false, hparse true, hj₁, hj₂, hread,
    fun h => by simpa using hequal.mp h⟩

end EntityQuery.Node
