import EntityQuery.Proofs.Node.Contents
import EntityQuery.Proofs.Sql.Outcome

/-!
# The text of a tree

`treeText` is the SQL text of a tree in a place, as a function of the tree alone. `isRefused` are
the constructs that SQL does not have.

`renders_wellFormed`: under a schema of texts, a tree that a query can spell is rendered as its text
exactly if nothing in it is refused.
-/

namespace EntityQuery.Sql

open Grammar

/-! ## Texts -/

/-- Words that stand before a list of texts, if there are any. -/
def headed (keyword : String) (ws : List String) : List String :=
  if ws.isEmpty then [] else [keyword ++ ", ".intercalate ws]

/-- The words before the operand of a `TRIM`. -/
def trimWords (ws : List String) : List String :=
  if ws.isEmpty then [] else ws ++ ["FROM"]

/-- Words for an alias, behind an item. -/
def asWords (asName : Option String) : String :=
  (asName.map fun a => " AS " ++ a).getD ""

/-- A join up to its condition. -/
def Place.joinText (q : Place) (kind : JoinKind) (parts : List String) (name : String) : String :=
  joinWords kind ++ " " ++ (q.joinTable parts name).display ++ " " ++ name

mutual

/-- The text that a tree is rendered as. -/
def treeText (q : Place) : Node → String
  | .literal value _ => value
  | .path parts => dotted (q.path parts)
  | .parameter name positional => parameterText name positional
  | .star => "*"
  | .call name args distinct known side char type =>
    let args := listTexts q args
    if known && niladic.contains name then name
    else if known && name == "TRIM" then
      "TRIM(" ++ " ".intercalate (trimWords (side.toList ++ optionTexts q char) ++ args) ++ ")"
    else if known && name == "CAST" then
      "CAST(" ++ ", ".intercalate args ++ " AS " ++ type.getD "" ++ ")"
    else name ++ "(" ++ (if distinct then "DISTINCT " else "") ++ ", ".intercalate args ++ ")"
  | .paren e => "(" ++ treeText q e ++ ")"
  | .unary operator e => (if operator == "NOT" then "NOT " else operator) ++ treeText q e
  | .binary left operator right => treeText q left ++ " " ++ operator ++ " " ++ treeText q right
  | .isNull e negated => treeText q e ++ " IS" ++ notWord negated ++ " NULL"
  | .between e lower upper negated =>
    treeText q e ++ notWord negated ++ " BETWEEN " ++ treeText q lower ++ " AND " ++
      treeText q upper
  | .inSet e values query single negated =>
    treeText q e ++ notWord negated ++ " IN (" ++
      ", ".intercalate (listTexts q values ++ optionTexts q query ++ optionTexts q single) ++ ")"
  | .like e pattern none negated =>
    treeText q e ++ notWord negated ++ " LIKE " ++ treeText q pattern
  | .like e pattern (some c) negated =>
    treeText q e ++ notWord negated ++ " LIKE " ++ treeText q pattern ++ " ESCAPE " ++ treeText q c
  | .memberOf .. => ""
  | .existsQuery query => "EXISTS (" ++ treeText q query ++ ")"
  | .subquery query => "(" ++ treeText q query ++ ")"
  | .branch condition result => "WHEN " ++ treeText q condition ++ " THEN " ++ treeText q result
  | .caseOf operand branches otherwise =>
    " ".intercalate ("CASE" :: optionTexts q operand ++ listTexts q branches ++
      (headed "ELSE " (optionTexts q otherwise)) ++ ["END"])
  | .selectItem e asName => treeText q e ++ asWords asName
  | .constructor _ args asName => ", ".intercalate (listTexts q args) ++ asWords asName
  | .join _ _ none _ _ => ""
  | .join kind along (some name) _ none =>
    q.joinText kind (partsOf along) name ++ onText (q.joinEquation? (partsOf along) name)
  | .join kind along (some name) _ (some e) =>
    q.joinText kind (partsOf along) name ++ " ON " ++ treeText q e
  | .fromItem entity asName joins =>
    " ".intercalate (q.table entity :: asName.toList ++ (listTexts q joins).filter fun w => w != "")
  | .assignment target value => dotted (q.targetPath (partsOf target)) ++ " = " ++ treeText q value
  | .orderItem e direction nulls =>
    treeText q e ++ (direction.map fun d => " " ++ d.word).getD "" ++
      (nulls.map fun n => " NULLS " ++ n).getD ""
  | .select items sources distinct condition grouping having ordering =>
    " ".intercalate
      ([(if distinct then "SELECT DISTINCT " else "SELECT ") ++
        ", ".intercalate (listTexts q items), "FROM " ++ ", ".intercalate (listTexts q sources)] ++
        headed "WHERE " (optionTexts q condition) ++ headed "GROUP BY " (listTexts q grouping) ++
        headed "HAVING " (optionTexts q having) ++ headed "ORDER BY " (listTexts q ordering))
  | .update entity asName assignments condition =>
    let inside := { q with target := some entity, targetAlias := asName }
    " ".intercalate ("UPDATE" :: q.table entity :: asName.toList ++
      ["SET " ++ ", ".intercalate (listTexts inside assignments)] ++
      headed "WHERE " (optionTexts inside condition))
  | .delete entity asName condition =>
    " ".intercalate ("DELETE FROM" :: q.table entity :: asName.toList ++
      headed "WHERE " (optionTexts { q with target := some entity } condition))
  | .insert .. => ""

/-- The texts of the trees of a list. -/
def listTexts (q : Place) : List Node → List String
  | [] => []
  | node :: rest => treeText q node :: listTexts q rest

/-- The text of an optional tree. -/
def optionTexts (q : Place) : Option Node → List String
  | none => []
  | some node => [treeText q node]

end

section

-- The equations of the recursion are generated here, once for all modules that rewrite with them.
attribute [local simp] treeText

end

theorem listTexts_eq (q : Place) (ns : List Node) : listTexts q ns = ns.map (treeText q) := by
  induction ns with
  | nil => rfl
  | cons n ns ih => rw [listTexts, ih, List.map_cons]

/-! ### Calls -/

/-- A word for the time is written without parentheses. -/
theorem treeText_clock (q : Place) (c : Clock) :
    treeText q (plainCall (TokenKind.clock c).name []) = (TokenKind.clock c).name := by
  rw [plainCall, treeText]
  cases c <;> rfl

/-- A call of a function that is not known is written as it is, whatever its name. -/
theorem treeText_otherCall (q : Place) (name : String) (args : List Node) :
    treeText q (.call name args false false none none none) =
      name ++ "(" ++ ", ".intercalate (listTexts q args) ++ ")" := by
  rw [treeText]
  simp

/-- `TRIM` and `CAST` have forms of their own; all other known functions have this one. -/
theorem treeText_functionCall {q : Place} {f : Function} {args : List Node} {distinct : Bool}
    (ht : f ≠ .trim) (hc : f ≠ .cast) :
    treeText q (.call (TokenKind.function f).name args distinct true none none none) =
      (TokenKind.function f).name ++ "(" ++ (if distinct then "DISTINCT " else "") ++
        ", ".intercalate (listTexts q args) ++ ")" := by
  rw [treeText]
  cases f with
  | trim => exact absurd rfl ht
  | cast => exact absurd rfl hc
  | _ => rfl

/-- The type of a cast is written behind its operand. -/
theorem treeText_cast (q : Place) (e : Node) (type : String) :
    treeText q (.call "CAST" [e] false true none none (some type)) =
      "CAST(" ++ treeText q e ++ " AS " ++ type ++ ")" := by
  rw [treeText, listTexts, listTexts]
  rfl

/-- `FROM` stands before the operand of a `TRIM` only if something else stands before it. -/
theorem treeText_trim (q : Place) (e : Node) (side : Option String) (char : Option Node) :
    treeText q (.call "TRIM" [e] false true side char none) =
      "TRIM(" ++ " ".intercalate (trimWords (side.toList ++ optionTexts q char) ++
        [treeText q e]) ++ ")" := by
  rw [treeText, listTexts, listTexts]
  rfl

/-! ## What SQL does not have -/

/-- A construct without a counterpart in SQL. Joins without an alias are refused only if they are
not dropped. -/
def isRefused (drop : Bool) : Node → Bool
  | .memberOf .. => true
  | .call name _ _ known _ _ _ => known && name == "SIZE"
  | .constructor _ args _ => args.isEmpty
  | .join _ _ asName _ _ => asName.isNone && !drop
  | .insert .. => true
  | _ => false

/-- Nothing in a tree is refused; what is dropped does not count. -/
def Place.Free (q : Place) (n : Node) : Prop :=
  ∀ m ∈ n.nodes false, isRefused q.scope.schema.options.dropAliaslessJoins m = false

/-- Whether something is refused is known of a node and its children. -/
theorem Place.free_iff {q : Place} {n : Node} :
    q.Free n ↔
      isRefused q.scope.schema.options.dropAliaslessJoins n = false ∧
        ∀ c ∈ n.children false, q.Free c :=
  Node.forall_nodes

/-- A tree is rendered as its text, if nothing in it is refused. -/
def Renders (q : Place) (n : Node) : Prop :=
  Gives q (render q.scope n) (.text (treeText q n)) (q.Free n)

namespace Ends

variable {q q' : Place} {β : Type} {b : β} {free : Prop}

/-- Texts that are strung together. -/
theorem strung {sep : String} {ws : List String} {f : String → Rendering β}
    (h : Ends q q' (f (sep.intercalate ws)) b free) :
    Ends q q' (Rendering.strung sep (ws.map Fragment.text) >>= f) b free := by
  rwa [strung_map, pure_bind]

end Ends

/-! ## Lists and options -/

variable {q : Place}

/-- A list is rendered piece by piece, and is refused if one of them is. -/
theorem gives_list {ns : List Node} (h : ∀ n ∈ ns, Renders q n) :
    Gives q (renderList q.scope ns) ((listTexts q ns).map Fragment.text) (∀ n ∈ ns, q.Free n) := by
  induction ns with
  | nil => exact Ends.iff (.pure _) (by simp)
  | cons n ns ih =>
    rw [renderList, listTexts]
    obtain ⟨hn, hns⟩ := List.forall_mem_cons.mp h
    exact Ends.iff (hn.bind ((ih hns).bind (.pure _))) (by simp)

/-- Pieces with nothing in them are left out. They are those of joins without an alias. -/
theorem gives_present {ns : List Node} (h : ∀ n ∈ ns, Renders q n) :
    Gives q (renderPresent q.scope ns)
      (((listTexts q ns).filter fun w => w != "").map Fragment.text) (∀ n ∈ ns, q.Free n) := by
  induction ns with
  | nil => exact Ends.iff (.pure _) (by simp)
  | cons n ns ih =>
    rw [renderPresent, listTexts]
    obtain ⟨hn, hns⟩ := List.forall_mem_cons.mp h
    rw [List.filter_cons]
    refine Ends.iff (hn.bind (.next (.pure _) ((ih hns).bind (?_ : Gives _ _ _ True)))) (by simp)
    split <;> exact .pure _

theorem gives_option {n? : Option Node} (h : ∀ n ∈ n?, Renders q n) :
    Gives q (renderOption q.scope n?) (n?.map fun n => .text (treeText q n))
      (∀ n ∈ n?, q.Free n) := by
  cases n? with
  | none => exact Ends.iff (.pure _) (by simp)
  | some n => exact Ends.iff ((h n rfl).bind (.pure _)) (by simp)

/-- A clause that is not there leaves no piece, not even an empty one. -/
theorem gives_clause (keyword : String) {n? : Option Node} (h : ∀ n ∈ n?, Renders q n) :
    Gives q (renderClause q.scope keyword n?)
      ((headed keyword (optionTexts q n?)).map Fragment.text) (∀ n ∈ n?, q.Free n) := by
  cases n? with
  | none => exact Ends.iff (.pure _) (by simp)
  | some n =>
    rw [optionTexts]
    simp only [headed, List.isEmpty_cons, Bool.false_eq_true, if_false,
      String.intercalate_singleton]
    exact Ends.iff ((h n rfl).bind (.next (.pure _) (.pure _))) (by simp)

theorem itemsClause_texts (keyword : String) (ws : List String) :
    itemsClause keyword (ws.map Fragment.text) = pure ((headed keyword ws).map Fragment.text) := by
  cases ws with
  | nil => rfl
  | cons w ws =>
    rw [itemsClause, if_neg (by simp), strung_map, pure_bind, headed, if_neg (by simp)]
    rfl

/-- A name is not empty, so an alias that is given is seen. -/
theorem ne_empty_of_nameText {asName : Option String} (h : ∀ a ∈ asName, NameText a) :
    ∀ a ∈ asName, a ≠ "" := by
  intro a ha
  obtain ⟨kind, -, hs⟩ := h a ha
  exact ne_empty_of_spelling hs

/-- Only the empty text is taken for none. -/
theorem given_eq {text : Option String} (h : ∀ w ∈ text, w ≠ "") : given? text = text := by
  cases text with
  | none => rfl
  | some w => exact given_of_ne (h w rfl)

theorem optionalText_eq {text : Option String} (h : ∀ w ∈ text, w ≠ "") :
    optionalText text = text.toList.map Fragment.text := by
  unfold optionalText
  rw [given_eq h]
  cases text <;> rfl

/-! ## Calls -/

/-- A word for the time is a known function without arguments, and never refused. -/
theorem renders_clock (c : Clock) : Renders q (plainCall (TokenKind.clock c).name []) := by
  have hrender : render q.scope (plainCall (TokenKind.clock c).name []) =
      pure (.text (TokenKind.clock c).name) := by
    rw [plainCall, render]
    cases c <;> rfl
  have hfree : q.Free (plainCall (TokenKind.clock c).name []) := by
    rw [Place.free_iff]
    cases c <;> exact ⟨rfl, by simp [plainCall, Node.children]⟩
  rw [Renders, hrender, treeText_clock]
  exact Ends.iff (.pure _) (iff_of_true trivial hfree)

theorem renders_otherCall {name : String} {args : List Node} (h : ∀ n ∈ args, Renders q n) :
    Renders q (.call name args false false none none none) := by
  rw [Renders, render, treeText_otherCall, Place.free_iff]
  exact Ends.iff ((gives_list h).bind (.strung (.pure _))) (by simp [isRefused, Node.children])

/-- `SIZE` is the one known function that SQL does not have. -/
theorem renders_functionCall {f : Function} {args : List Node} {distinct : Bool} (ht : f ≠ .trim)
    (hc : f ≠ .cast) (h : ∀ n ∈ args, Renders q n) :
    Renders q (.call (TokenKind.function f).name args distinct true none none none) := by
  rw [Renders, Place.free_iff]
  by_cases hs : f = .size
  · subst hs
    rw [render]
    exact Ends.iff (.throw _) (iff_of_false id nofun)
  · have hname : ((TokenKind.function f).name == "SIZE") = false := by
      cases f with
      | size => exact absurd rfl hs
      | _ => rfl
    rw [render_function hs ht hc, treeText_functionCall ht hc]
    exact Ends.iff ((gives_list h).bind (.strung (.pure _)))
      (by simp [isRefused, Node.children, hname])

theorem renders_cast {e : Node} {type : String} (h : Renders q e) :
    Renders q (.call "CAST" [e] false true none none (some type)) := by
  rw [Renders, render, treeText_cast, Place.free_iff]
  exact Ends.iff (h.shows (.pure _)) (by simp [isRefused, Node.children])

/-- Side and character are written in this order, each only if it is there. -/
theorem renders_trim {e : Node} {side : Option String} {char : Option Node}
    (hs : ∀ w ∈ side, w ≠ "") (hc : ∀ n ∈ char, Renders q n) (h : Renders q e) :
    Renders q (.call "TRIM" [e] false true side char none) := by
  rw [Renders, render_trim, treeText_trim, Place.free_iff]
  have hbefore : optionalText side ++ (char.map fun n => Fragment.text (treeText q n)).toList =
      (side.toList ++ optionTexts q char).map Fragment.text := by
    rw [optionalText_eq hs, List.map_append]
    cases char <;> rfl
  have htrim : ∀ ws : List String,
      (if (ws.map Fragment.text).isEmpty then ws.map Fragment.text
        else ws.map Fragment.text ++ [.text "FROM"]) ++ [Fragment.text (treeText q e)] =
      (trimWords ws ++ [treeText q e]).map Fragment.text := by
    intro ws
    cases ws <;> simp [trimWords]
  refine Ends.iff ((gives_option hc).bind (h.bind (?_ : Gives _ _ _ True)))
    (by simp [isRefused, Node.children, and_comm])
  rw [hbefore, htrim]
  exact .strung (.pure _)

/-- The pieces between `CASE` and `END` are those of the operand, the branches and the `ELSE`. -/
theorem renders_caseOf {operand otherwise : Option Node} {branches : List Node}
    (ho : ∀ n ∈ operand, Renders q n) (hb : ∀ n ∈ branches, Renders q n)
    (he : ∀ n ∈ otherwise, Renders q n) :
    Renders q (.caseOf operand branches otherwise) := by
  have hpieces : ∀ ending : List String,
      .text "CASE" :: (operand.map fun n => Fragment.text (treeText q n)).toList ++
        (listTexts q branches).map Fragment.text ++ ending.map Fragment.text ++ [.text "END"] =
      ("CASE" :: optionTexts q operand ++ listTexts q branches ++ ending ++ ["END"]).map
      Fragment.text := by
    intro ending
    cases operand <;> simp [optionTexts]
  have hjoined : ∀ ending : List String, Gives q (do
      let text ← Rendering.strung " "
        (.text "CASE" :: (operand.map fun n => Fragment.text (treeText q n)).toList ++
        (listTexts q branches).map Fragment.text ++ ending.map Fragment.text ++ [.text "END"])
      pure (Fragment.text text))
      (.text (" ".intercalate ("CASE" :: optionTexts q operand ++ listTexts q branches ++ ending ++
        ["END"]))) True := by
    intro ending
    rw [hpieces]
    exact .strung (.pure _)
  rw [Renders, render, treeText, Place.free_iff]
  refine Ends.iff ((gives_option ho).bind
    ((gives_list hb).bind ((gives_option he).bind (?_ : Gives _ _ _ True)))) ?_
  · cases otherwise with
    | none => exact .next (.pure _) (hjoined [])
    | some e => exact .next (.pure _) (.next (.pure _) (hjoined ["ELSE " ++ treeText q e]))
  · simp [isRefused, Node.children, or_imp, forall_and]

/-! ## Items of clauses -/

theorem renders_selectItem {e : Node} {asName : Option String} (h : Renders q e)
    (ha : ∀ a ∈ asName, a ≠ "") :
    Renders q (.selectItem e asName) := by
  rw [Renders, render, treeText, Place.free_iff]
  have hwords : asWords asName = (aliasWords asName).getD "" := by
    rw [aliasWords, given_eq ha, asWords]
  rw [hwords]
  refine Ends.iff (h.bind (?_ : Gives _ _ _ True)) (by simp [isRefused, Node.children])
  rw [extendedBy_text]
  exact .pure _

/-- A constructor is written as its arguments, so one without arguments is refused. -/
theorem renders_constructor {className : String} {args : List Node} {asName : Option String}
    (h : ∀ n ∈ args, Renders q n) (ha : ∀ a ∈ asName, a ≠ "") :
    Renders q (.constructor className args asName) := by
  rw [Renders, render, treeText, Place.free_iff]
  have hwords : asWords asName = (aliasWords asName).getD "" := by
    rw [aliasWords, given_eq ha, asWords]
  rw [hwords]
  split
  · next hempty => exact Ends.iff (.throw _) (by simp [isRefused, hempty])
  · next hempty =>
    refine Ends.iff ((gives_list h).bind (.strung (?_ : Gives _ _ _ True)))
      (by simp [isRefused, Node.children, hempty])
    rw [extendedBy_text]
    exact .pure _

/-- Direction and place of nulls are words behind the expression. -/
theorem renders_orderItem {e : Node} {direction : Option Direction} {nulls : Option String}
    (h : Renders q e) (hn : ∀ w ∈ nulls, w ≠ "") : Renders q (.orderItem e direction nulls) := by
  rw [Renders, render, treeText, Place.free_iff, given_eq hn]
  refine Ends.iff (h.bind (?_ : Gives _ _ _ True)) (by simp [isRefused, Node.children])
  rw [extendedBy_text, pure_bind, extendedBy_text]
  exact .pure _

/-- A join without an alias is either dropped or refused. One with an alias is not refused itself,
but its condition can be. -/
theorem renders_join {kind : JoinKind} {parts : List String} {asName : Option String} {fetch : Bool}
    {condition : Option Node} (hp : PathText parts) (ha : ∀ a ∈ asName, a ≠ "")
    (hc : ∀ n ∈ condition, Renders q n) :
    Renders q (.join kind (.path parts) asName fetch condition) := by
  rw [Renders, render, Place.free_iff, given_eq ha]
  cases asName with
  | none =>
    rw [treeText]
    refine .next (a := dotted parts) (.pure _) ?_
    split
    · next hdrop =>
      refine .next (a := ()) (.logging fun _ => rfl) (Ends.iff (.pure _) ?_)
      simp [isRefused, hdrop, Node.children, Place.free_iff (n := .path parts)]
    · next hdrop => exact Ends.iff (.throw _) (by simp [isRefused, hdrop])
  | some name =>
    refine .next (a := parts) (.pure _) (.next (gives_joinHead kind hp name) ?_)
    have hfree : q.Free (.path parts) := Place.free_iff.mpr ⟨rfl, nofun⟩
    cases condition with
    | none =>
      rw [treeText]
      refine Ends.iff ((gives_option hc).bind (gives_joinByRelation parts name _)) ?_
      simp [isRefused, Node.children, hfree]
    | some e =>
      rw [treeText]
      refine Ends.iff ((gives_option hc).bind (.next (.pure _) (.pure _))) ?_
      simp [isRefused, Node.children, hfree]

/-- The table of a source is a text, since the schema has only texts. -/
theorem renders_fromItem {entity : String} {asName : Option String} {joins : List Node}
    (hz : q.scope.schema.hasTexts = true) (ha : ∀ a ∈ asName, a ≠ "")
    (hj : ∀ n ∈ joins, Renders q n) : Renders q (.fromItem entity asName joins) := by
  rw [Renders, render, treeText, Place.free_iff]
  refine .next (gives_table entity) (Ends.iff ((gives_present hj).bind (?_ : Gives _ _ _ True))
    (by simp [isRefused, Node.children]))
  rw [ofJson_of_text (Schema.tableName_text hz rfl), optionalText_eq ha, ← List.map_cons,
    ← List.map_append]
  exact .strung (.pure _)

theorem renders_select {items sources grouping ordering : List Node} {distinct : Bool}
    {condition having : Option Node} (hi : ∀ n ∈ items, Renders q n)
    (hs : ∀ n ∈ sources, Renders q n) (hc : ∀ n ∈ condition, Renders q n)
    (hg : ∀ n ∈ grouping, Renders q n) (hh : ∀ n ∈ having, Renders q n)
    (ho : ∀ n ∈ ordering, Renders q n) :
    Renders q (.select items sources distinct condition grouping having ordering) := by
  rw [Renders, render, treeText, Place.free_iff]
  refine Ends.iff
    ((gives_list hs).bind (.strung ((gives_list hi).bind (.strung ((gives_clause "WHERE " hc).bind
    ((gives_list hg).bind
      (?_ : Ends _ _ _ _ ((∀ n ∈ having, q.Free n) ∧ (∀ n ∈ ordering, q.Free n) ∧ True)))))))) ?_
  · rw [itemsClause_texts, pure_bind]
    refine (gives_clause "HAVING " hh).bind ((gives_list ho).bind ?_)
    rw [itemsClause_texts, pure_bind]
    simp only [← List.map_append, ← List.map_cons, ← List.map_nil (f := Fragment.text)]
    exact .strung (.pure _)
  · simp only [isRefused, Node.children, List.mem_append, Option.mem_toList, Option.mem_def, or_imp,
      forall_and, and_assoc, true_and, and_true]
    exact and_left_comm

/-! ## Trees -/

/-- A tree that a query can spell is rendered as its text, exactly if nothing in it is refused. -/
theorem renders_wellFormed (hz : q.scope.schema.hasTexts = true) {n : Node} (h : WellFormed n) :
    Renders q n := by
  induction h with
  | literal | parameter | star =>
    rw [Renders, render, treeText, Place.free_iff]
    exact Ends.iff (.pure _) (by simp [isRefused, Node.children])
  | path hp =>
    rw [Renders, render, treeText, Place.free_iff]
    obtain ⟨first, rest, rfl, -, -⟩ := hp
    exact Ends.iff (gives_path hz (by simp)) (by simp [isRefused, Node.children])
  | clock c => exact renders_clock c
  | otherCall _ _ ih => exact renders_otherCall ih
  | functionCall ht hc _ ih => exact renders_functionCall ht hc ih
  | cast _ _ ih => exact renders_cast ih
  | trim hs _ _ ihc ih =>
    refine renders_trim (fun w hw => ?_) ihc ih
    rintro rfl
    simpa using hs "" hw
  | paren _ ih | existsQuery _ ih | subquery _ ih | isNull _ ih | not _ ih =>
    rw [Renders, render, treeText, Place.free_iff]
    exact Ends.iff (ih.shows (.pure _)) (by simp [isRefused, Node.children])
  | sign ho _ _ ih =>
    rw [Renders, render, treeText, Place.free_iff]
    exact Ends.iff (ih.shows (.pure _)) (by simp [isRefused, Node.children])
  | binary _ _ _ ih ih' | branch _ _ ih ih' =>
    rw [Renders, render, treeText, Place.free_iff]
    exact Ends.iff (ih.shows (ih'.shows (.pure _))) (by simp [isRefused, Node.children])
  | between _ _ _ ih ihl ihu =>
    rw [Renders, render, treeText, Place.free_iff]
    exact Ends.iff (ih.shows (ihl.shows (ihu.shows (.pure _)))) (by simp [isRefused, Node.children])
  | inQuery _ _ ih ihq =>
    rw [Renders, render, treeText, Place.free_iff]
    exact Ends.iff (ihq.bind (ih.shows (.next (.pure _) (.pure _))))
      (by simp [isRefused, Node.children, and_comm])
  | inParameter _ _ ih ihp =>
    rw [Renders, render, treeText, Place.free_iff]
    exact Ends.iff (ihp.bind (ih.shows (.next (.pure _) (.pure _))))
      (by simp [isRefused, Node.children, and_comm])
  | inList _ _ ih ihv =>
    rw [Renders, render, treeText, Place.free_iff, optionTexts, List.append_nil, List.append_nil]
    exact Ends.iff ((gives_list ihv).bind (.strung (ih.shows (.pure _))))
      (by simp [isRefused, Node.children, and_comm])
  | @like e pattern escape negated _ _ _ ih ihp ihc =>
    cases escape with
    | none =>
      rw [Renders, render, treeText, Place.free_iff]
      exact Ends.iff (ih.shows (ihp.shows (.pure _))) (by simp [isRefused, Node.children])
    | some c =>
      rw [Renders, render, treeText, Place.free_iff]
      refine Ends.iff
        (ih.shows (ihp.shows ((gives_option ihc).bind (.next (.pure _) (.pure _))))) ?_
      simp [isRefused, Node.children]
  | memberOf _ _ _ =>
    rw [Renders, render, treeText, Place.free_iff]
    exact Ends.iff (.throw _) (by simp [isRefused])
  | caseOf _ _ _ iho ihb ihe =>
    exact renders_caseOf iho ihb ihe
  | selectItem _ ha ih => exact renders_selectItem ih (ne_empty_of_nameText ha)
  | constructor _ ha ih => exact renders_constructor ih (ne_empty_of_nameText ha)
  | join hp ha _ ih => exact renders_join hp (ne_empty_of_nameText ha) ih
  | fromItem _ ha _ _ ih => exact renders_fromItem hz (ne_empty_of_nameText ha) ih
  | assignment hp _ ih =>
    obtain ⟨first, rest, rfl, -, -⟩ := hp
    have hfree : q.Free (.path (first :: rest)) := Place.free_iff.mpr ⟨rfl, nofun⟩
    rw [Renders, render, treeText, Place.free_iff]
    refine .next (.pure _) (Ends.iff ((gives_target hz (by simp)).shows (ih.shows (.pure _))) ?_)
    simp [isRefused, Node.children, hfree]
  | orderItem _ hn ih =>
    refine renders_orderItem ih fun w hw => ?_
    rintro rfl
    simpa using hn "" hw
  | select _ _ _ _ _ _ ihi ihs ihc ihg ihh iho => exact renders_select ihi ihs ihc ihg ihh iho

/-- Assignments and condition are written in the place of the update, where its entity and its alias
are known. -/
theorem renders_update (hz : q.scope.schema.hasTexts = true) (ht : q.target = none)
    (ha : q.targetAlias = none) {entity : String} {asName : Option String} {assignments : List Node}
    {condition : Option Node} (hn : ∀ a ∈ asName, a ≠ "") (h : ∀ n ∈ assignments, WellFormed n)
    (hc : ∀ n ∈ condition, WellFormed n) :
    Renders q (.update entity asName assignments condition) := by
  let inside : Place := { q with target := some entity, targetAlias := asName }
  have hassignments : ∀ n ∈ assignments, Renders inside n :=
    fun n hn => renders_wellFormed (q := inside) hz (h n hn)
  have hcondition : ∀ n ∈ condition, Renders inside n :=
    fun n hn => renders_wellFormed (q := inside) hz (hc n hn)
  have hfree : q.Free (.update entity asName assignments condition) ↔
      (∀ n ∈ assignments, inside.Free n) ∧ (∀ n ∈ condition, inside.Free n) ∧ True := by
    rw [Place.free_iff]
    simp [isRefused, Node.children, or_imp, forall_and, Place.Free, inside]
  rw [Renders, render, treeText, hfree]
  refine Ends.modify (q := q) (p := inside) rfl (fun s hs => hs.move) ?_
  refine Ends.next (gives_table (q := inside) entity) ?_
  refine (gives_list hassignments).bind (.strung ((gives_clause "WHERE " hcondition).bind ?_))
  refine Ends.modify (q := inside) (p := q) rfl (fun s hs => ⟨ht.symm, ha.symm, hs.columns⟩) ?_
  rw [ofJson_of_text (Schema.tableName_text hz rfl), optionalText_eq hn]
  simp only [← List.map_append, ← List.map_cons, ← List.map_nil (f := Fragment.text)]
  exact .strung (.pure _)

/-- The condition is written in the place of the delete, where its entity is known but no alias. -/
theorem renders_delete (hz : q.scope.schema.hasTexts = true) (ht : q.target = none)
    {entity : String} {asName : Option String} {condition : Option Node} (hn : ∀ a ∈ asName, a ≠ "")
    (hc : ∀ n ∈ condition, WellFormed n) :
    Renders q (.delete entity asName condition) := by
  let inside : Place := { q with target := some entity }
  have hcondition : ∀ n ∈ condition, Renders inside n :=
    fun n hn => renders_wellFormed (q := inside) hz (hc n hn)
  have hfree : q.Free (.delete entity asName condition) ↔
      (∀ n ∈ condition, inside.Free n) ∧ True := by
    rw [Place.free_iff]
    simp [isRefused, Node.children, Place.Free, inside]
  rw [Renders, render, treeText, hfree]
  refine Ends.modify (q := q) (p := inside) rfl (fun s hs => ⟨rfl, hs.targetAlias, hs.columns⟩) ?_
  refine Ends.next (gives_table (q := inside) entity) ((gives_clause "WHERE " hcondition).bind ?_)
  refine Ends.modify (q := inside) (p := q) rfl
    (fun s hs => ⟨ht.symm, hs.targetAlias, hs.columns⟩) ?_
  rw [ofJson_of_text (Schema.tableName_text hz rfl), optionalText_eq hn]
  simp only [← List.map_append, ← List.map_cons]
  exact .strung (.pure _)

/-- A statement is rendered as its text, exactly if nothing in it is refused. -/
theorem renders_statement (hz : q.scope.schema.hasTexts = true) (ht : q.target = none)
    (ha : q.targetAlias = none) {n : Node} (h : WellFormedStatement n) : Renders q n := by
  cases h with
  | query h _ => exact renders_wellFormed hz h
  | update _ hn _ h hc => exact renders_update hz ht ha (ne_empty_of_nameText hn) h hc
  | delete _ hn hc => exact renders_delete hz ht (ne_empty_of_nameText hn) hc
  | insert =>
    rw [Renders, render, treeText, Place.free_iff]
    exact Ends.iff (.throw _) (by simp [isRefused])

end EntityQuery.Sql
