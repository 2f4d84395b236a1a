import EntityQuery.Proofs.Sql.RoundTrip

/-!
# Trees that a query can spell

Any node may stand in any slot of a tree, but the trees that are read from a query keep to a shape:
calls have the arguments that they need, joins and assignments name paths, and every text in them
was a token once. `WellFormed` is that shape for everything below a statement, `WellFormedStatement`
for the statement itself.

1. `derives_wellFormed`: what the grammar derives is well formed, by induction on the derivation.
2. `wellFormed_of_parse`: so is what is read from a query.

What walks over a tree afterwards needs one induction on `WellFormed`, with one case for each form
of a node.
-/

namespace EntityQuery.Sql

open Grammar

/-! ## Texts -/

/-- The text of a token that is neither a sign nor a parameter. -/
def LiteralText (text : String) : Prop :=
  ∃ kind : TokenKind, kind.isParameter = false ∧ (∀ s, kind ≠ .symbol s) ∧
    Lexeme.Spelling kind text.toList

/-- The text of a token that is no parameter. -/
def OperatorText (text : String) : Prop :=
  ∃ kind : TokenKind, kind.isParameter = false ∧ Lexeme.Spelling kind text.toList

/-- The kind of a parameter. -/
def parameterKind (positional : Bool) : TokenKind :=
  if positional then .positionalParameter else .namedParameter

/-- A parameter is spelled as one. -/
def ParameterText (name : String) (positional : Bool) : Prop :=
  Lexeme.Spelling (parameterKind positional) (parameterText name positional).toList

/-- The name of a type as a query spells it. -/
def TypeText (type : String) : Prop :=
  ∃ ts, TypeName type ts ∧ Proper ts

/-! ## Kinds of nodes -/

/-- Expressions that may stand directly behind a sign. -/
def takesSign : Node → Bool
  | .literal .. | .path .. | .parameter .. | .call .. | .paren .. | .subquery .. | .existsQuery ..
  | .caseOf .. => true
  | .unary operator _ => operator != "NOT"
  | _ => false

/-- A join. -/
def isJoin : Node → Bool
  | .join .. => true
  | _ => false

/-- An assignment. -/
def isAssignment : Node → Bool
  | .assignment .. => true
  | _ => false

/-! ## Shapes -/

/-- The trees that can stand below a statement. -/
inductive WellFormed : Node → Prop
  -- Expressions.
  | literal {value : String} {kind : LiteralKind} (h : LiteralText value) : WellFormed
      (.literal value kind)
  | path {parts : List String} (h : PathText parts) : WellFormed (.path parts)
  | parameter {name : String} {positional : Bool} (h : ParameterText name positional) :
      WellFormed (.parameter name positional)
  | star : WellFormed .star
  | clock (c : Clock) : WellFormed (plainCall (TokenKind.clock c).name [])
  | otherCall {name : String} {args : List Node} (hn : NameText name)
      (h : ∀ n ∈ args, WellFormed n) :
      WellFormed (.call name args false false none none none)
  | functionCall {f : Function} {args : List Node} {distinct : Bool} (ht : f ≠ .trim)
      (hc : f ≠ .cast)
      (h : ∀ n ∈ args, WellFormed n) : WellFormed
      (.call (TokenKind.function f).name args distinct true none none none)
  | cast {e : Node} {type : String} (h : WellFormed e) (ht : TypeText type) :
      WellFormed (.call "CAST" [e] false true none none (some type))
  | trim {e : Node} {side : Option String} {char : Option Node}
      (hs : ∀ w ∈ side, w ∈ ["LEADING", "TRAILING", "BOTH"])
      (hc : ∀ n ∈ char, WellFormed n) (h : WellFormed e) : WellFormed
      (.call "TRIM" [e] false true side char none)
  | paren {e : Node} (h : WellFormed e) : WellFormed (.paren e)
  | not {e : Node} (h : WellFormed e) : WellFormed (.unary "NOT" e)
  | sign {operator : String} {e : Node} (ho : operator = "+" ∨ operator = "-")
      (hs : takesSign e = true) (h : WellFormed e) : WellFormed (.unary operator e)
  | binary {left right : Node} {operator : String} (ho : OperatorText operator)
      (hl : WellFormed left) (hr : WellFormed right) : WellFormed (.binary left operator right)
  | isNull {e : Node} {negated : Bool} (h : WellFormed e) : WellFormed (.isNull e negated)
  | between {e lower upper : Node} {negated : Bool} (h : WellFormed e) (hl : WellFormed lower)
      (hu : WellFormed upper) :
      WellFormed (.between e lower upper negated)
  | inQuery {e query : Node} {negated : Bool} (h : WellFormed e) (hq : WellFormed query) :
      WellFormed (.inSet e [] (some query) none negated)
  | inParameter {e parameter : Node} {negated : Bool} (h : WellFormed e)
      (hp : WellFormed parameter) :
      WellFormed (.inSet e [] none (some parameter) negated)
  | inList {e : Node} {values : List Node} {negated : Bool} (h : WellFormed e)
      (hv : ∀ n ∈ values, WellFormed n) :
      WellFormed (.inSet e values none none negated)
  | like {e pattern : Node} {escape : Option Node} {negated : Bool} (h : WellFormed e)
      (hp : WellFormed pattern)
      (hc : ∀ n ∈ escape, WellFormed n) : WellFormed (.like e pattern escape negated)
  | memberOf {e : Node} {parts : List String} {negated : Bool} (h : WellFormed e)
      (hp : PathText parts) :
      WellFormed (.memberOf e (.path parts) negated)
  | existsQuery {query : Node} (h : WellFormed query) : WellFormed (.existsQuery query)
  | subquery {query : Node} (h : WellFormed query) : WellFormed (.subquery query)
  | branch {condition result : Node} (hc : WellFormed condition) (hr : WellFormed result) :
      WellFormed (.branch condition result)
  | caseOf {operand otherwise : Option Node} {branches : List Node}
      (ho : ∀ n ∈ operand, WellFormed n)
      (hb : ∀ n ∈ branches, WellFormed n) (he : ∀ n ∈ otherwise, WellFormed n) :
      WellFormed (.caseOf operand branches otherwise)
  -- Items of clauses.
  | selectItem {e : Node} {asName : Option String} (h : WellFormed e)
      (ha : ∀ a ∈ asName, NameText a) :
      WellFormed (.selectItem e asName)
  | constructor {className : String} {args : List Node} {asName : Option String}
      (h : ∀ n ∈ args, WellFormed n)
      (ha : ∀ a ∈ asName, NameText a) : WellFormed (.constructor className args asName)
  | join {kind : JoinKind} {parts : List String} {asName : Option String} {fetch : Bool}
      {condition : Option Node}
      (hp : PathText parts) (ha : ∀ a ∈ asName, NameText a) (hc : ∀ n ∈ condition, WellFormed n) :
      WellFormed (.join kind (.path parts) asName fetch condition)
  | fromItem {parts : List String} {asName : Option String} {joins : List Node}
      (hp : PathText parts)
      (ha : ∀ a ∈ asName, NameText a) (hk : ∀ n ∈ joins, isJoin n = true)
      (hj : ∀ n ∈ joins, WellFormed n) :
      WellFormed (.fromItem (dotted parts) asName joins)
  | assignment {parts : List String} {value : Node} (hp : PathText parts) (h : WellFormed value) :
      WellFormed (.assignment (.path parts) value)
  | orderItem {e : Node} {direction : Option Direction} {nulls : Option String} (h : WellFormed e)
      (hn : ∀ w ∈ nulls, w ∈ ["FIRST", "LAST"]) : WellFormed (.orderItem e direction nulls)
  -- Queries.
  | select {items sources grouping ordering : List Node} {distinct : Bool}
      {condition having : Option Node}
      (hi : ∀ n ∈ items, WellFormed n) (hs : ∀ n ∈ sources, WellFormed n)
      (hc : ∀ n ∈ condition, WellFormed n)
      (hg : ∀ n ∈ grouping, WellFormed n) (hh : ∀ n ∈ having, WellFormed n)
      (ho : ∀ n ∈ ordering, WellFormed n) :
      WellFormed (.select items sources distinct condition grouping having ordering)

/-- The trees that can be a statement. -/
inductive WellFormedStatement : Node → Prop
  | query {node : Node} (h : WellFormed node)
      (hk : node.statementKind? = some .select) : WellFormedStatement node
  | update {parts : List String} {asName : Option String} {assignments : List Node}
      {condition : Option Node}
      (hp : PathText parts) (ha : ∀ a ∈ asName, NameText a)
      (hk : ∀ n ∈ assignments, isAssignment n = true)
      (h : ∀ n ∈ assignments, WellFormed n) (hc : ∀ n ∈ condition, WellFormed n) :
      WellFormedStatement (.update (dotted parts) asName assignments condition)
  | delete {parts : List String} {asName : Option String} {condition : Option Node}
      (hp : PathText parts) (ha : ∀ a ∈ asName, NameText a) (hc : ∀ n ∈ condition, WellFormed n) :
      WellFormedStatement (.delete (dotted parts) asName condition)
  | insert {parts : List String} {targets : List Node} {query : Node} (hp : PathText parts)
      (ht : ∀ n ∈ targets, ∃ ps, n = .path ps ∧ PathText ps) (h : WellFormed query) :
      WellFormedStatement (.insert (dotted parts) targets (some query))

/-! ## Derivations -/

/-- A single tree of the grammar is well formed. -/
def PartWellFormed : Part → Node → Prop
  | .target, n => ∃ ps, n = .path ps ∧ PathText ps
  | .join, n => WellFormed n ∧ isJoin n = true
  | .assignment, n => WellFormed n ∧ isAssignment n = true
  | .select, n => WellFormed n ∧ n.statementKind? = some .select
  | .statement, n => WellFormedStatement n
  | _, n => WellFormed n

/-- The trees of a phrase are well formed. -/
def PhraseWellFormed : Phrase → Prop
  | .expression t e => WellFormed e ∧ (isTight t = true → takesSign e = true)
  | .part k n => PartWellFormed k n
  | .list k ns => ∀ n ∈ ns, PartWellFormed k n
  | .joins ns => ∀ n ∈ ns, PartWellFormed .join n
  | .branches ns => ∀ n ∈ ns, WellFormed n
  | .arguments ns => ∀ n ∈ ns, WellFormed n
  | .clause _ e => ∀ n ∈ e, WellFormed n
  | .byClause _ k ns => ∀ n ∈ ns, PartWellFormed k n

theorem isTight_tighter {t : Tier} (h : isTight t = true) : isTight t.tighter = true := by
  cases t with
  | sign => rfl
  | primary => rfl
  | _ => cases h

/-- Nothing is claimed of expressions that may not stand behind a sign. -/
theorem of_loose {t : Tier} {P : Prop} (ht : isTight t = false) : isTight t = true → P := by
  intro h
  rw [ht] at h
  cases h

theorem operatorText_spelling {t : Tier} {op : Token} (ho : t.joins op.kind = true)
    (hop : Lexeme.Spelling op.kind op.text.toList) : OperatorText (t.spelling op) := by
  have hword : ∀ (k : Reserved) (w : String), TokenKind.capitals k.word = w → OperatorText w := by
    rintro k w rfl
    have hs := Lexeme.spelling_of_isWordText (Lexeme.isWordText_capitals k)
    rw [Lexeme.ofWord_capitals] at hs
    exact ⟨.reserved k, rfl, hs⟩
  cases t with
  | disjunction => exact hword .or "OR" rfl
  | conjunction => exact hword .and "AND" rfl
  | _ =>
    refine ⟨op.kind, ?_, hop⟩
    cases hk : op.kind <;> rw [hk] at ho <;> first | rfl | cases ho

theorem literalText_of_word {w : String} (h : Lexeme.isWordText w.toList = true) :
    LiteralText w := by
  refine ⟨.ofWord w, ?_, ?_, Lexeme.spelling_of_isWordText h⟩
  · have := isWord_ofWord w
    cases hk : TokenKind.ofWord w <;> rw [hk] at this <;> first | rfl | cases this
  · rintro s hs
    have := isWord_ofWord w
    rw [hs] at this
    cases this

theorem wellFormed_atom {t : Token} {e : Node} (h : atom? t = some e)
    (ht : Lexeme.Spelling t.kind t.text.toList) :
    WellFormed e ∧ takesSign e = true := by
  have hliteral : ∀ {kind : TokenKind} {type : LiteralKind}, t.kind = kind →
      kind.isParameter = false →
      (∀ s, kind ≠ .symbol s) →
      WellFormed (.literal t.text type) ∧ takesSign (.literal t.text type) = true := by
    rintro kind type rfl hp hs
    exact ⟨.literal ⟨t.kind, hp, hs, ht⟩, rfl⟩
  unfold atom? at h
  split at h
  · next hk =>
    cases h
    exact hliteral hk rfl nofun
  · next hk =>
    cases h
    exact hliteral hk rfl nofun
  · next hk =>
    cases h
    exact hliteral hk rfl nofun
  · cases h
    exact ⟨.literal (literalText_of_word (by decide +kernel)), rfl⟩
  · cases h
    exact ⟨.literal (literalText_of_word (by decide +kernel)), rfl⟩
  · cases h
    exact ⟨.literal (literalText_of_word (by decide +kernel)), rfl⟩
  · next hk =>
    cases h
    rw [hk] at ht
    refine ⟨.parameter ?_, rfl⟩
    rw [ParameterText, parameterText, if_neg Bool.false_ne_true, text_of_namedParameter ht]
    exact ht
  · next hk =>
    cases h
    rw [hk] at ht
    exact ⟨.parameter ht, rfl⟩
  · cases h
    exact ⟨.clock _, rfl⟩
  · cases h

theorem side_of_side {side : Option String} {ts : List Token} (h : Side side ts) :
    ∀ w ∈ side, w ∈ ["LEADING", "TRAILING", "BOTH"] := by
  cases h with
  | absent => simp
  | present ht =>
    rintro w ⟨⟩
    rw [isSide, Bool.and_eq_true, List.contains_iff_mem] at ht
    exact ht.2

theorem nulls_of_nullsWords {nulls : Option String} {ts : List Token} (h : NullsWords nulls ts) :
    ∀ w ∈ nulls, w ∈ ["FIRST", "LAST"] := by
  cases h <;> simp

theorem forall_mem_concat {α : Type} {P : α → Prop} {xs : List α} {x : α} (h : ∀ y ∈ xs, P y)
    (hx : P x) :
    ∀ y ∈ xs ++ [x], P y := by
  simpa [or_imp, forall_and] using ⟨h, hx⟩

/-- What the grammar derives from the tokens of a text is well formed. -/
theorem derives_wellFormed {whole : Bool} {p : Phrase} {ts : List Token} (h : Derives whole p ts)
    (hp : Proper ts) :
    PhraseWellFormed p := by
  induction h with
  | tighter _ ih => exact ⟨(ih hp).1, fun ht => (ih hp).2 (isTight_tighter ht)⟩
  | @binary t l r us vs op ho _ _ ihl ihr =>
    refine ⟨.binary (operatorText_spelling ho (hp op (by simp)))
      (ihl (hp.of_subset (by simp +contextual))).1
      (ihr (hp.of_subset (by simp +contextual))).1, fun ht => ?_⟩
    cases t with
    | sign => cases ho
    | primary => cases ho
    | _ => cases ht
  | not _ _ ih => exact ⟨.not (ih (hp.of_subset (by simp +contextual))).1, of_loose rfl⟩
  | @sign op e us ho _ ih =>
    have hop := hp op (by simp)
    have htext : op.text = "+" ∨ op.text = "-" := by
      rcases ho with ho | ho
      · exact .inl (text_of_sign (ho ▸ hop) (.inl ⟨rfl, rfl⟩))
      · exact .inr (text_of_sign (ho ▸ hop) (.inr ⟨rfl, rfl⟩))
    obtain ⟨he, hs⟩ := ih (hp.of_subset (by simp +contextual))
    refine ⟨.sign htext (hs rfl) he, fun _ => ?_⟩
    rcases htext with htext | htext <;> rw [takesSign, htext] <;> rfl
  | isNull _ _ _ _ ih => exact ⟨.isNull (ih (hp.of_subset (by simp +contextual))).1, of_loose rfl⟩
  | between _ _ _ _ _ _ ih ihl ihu =>
    exact ⟨.between (ih (hp.of_subset (by simp +contextual))).1
      (ihl (hp.of_subset (by simp +contextual))).1
      (ihu (hp.of_subset (by simp +contextual))).1, of_loose rfl⟩
  | @inParameter e p us ms negated w t _ _ _ _ ha ih =>
    exact ⟨.inParameter (ih (hp.of_subset (by simp +contextual))).1
      (wellFormed_atom ha (hp t (by simp))).1, of_loose rfl⟩
  | inQuery _ _ _ _ _ _ ih ihq =>
    exact ⟨.inQuery (ih (hp.of_subset (by simp +contextual))).1
      (ihq (hp.of_subset (by simp +contextual))).1, of_loose rfl⟩
  | inList _ _ _ _ _ _ ih ihv =>
    exact ⟨.inList (ih (hp.of_subset (by simp +contextual))).1
      (ihv (hp.of_subset (by simp +contextual))), of_loose rfl⟩
  | like _ _ _ _ ih ihp =>
    exact ⟨.like (ih (hp.of_subset (by simp +contextual))).1
      (ihp (hp.of_subset (by simp +contextual))).1 (by simp), of_loose rfl⟩
  | likeEscape _ _ _ _ _ _ ih ihp ihe =>
    refine ⟨.like (ih (hp.of_subset (by simp +contextual))).1
      (ihp (hp.of_subset (by simp +contextual))).1 ?_, of_loose rfl⟩
    rintro n ⟨⟩
    exact (ihe (hp.of_subset (by simp +contextual))).1
  | memberOf _ _ _ _ hd ih =>
    exact ⟨.memberOf (ih (hp.of_subset (by simp +contextual))).1
      (pathText_of_dotted hd (hp.of_subset (by simp +contextual))), of_loose rfl⟩
  | atom h =>
    obtain ⟨he, hs⟩ := wellFormed_atom h (hp _ (by simp))
    exact ⟨he, fun _ => hs⟩
  | path h => exact ⟨.path (pathText_of_dotted h hp), fun _ => rfl⟩
  | paren _ _ _ ih => exact ⟨.paren (ih (hp.of_subset (by simp +contextual))), fun _ => rfl⟩
  | subquery _ _ _ ih => exact ⟨.subquery (ih (hp.of_subset (by simp +contextual))).1, fun _ => rfl⟩
  | existsQuery _ _ _ _ ih =>
    exact ⟨.existsQuery (ih (hp.of_subset (by simp +contextual))).1, fun _ => rfl⟩
  | caseSearched _ _ _ _ _ ihb ihe =>
    exact ⟨.caseOf (by simp) (ihb (hp.of_subset (by simp +contextual)))
      (ihe (hp.of_subset (by simp +contextual))), fun _ => rfl⟩
  | caseSimple _ _ _ _ _ _ iho ihb ihe =>
    refine ⟨.caseOf ?_ (ihb (hp.of_subset (by simp +contextual)))
      (ihe (hp.of_subset (by simp +contextual))), fun _ => rfl⟩
    rintro n ⟨⟩
    exact iho (hp.of_subset (by simp +contextual))
  | @otherCall args us f o c hf _ _ _ ih =>
    have hname : NameText f.text := ⟨_, by rw [hf]; rfl, hp f (by simp)⟩
    exact ⟨.otherCall hname (ih (hp.of_subset (by simp +contextual))), fun _ => rfl⟩
  | functionCall hg _ _ _ _ _ ih =>
    simp only [hasPlainArguments, Bool.and_eq_true, decide_eq_true_eq] at hg
    exact ⟨.functionCall hg.1.2 hg.2 (ih (hp.of_subset (by simp +contextual))), fun _ => rfl⟩
  | countAll _ _ _ _ =>
    exact ⟨.functionCall (by simp) (by simp) (by simpa using .star), fun _ => rfl⟩
  | aggregate hg _ _ _ _ _ ih =>
    obtain ⟨-, ht, hc⟩ := ne_of_isAggregate hg
    have he : WellFormed _ := ih (hp.of_subset (by simp +contextual))
    exact ⟨.functionCall ht hc (by simpa using he), fun _ => rfl⟩
  | cast _ _ _ _ ht _ ih =>
    exact ⟨.cast (ih (hp.of_subset (by simp +contextual)))
      ⟨_, ht, hp.of_subset (by simp +contextual)⟩, fun _ => rfl⟩
  | trim _ _ _ _ _ ih =>
    exact ⟨.trim (by simp) (by simp) (ih (hp.of_subset (by simp +contextual))), fun _ => rfl⟩
  | trimFrom _ _ hs _ _ _ ih =>
    exact ⟨.trim (side_of_side hs) (by simp) (ih (hp.of_subset (by simp +contextual))),
      fun _ => rfl⟩
  | trimCharacter _ _ hs _ _ _ _ _ ihu ih =>
    refine ⟨.trim (side_of_side hs) ?_ (ih (hp.of_subset (by simp +contextual))), fun _ => rfl⟩
    rintro n ⟨⟩
    exact ihu (hp.of_subset (by simp +contextual))
  | one _ ih => simpa [PhraseWellFormed] using ih hp
  | more _ _ _ ih ihn =>
    exact forall_mem_concat (ih (hp.of_subset (by simp +contextual)))
      (ihn (hp.of_subset (by simp +contextual)))
  | noJoin => simp [PhraseWellFormed]
  | moreJoins _ _ ih ihj =>
    exact forall_mem_concat (ih (hp.of_subset (by simp +contextual)))
      (ihj (hp.of_subset (by simp +contextual)))
  | noBranch => simp [PhraseWellFormed]
  | moreBranches _ _ _ _ _ ih ihc ihr =>
    exact forall_mem_concat (ih (hp.of_subset (by simp +contextual)))
      (.branch (ihc (hp.of_subset (by simp +contextual)))
        (ihr (hp.of_subset (by simp +contextual))))
  | noArgument => simp [PhraseWellFormed]
  | someArguments _ ih => exact ih hp
  | noClause => simp [PhraseWellFormed]
  | someClause _ _ ih =>
    rintro n ⟨⟩
    exact ih (hp.of_subset (by simp +contextual))
  | noByClause => simp [PhraseWellFormed]
  | someByClause _ _ _ ih => exact ih (hp.of_subset (by simp +contextual))
  | argument _ ih => exact (ih hp).1
  | target h => exact ⟨_, rfl, pathText_of_dotted h hp⟩
  | selectItem _ ha ih =>
    exact .selectItem (ih (hp.of_subset (by simp +contextual)))
      (nameText_of_alias ha (hp.of_subset (by simp +contextual)))
  | constructor _ _ _ _ _ ha ih =>
    exact .constructor (ih (hp.of_subset (by simp +contextual)))
      (nameText_of_alias ha (hp.of_subset (by simp +contextual)))
  | join _ _ _ hd ha _ ih =>
    exact ⟨.join (pathText_of_dotted hd (hp.of_subset (by simp +contextual)))
      (nameText_of_alias ha (hp.of_subset (by simp +contextual)))
      (ih (hp.of_subset (by simp +contextual))), rfl⟩
  | source hd ha _ ih =>
    have hjoins := ih (hp.of_subset (by simp +contextual))
    exact .fromItem (pathText_of_dotted hd (hp.of_subset (by simp +contextual)))
      (nameText_of_alias ha (hp.of_subset (by simp +contextual))) (fun n hn => (hjoins n hn).2)
      fun n hn => (hjoins n hn).1
  | orderItem _ _ hn ih =>
    exact .orderItem (ih (hp.of_subset (by simp +contextual))) (nulls_of_nullsWords hn)
  | assignment hd _ _ ih =>
    exact ⟨.assignment (pathText_of_dotted hd (hp.of_subset (by simp +contextual)))
      (ih (hp.of_subset (by simp +contextual))), rfl⟩
  | select _ _ _ _ _ _ _ _ _ ihi ihs ihc ihg ihh iho =>
    exact ⟨.select (ihi (hp.of_subset (by simp +contextual)))
      (ihs (hp.of_subset (by simp +contextual)))
      (ihc (hp.of_subset (by simp +contextual))) (ihg (hp.of_subset (by simp +contextual)))
      (ihh (hp.of_subset (by simp +contextual))) (iho (hp.of_subset (by simp +contextual))), rfl⟩
  | ofSelect _ ih => exact .query (ih hp).1 (ih hp).2
  | update _ hd ha _ _ _ ih ihc =>
    have hset := ih (hp.of_subset (by simp +contextual))
    exact .update (pathText_of_dotted hd (hp.of_subset (by simp +contextual)))
      (nameText_of_alias ha (hp.of_subset (by simp +contextual))) (fun n hn => (hset n hn).2)
      (fun n hn => (hset n hn).1) (ihc (hp.of_subset (by simp +contextual)))
  | delete _ _ hd ha _ ih =>
    exact .delete (pathText_of_dotted hd (hp.of_subset (by simp +contextual)))
      (nameText_of_alias ha (hp.of_subset (by simp +contextual)))
      (ih (hp.of_subset (by simp +contextual)))
  | insert _ _ hd _ _ _ _ iht ihq =>
    exact .insert (pathText_of_dotted hd (hp.of_subset (by simp +contextual)))
      (iht (hp.of_subset (by simp +contextual))) (ihq (hp.of_subset (by simp +contextual))).1

/-- What is read from a query is well formed. -/
theorem wellFormed_of_parse {maxDepth : Int} {query : String} {node : Node}
    (h : parse maxDepth query = .ok node) :
    WellFormedStatement node := by
  obtain ⟨ts, hderives, hproper⟩ := derives_of_parse h
  exact derives_wellFormed hderives hproper

end EntityQuery.Sql
