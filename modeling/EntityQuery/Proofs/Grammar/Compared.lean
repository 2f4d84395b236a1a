import EntityQuery.Grammar.Statement
import EntityQuery.Proofs.Grammar.Comparison

/-!
# The readings side by side

Every reading of the grammar is related to itself in every comparison, provided that the readings
one level further in are (`Comparison.Enters`). One lemma for each reading, in the order of the
grammar; `relates_query` and `relates_atEntry` are what the levels are tied together with.
-/

namespace EntityQuery.Comparison

variable {c : Comparison}

/-- The readings one level further in are related, and there is a level for what they read. -/
def Enters (c : Comparison) (inner inner' : Entry → Reading Node) : Prop :=
  ∀ entry, c.Relates (c.Within fun n => n.nesting + 1) (inner entry) (inner' entry)

/-- What does not nest needs no level. -/
theorem levels_leaf {n : Nat} (h : n = 0) : c.levels n := h ▸ c.levels_zero

/-! ## Names -/

/-- A name is kept as it is spelled, also if it is the word of a function. -/
theorem dropsSpelling_of_isName {k : TokenKind} (h : k.isName = true) :
    k.dropsSpelling = false := by
  cases k with
  | identifier => rfl
  | function f => rfl
  | _ => cases h

/-- Both runs read the same name or both fail. -/
theorem relates_name (role : String) : c.Relates Eq (Reading.name role) (Reading.name role) := by
  refine .looking fun t u h => .ite (by rw [c.kind_eq h]) (fun ht => ?_) fun _ => .fail
  refine (RelatesOn.advance_text ?_).bind fun v w hvw => .pure hvw.2
  rintro s r ⟨-, rfl, -⟩
  exact dropsSpelling_of_isName ht

/-- Behind a point any word is a name, and is kept as it is spelled. -/
theorem relates_wordAfterDot :
    c.RelatesOn (fun s r => s.current.text = r.current.text) Eq Reading.wordAfterDot
      Reading.wordAfterDot := by
  refine .looking fun t u h => .ite (by rw [c.kind_eq h]) (fun _ => ?_) fun _ => .fail
  have htext :
      c.RelatesOn (fun s r => s.current.text = r.current.text ∧ s.current = t ∧ r.current = u)
      (fun v w => v.text = w.text) Reading.advance Reading.advance :=
    fun s r hs hC => .both hC.1 (c.tail hs)
  exact htext.bind fun v w hvw => .pure hvw

/-- A word is read only behind the point that was taken for it. -/
theorem relates_dotted {f g : String → Reading (Option (List String))}
    (h : ∀ word, c.Relates (Option.Rel Eq) (f word) (g word)) :
    c.Relates (Option.Rel Eq)
      (Reading.accept (.symbol .dot) >>= fun b => if b then Reading.wordAfterDot >>= f
        else pure none)
      (Reading.accept (.symbol .dot) >>= fun b => if b then Reading.wordAfterDot >>= g
        else pure none) := by
  intro s r hs _
  have hkind := c.kind_eq (c.current hs)
  by_cases hdot : s.current.kind = .symbol .dot
  · rw [Reading.bind_ok (Reading.accept_ok hdot),
      Reading.bind_ok (Reading.accept_ok (hkind ▸ hdot))]
    exact relates_wordAfterDot.bindEq h (c.tail hs) (c.text_behind_dot hs hdot)
  · rw [Reading.bind_ok (Reading.accept_other hdot),
      Reading.bind_ok (Reading.accept_other (hkind ▸ hdot))]
    exact .both .none hs

/-- The parts of a name are read one by one, with a point before each but the first. -/
theorem relates_dottedName (role : String) :
    c.Relates Eq (Reading.dottedName role) (Reading.dottedName role) := by
  refine (relates_name role).bindEq fun first => relates_loop ?_ rfl
  rintro parts _ rfl
  exact relates_dotted fun word => .pure (.some rfl)

theorem relates_entityName : c.Relates Eq Reading.entityName Reading.entityName :=
  (relates_dottedName _).bindEq fun _ => .pure rfl

theorem relates_path : c.Relates (c.Within Node.nesting) Reading.path Reading.path :=
  (relates_dottedName _).bindEq fun _ => .pure ⟨rfl, levels_leaf (by rw [Node.nesting])⟩

/-- An alias is a name behind `AS`, or an identifier that stands alone. -/
theorem relates_alias : c.Relates Eq Reading.alias? Reading.alias? := by
  refine .accepting ((relates_name _).bindEq fun _ => .pure rfl) (.asking ?_ (.pure rfl))
  refine (RelatesOn.advance_text ?_).bind fun t u htu => .pure (congrArg some htu.2)
  intro s r hs
  rw [hs]
  rfl

theorem relates_typeName : c.Relates Eq Reading.typeName Reading.typeName := by
  refine relates_entityName.bindEq fun base => .accepting ?_ (.pure rfl)
  -- Sizes are kept as they are written; their places are not.
  have hsizes : c.Relates (fun ts us => ts.map Token.text = us.map Token.text)
      (Reading.commaSeparated (Reading.expect .integer .noTypeSize))
      (Reading.commaSeparated (Reading.expect .integer .noTypeSize)) := by
    refine relates_commaSeparated RelatesOn.expect ?_ ?_
    · rintro t u ⟨htu, hkind⟩
      rw [List.map_singleton, List.map_singleton, c.text_eq htu (by rw [hkind]; rfl)]
    · rintro ts us t u hts ⟨htu, hkind⟩
      rw [List.map_append, List.map_append, hts, List.map_singleton, List.map_singleton,
        c.text_eq htu (by rw [hkind]; rfl)]
  exact hsizes.bind fun ts us hts => .expecting (.pure (by rw [hts]))

theorem dropsSpelling_of_isParameter {k : TokenKind} (h : k.isParameter = true) :
    k.dropsSpelling = false := by
  cases k with
  | namedParameter => rfl
  | positionalParameter => rfl
  | _ => cases h

/-- Names and numbers of parameters are kept as they are spelled. -/
theorem relates_parameter {C : Stream → Stream → Prop}
    (hC : ∀ s r, C s r → s.current.kind.isParameter = true) :
    c.RelatesOn C (c.Within Node.nesting) Reading.parameter Reading.parameter := by
  refine (RelatesOn.advance_text fun s r h => dropsSpelling_of_isParameter (hC s r h)).bind ?_
  rintro t u ⟨hkind, htext⟩
  refine .ite (by rw [hkind]) (fun _ => ?_) fun _ => ?_
  · exact .pure ⟨by rw [htext], levels_leaf (by rw [Node.nesting])⟩
  · exact .pure ⟨by rw [htext], levels_leaf (by rw [Node.nesting])⟩

/-! ## Calls -/

/-- A chain nests no deeper than its operands, however long it is. -/
theorem relates_chain {isOperator : TokenKind → Bool} {operator : Token → String}
    {p q : Reading Node}
    (hoperator : ∀ t u, c.tokens t u → isOperator t.kind = true → operator t = operator u)
    (h : c.Relates (c.Within Node.nesting) p q) :
    c.Relates (c.Within Node.nesting) (Reading.chain isOperator operator p)
      (Reading.chain isOperator operator q) := by
  refine h.bindWithin fun first hfirst => relates_loop ?_ ⟨rfl, hfirst⟩
  rintro left _ ⟨rfl, hleft⟩
  refine .looking fun t u htu => .ite (by rw [c.kind_eq htu]) (fun ht => ?_) fun _ => .pure .none
  have htaken : c.RelatesOn (fun s r => True ∧ s.current = t ∧ r.current = u)
      (fun v w => operator v = operator w) Reading.advance Reading.advance := by
    rintro s r hs ⟨-, rfl, rfl⟩
    exact .both (hoperator _ _ htu ht) (c.tail hs)
  refine htaken.bind fun v w hvw => h.bindWithin fun right hright => .pure (.some ⟨by rw [hvw], ?_⟩)
  rw [Node.nesting]
  exact c.levels_max hleft hright

section Inner

variable {inner inner' : Entry → Reading Node}

/-- Arguments are one level further in, each of them. -/
theorem relates_arguments (hi : c.Enters inner inner') (fault : GrammarFault) :
    c.Relates (c.Within Node.entries) (Reading.arguments inner fault)
      (Reading.arguments inner' fault) := by
  refine .accepting (.pure ⟨rfl, c.levels_entries_nil⟩) ?_
  exact (relates_entries (hi .expression)).bindWithin fun args hargs =>
    .expecting (.pure ⟨rfl, hargs⟩)

/-- Calls with nothing but arguments are as deep as these. -/
theorem within_call {name : String} {args : List Node} {distinct known : Bool}
    {side type : Option String} (h : c.levels (Node.entries args)) :
    c.Within Node.nesting (.call name args distinct known side none type)
      (.call name args distinct known side none type) := by
  refine ⟨rfl, ?_⟩
  rw [Node.nesting, Node.entryOption]
  exact c.levels_max h c.levels_zero

/-- An operand that is read one level further in counts as a list of one. -/
theorem levels_argument {n : Node} (h : c.levels (n.nesting + 1)) : c.levels (Node.entries [n]) :=
  c.levels_entries_append c.levels_entries_nil h

/-- The word for a side is not reserved, so it is the spelling that decides, and the token behind
it. -/
theorem relates_trimSide : c.Relates Eq Reading.trimSide? Reading.trimSide? := by
  refine .looking fun t u htu => .lookingAhead fun t' u' hahead => ?_
  have hkind := c.kind_eq htu
  by_cases ht : t.kind = .identifier
  · have htext : t.text = u.text := c.text_eq htu (by rw [ht]; rfl)
    refine .ite (by rw [hkind, htext, hahead]) (fun _ => ?_) fun _ => .pure rfl
    exact RelatesOn.advance.bind fun _ _ _ => .pure (by rw [htext])
  · refine .ite ?_ (fun h => absurd h.1 ht) fun _ => .pure rfl
    exact ⟨fun h => absurd h.1 ht, fun h => absurd (hkind.trans h.1) ht⟩

/-- What stands before `FROM` is the character. It is a level further in, as the operand is. -/
theorem relates_trimOperands (hi : c.Enters inner inner') (side : Option String) :
    c.Relates (c.Within fun x => max (Node.entries [x.1]) (Node.entryOption x.2))
      (Reading.trimOperands inner side) (Reading.trimOperands inner' side) := by
  have hnone : c.levels (Node.entryOption none) := levels_leaf (by rw [Node.entryOption])
  refine .accepting ?_ ?_
  · exact (hi .expression).bindWithin fun arg harg =>
      .pure ⟨rfl, c.levels_max (levels_argument harg) hnone⟩
  refine (hi .expression).bindWithin fun first hfirst => .accepting ?_ ?_
  · refine (hi .expression).bindWithin fun arg harg =>
      .pure ⟨rfl, c.levels_max (levels_argument harg) ?_⟩
    rw [Node.entryOption]
    exact hfirst
  exact .ite Iff.rfl (fun _ => .fail) fun _ =>
    .pure ⟨rfl, c.levels_max (levels_argument hfirst) hnone⟩

theorem relates_trimCall (hi : c.Enters inner inner') :
    c.Relates (c.Within Node.nesting) (Reading.trimCall inner) (Reading.trimCall inner') := by
  refine relates_trimSide.bindEq fun side => (relates_trimOperands hi side).bindWithin ?_
  rintro ⟨arg, char⟩ h
  refine .expecting (.pure ⟨rfl, ?_⟩)
  rw [Node.nesting]
  exact h

theorem relates_castCall (hi : c.Enters inner inner') :
    c.Relates (c.Within Node.nesting) (Reading.castCall inner) (Reading.castCall inner') := by
  refine (hi .expression).bindWithin fun arg harg => .expecting ?_
  exact relates_typeName.bindEq fun type => .expecting (.pure (within_call (levels_argument harg)))

/-- `COUNT(*)` has a star for its argument, which is no level further in. -/
theorem relates_aggregateCall (hi : c.Enters inner inner') (f : Function) :
    c.Relates (c.Within Node.nesting) (Reading.aggregateCall inner f)
      (Reading.aggregateCall inner' f) := by
  refine .looking fun t u htu => .ite (by rw [c.kind_eq htu]) (fun _ => ?_) fun _ => ?_
  · refine RelatesOn.advance.bind fun _ _ _ => .expecting (.pure (within_call ?_))
    rw [Node.entries, Node.entries]
    exact c.levels_zero
  · refine RelatesOn.accept.bindEq fun distinct => (hi .expression).bindWithin fun arg harg => ?_
    exact .expecting (.pure (within_call (levels_argument harg)))

/-- An error about the number of arguments is about the name of the function, in both runs. -/
theorem relates_functionCall (hi : c.Enters inner inner') (f : Function) :
    c.Relates (c.Within Node.nesting) (Reading.functionCall inner f)
      (Reading.functionCall inner' f) := by
  refine RelatesOn.advance.bind fun t u htu => .expecting ?_
  refine .ite Iff.rfl (fun _ => relates_aggregateCall hi f) fun _ => ?_
  refine .ite Iff.rfl (fun _ => relates_trimCall hi) fun _ =>
    .ite Iff.rfl (fun _ => relates_castCall hi) fun _ => ?_
  refine (relates_arguments hi _).bindWithin fun args hargs => ?_
  exact .ite Iff.rfl (fun _ => .failAt _ htu) fun _ => .pure (within_call hargs)

/-- The name of a function that is not known is an identifier and kept as it is spelled. -/
theorem relates_otherCall (hi : c.Enters inner inner') :
    c.RelatesOn (fun s _ => s.current.kind = .identifier) (c.Within Node.nesting)
      (Reading.otherCall inner) (Reading.otherCall inner') := by
  refine (RelatesOn.advance_text fun s r hs => by rw [hs]; rfl).bind ?_
  rintro t u ⟨-, htext⟩
  refine .expecting ((relates_arguments hi _).bindWithin fun args hargs => .pure ?_)
  rw [htext]
  exact within_call hargs

/-! ## Primary expressions -/

/-- What is in parentheses is a query if it starts as one, and an expression otherwise. -/
theorem relates_parenthesized (hi : c.Enters inner inner') :
    c.Relates (c.Within Node.nesting) (Reading.parenthesized inner)
      (Reading.parenthesized inner') := by
  refine RelatesOn.advance.bind fun _ _ _ => .asking ?_ ?_
  · refine (hi .select).on.bindWithin fun query hquery => .expecting (.pure ⟨rfl, ?_⟩)
    rw [Node.nesting]
    exact hquery
  · refine (hi .expression).bindWithin fun e he => .expecting (.pure ⟨rfl, ?_⟩)
    rw [Node.nesting]
    exact he

theorem relates_existsExpression (hi : c.Enters inner inner') :
    c.Relates (c.Within Node.nesting) (Reading.existsExpression inner)
      (Reading.existsExpression inner') := by
  refine RelatesOn.advance.bind fun _ _ _ => .expecting (.asking ?_ .fail)
  refine (hi .select).on.bindWithin fun query hquery => .expecting (.pure ⟨rfl, ?_⟩)
  rw [Node.nesting]
  exact hquery

/-- Conditions and results of branches are a level further in; the branches themselves are not. -/
theorem relates_branches (hi : c.Enters inner inner') :
    c.Relates (c.Within Node.nestings) (Reading.branches inner) (Reading.branches inner') := by
  refine relates_loop ?_ ⟨rfl, c.levels_nestings_nil⟩
  rintro done _ ⟨rfl, hdone⟩
  refine .accepting ?_ (.pure .none)
  refine (hi .expression).bindWithin fun condition hcondition => .expecting ?_
  refine (hi .expression).bindWithin fun result hresult =>
    .pure (.some ⟨rfl, c.levels_nestings_append hdone ?_⟩)
  rw [Node.nesting]
  exact c.levels_max hcondition hresult

/-- The operand of a case expression is read unless a branch comes first. -/
theorem relates_operand {β : Type} {R : β → β → Prop} {f g : Option Node → Reading β}
    (hi : c.Enters inner inner') (searched : Bool)
    (h : ∀ operand, c.levels (Node.entryOption operand) → c.Relates R (f operand) (g operand)) :
    c.Relates R (if searched then pure none >>= f else some <$> inner .expression >>= f)
      (if searched then pure none >>= g else some <$> inner' .expression >>= g) := by
  refine .ite Iff.rfl (fun _ => h none (levels_leaf (by rw [Node.entryOption]))) fun _ => ?_
  rw [map_eq_pure_bind, map_eq_pure_bind, bind_assoc, bind_assoc]
  refine (hi .expression).bindWithin fun e he => h (some e) ?_
  rw [Node.entryOption]
  exact he

/-- Without a branch the expression is refused, with or without an operand. -/
theorem relates_caseExpression (hi : c.Enters inner inner') :
    c.Relates (c.Within Node.nesting) (Reading.caseExpression inner)
      (Reading.caseExpression inner') := by
  refine RelatesOn.advance.bind fun _ _ _ => RelatesOn.at?.bindEq fun searched => ?_
  refine relates_operand hi searched fun operand hop =>
    (relates_branches hi).bindWithin fun branches hbranches => ?_
  refine .ite Iff.rfl (fun _ => .fail) fun _ => ?_
  refine (relates_clause (hi .expression)).bindWithin fun otherwise hother =>
    .expecting (.pure ⟨rfl, ?_⟩)
  rw [Node.nesting]
  exact c.levels_max hop (c.levels_max hbranches hother)

theorem relates_spelledLiteral {C : Stream → Stream → Prop} (kind : LiteralKind)
    (hC : ∀ s r, C s r → s.current.kind.dropsSpelling = false) :
    c.RelatesOn C (c.Within Node.nesting) (Reading.spelledLiteral kind)
      (Reading.spelledLiteral kind) := by
  refine (RelatesOn.advance_text hC).bind ?_
  rintro t u ⟨-, htext⟩
  exact .pure ⟨by rw [htext], levels_leaf (by rw [Node.nesting])⟩

/-- A name is called if a parenthesis follows it. -/
theorem relates_callOrPath {C : Stream → Stream → Prop} {p q : Reading Node}
    (h : c.RelatesOn C (c.Within Node.nesting) p q) :
    c.RelatesOn C (c.Within Node.nesting) (Reading.callOrPath p) (Reading.callOrPath q) :=
  .lookingAhead fun t u htu => .ite (by rw [htu]) (fun _ => h) fun _ => relates_path.on

/-- A word that stands for one node. -/
theorem relates_word {C : Stream → Stream → Prop} {n : Node} (h : n.nesting = 0) :
    c.RelatesOn C (c.Within Node.nesting) (Reading.advance >>= fun _ => pure n)
      (Reading.advance >>= fun _ => pure n) :=
  RelatesOn.advance.bind fun _ _ _ => .pure ⟨rfl, levels_leaf h⟩

/-- By the kind of the token that comes first. -/
theorem relates_primary (hi : c.Enters inner inner') :
    c.Relates (c.Within Node.nesting) (Reading.primary inner) (Reading.primary inner') := by
  refine .looking fun t u htu => ?_
  -- Both runs decide by the kind of the current token, and the readings of the cases look at it
  -- again.
  have hcurrent : ∀ s r : Stream, True ∧ s.current = t ∧ r.current = u →
      s.current.kind = u.kind := by
    rintro s r ⟨-, rfl, -⟩
    exact c.kind_eq htu
  refine RelatesOn.weaken ?_ hcurrent
  rw [c.kind_eq htu]
  generalize u.kind = kind
  cases kind with
  | symbol sign =>
    cases sign with
    | leftParen => exact (relates_parenthesized hi).on
    | _ => exact .fail
  | integer => exact relates_spelledLiteral _ fun s r hs => by rw [hs]; rfl
  | decimal => exact relates_spelledLiteral _ fun s r hs => by rw [hs]; rfl
  | string => exact relates_spelledLiteral _ fun s r hs => by rw [hs]; rfl
  | namedParameter => exact relates_parameter fun s r hs => by rw [hs]; rfl
  | positionalParameter => exact relates_parameter fun s r hs => by rw [hs]; rfl
  | reserved word =>
    cases word with
    | trueWord => exact relates_word (by rw [Node.nesting])
    | falseWord => exact relates_word (by rw [Node.nesting])
    | null => exact relates_word (by rw [Node.nesting])
    | case => exact (relates_caseExpression hi).on
    | «exists» => exact (relates_existsExpression hi).on
    | _ => exact .fail
  | clock clock =>
    exact relates_word
      (by rw [Reading.knownCall, Node.nesting, Node.entries, Node.entryOption]; rfl)
  | function f => exact relates_callOrPath (relates_functionCall hi f).on
  | identifier => exact relates_callOrPath (relates_otherCall hi)
  | endOfInput => exact .fail

/-! ## Arithmetic and comparison -/

/-- A sign is kept as it is spelled. -/
theorem dropsSpelling_of_isSign {k : TokenKind} (h : Reading.isSign k = true) :
    k.dropsSpelling = false := by
  cases k with
  | symbol sign => rfl
  | _ => cases h

/-- Each sign is a level further in. -/
theorem relates_signed (hi : c.Enters inner inner') :
    c.Relates (c.Within Node.nesting) (Reading.signed inner) (Reading.signed inner') := by
  refine .looking fun t u htu => .ite (by rw [c.kind_eq htu]) (fun ht => ?_) fun _ =>
    (relates_primary hi).on
  have hspelled : ∀ s r : Stream, True ∧ s.current = t ∧ r.current = u →
      s.current.kind.dropsSpelling = false := by
    rintro s r ⟨-, rfl, -⟩
    exact dropsSpelling_of_isSign ht
  refine (RelatesOn.advance_text hspelled).bind ?_
  rintro v w ⟨-, htext⟩
  refine (hi .sign).bindWithin fun operand h => .pure ⟨by rw [htext], ?_⟩
  rw [Node.nesting]
  exact h

/-- Chains of signs keep the spelling of the signs. -/
theorem relates_symbolChain {isOperator : TokenKind → Bool} {p q : Reading Node}
    (hsymbol : ∀ k, isOperator k = true → k.dropsSpelling = false)
    (h : c.Relates (c.Within Node.nesting) p q) :
    c.Relates (c.Within Node.nesting) (Reading.chain isOperator Token.text p)
      (Reading.chain isOperator Token.text q) :=
  relates_chain (fun _ _ htu ht => c.text_eq htu (hsymbol _ ht)) h

theorem relates_multiplicative (hi : c.Enters inner inner') :
    c.Relates (c.Within Node.nesting) (Reading.multiplicative inner)
      (Reading.multiplicative inner') := by
  refine relates_symbolChain (fun k hk => ?_) (relates_signed hi)
  cases k with
  | symbol sign => rfl
  | _ => cases hk

theorem relates_additive (hi : c.Enters inner inner') :
    c.Relates (c.Within Node.nesting) (Reading.additive inner) (Reading.additive inner') := by
  refine relates_symbolChain (fun k hk => ?_) (relates_multiplicative hi)
  cases k with
  | symbol sign => rfl
  | _ => cases hk

theorem relates_comparison (hi : c.Enters inner inner') :
    c.Relates (c.Within Node.nesting) (Reading.comparison inner) (Reading.comparison inner') := by
  refine relates_symbolChain (fun k hk => ?_) (relates_additive hi)
  cases k with
  | symbol sign => rfl
  | _ => cases hk

/-! ## Predicates -/

/-- `NOT` belongs to a predicate if the token behind it does. -/
theorem relates_negation : c.Relates Eq Reading.negation? Reading.negation? := by
  refine .looking fun t u htu => .lookingAhead fun t' u' hahead => ?_
  refine .ite (by rw [c.kind_eq htu, hahead]) (fun _ => ?_) fun _ => .pure rfl
  exact RelatesOn.advance.bind fun _ _ _ => .pure rfl

/-- Behind `IN`, a parameter needs no level. A query and the values of a list do. -/
theorem relates_inSet (hi : c.Enters inner inner') {left : Node} (hleft : c.levels left.nesting)
    (negated : Bool) :
    c.Relates (c.Within Node.nesting) (Reading.inSet inner left negated)
      (Reading.inSet inner' left negated) := by
  refine .looking fun t u htu => .ite (by rw [c.kind_eq htu]) (fun ht => ?_) fun _ => ?_
  · have hparameter : ∀ s r : Stream, True ∧ s.current = t ∧ r.current = u →
        s.current.kind.isParameter = true := by
      rintro s r ⟨-, rfl, -⟩
      exact ht
    refine (relates_parameter hparameter).bindWithin fun p _ => .pure ⟨rfl, ?_⟩
    rw [Node.nesting, Node.entryOption]
    exact c.levels_max hleft (c.levels_max c.levels_entries_nil c.levels_zero)
  refine .expecting (.asking ?_ ?_)
  · refine (hi .select).on.bindWithin fun query hquery => .expecting (.pure ⟨rfl, ?_⟩)
    rw [Node.nesting, Node.entryOption]
    exact c.levels_max hleft (c.levels_max c.levels_entries_nil hquery)
  · refine (relates_entries (hi .expression)).bindWithin fun values hvalues =>
      .expecting (.pure ⟨rfl, ?_⟩)
    rw [Node.nesting, Node.entryOption]
    exact c.levels_max hleft (c.levels_max hvalues c.levels_zero)

/-- The bounds are comparisons, so the `AND` between them is not one of a conjunction. -/
theorem relates_between (hi : c.Enters inner inner') {left : Node} (hleft : c.levels left.nesting)
    (negated : Bool) :
    c.Relates (c.Within Node.nesting) (Reading.between inner left negated)
      (Reading.between inner' left negated) := by
  refine (relates_comparison hi).bindWithin fun lower hlower => .expecting ?_
  refine (relates_comparison hi).bindWithin fun upper hupper => .pure ⟨rfl, ?_⟩
  rw [Node.nesting]
  exact c.levels_max hleft (c.levels_max hlower hupper)

/-- Pattern and escape character are comparisons, on the level of the predicate. -/
theorem relates_like (hi : c.Enters inner inner') {left : Node} (hleft : c.levels left.nesting)
    (negated : Bool) :
    c.Relates (c.Within Node.nesting) (Reading.like inner left negated)
      (Reading.like inner' left negated) := by
  have hescape : c.Relates (c.Within Node.nesting?)
      (Reading.behind (.reserved .escape) (Reading.comparison inner))
      (Reading.behind (.reserved .escape) (Reading.comparison inner')) :=
    relates_behind (relates_comparison hi) (fun n => by rw [Node.nesting?]) (by rw [Node.nesting?])
  refine (relates_comparison hi).bindWithin fun pattern hpattern =>
    hescape.bindWithin fun escape h => .pure ⟨rfl, ?_⟩
  rw [Node.nesting]
  exact c.levels_max hleft (c.levels_max hpattern h)

theorem relates_memberOf {left : Node} (hleft : c.levels left.nesting) (negated : Bool) :
    c.Relates (c.Within Node.nesting) (Reading.memberOf left negated)
      (Reading.memberOf left negated) := by
  refine RelatesOn.accept.bindEq fun _ => relates_path.bindWithin fun collection _ =>
    .pure ⟨rfl, ?_⟩
  rw [Node.nesting]
  exact hleft

theorem relates_negatablePredicate (hi : c.Enters inner inner') {left : Node}
    (hleft : c.levels left.nesting) (negated : Bool) :
    c.Relates (Option.Rel (c.Within Node.nesting)) (Reading.negatablePredicate? inner left negated)
      (Reading.negatablePredicate? inner' left negated) := by
  refine .accepting ((relates_between hi hleft negated).map fun _ _ => .some) ?_
  refine .accepting ((relates_inSet hi hleft negated).map fun _ _ => .some) ?_
  refine .accepting ((relates_like hi hleft negated).map fun _ _ => .some) ?_
  exact .accepting ((relates_memberOf hleft negated).map fun _ _ => .some) (.pure .none)

theorem dropsSpelling_of_isEquality {k : TokenKind} (h : Reading.isEquality k = true) :
    k.dropsSpelling = false := by
  cases k with
  | symbol sign => rfl
  | _ => cases h

/-- One predicate more on what has been read so far, if there is one. -/
theorem relates_predicateStep (hi : c.Enters inner inner') {left : Node}
    (hleft : c.levels left.nesting) :
    c.Relates (Option.Rel (c.Within Node.nesting)) (Reading.predicateStep inner left)
      (Reading.predicateStep inner' left) := by
  refine .looking fun t u htu => .ite (by rw [c.kind_eq htu]) (fun ht => ?_) fun _ =>
    .accepting ?_ ?_
  · have hspelled : ∀ s r : Stream, True ∧ s.current = t ∧ r.current = u →
        s.current.kind.dropsSpelling = false := by
      rintro s r ⟨-, rfl, -⟩
      exact dropsSpelling_of_isEquality ht
    refine (RelatesOn.advance_text hspelled).bind ?_
    rintro v w ⟨-, htext⟩
    refine (relates_comparison hi).bindWithin fun right hright => .pure (.some ⟨by rw [htext], ?_⟩)
    rw [Node.nesting]
    exact c.levels_max hleft hright
  · refine RelatesOn.accept.bindEq fun negated => .expecting (.pure (.some ⟨rfl, ?_⟩))
    rw [Node.nesting]
    exact hleft
  · exact relates_negation.bindEq fun negated => relates_negatablePredicate hi hleft negated

/-- Predicates can follow each other. Each has those before it for its operand, on the same level.
-/
theorem relates_predicate (hi : c.Enters inner inner') :
    c.Relates (c.Within Node.nesting) (Reading.predicate inner) (Reading.predicate inner') := by
  refine (relates_comparison hi).bindWithin fun left hleft => relates_loop ?_ ⟨rfl, hleft⟩
  rintro n _ ⟨rfl, hn⟩
  exact relates_predicateStep hi hn

/-! ## Logic -/

theorem relates_negatable (hi : c.Enters inner inner') :
    c.Relates (c.Within Node.nesting) (Reading.negatable inner) (Reading.negatable inner') := by
  refine .accepting ?_ (relates_predicate hi)
  refine (hi .negation).bindWithin fun operand h => .pure ⟨rfl, ?_⟩
  rw [Node.nesting]
  exact h

/-- `OR` and `AND` are chains, so their operands are on one level. -/
theorem relates_disjunction (hi : c.Enters inner inner') :
    c.Relates (c.Within Node.nesting) (Reading.disjunction inner) (Reading.disjunction inner') :=
  relates_chain (fun _ _ _ _ => rfl) (relates_chain (fun _ _ _ _ => rfl) (relates_negatable hi))

/-! ## Clauses -/

theorem relates_selectItem (hi : c.Enters inner inner') :
    c.Relates (c.Within Node.nesting) (Reading.selectItem inner) (Reading.selectItem inner') := by
  refine .accepting ?_ ?_
  · refine relates_entityName.bindEq fun className => .expecting ?_
    refine (relates_arguments hi _).bindWithin fun args hargs => relates_alias.bindEq fun asName =>
      .pure ⟨rfl, ?_⟩
    rw [Node.nesting]
    exact hargs
  · refine (hi .expression).bindWithin fun e he => relates_alias.bindEq fun asName =>
      .pure ⟨rfl, ?_⟩
    rw [Node.nesting]
    exact he

theorem relates_joinKind : c.Relates Eq Reading.joinKind Reading.joinKind := by
  refine .accepting (.pure rfl) (.accepting ?_ (.accepting ?_ (.pure rfl)))
  · exact .accepting (.pure rfl) (.pure rfl)
  · exact .accepting (.pure rfl) (.pure rfl)

theorem relates_join (hi : c.Enters inner inner') :
    c.Relates (c.Within Node.nesting) (Reading.join inner) (Reading.join inner') := by
  refine relates_joinKind.bindEq fun kind => .expecting (RelatesOn.accept.bindEq fun fetch => ?_)
  refine relates_path.bindWithin fun along _ => relates_alias.bindEq fun asName => ?_
  refine (relates_clause (hi .expression)).bindWithin fun condition hcondition => .pure ⟨rfl, ?_⟩
  rw [Node.nesting]
  exact hcondition

/-- Joins follow each other on one level; only their conditions are further in. -/
theorem relates_joins (hi : c.Enters inner inner') :
    c.Relates (c.Within Node.nestings) (Reading.joins inner) (Reading.joins inner') := by
  refine relates_loop ?_ ⟨rfl, c.levels_nestings_nil⟩
  rintro done _ ⟨rfl, hdone⟩
  refine .looking fun t u htu => .ite (by rw [c.kind_eq htu]) (fun _ => ?_) fun _ => .pure .none
  exact (relates_join hi).on.bindWithin fun j hj =>
    .pure (.some ⟨rfl, c.levels_nestings_append hdone hj⟩)

theorem relates_fromItem (hi : c.Enters inner inner') :
    c.Relates (c.Within Node.nesting) (Reading.fromItem inner) (Reading.fromItem inner') := by
  refine relates_entityName.bindEq fun entity => relates_alias.bindEq fun asName => ?_
  refine (relates_joins hi).bindWithin fun joins hjoins => .pure ⟨rfl, ?_⟩
  rw [Node.nesting]
  exact hjoins

theorem relates_direction : c.Relates Eq Reading.direction? Reading.direction? :=
  .accepting (.pure rfl) (.accepting (.pure rfl) (.pure rfl))

theorem relates_nullsPlace : c.Relates Eq Reading.nullsPlace? Reading.nullsPlace? :=
  .accepting (.accepting (.pure rfl) (.accepting (.pure rfl) .fail)) (.pure rfl)

theorem relates_orderItem (hi : c.Enters inner inner') :
    c.Relates (c.Within Node.nesting) (Reading.orderItem inner) (Reading.orderItem inner') := by
  refine (hi .expression).bindWithin fun e he => ?_
  refine relates_direction.bindEq fun direction => relates_nullsPlace.bindEq fun nulls =>
    .pure ⟨rfl, ?_⟩
  rw [Node.nesting]
  exact he

theorem relates_grouping (hi : c.Enters inner inner') :
    c.Relates (c.Within Node.entries) (Reading.grouping inner) (Reading.grouping inner') :=
  .accepting (.expecting (relates_entries (hi .expression))) (.pure ⟨rfl, c.levels_entries_nil⟩)

theorem relates_ordering (hi : c.Enters inner inner') :
    c.Relates (c.Within Node.nestings) (Reading.ordering inner) (Reading.ordering inner') :=
  .accepting (.expecting (relates_nodes (relates_orderItem hi)))
    (.pure ⟨rfl, c.levels_nestings_nil⟩)

theorem relates_assignment (hi : c.Enters inner inner') :
    c.Relates (c.Within Node.nesting) (Reading.assignment inner) (Reading.assignment inner') := by
  refine relates_path.bindWithin fun target _ => .expecting ?_
  refine (hi .expression).bindWithin fun value hvalue => .pure ⟨rfl, ?_⟩
  rw [Node.nesting]
  exact hvalue

/-! ## Statements -/

/-- A query is as deep as the deepest of its clauses. -/
theorem relates_selectStatement (hi : c.Enters inner inner') :
    c.Relates (c.Within Node.nesting) (Reading.selectStatement inner)
      (Reading.selectStatement inner') := by
  refine .expecting (RelatesOn.accept.bindEq fun distinct => ?_)
  refine (relates_nodes (relates_selectItem hi)).bindWithin fun items hitems => .expecting ?_
  refine (relates_nodes (relates_fromItem hi)).bindWithin fun sources hsources => ?_
  refine (relates_clause (hi .expression)).bindWithin fun condition hcondition => ?_
  refine (relates_grouping hi).bindWithin fun grouping hgrouping => ?_
  refine (relates_clause (hi .expression)).bindWithin fun having hhaving => ?_
  refine (relates_ordering hi).bindWithin fun ordering hordering => .pure ⟨rfl, ?_⟩
  rw [Node.nesting]
  exact c.levels_max hitems (c.levels_max hsources (c.levels_max hcondition (c.levels_max hgrouping
    (c.levels_max hhaving hordering))))

/-- An update opens no level of its own, so the measure is its depth and not its nesting. -/
theorem relates_updateStatement (hi : c.Enters inner inner') :
    c.Relates (c.Within Node.depth) (Reading.updateStatement inner)
      (Reading.updateStatement inner') := by
  refine .expecting (relates_entityName.bindEq fun entity => relates_alias.bindEq fun asName =>
    .expecting ?_)
  refine (relates_nodes (relates_assignment hi)).bindWithin fun assignments hassignments => ?_
  refine (relates_clause (hi .expression)).bindWithin fun condition hcondition => .pure ⟨rfl, ?_⟩
  rw [Node.depth, Node.nesting]
  · exact c.levels_max hassignments hcondition
  · simp

theorem relates_deleteStatement (hi : c.Enters inner inner') :
    c.Relates (c.Within Node.depth) (Reading.deleteStatement inner)
      (Reading.deleteStatement inner') := by
  refine .expecting (RelatesOn.accept.bindEq fun _ => relates_entityName.bindEq fun entity => ?_)
  refine relates_alias.bindEq fun asName => ?_
  refine (relates_clause (hi .expression)).bindWithin fun condition hcondition => .pure ⟨rfl, ?_⟩
  rw [Node.depth, Node.nesting]
  · exact hcondition
  · simp

/-- The query of an insert is a level further in. -/
theorem relates_insertStatement (hi : c.Enters inner inner') :
    c.Relates (c.Within Node.depth) (Reading.insertStatement inner)
      (Reading.insertStatement inner') := by
  refine .expecting (.expecting (relates_entityName.bindEq fun entity => .expecting ?_))
  refine (relates_nodes relates_path).bindWithin fun targets _ => .expecting (.asking ?_ .fail)
  refine (hi .select).on.bindWithin fun source hsource => .pure ⟨rfl, ?_⟩
  rw [Node.depth, Node.nesting, Node.entryOption]
  · exact hsource
  · simp

/-- By the first word. A query is one level deep itself, other statements are not. -/
theorem relates_statement (hi : c.Enters inner inner') :
    c.Relates (c.Within Node.depth) (Reading.statement inner) (Reading.statement inner') := by
  refine .looking fun t u htu => RelatesOn.weaken ?_ fun _ _ _ => trivial
  rw [c.kind_eq htu]
  generalize u.kind = kind
  cases kind with
  | reserved word =>
    cases word with
    | select =>
      refine (hi .select).mono ?_
      rintro n _ ⟨rfl, hn⟩
      exact ⟨rfl, c.levels_of_le n.depth_le hn⟩
    | update => exact relates_updateStatement hi
    | delete => exact relates_deleteStatement hi
    | insert => exact relates_insertStatement hi
    | _ => exact .fail
  | _ => exact .fail

/-- The whole text: a statement, perhaps a semicolon, and the end. -/
theorem relates_query (hi : c.Enters inner inner') :
    c.Relates (c.Within Node.depth) (Reading.query inner) (Reading.query inner') := by
  refine (relates_statement hi).bindWithin fun node hnode => RelatesOn.accept.bindEq fun _ => ?_
  exact .asking (.pure ⟨rfl, hnode⟩) .fail

/-- What is read at a place where a query nests, one level further in. -/
theorem relates_atEntry (hi : c.Enters inner inner') (entry : Entry) :
    c.Relates (c.Within Node.nesting) (Reading.atEntry inner entry)
      (Reading.atEntry inner' entry) := by
  cases entry with
  | expression => exact relates_disjunction hi
  | select => exact relates_selectStatement hi
  | negation => exact relates_negatable hi
  | sign => exact relates_signed hi

end Inner

end EntityQuery.Comparison
