import EntityQuery.Node
import EntityQuery.Token

/-!
# The grammar

Which lists of tokens spell which trees, as rules and without a reader.

A phrase is a tree, or a list of trees, together with the place in the grammar where it stands.
`Derives whole p ts` says that the tokens `ts` spell the phrase `p`. Expressions come in tiers,
loosest first; a tier holds everything that is tighter, every binary tier groups to the left, and
right operands come from the next tighter tier.

The side of a `TRIM` is an identifier, so `TRIM(leading ...)` can be meant in two ways. The whole
grammar has both. With `whole = false` a `TRIM` without a side does not open with the name of one,
except where a point or the closing parenthesis shows that it is a name.
-/

namespace EntityQuery

/-- A token is a reserved word. -/
abbrev Token.Word (t : Token) (w : Reserved) : Prop := t.kind = .reserved w

/-- A token is a sign. -/
abbrev Token.Sign (t : Token) (s : Symbol) : Prop := t.kind = .symbol s

namespace Grammar

/-! ## Tiers -/

/-- The tiers of expressions, loosest first. -/
inductive Tier where
  | disjunction | conjunction | negation | predicate | comparison | additive | multiplicative
  | sign | primary
  deriving DecidableEq, Repr

namespace Tier

/-- The next tighter tier. Nothing is tighter than a primary expression. -/
def tighter : Tier → Tier
  | .disjunction => .conjunction
  | .conjunction => .negation
  | .negation => .predicate
  | .predicate => .comparison
  | .comparison => .additive
  | .additive => .multiplicative
  | .multiplicative => .sign
  | .sign => .primary
  | .primary => .primary

/-- The operators that stand between two operands of a tier. -/
def joins : Tier → TokenKind → Bool
  | .disjunction, .reserved .or => true
  | .conjunction, .reserved .and => true
  | .predicate, .symbol .equals => true
  | .predicate, .symbol .notEquals => true
  | .comparison, .symbol .lessThan => true
  | .comparison, .symbol .lessEqual => true
  | .comparison, .symbol .greaterThan => true
  | .comparison, .symbol .greaterEqual => true
  | .additive, .symbol .plus => true
  | .additive, .symbol .minus => true
  | .additive, .symbol .concat => true
  | .multiplicative, .symbol .star => true
  | .multiplicative, .symbol .divide => true
  | .multiplicative, .symbol .modulo => true
  | _, _ => false

/-- How a tree spells an operator: the logical ones in capitals, all others as they are written. -/
def spelling : Tier → Token → String
  | .disjunction, _ => "OR"
  | .conjunction, _ => "AND"
  | _, t => t.text

end Tier

/-! ## Small parts -/

/-- A token that may be left out, and whether it is there. -/
inductive Mark (kind : TokenKind) : Bool → List Token → Prop
  | absent : Mark kind false []
  | present {t : Token} (h : t.kind = kind) : Mark kind true [t]

/-- Names joined by points: an identifier or a function name first, any words after it. -/
inductive Dotted : List String → List Token → Prop
  | name {t : Token} (h : t.kind.isName = true) : Dotted [t.text] [t]
  | more {parts : List String} {ts : List Token} {dot word : Token} (h : Dotted parts ts)
      (hd : dot.Sign .dot)
      (hw : word.kind.isWord = true) : Dotted (parts ++ [word.text]) (ts ++ [dot, word])

/-- An alias that may be left out: an identifier, or any name behind `AS`. -/
inductive Alias : Option String → List Token → Prop
  | absent : Alias none []
  | bare {t : Token} (h : t.kind = .identifier) : Alias (some t.text) [t]
  | marked {w t : Token} (hw : w.Word .asWord) (h : t.kind.isName = true) : Alias
      (some t.text) [w, t]

/-- Integers with commas between them. -/
inductive Sizes : List String → List Token → Prop
  | one {t : Token} (h : t.kind = .integer) : Sizes [t.text] [t]
  | more {sizes : List String} {ts : List Token} {comma t : Token} (h : Sizes sizes ts)
      (hc : comma.Sign .comma)
      (ht : t.kind = .integer) : Sizes (sizes ++ [t.text]) (ts ++ [comma, t])

/-- A type: a name, and sizes in parentheses if there are any. -/
inductive TypeName : String → List Token → Prop
  | plain {parts : List String} {ts : List Token} (h : Dotted parts ts) : TypeName (dotted parts) ts
  | sized {parts sizes : List String} {ts us : List Token} {o c : Token} (h : Dotted parts ts)
      (ho : o.Sign .leftParen) (hs : Sizes sizes us) (hc : c.Sign .rightParen) :
      TypeName (dotted parts ++ "(" ++ ", ".intercalate sizes ++ ")") (ts ++ o :: us ++ [c])

/-- The words before `JOIN`. -/
inductive JoinWords : JoinKind → List Token → Prop
  | plain : JoinWords .plain []
  | inner {w : Token} (h : w.Word .inner) : JoinWords .inner [w]
  | left {w : Token} (h : w.Word .left) : JoinWords .left [w]
  | leftOuter {w o : Token} (h : w.Word .left) (ho : o.Word .outer) : JoinWords .leftOuter [w, o]
  | right {w : Token} (h : w.Word .right) : JoinWords .right [w]
  | rightOuter {w o : Token} (h : w.Word .right) (ho : o.Word .outer) : JoinWords .rightOuter [w, o]

/-- The direction of an ordering, which may be left out. -/
inductive DirectionWord : Option Direction → List Token → Prop
  | absent : DirectionWord none []
  | ascending {w : Token} (h : w.Word .asc) : DirectionWord (some .ascending) [w]
  | descending {w : Token} (h : w.Word .desc) : DirectionWord (some .descending) [w]

/-- The place of nulls in an ordering, which may be left out. -/
inductive NullsWords : Option String → List Token → Prop
  | absent : NullsWords none []
  | first {w p : Token} (h : w.Word .nulls) (hp : p.Word .first) : NullsWords (some "FIRST") [w, p]
  | last {w p : Token} (h : w.Word .nulls) (hp : p.Word .last) : NullsWords (some "LAST") [w, p]

/-- An identifier that is spelled like the side of a `TRIM`; case does not count. -/
def isSide (t : Token) : Bool :=
  decide (t.kind = .identifier) && ["LEADING", "TRAILING", "BOTH"].contains (Text.upper t.text)

/-- The side of a `TRIM`, which may be left out. -/
inductive Side : Option String → List Token → Prop
  | absent : Side none []
  | present {t : Token} (h : isSide t = true) : Side (some (Text.upper t.text)) [t]

/-- Tokens that open with the name of a side, with neither a point nor a closing parenthesis
behind it. -/
def opensWithSide : List Token → Bool
  | t :: u :: _ =>
    isSide t && decide (u.kind ≠ .symbol .rightParen) && decide (u.kind ≠ .symbol .dot)
  | _ => false

/-- A call of a function with a name of its own that has no more to it than its arguments. -/
def plainCall (name : String) (args : List Node) : Node :=
  .call name args false true none none none

/-- The expressions that are a single token, names apart: literals, parameters and clock
functions. -/
def atom? (t : Token) : Option Node :=
  match t.kind with
  | .integer => some (.literal t.text .integer)
  | .decimal => some (.literal t.text .decimal)
  | .string => some (.literal t.text .string)
  | .reserved .trueWord => some (.literal "true" .boolean)
  | .reserved .falseWord => some (.literal "false" .boolean)
  | .reserved .null => some (.literal "NULL" .null)
  | .namedParameter => some (.parameter (String.ofList t.text.toList.tail) false)
  | .positionalParameter => some (.parameter t.text true)
  | .clock c => some (plainCall (TokenKind.clock c).name [])
  | _ => none

/-- Functions that are called with a plain list of arguments. -/
def hasPlainArguments (f : Function) : Bool :=
  !f.isAggregate && decide (f ≠ .trim) && decide (f ≠ .cast)

/-- The numbers of arguments that a function may have. -/
def hasArity (f : Function) (n : Nat) : Bool :=
  decide (f ≠ .substring) || decide (n = 2) || decide (n = 3)

/-! ## Phrases -/

/-- The places where a single tree stands. An argument is a whole expression, a target is a path. -/
inductive Part where
  | argument | target | selection | source | join | ordering | assignment | select | statement
  deriving DecidableEq, Repr

/-- Trees with their place in the grammar. -/
inductive Phrase where
  /-- An expression of a tier. -/
  | expression (tier : Tier) (e : Node)
  /-- A single tree. -/
  | part (kind : Part) (node : Node)
  /-- One tree or more, with commas between them. -/
  | list (kind : Part) (nodes : List Node)
  /-- Any number of joins. -/
  | joins (nodes : List Node)
  /-- Any number of branches of a case expression. -/
  | branches (nodes : List Node)
  /-- What stands between the parentheses of a call. -/
  | arguments (nodes : List Node)
  /-- A word and an expression behind it, or nothing. -/
  | clause (word : Reserved) (e : Option Node)
  /-- A word, `BY` and a list, or nothing. -/
  | byClause (word : Reserved) (kind : Part) (nodes : List Node)

/-! ## Rules -/

/-- The tokens of a phrase. -/
inductive Derives (whole : Bool) : Phrase → List Token → Prop
  -- Tiers.
  | tighter {t : Tier} {e : Node} {ts : List Token}
      (h : Derives whole (.expression t.tighter e) ts) :
      Derives whole (.expression t e) ts
  | binary {t : Tier} {l r : Node} {ts us : List Token} {op : Token} (ho : t.joins op.kind = true)
      (hl : Derives whole (.expression t l) ts) (hr : Derives whole (.expression t.tighter r) us) :
      Derives whole (.expression t (.binary l (t.spelling op) r)) (ts ++ op :: us)
  | not {w : Token} {e : Node} {ts : List Token} (hw : w.Word .not)
      (h : Derives whole (.expression .negation e) ts) :
      Derives whole (.expression .negation (.unary "NOT" e)) (w :: ts)
  | sign {op : Token} {e : Node} {ts : List Token} (ho : op.Sign .plus ∨ op.Sign .minus)
      (h : Derives whole (.expression .sign e) ts) : Derives whole
      (.expression .sign (.unary op.text e)) (op :: ts)
  -- Predicates.
  | isNull {e : Node} {ts ms : List Token} {negated : Bool} {is null : Token}
      (h : Derives whole (.expression .predicate e) ts) (hi : is.Word .is)
      (hm : Mark (.reserved .not) negated ms)
      (hn : null.Word .null) : Derives whole (.expression .predicate (.isNull e negated))
      (ts ++ is :: ms ++ [null])
  | between {e lower upper : Node} {ts ms us vs : List Token} {negated : Bool} {w a : Token}
      (h : Derives whole (.expression .predicate e) ts) (hm : Mark (.reserved .not) negated ms)
      (hw : w.Word .between)
      (hl : Derives whole (.expression .comparison lower) us) (ha : a.Word .and)
      (hu : Derives whole (.expression .comparison upper) vs) :
      Derives whole (.expression .predicate (.between e lower upper negated))
        (ts ++ ms ++ w :: us ++ a :: vs)
  | inParameter {e p : Node} {ts ms : List Token} {negated : Bool} {w t : Token}
      (h : Derives whole (.expression .predicate e) ts) (hm : Mark (.reserved .not) negated ms)
      (hw : w.Word .inWord) (ht : t.kind.isParameter = true) (hp : atom? t = some p) :
      Derives whole (.expression .predicate (.inSet e [] none (some p) negated))
        (ts ++ ms ++ [w, t])
  | inQuery {e q : Node} {ts ms us : List Token} {negated : Bool} {w o c : Token}
      (h : Derives whole (.expression .predicate e) ts) (hm : Mark (.reserved .not) negated ms)
      (hw : w.Word .inWord)
      (ho : o.Sign .leftParen) (hq : Derives whole (.part .select q) us) (hc : c.Sign .rightParen) :
      Derives whole (.expression .predicate (.inSet e [] (some q) none negated))
        (ts ++ ms ++ w :: o :: us ++ [c])
  | inList {e : Node} {values : List Node} {ts ms us : List Token} {negated : Bool} {w o c : Token}
      (h : Derives whole (.expression .predicate e) ts) (hm : Mark (.reserved .not) negated ms)
      (hw : w.Word .inWord)
      (ho : o.Sign .leftParen) (hv : Derives whole (.list .argument values) us)
      (hc : c.Sign .rightParen) :
      Derives whole (.expression .predicate (.inSet e values none none negated))
        (ts ++ ms ++ w :: o :: us ++ [c])
  | like {e pattern : Node} {ts ms us : List Token} {negated : Bool} {w : Token}
      (h : Derives whole (.expression .predicate e) ts) (hm : Mark (.reserved .not) negated ms)
      (hw : w.Word .like) (hp : Derives whole (.expression .comparison pattern) us) :
      Derives whole (.expression .predicate (.like e pattern none negated)) (ts ++ ms ++ w :: us)
  | likeEscape {e pattern escape : Node} {ts ms us vs : List Token} {negated : Bool} {w k : Token}
      (h : Derives whole (.expression .predicate e) ts) (hm : Mark (.reserved .not) negated ms)
      (hw : w.Word .like)
      (hp : Derives whole (.expression .comparison pattern) us) (hk : k.Word .escape)
      (he : Derives whole (.expression .comparison escape) vs) :
      Derives whole (.expression .predicate (.like e pattern (some escape) negated))
        (ts ++ ms ++ w :: us ++ k :: vs)
  | memberOf {e : Node} {ts ms os us : List Token} {parts : List String} {negated of : Bool}
      {w : Token}
      (h : Derives whole (.expression .predicate e) ts) (hm : Mark (.reserved .not) negated ms)
      (hw : w.Word .member) (ho : Mark (.reserved .of) of os) (hc : Dotted parts us) :
      Derives whole (.expression .predicate (.memberOf e (.path parts) negated))
        (ts ++ ms ++ w :: os ++ us)
  -- Primary expressions.
  | atom {t : Token} {e : Node} (h : atom? t = some e) : Derives whole (.expression .primary e) [t]
  | path {parts : List String} {ts : List Token} (h : Dotted parts ts) :
      Derives whole (.expression .primary (.path parts)) ts
  | paren {e : Node} {ts : List Token} {o c : Token} (ho : o.Sign .leftParen)
      (h : Derives whole (.part .argument e) ts) (hc : c.Sign .rightParen) :
      Derives whole (.expression .primary (.paren e)) (o :: ts ++ [c])
  | subquery {q : Node} {ts : List Token} {o c : Token} (ho : o.Sign .leftParen)
      (h : Derives whole (.part .select q) ts) (hc : c.Sign .rightParen) :
      Derives whole (.expression .primary (.subquery q)) (o :: ts ++ [c])
  | existsQuery {q : Node} {ts : List Token} {w o c : Token} (hw : w.Word .exists)
      (ho : o.Sign .leftParen) (h : Derives whole (.part .select q) ts) (hc : c.Sign .rightParen) :
      Derives whole (.expression .primary (.existsQuery q)) (w :: o :: ts ++ [c])
  | caseSearched {branches : List Node} {otherwise : Option Node} {ts us : List Token} {w k : Token}
      (hw : w.Word .case) (hb : Derives whole (.branches branches) ts) (hne : branches ≠ [])
      (he : Derives whole (.clause .elseWord otherwise) us) (hk : k.Word .endWord) :
      Derives whole (.expression .primary (.caseOf none branches otherwise)) (w :: ts ++ us ++ [k])
  | caseSimple {operand : Node} {branches : List Node} {otherwise : Option Node}
      {os ts us : List Token} {w k : Token}
      (hw : w.Word .case) (ho : Derives whole (.part .argument operand) os)
      (hb : Derives whole (.branches branches) ts)
      (hne : branches ≠ []) (he : Derives whole (.clause .elseWord otherwise) us)
      (hk : k.Word .endWord) :
      Derives whole (.expression .primary (.caseOf (some operand) branches otherwise))
        (w :: os ++ ts ++ us ++ [k])
  -- Calls.
  | otherCall {args : List Node} {ts : List Token} {f o c : Token} (hf : f.kind = .identifier)
      (ho : o.Sign .leftParen) (ha : Derives whole (.arguments args) ts) (hc : c.Sign .rightParen) :
      Derives whole (.expression .primary (.call f.text args false false none none none))
        (f :: o :: ts ++ [c])
  | functionCall {g : Function} {args : List Node} {ts : List Token} {f o c : Token}
      (hg : hasPlainArguments g = true)
      (hn : hasArity g args.length = true) (hf : f.kind = .function g) (ho : o.Sign .leftParen)
      (ha : Derives whole (.arguments args) ts) (hc : c.Sign .rightParen) :
      Derives whole (.expression .primary (plainCall (TokenKind.function g).name args))
        (f :: o :: ts ++ [c])
  | countAll {f o s c : Token} (hf : f.kind = .function .count) (ho : o.Sign .leftParen)
      (hs : s.Sign .star) (hc : c.Sign .rightParen) :
      Derives whole (.expression .primary (plainCall (TokenKind.function .count).name [.star]))
        [f, o, s, c]
  | aggregate {g : Function} {e : Node} {ms ts : List Token} {distinct : Bool} {f o c : Token}
      (hg : g.isAggregate = true) (hf : f.kind = .function g) (ho : o.Sign .leftParen)
      (hm : Mark (.reserved .distinct) distinct ms) (h : Derives whole (.part .argument e) ts)
      (hc : c.Sign .rightParen) :
      Derives whole
        (.expression .primary (.call (TokenKind.function g).name [e] distinct true none none none))
        (f :: o :: ms ++ ts ++ [c])
  | cast {e : Node} {type : String} {ts us : List Token} {f o w c : Token}
      (hf : f.kind = .function .cast)
      (ho : o.Sign .leftParen) (h : Derives whole (.part .argument e) ts) (hw : w.Word .asWord)
      (ht : TypeName type us) (hc : c.Sign .rightParen) :
      Derives whole (.expression .primary (.call "CAST" [e] false true none none (some type)))
        (f :: o :: ts ++ w :: us ++ [c])
  | trim {e : Node} {ts : List Token} {f o c : Token} (hf : f.kind = .function .trim)
      (ho : o.Sign .leftParen) (h : Derives whole (.part .argument e) ts) (hc : c.Sign .rightParen)
      (hs : whole = true ∨ opensWithSide (ts ++ [c]) = false) :
      Derives whole (.expression .primary (.call "TRIM" [e] false true none none none))
        (f :: o :: ts ++ [c])
  | trimFrom {e : Node} {side : Option String} {ss ts : List Token} {f o w c : Token}
      (hf : f.kind = .function .trim)
      (ho : o.Sign .leftParen) (hs : Side side ss) (hw : w.Word .fromWord)
      (h : Derives whole (.part .argument e) ts) (hc : c.Sign .rightParen) :
      Derives whole (.expression .primary (.call "TRIM" [e] false true side none none))
        (f :: o :: ss ++ w :: ts ++ [c])
  | trimCharacter {e char : Node} {side : Option String} {ss us ts : List Token} {f o w c : Token}
      (hf : f.kind = .function .trim) (ho : o.Sign .leftParen) (hs : Side side ss)
      (hu : Derives whole (.part .argument char) us) (hw : w.Word .fromWord)
      (h : Derives whole (.part .argument e) ts)
      (hc : c.Sign .rightParen)
      (hn : side = none → whole = true ∨ opensWithSide (us ++ [w]) = false) :
      Derives whole (.expression .primary (.call "TRIM" [e] false true side (some char) none))
        (f :: o :: ss ++ us ++ w :: ts ++ [c])
  -- Lists, branches, joins and optional clauses.
  | one {k : Part} {n : Node} {ts : List Token} (h : Derives whole (.part k n) ts) : Derives whole
      (.list k [n]) ts
  | more {k : Part} {ns : List Node} {n : Node} {ts us : List Token} {comma : Token}
      (h : Derives whole (.list k ns) ts)
      (hc : comma.Sign .comma) (hn : Derives whole (.part k n) us) :
      Derives whole (.list k (ns ++ [n])) (ts ++ comma :: us)
  | noJoin : Derives whole (.joins []) []
  | moreJoins {js : List Node} {j : Node} {ts us : List Token} (h : Derives whole (.joins js) ts)
      (hj : Derives whole (.part .join j) us) : Derives whole (.joins (js ++ [j])) (ts ++ us)
  | noBranch : Derives whole (.branches []) []
  | moreBranches {bs : List Node} {condition result : Node} {ts us vs : List Token} {w k : Token}
      (h : Derives whole (.branches bs) ts) (hw : w.Word .whenWord)
      (hcond : Derives whole (.part .argument condition) us)
      (hk : k.Word .thenWord) (hres : Derives whole (.part .argument result) vs) :
      Derives whole (.branches (bs ++ [.branch condition result])) (ts ++ w :: us ++ k :: vs)
  | noArgument : Derives whole (.arguments []) []
  | someArguments {args : List Node} {ts : List Token}
      (h : Derives whole (.list .argument args) ts) :
      Derives whole (.arguments args) ts
  | noClause {w : Reserved} : Derives whole (.clause w none) []
  | someClause {w : Reserved} {e : Node} {ts : List Token} {t : Token} (ht : t.Word w)
      (h : Derives whole (.part .argument e) ts) : Derives whole (.clause w (some e)) (t :: ts)
  | noByClause {w : Reserved} {k : Part} : Derives whole (.byClause w k []) []
  | someByClause {w : Reserved} {k : Part} {ns : List Node} {ts : List Token} {t b : Token}
      (ht : t.Word w)
      (hb : b.Word .byWord) (h : Derives whole (.list k ns) ts) : Derives whole (.byClause w k ns)
      (t :: b :: ts)
  -- Items of clauses.
  | argument {e : Node} {ts : List Token} (h : Derives whole (.expression .disjunction e) ts) :
      Derives whole (.part .argument e) ts
  | target {parts : List String} {ts : List Token} (h : Dotted parts ts) : Derives whole
      (.part .target (.path parts)) ts
  | selectItem {e : Node} {asName : Option String} {ts us : List Token}
      (h : Derives whole (.part .argument e) ts)
      (ha : Alias asName us) : Derives whole (.part .selection (.selectItem e asName)) (ts ++ us)
  | constructor {parts : List String} {args : List Node} {asName : Option String}
      {ns ts us : List Token} {w o c : Token}
      (hw : w.Word .new) (hn : Dotted parts ns) (ho : o.Sign .leftParen)
      (h : Derives whole (.arguments args) ts) (hc : c.Sign .rightParen) (ha : Alias asName us) :
      Derives whole (.part .selection (.constructor (dotted parts) args asName))
        (w :: ns ++ o :: ts ++ c :: us)
  | join {kind : JoinKind} {parts : List String} {asName : Option String} {fetch : Bool}
      {condition : Option Node}
      {ks fs ps as cs : List Token} {w : Token} (hk : JoinWords kind ks) (hw : w.Word .join)
      (hf : Mark (.reserved .fetch) fetch fs) (hp : Dotted parts ps) (ha : Alias asName as)
      (hc : Derives whole (.clause .on condition) cs) :
      Derives whole (.part .join (.join kind (.path parts) asName fetch condition))
        (ks ++ w :: fs ++ ps ++ as ++ cs)
  | source {parts : List String} {asName : Option String} {js : List Node} {ps as ts : List Token}
      (hp : Dotted parts ps) (ha : Alias asName as) (hj : Derives whole (.joins js) ts) :
      Derives whole (.part .source (.fromItem (dotted parts) asName js)) (ps ++ as ++ ts)
  | orderItem {e : Node} {direction : Option Direction} {nulls : Option String}
      {ts ds ns : List Token}
      (h : Derives whole (.part .argument e) ts) (hd : DirectionWord direction ds)
      (hn : NullsWords nulls ns) :
      Derives whole (.part .ordering (.orderItem e direction nulls)) (ts ++ ds ++ ns)
  | assignment {parts : List String} {value : Node} {ps ts : List Token} {eq : Token}
      (hp : Dotted parts ps) (he : eq.Sign .equals) (h : Derives whole (.part .argument value) ts) :
      Derives whole (.part .assignment (.assignment (.path parts) value)) (ps ++ eq :: ts)
  -- Statements.
  | select {items sources grouping ordering : List Node} {distinct : Bool}
      {condition having : Option Node}
      {ds is ss cs gs vs os : List Token} {w f : Token} (hw : w.Word .select)
      (hd : Mark (.reserved .distinct) distinct ds) (hi : Derives whole (.list .selection items) is)
      (hf : f.Word .fromWord) (hs : Derives whole (.list .source sources) ss)
      (hc : Derives whole (.clause .whereWord condition) cs)
      (hg : Derives whole (.byClause .group .argument grouping) gs)
      (hh : Derives whole (.clause .having having) vs)
      (ho : Derives whole (.byClause .order .ordering ordering) os) :
      Derives whole
        (.part .select (.select items sources distinct condition grouping having ordering))
        (w :: ds ++ is ++ f :: ss ++ cs ++ gs ++ vs ++ os)
  | ofSelect {s : Node} {ts : List Token} (h : Derives whole (.part .select s) ts) : Derives whole
      (.part .statement s) ts
  | update {parts : List String} {asName : Option String} {assignments : List Node}
      {condition : Option Node}
      {ps as ts cs : List Token} {w k : Token} (hw : w.Word .update) (hp : Dotted parts ps)
      (ha : Alias asName as)
      (hk : k.Word .set) (h : Derives whole (.list .assignment assignments) ts)
      (hc : Derives whole (.clause .whereWord condition) cs) :
      Derives whole (.part .statement (.update (dotted parts) asName assignments condition))
        (w :: ps ++ as ++ k :: ts ++ cs)
  | delete {parts : List String} {asName : Option String} {condition : Option Node}
      {fromGiven : Bool}
      {fs ps as cs : List Token} {w : Token} (hw : w.Word .delete)
      (hf : Mark (.reserved .fromWord) fromGiven fs)
      (hp : Dotted parts ps) (ha : Alias asName as)
      (hc : Derives whole (.clause .whereWord condition) cs) :
      Derives whole (.part .statement (.delete (dotted parts) asName condition))
        (w :: fs ++ ps ++ as ++ cs)
  | insert {parts : List String} {targets : List Node} {query : Node} {ps ts qs : List Token}
      {w i o c : Token}
      (hw : w.Word .insert) (hi : i.Word .into) (hp : Dotted parts ps) (ho : o.Sign .leftParen)
      (ht : Derives whole (.list .target targets) ts) (hc : c.Sign .rightParen)
      (hq : Derives whole (.part .select query) qs) :
      Derives whole (.part .statement (.insert (dotted parts) targets (some query)))
        (w :: i :: ps ++ o :: ts ++ c :: qs)

/-- A primary expression is an expression of every tier. -/
theorem Derives.ofPrimary {whole : Bool} {e : Node} {ts : List Token} (t : Tier)
    (h : Derives whole (.expression .primary e) ts) : Derives whole (.expression t e) ts := by
  have hsign : Derives whole (.expression .sign e) ts := .tighter h
  have hmult : Derives whole (.expression .multiplicative e) ts := .tighter hsign
  have hadd : Derives whole (.expression .additive e) ts := .tighter hmult
  have hcomp : Derives whole (.expression .comparison e) ts := .tighter hadd
  have hpred : Derives whole (.expression .predicate e) ts := .tighter hcomp
  have hneg : Derives whole (.expression .negation e) ts := .tighter hpred
  have hconj : Derives whole (.expression .conjunction e) ts := .tighter hneg
  cases t with
  | disjunction => exact .tighter hconj
  | conjunction => exact hconj
  | negation => exact hneg
  | predicate => exact hpred
  | comparison => exact hcomp
  | additive => exact hadd
  | multiplicative => exact hmult
  | sign => exact hsign
  | primary => exact h

/-- The tokens of a call of `SUBSTRING` with neither two nor three arguments, from its name to its
closing parenthesis. -/
inductive MiscountedCall (whole : Bool) (name : Token) : List Token → Prop
  | call {o c : Token} {args : List Node} {ts : List Token} (hf : name.kind = .function .substring)
      (ho : o.Sign .leftParen)
      (ha : Derives whole (.arguments args) ts) (hc : c.Sign .rightParen) (hn : args.length ≠ 2 ∧
        args.length ≠ 3) :
      MiscountedCall whole name (name :: o :: ts ++ [c])

end Grammar

end EntityQuery
