import EntityQuery.Proofs.Grammar.Lookahead
import EntityQuery.Proofs.Grammar.Soundness

/-!
# Reading expressions

What it means that a phrase is read off a stream (`Phrase.Read`), and that names, aliases, types and
expressions are read by the rules of the grammar. Phrases that are read by a loop are followed
through the rounds of the loop, not through its result: a derivation of a longer chain then only
adds a round.

Every statement here has a condition on the token behind what is read: it must not prolong it. The
readings of the places where a query nests are arguments, as in the readings themselves.
-/

namespace EntityQuery

open Grammar EntityQuery.Stream

/-- Taking a token leaves fewer ahead. -/
theorem Stream.Takes.length_lt {s m : Stream} {t : Token} {ts : List Token}
    (h : s.Takes (t :: ts) m) :
    m.ahead.length < s.ahead.length := by
  have := h.length_ahead
  simp only [List.length_cons] at this
  omega

/-- The first token of what is taken is the current one. -/
theorem Grammar.StartsWith.current {test : TokenKind → Bool} {ts : List Token} {s m : Stream}
    (h : StartsWith test ts) (hT : s.Takes ts m) : test s.current.kind = true := by
  obtain ⟨t, rest, rfl, ht⟩ := h
  obtain ⟨rfl, -, -⟩ := takes_cons.mp hT
  exact ht

theorem Grammar.StartsWith.length_lt {test : TokenKind → Bool} {ts : List Token} {s m : Stream}
    (h : StartsWith test ts) (hT : s.Takes ts m) : m.ahead.length < s.ahead.length := by
  obtain ⟨t, rest, rfl, -⟩ := h
  exact hT.length_lt

/-- A token behind an optional part is seen through it. -/
theorem Grammar.MayStartWith.current {test : TokenKind → Bool} {ts : List Token} {s m : Stream}
    {P : TokenKind → Prop} (h : MayStartWith test ts) (hT : s.Takes ts m)
    (ht : ∀ k, test k = true → P k) (hm : P m.current.kind) :
    P s.current.kind := by
  rcases h with rfl | h
  · obtain rfl := takes_nil.mp hT
    exact hm
  · exact ht _ (h.current hT)

namespace Reading

/-! ## Small parts -/

/-- A word that may be missing, as long as what follows is not that word. -/
theorem accept_mark {kind : TokenKind} {b : Bool} {ts : List Token} {s m : Stream}
    (h : Mark kind b ts) (hT : s.Takes ts m) (hm : m.current.kind ≠ kind) :
    accept kind s = .ok (b, m) := by
  cases h with
  | absent =>
    obtain rfl := takes_nil.mp hT
    exact accept_other hm
  | present h =>
    obtain ⟨rfl, -, rfl⟩ := takes_singleton.mp hT
    exact accept_ok h

/-- A clause that is missing takes nothing. -/
theorem behind_other {α : Type} {kind : TokenKind} {p : Reading α} {s : Stream}
    (h : s.current.kind ≠ kind) :
    behind kind p s = .ok (none, s) := by
  rw [behind, bind_ok (accept_other h)]
  rfl

theorem behind_ok {α : Type} {kind : TokenKind} {p : Reading α} {s m : Stream} {a : α}
    (h : s.current.kind = kind) (hp : p s.tail = .ok (a, m)) :
    behind kind p s = .ok (some a, m) := by
  rw [behind, bind_ok (accept_ok h), if_pos rfl, bind_ok hp]
  rfl

theorem name_ok {role : String} {s : Stream} (h : s.current.kind.isName = true) :
    name role s = .ok (s.current.text, s.tail) := by
  rw [name, bind_ok rfl, if_pos h]
  rfl

/-- One more name behind a point. -/
def dotStep (parts : List String) : Reading (Option (List String)) := do
  if ← accept (.symbol .dot) then
    let word ← wordAfterDot
    pure (some (parts ++ [word]))
  else pure none

theorem dotStep_more {parts : List String} {s : Stream} (hd : s.current.Sign .dot)
    (hw : s.tail.current.kind.isWord = true) :
    dotStep parts s = .ok (some (parts ++ [s.tail.current.text]), s.tail.tail) := by
  rw [dotStep, bind_ok (accept_ok hd), if_pos rfl, wordAfterDot]
  simp only [bind_assoc]
  rw [bind_ok rfl, if_pos hw]
  rfl

/-- A name with points is read in as many rounds as it has points. -/
theorem dotted_rounds (role : String) {parts : List String} {ts : List Token}
    (h : Dotted parts ts) :
    ∀ {s m : Stream}, s.Takes ts m → ∃ a k, name role s = .ok (a, k) ∧
      Rounds dotStep [a] k parts m := by
  induction h with
  | name h =>
    intro s m hT
    obtain ⟨rfl, -, rfl⟩ := takes_singleton.mp hT
    exact ⟨_, _, name_ok h, .none⟩
  | more _ hd hw ih =>
    intro s m hT
    obtain ⟨k, hk, hT⟩ := takes_append.mp hT
    obtain ⟨a, j, ha, hr⟩ := ih hk
    have hl := hT.length_lt
    simp only [takes_cons, takes_nil] at hT
    obtain ⟨rfl, -, rfl, -, rfl⟩ := hT
    exact ⟨a, j, ha, .more hr (dotStep_more hd hw) hl⟩

/-- A name ends where no point follows. -/
theorem dottedName_ok {role : String} {parts : List String} {ts : List Token} {s m : Stream}
    (h : Dotted parts ts) (hT : s.Takes ts m) (hm : m.current.kind ≠ .symbol .dot) :
    dottedName role s = .ok (parts, m) := by
  obtain ⟨a, k, ha, hr⟩ := dotted_rounds role h hT
  show (name role >>= fun first => loop dotStep [first]) s = _
  rw [bind_ok ha]
  refine loop_ok hr ?_
  rw [dotStep, bind_ok (accept_other hm)]
  rfl

theorem path_ok {parts : List String} {ts : List Token} {s m : Stream} (h : Dotted parts ts)
    (hT : s.Takes ts m) (hm : m.current.kind ≠ .symbol .dot) : path s = .ok (.path parts, m) := by
  rw [path, bind_ok (dottedName_ok h hT hm)]
  rfl

theorem entityName_ok {parts : List String} {ts : List Token} {s m : Stream} (h : Dotted parts ts)
    (hT : s.Takes ts m) (hm : m.current.kind ≠ .symbol .dot) :
    entityName s = .ok (dotted parts, m) := by
  rw [entityName, bind_ok (dottedName_ok h hT hm)]
  rfl

/-- An alias that is missing must not be followed by what could be one. -/
theorem alias_ok {asName : Option String} {ts : List Token} {s m : Stream} (h : Alias asName ts)
    (hT : s.Takes ts m) (hm : opensAlias m.current.kind = false) : alias? s = .ok (asName, m) := by
  simp only [opensAlias, Bool.or_eq_false_iff, decide_eq_false_iff_not] at hm
  cases h with
  | absent =>
    obtain rfl := takes_nil.mp hT
    rw [alias?, bind_ok (accept_other hm.1), if_neg Bool.false_ne_true, bind_ok rfl,
      if_neg (by rw [decide_eq_false hm.2]; exact Bool.false_ne_true)]
    rfl
  | bare h =>
    obtain ⟨rfl, -, rfl⟩ := takes_singleton.mp hT
    rw [alias?, bind_ok (accept_other (by rw [h]; simp)), if_neg Bool.false_ne_true, bind_ok rfl,
      if_pos (decide_eq_true h)]
    rfl
  | marked hw h =>
    simp only [takes_cons, takes_nil] at hT
    obtain ⟨rfl, -, rfl, -, rfl⟩ := hT
    rw [alias?, bind_ok (accept_ok hw), if_pos rfl, bind_ok (name_ok h)]
    rfl

/-! ## Lists -/

section
variable {α : Type}

/-- One more item behind a comma. -/
def commaStep (item : Reading α) (items : List α) : Reading (Option (List α)) := do
  if ← accept (.symbol .comma) then
    let a ← item
    pure (some (items ++ [a]))
  else pure none

theorem commaStep_more {item : Reading α} {items : List α} {a : α} {s m : Stream}
    (hc : s.current.Sign .comma) (h : item s.tail = .ok (a, m)) :
    commaStep item items s = .ok (some (items ++ [a]), m) := by
  rw [commaStep, bind_ok (accept_ok hc), if_pos rfl, bind_ok h]
  rfl

/-- A list ends where no comma follows. -/
theorem commaSeparated_ok {item : Reading α} {a : α} {items : List α} {s k m : Stream}
    (ha : item s = .ok (a, k)) (hr : Rounds (commaStep item) [a] k items m)
    (hm : m.current.kind ≠ .symbol .comma) :
    commaSeparated item s = .ok (items, m) := by
  show (item >>= fun first => loop (commaStep item) [first]) s = _
  rw [bind_ok ha]
  refine loop_ok hr ?_
  rw [commaStep, bind_ok (accept_other hm)]
  rfl

end

/-- The sizes of a type, of which only the spelling is kept. -/
theorem sizes_rounds {sizes : List String} {ts : List Token} (h : Sizes sizes ts) :
    ∀ {s m : Stream}, s.Takes ts m → ∃ a k items, expect .integer .noTypeSize s = .ok (a, k) ∧
      Rounds (commaStep (expect .integer .noTypeSize)) [a] k items m ∧
      items.map Token.text = sizes := by
  induction h with
  | one h =>
    intro s m hT
    obtain ⟨rfl, -, rfl⟩ := takes_singleton.mp hT
    exact ⟨_, _, _, expect_ok h, .none, rfl⟩
  | more _ hc ht ih =>
    intro s m hT
    obtain ⟨k, hk, hT⟩ := takes_append.mp hT
    obtain ⟨a, j, items, ha, hr, rfl⟩ := ih hk
    have hl := hT.length_lt
    simp only [takes_cons, takes_nil] at hT
    obtain ⟨rfl, -, rfl, -, rfl⟩ := hT
    exact ⟨a, j, _, ha, .more hr (commaStep_more hc (expect_ok ht)) hl, by simp⟩

theorem typeName_ok {type : String} {ts : List Token} {s m : Stream} (h : TypeName type ts)
    (hT : s.Takes ts m) (hm : m.current.Sign .rightParen) : typeName s = .ok (type, m) := by
  cases h with
  | plain h =>
    rw [typeName, bind_ok (entityName_ok h hT (by rw [hm]; simp)),
      bind_ok (accept_other (by rw [hm]; simp))]
    rfl
  | sized h ho hs hc =>
    simp only [takes_append, takes_cons, takes_nil] at hT
    obtain ⟨k, ⟨j, hj, rfl, -, hT⟩, rfl, -, rfl⟩ := hT
    obtain ⟨a, i, items, ha, hr, rfl⟩ := sizes_rounds hs hT
    rw [typeName, bind_ok (entityName_ok h hj (by rw [ho]; simp)), bind_ok (accept_ok ho),
      if_pos rfl, bind_ok (commaSeparated_ok ha hr (by rw [hc]; simp)), bind_ok (expect_ok hc)]
    rfl

/-! ## Words of joins and orderings -/

theorem joinKind_ok {kind : JoinKind} {ks : List Token} {s m : Stream} (h : JoinWords kind ks)
    (hT : s.Takes ks m) (hm : m.current.Word .join) : joinKind s = .ok (kind, m) := by
  cases h with
  | plain =>
    obtain rfl := takes_nil.mp hT
    rw [joinKind, bind_ok (accept_other (by rw [hm]; simp)), if_neg Bool.false_ne_true,
      bind_ok (accept_other (by rw [hm]; simp)), if_neg Bool.false_ne_true,
      bind_ok (accept_other (by rw [hm]; simp))]
    rfl
  | inner h =>
    obtain ⟨rfl, -, rfl⟩ := takes_singleton.mp hT
    rw [joinKind, bind_ok (accept_ok h)]
    rfl
  | left h =>
    obtain ⟨rfl, -, rfl⟩ := takes_singleton.mp hT
    rw [joinKind, bind_ok (accept_other (by rw [h]; simp)), if_neg Bool.false_ne_true,
      bind_ok (accept_ok h), if_pos rfl, bind_ok (accept_other (by rw [hm]; simp))]
    rfl
  | leftOuter h ho =>
    simp only [takes_cons, takes_nil] at hT
    obtain ⟨rfl, -, rfl, -, rfl⟩ := hT
    rw [joinKind, bind_ok (accept_other (by rw [h]; simp)), if_neg Bool.false_ne_true,
      bind_ok (accept_ok h), if_pos rfl, bind_ok (accept_ok ho)]
    rfl
  | right h =>
    obtain ⟨rfl, -, rfl⟩ := takes_singleton.mp hT
    rw [joinKind, bind_ok (accept_other (by rw [h]; simp)), if_neg Bool.false_ne_true,
      bind_ok (accept_other (by rw [h]; simp)), if_neg Bool.false_ne_true, bind_ok (accept_ok h),
      if_pos rfl, bind_ok (accept_other (by rw [hm]; simp))]
    rfl
  | rightOuter h ho =>
    simp only [takes_cons, takes_nil] at hT
    obtain ⟨rfl, -, rfl, -, rfl⟩ := hT
    rw [joinKind, bind_ok (accept_other (by rw [h]; simp)), if_neg Bool.false_ne_true,
      bind_ok (accept_other (by rw [h]; simp)), if_neg Bool.false_ne_true, bind_ok (accept_ok h),
      if_pos rfl, bind_ok (accept_ok ho)]
    rfl

theorem direction_ok {direction : Option Direction} {ds : List Token} {s m : Stream}
    (h : DirectionWord direction ds) (hT : s.Takes ds m) (ha : m.current.kind ≠ .reserved .asc)
    (hd : m.current.kind ≠ .reserved .desc) :
    direction? s = .ok (direction, m) := by
  cases h with
  | absent =>
    obtain rfl := takes_nil.mp hT
    rw [direction?, bind_ok (accept_other ha), if_neg Bool.false_ne_true, bind_ok (accept_other hd)]
    rfl
  | ascending h =>
    obtain ⟨rfl, -, rfl⟩ := takes_singleton.mp hT
    rw [direction?, bind_ok (accept_ok h)]
    rfl
  | descending h =>
    obtain ⟨rfl, -, rfl⟩ := takes_singleton.mp hT
    rw [direction?, bind_ok (accept_other (by rw [h]; simp)), if_neg Bool.false_ne_true,
      bind_ok (accept_ok h)]
    rfl

/-- A place of nulls that is missing must not be followed by one. -/
theorem nullsPlace_ok {nulls : Option String} {ns : List Token} {s m : Stream}
    (h : NullsWords nulls ns) (hT : s.Takes ns m) (hm : m.current.kind ≠ .reserved .nulls) :
    nullsPlace? s = .ok (nulls, m) := by
  cases h with
  | absent =>
    obtain rfl := takes_nil.mp hT
    rw [nullsPlace?, bind_ok (accept_other hm)]
    rfl
  | first h hp =>
    simp only [takes_cons, takes_nil] at hT
    obtain ⟨rfl, -, rfl, -, rfl⟩ := hT
    rw [nullsPlace?, bind_ok (accept_ok h), if_pos rfl, bind_ok (accept_ok hp)]
    rfl
  | last h hp =>
    simp only [takes_cons, takes_nil] at hT
    obtain ⟨rfl, -, rfl, -, rfl⟩ := hT
    rw [nullsPlace?, bind_ok (accept_ok h), if_pos rfl, bind_ok (accept_other (by rw [hp]; simp)),
      if_neg Bool.false_ne_true, bind_ok (accept_ok hp)]
    rfl

end Reading

/-! ## What it means to be read -/

namespace Grammar

open Reading

variable (inner : Entry → Reading Node)

/-- The reading of a tier. -/
def Tier.reading : Tier → Reading Node
  | .disjunction => Reading.disjunction inner
  | .conjunction => Reading.conjunction inner
  | .negation => negatable inner
  | .predicate => Reading.predicate inner
  | .comparison => Reading.comparison inner
  | .additive => Reading.additive inner
  | .multiplicative => Reading.multiplicative inner
  | .sign => signed inner
  | .primary => Reading.primary inner

/-- One more operator of a tier with its right operand. -/
def Tier.operatorStep (t : Tier) (left : Node) : Reading (Option Node) := do
  let op ← current
  if t.joins op.kind then
    let op ← advance
    let right ← t.tighter.reading inner
    pure (some (.binary left (t.spelling op) right))
  else pure none

/-- One more round of a tier that is read by a loop. -/
def Tier.step (t : Tier) : Node → Reading (Option Node) :=
  if t = .predicate then predicateStep inner else t.operatorStep inner

/-- The tiers that are read by a loop. -/
def Tier.isChain : Tier → Bool
  | .negation | .sign | .primary => false
  | _ => true

/-- The reading of a tree at a place in the grammar. -/
def Part.reading : Part → Reading Node
  | .argument => inner .expression
  | .target => path
  | .selection => Reading.selectItem inner
  | .source => fromItem inner
  | .join => Reading.join inner
  | .ordering => Reading.orderItem inner
  | .assignment => Reading.assignment inner
  | .select => inner .select
  | .statement => Reading.statement inner

/-- One more branch of a case expression. -/
def branchStep (done : List Node) : Reading (Option (List Node)) := do
  if ← accept (.reserved .whenWord) then
    let condition ← inner .expression
    let _ ← expect (.reserved .thenWord) .noThen
    let result ← inner .expression
    pure (some (done ++ [.branch condition result]))
  else pure none

/-- One more join. -/
def joinStep (done : List Node) : Reading (Option (List Node)) := do
  let t ← current
  if startsJoin t.kind then
    let j ← Reading.join inner
    pure (some (done ++ [j]))
  else pure none

/-- A list behind a word and `BY`. -/
def byReading (w : Reserved) (k : Part) (fault : GrammarFault) : Reading (List Node) := do
  if ← accept (.reserved w) then
    let _ ← expect (.reserved .byWord) fault
    commaSeparated (k.reading inner)
  else pure []

/--
A phrase is read off `s` up to `m`, with the readings `inner` for what nests, unless a token at `m`
would prolong it. A chain and a list are read so far that only the end of the loop is missing.
-/
def Phrase.Read (s m : Stream) : Phrase → Prop
  | .expression t e =>
    if t.isChain then
      t.prolongsLast m.current.kind = false →
        ∃ a k, t.tighter.reading inner s = .ok (a, k) ∧ Rounds (t.step inner) a k e m
    else t.continues m.current.kind = false → t.reading inner s = .ok (e, m)
  | .part k n => k.continues m.current.kind = false → k.reading inner s = .ok (n, m)
  | .list k ns => k.continues (.symbol .comma) = false → k.continues m.current.kind = false →
      ∃ a i, k.reading inner s = .ok (a, i) ∧ Rounds (commaStep (k.reading inner)) [a] i ns m
  | .joins js => Part.join.continues m.current.kind = false → Rounds (joinStep inner) [] s js m
  | .branches bs =>
    Tier.disjunction.continues m.current.kind = false → Rounds (branchStep inner) [] s bs m
  | .arguments ns =>
    m.current.Sign .rightParen → ∀ fault, Reading.arguments inner fault s = .ok (ns, m.tail)
  | .clause w e =>
      Tier.disjunction.continues m.current.kind = false → m.current.kind ≠ .reserved w →
      behind (.reserved w) (inner .expression) s = .ok (e, m)
  | .byClause w k ns => k.continues (.symbol .comma) = false → k.continues m.current.kind = false →
      m.current.kind ≠ .symbol .comma → m.current.kind ≠ .reserved w → ∀ fault,
      byReading inner w k fault s = .ok (ns, m)

/-! ## Tiers -/

section Tiers

variable {inner : Entry → Reading Node} {s k m : Stream}

/-- A tier that is a chain reads its first operand and goes round. -/
theorem Tier.reading_eq {t : Tier} (ht : t.isChain = true) :
    t.reading inner = t.tighter.reading inner >>= loop (t.step inner) := by
  cases t with
  | negation => cases ht
  | sign => cases ht
  | primary => cases ht
  | predicate => rfl
  | disjunction =>
    simp only [reading, Reading.disjunction, chain, isOr_eq]
    rfl
  | conjunction =>
    simp only [reading, Reading.conjunction, chain, isAnd_eq]
    rfl
  | comparison =>
    simp only [reading, Reading.comparison, chain, isComparison_eq]
    rfl
  | additive =>
    simp only [reading, Reading.additive, chain, isAdditive_eq]
    rfl
  | multiplicative =>
    simp only [reading, Reading.multiplicative, chain, isMultiplicative_eq]
    rfl

/-- A predicate goes on with none of the tokens that do not prolong it. -/
theorem predicateStep_none {e : Node} (hm : Tier.predicate.continues m.current.kind = false) :
    predicateStep inner e m = .ok (none, m) := by
  have hne : ∀ {kind : TokenKind}, 4 ≤ grip kind → m.current.kind ≠ kind := by
    intro kind hg hk
    rw [hk] at hm
    exact absurd hg (of_decide_eq_false hm)
  have hnot : ¬(m.current.kind = .reserved .not ∧ isNegatable m.next.kind = true) :=
    fun h => hne (by decide) h.1
  have hneg : negation? m = .ok (false, m) := by
    show (if _ then _ else pure false : Reading Bool) m = _
    rw [if_neg hnot]
    rfl
  rw [predicateStep, bind_ok rfl,
    if_neg (by rw [isEquality_eq, Tier.joins_of_continues hm]; exact Bool.false_ne_true),
    bind_ok (accept_other (hne (by decide))), if_neg Bool.false_ne_true, bind_ok hneg,
    negatablePredicate?,
    bind_ok (accept_other (hne (by decide))), if_neg Bool.false_ne_true,
    bind_ok (accept_other (hne (by decide))),
    if_neg Bool.false_ne_true, bind_ok (accept_other (hne (by decide))), if_neg Bool.false_ne_true,
    bind_ok (accept_other (hne (by decide)))]
  rfl

/-- A tier that is not continued by a token does nothing at it. -/
theorem Tier.step_none {t : Tier} {e : Node} (hm : t.continues m.current.kind = false) :
    t.step inner e m = .ok (none, m) := by
  unfold step
  split
  · next ht =>
    subst ht
    exact predicateStep_none hm
  · rw [operatorStep, bind_ok rfl, if_neg (by rw [joins_of_continues hm]; exact Bool.false_ne_true)]
    rfl

/-- One round of a chain takes an operator and an operand of the tier inside. -/
theorem Tier.step_binary {t : Tier} {l r : Node} (ho : t.joins s.current.kind = true)
    (hr : t.tighter.reading inner s.tail = .ok (r, m)) :
    t.step inner l s = .ok (some (.binary l (t.spelling s.current) r), m) := by
  unfold step
  split
  · next ht =>
    subst ht
    rw [predicateStep, bind_ok rfl, if_pos (by rw [isEquality_eq]; exact ho), bind_ok rfl,
      bind_ok (x := Reading.comparison inner) hr]
    rfl
  · rw [operatorStep, bind_ok rfl, if_pos ho, bind_ok rfl, bind_ok hr]
    rfl

/-- A chain is read up to a token that does not prolong its last operand; it need not end there. -/
theorem Phrase.read_chain {t : Tier} {e : Node} (ht : t.isChain = true) :
    (Phrase.expression t e).Read inner s m ↔ (t.prolongsLast m.current.kind = false →
      ∃ a k, t.tighter.reading inner s = .ok (a, k) ∧ Rounds (t.step inner) a k e m) := by
  rw [Phrase.Read, if_pos ht]

/-- A tier that is no chain is read to its end. -/
theorem Phrase.read_single {t : Tier} {e : Node} (ht : t.isChain = false) :
    (Phrase.expression t e).Read inner s m ↔
      (t.continues m.current.kind = false → t.reading inner s = .ok (e, m)) := by
  rw [Phrase.Read, if_neg (by rw [ht]; exact Bool.false_ne_true)]

/-- An expression is read to its end where nothing prolongs it. -/
theorem Phrase.Read.close {t : Tier} {e : Node} (h : (Phrase.expression t e).Read inner s m)
    (hm : t.continues m.current.kind = false) : t.reading inner s = .ok (e, m) := by
  cases ht : t.isChain with
  | false => exact (Phrase.read_single ht).mp h hm
  | true =>
    obtain ⟨a, k, ha, hr⟩ := (Phrase.read_chain ht).mp h (Tier.prolongsLast_of_continues hm)
    rw [Tier.reading_eq ht, bind_ok ha]
    exact loop_ok hr (Tier.step_none hm)

/-- What a tier inside reads is a chain of one operand. -/
theorem read_tighter {t : Tier} {e : Node} {ts : List Token} (hT : s.Takes ts m)
    (hs : StartsWith t.tighter.starts ts) (h : (Phrase.expression t.tighter e).Read inner s m) :
    (Phrase.expression t e).Read inner s m := by
  cases ht : t.isChain with
  | true => exact (Phrase.read_chain ht).mpr fun hm =>
      ⟨e, m, h.close (Tier.prolongsLast_eq_false.mp hm).1, .none⟩
  | false =>
    refine (Phrase.read_single ht).mpr fun hm => ?_
    have hc := h.close (Tier.continues_tighter hm)
    have hk := hs.current hT
    -- A tier with a word or a sign of its own passes on to the next one if that does not stand
    -- here.
    cases t with
    | negation =>
      have hnot : s.current.kind ≠ .reserved .not := by
        intro hn
        rw [hn] at hk
        cases hk
      show negatable inner s = _
      rw [negatable, bind_ok (accept_other hnot)]
      exact hc
    | sign =>
      have hsign : ¬isSign s.current.kind = true := by
        intro hs
        rcases isSign_eq_true.mp hs with hs | hs
        · rw [hs] at hk; cases hk
        · rw [hs] at hk; cases hk
      show signed inner s = _
      rw [signed, bind_ok rfl, if_neg hsign]
      exact hc
    | primary => exact hc
    | _ => cases ht

/-- A chain is prolonged by one operator and one operand at its right end, since chains group to the
left. -/
theorem read_binary {t : Tier} {l r : Node} {ts us : List Token} {op : Token}
    (ho : t.joins op.kind = true) (hT : s.Takes (ts ++ op :: us) m)
    (hl : ∀ {k}, s.Takes ts k → (Phrase.expression t l).Read inner s k)
    (hr : ∀ {k}, k.Takes us m → (Phrase.expression t.tighter r).Read inner k m) :
    (Phrase.expression t (.binary l (t.spelling op) r)).Read inner s m := by
  have ht : t.isChain = true := by
    cases t with
    | negation => simp [Tier.joins] at ho
    | sign => simp [Tier.joins] at ho
    | primary => simp [Tier.joins] at ho
    | _ => rfl
  obtain ⟨k, hk, hT⟩ := takes_append.mp hT
  refine (Phrase.read_chain ht).mpr fun hm => ?_
  have hlen := hT.length_lt
  obtain ⟨rfl, -, hu⟩ := takes_cons.mp hT
  obtain ⟨a, j, ha, hrounds⟩ := (Phrase.read_chain ht).mp (hl hk) (Tier.prolongsLast_of_joins ho)
  exact ⟨a, j, ha,
    .more hrounds (Tier.step_binary ho ((hr hu).close (Tier.prolongsLast_eq_false.mp hm).1)) hlen⟩

end Tiers

/-! ## Prefix operators and predicates -/

section Predicates

variable {inner : Entry → Reading Node} {s k j m : Stream} {e : Node}

/-- The operand of `NOT` is one level further in. -/
theorem read_not (hw : s.current.Word .not) (h : inner .negation s.tail = .ok (e, m)) :
    (Phrase.expression .negation (.unary "NOT" e)).Read inner s m := by
  refine (Phrase.read_single rfl).mpr fun _ => ?_
  show negatable inner s = _
  rw [negatable, bind_ok (accept_ok hw), if_pos rfl, bind_ok h]
  rfl

/-- So is the operand of a sign. -/
theorem read_sign (ho : s.current.Sign .plus ∨ s.current.Sign .minus)
    (h : inner .sign s.tail = .ok (e, m)) :
    (Phrase.expression .sign (.unary s.current.text e)).Read inner s m := by
  refine (Phrase.read_single rfl).mpr fun _ => ?_
  show signed inner s = _
  rw [signed, bind_ok rfl, if_pos (isSign_eq_true.mpr ho), bind_ok rfl, bind_ok h]
  rfl

/-- A predicate is one more round behind its first operand. -/
theorem read_predicate {e' : Node} (h : (Phrase.expression .predicate e).Read inner s k)
    (hk : Tier.predicate.prolongsLast k.current.kind = false) (hl : m.ahead.length < k.ahead.length)
    (hs : Tier.predicate.prolongsLast m.current.kind = false →
      predicateStep inner e k = .ok (some e', m)) :
    (Phrase.expression .predicate e').Read inner s m := by
  refine (Phrase.read_chain rfl).mpr fun hm => ?_
  obtain ⟨a, i, ha, hr⟩ := (Phrase.read_chain rfl).mp h hk
  exact ⟨a, i, ha, .more hr (hs hm) hl⟩

/-- `IS NULL` needs no look ahead: its `NOT` stands behind the `IS`. -/
theorem read_isNull {ms : List Token} {negated : Bool} {is null : Token}
    (h : (Phrase.expression .predicate e).Read inner s k) (hi : is.Word .is)
    (hm : Mark (.reserved .not) negated ms) (hn : null.Word .null)
    (hT : k.Takes (is :: ms ++ [null]) m) :
    (Phrase.expression .predicate (.isNull e negated)).Read inner s m := by
  have hl := hT.length_lt
  simp only [List.cons_append, takes_append, takes_cons, takes_nil] at hT
  obtain ⟨rfl, -, j, hj, rfl, -, rfl⟩ := hT
  refine read_predicate h (by rw [hi]; rfl) hl fun _ => ?_
  rw [predicateStep, bind_ok rfl, if_neg (by rw [hi]; exact Bool.false_ne_true),
    bind_ok (accept_ok hi), if_pos rfl, bind_ok (accept_mark hm hj (by rw [hn]; simp)),
    bind_ok (expect_ok hn)]
  rfl

/-- A predicate that may be negated is reached through the mark before it. -/
theorem predicateStep_negatable {ms : List Token} {negated : Bool}
    (hm : Mark (.reserved .not) negated ms) (hT : k.Takes ms j)
    (hj : isNegatable j.current.kind = true) :
    predicateStep inner e k = negatablePredicate? inner e negated j := by
  -- No comparison and no `IS` stands here, and `NOT` is taken because the word of a predicate
  -- follows it.
  have hkind : isEquality k.current.kind = false ∧ k.current.kind ≠ .reserved .is ∧
      negation? k = .ok (negated, j) := by
    cases hm with
    | absent =>
      obtain rfl := takes_nil.mp hT
      refine ⟨?_, ?_, ?_⟩
      · generalize k.current.kind = x at hj ⊢
        unfold isNegatable at hj
        split at hj <;> first | rfl | cases hj
      · intro hi
        rw [hi] at hj
        cases hj
      · have hnot : ¬(k.current.kind = .reserved .not ∧ isNegatable k.next.kind = true) := by
          rintro ⟨hn, -⟩
          rw [hn] at hj
          cases hj
        show (if _ then _ else pure false : Reading Bool) k = _
        rw [if_neg hnot]
        rfl
    | present h =>
      have hnext := next_of_takes hT
      obtain ⟨rfl, -, rfl⟩ := takes_singleton.mp hT
      refine ⟨by rw [h]; rfl, by rw [h]; simp, ?_⟩
      show (if k.current.kind = .reserved .not ∧ isNegatable k.next.kind = true then _
          else _ : Reading Bool) k = _
      rw [if_pos ⟨h, by rw [hnext]; exact hj⟩]
      rfl
  obtain ⟨heq, his, hneg⟩ := hkind
  rw [predicateStep, bind_ok rfl, if_neg (by rw [heq]; exact Bool.false_ne_true),
    bind_ok (accept_other his), if_neg Bool.false_ne_true, bind_ok hneg]

/-- A predicate that may be negated is read from its word on. -/
theorem read_negatable {e' : Node} {ms us : List Token} {negated : Bool} {w : Token}
    (h : (Phrase.expression .predicate e).Read inner s k) (hm : Mark (.reserved .not) negated ms)
    (hw : isNegatable w.kind = true) (hT : k.Takes (ms ++ w :: us) m)
    (hstep : ∀ {j}, j.current = w → j.tail.Takes us m →
      Tier.predicate.prolongsLast m.current.kind = false →
      negatablePredicate? inner e negated j = .ok (some e', m)) :
    (Phrase.expression .predicate e').Read inner s m := by
  obtain ⟨j, hj, hT⟩ := takes_append.mp hT
  have hl := hT.length_lt
  have hlen := hj.length_ahead
  obtain ⟨rfl, -, hu⟩ := takes_cons.mp hT
  refine read_predicate h ?_ (by omega) fun hc => ?_
  · -- With the mark or without, the token behind the operand belongs to the tier of predicates.
    cases hm with
    | absent =>
      obtain rfl := takes_nil.mp hj
      generalize k.current.kind = x at hw ⊢
      unfold isNegatable at hw
      split at hw <;> first | rfl | cases hw
    | present hn =>
      obtain ⟨rfl, -, -⟩ := takes_singleton.mp hj
      rw [hn]
      rfl
  · rw [predicateStep_negatable hm hj hw]
    exact hstep rfl hu hc

end Predicates

section NegatablePredicates

variable {inner : Entry → Reading Node} {j m : Stream} {e : Node} {negated : Bool}

/-- The `AND` between the bounds does not prolong the lower one, which is a comparison. -/
theorem between_ok {lower upper : Node} {us vs : List Token} {a : Token}
    (hw : j.current.Word .between) (ha : a.Word .and) (hT : j.tail.Takes (us ++ a :: vs) m)
    (hl : ∀ {k}, j.tail.Takes us k → (Phrase.expression .comparison lower).Read inner j.tail k)
    (hu : ∀ {k}, k.Takes vs m → (Phrase.expression .comparison upper).Read inner k m)
    (hm : Tier.predicate.prolongsLast m.current.kind = false) :
    negatablePredicate? inner e negated j = .ok (some (.between e lower upper negated), m) := by
  obtain ⟨k, hk, hT⟩ := takes_append.mp hT
  obtain ⟨rfl, -, hv⟩ := takes_cons.mp hT
  have hlower : Reading.comparison inner j.tail = .ok (lower, k) := (hl hk).close (by rw [ha]; rfl)
  have hupper : Reading.comparison inner k.tail = .ok (upper, m) :=
    (hu hv).close (Tier.prolongsLast_eq_false.mp hm).1
  rw [negatablePredicate?, bind_ok (accept_ok hw), if_pos rfl]
  refine map_ok ?_
  rw [Reading.between, bind_ok hlower, bind_ok (expect_ok ha), bind_ok hupper]
  rfl

/-- Behind `IN`, the set is read. -/
theorem negatablePredicate_in (hw : j.current.Word .inWord) :
    negatablePredicate? inner e negated j = (some <$> Reading.inSet inner e negated) j.tail := by
  rw [negatablePredicate?, bind_ok (accept_other (by rw [hw]; simp)), if_neg Bool.false_ne_true,
    bind_ok (accept_ok hw), if_pos rfl]

theorem parameter_ok {s : Stream} {p : Node} (ht : s.current.kind.isParameter = true)
    (hp : atom? s.current = some p) :
    parameter s = .ok (p, s.tail) := by
  rw [parameter, bind_ok rfl]
  by_cases h : s.current.kind = .namedParameter
  · rw [if_pos h]
    simp only [atom?, h, Option.some.injEq] at hp
    subst hp
    rfl
  · have h' : s.current.kind = .positionalParameter := by
      generalize s.current.kind = x at ht h
      unfold TokenKind.isParameter at ht
      split at ht
      · exact absurd rfl h
      · rfl
      · cases ht
    rw [if_neg h]
    simp only [atom?, h', Option.some.injEq] at hp
    subst hp
    rfl

theorem inParameter_ok {p : Node} (hw : j.current.Word .inWord)
    (ht : j.tail.current.kind.isParameter = true) (hp : atom? j.tail.current = some p) :
    negatablePredicate? inner e negated j =
      .ok (some (.inSet e [] none (some p) negated), j.tail.tail) := by
  rw [negatablePredicate_in hw]
  refine map_ok ?_
  rw [Reading.inSet, bind_ok rfl, if_pos ht, bind_ok (parameter_ok ht hp)]
  rfl

/-- Behind the parenthesis a query shows by its first word. -/
theorem inQuery_ok {q : Node} (hw : j.current.Word .inWord) (ho : j.tail.current.Sign .leftParen)
    (hs : j.tail.tail.current.Word .select) (hq : inner .select j.tail.tail = .ok (q, m))
    (hc : m.current.Sign .rightParen) :
    negatablePredicate? inner e negated j =
      .ok (some (.inSet e [] (some q) none negated), m.tail) := by
  rw [negatablePredicate_in hw]
  refine map_ok ?_
  rw [Reading.inSet, bind_ok rfl, if_neg (by rw [ho]; exact Bool.false_ne_true),
    bind_ok (expect_ok ho), bind_ok rfl, if_pos (decide_eq_true hs), bind_ok hq,
    bind_ok (expect_ok hc)]
  rfl

/-- Values that do not start as a query are read as a list. -/
theorem inList_ok {values : List Node} (hw : j.current.Word .inWord)
    (ho : j.tail.current.Sign .leftParen) (hs : j.tail.tail.current.kind ≠ .reserved .select)
    (hv : commaSeparated (inner .expression) j.tail.tail = .ok (values, m))
    (hc : m.current.Sign .rightParen) :
    negatablePredicate? inner e negated j =
      .ok (some (.inSet e values none none negated), m.tail) := by
  rw [negatablePredicate_in hw]
  refine map_ok ?_
  rw [Reading.inSet, bind_ok rfl, if_neg (by rw [ho]; exact Bool.false_ne_true),
    bind_ok (expect_ok ho), bind_ok rfl,
    if_neg (by rw [decide_eq_false hs]; exact Bool.false_ne_true), bind_ok hv,
    bind_ok (expect_ok hc)]
  rfl

/-- Behind `LIKE`, the pattern is read. -/
theorem negatablePredicate_like (hw : j.current.Word .like) :
    negatablePredicate? inner e negated j = (some <$> Reading.like inner e negated) j.tail := by
  rw [negatablePredicate?, bind_ok (accept_other (by rw [hw]; simp)), if_neg Bool.false_ne_true,
    bind_ok (accept_other (by rw [hw]; simp)), if_neg Bool.false_ne_true, bind_ok (accept_ok hw),
    if_pos rfl]

theorem like_ok {pattern : Node} {us : List Token} (hw : j.current.Word .like)
    (hT : j.tail.Takes us m)
    (hp : j.tail.Takes us m → (Phrase.expression .comparison pattern).Read inner j.tail m)
    (hm : Tier.predicate.prolongsLast m.current.kind = false) :
    negatablePredicate? inner e negated j = .ok (some (.like e pattern none negated), m) := by
  obtain ⟨hm, he⟩ := Tier.prolongsLast_eq_false.mp hm
  have hpattern : Reading.comparison inner j.tail = .ok (pattern, m) := (hp hT).close hm
  rw [negatablePredicate_like hw]
  refine map_ok ?_
  rw [Reading.like, bind_ok hpattern, bind_ok (behind_other (he rfl))]
  rfl

/-- The `ESCAPE` does not prolong the pattern. -/
theorem likeEscape_ok {pattern escape : Node} {us vs : List Token} {k : Token}
    (hw : j.current.Word .like) (hk : k.Word .escape) (hT : j.tail.Takes (us ++ k :: vs) m)
    (hp : ∀ {i}, j.tail.Takes us i → (Phrase.expression .comparison pattern).Read inner j.tail i)
    (he : ∀ {i}, i.Takes vs m → (Phrase.expression .comparison escape).Read inner i m)
    (hm : Tier.predicate.prolongsLast m.current.kind = false) :
    negatablePredicate? inner e negated j =
      .ok (some (.like e pattern (some escape) negated), m) := by
  obtain ⟨i, hi, hT⟩ := takes_append.mp hT
  obtain ⟨rfl, -, hv⟩ := takes_cons.mp hT
  have hpattern : Reading.comparison inner j.tail = .ok (pattern, i) :=
    (hp hi).close (by rw [hk]; rfl)
  have hescape : Reading.comparison inner i.tail = .ok (escape, m) :=
    (he hv).close (Tier.prolongsLast_eq_false.mp hm).1
  rw [negatablePredicate_like hw]
  refine map_ok ?_
  rw [Reading.like, bind_ok hpattern, bind_ok (behind_ok hk hescape)]
  rfl

/-- The word `OF` may be missing. -/
theorem memberOf_ok {parts : List String} {os us : List Token} {of : Bool}
    (hw : j.current.Word .member) (ho : Mark (.reserved .of) of os) (hc : Dotted parts us)
    (hT : j.tail.Takes (os ++ us) m) (hm : m.current.kind ≠ .symbol .dot) :
    negatablePredicate? inner e negated j = .ok (some (.memberOf e (.path parts) negated), m) := by
  obtain ⟨k, hk, hT⟩ := takes_append.mp hT
  have hname := hc.starts.current hT
  rw [negatablePredicate?, bind_ok (accept_other (by rw [hw]; simp)), if_neg Bool.false_ne_true,
    bind_ok (accept_other (by rw [hw]; simp)), if_neg Bool.false_ne_true,
    bind_ok (accept_other (by rw [hw]; simp)),
    if_neg Bool.false_ne_true, bind_ok (accept_ok hw), if_pos rfl]
  refine map_ok ?_
  rw [Reading.memberOf, bind_ok (accept_mark ho hk (by intro h; rw [h] at hname; cases hname)),
    bind_ok (path_ok hc hT hm)]
  rfl

end NegatablePredicates

/-! ## Primary expressions -/

section Primaries

variable {inner : Entry → Reading Node} {s m : Stream}

theorem read_primary {e : Node}
    (h : Tier.primary.continues m.current.kind = false → Reading.primary inner s = .ok (e, m)) :
    (Phrase.expression .primary e).Read inner s m :=
  (Phrase.read_single rfl).mpr h

/-- A token that is a whole expression. -/
theorem primary_atom {e : Node} (h : atom? s.current = some e) :
    Reading.primary inner s = .ok (e, s.tail) := by
  unfold atom? at h
  rw [Reading.primary, bind_ok rfl]
  split at h
  case h_7 hk =>
    simp only [hk]
    exact parameter_ok (by rw [hk]; rfl) (by rw [atom?, hk]; exact h)
  case h_8 hk =>
    simp only [hk]
    exact parameter_ok (by rw [hk]; rfl) (by rw [atom?, hk]; exact h)
  case h_10 => cases h
  all_goals
    next hk =>
      cases h
      simp only [hk]
      rfl

/-- Behind a name that a path starts with stands a point, or what stands behind the path. -/
theorem next_of_dotted {parts : List String} {ts : List Token} (h : Dotted parts ts) :
    ∀ {s m : Stream}, s.Takes ts m → s.next.kind = .symbol .dot ∨ s.next = m.current := by
  induction h with
  | name =>
    intro s m hT
    exact .inr (next_of_takes hT)
  | more _ hd _ ih =>
    intro s m hT
    obtain ⟨k, hk, hT⟩ := takes_append.mp hT
    obtain ⟨rfl, -, -⟩ := takes_cons.mp hT
    rcases ih hk with h | h
    · exact .inl h
    · exact .inl (by rw [h]; exact hd)

/-- A name is a path unless a parenthesis follows its first part. -/
theorem callOrPath_path {call : Reading Node} {parts : List String} {ts : List Token}
    (h : Dotted parts ts) (hT : s.Takes ts m) (hm : Tier.primary.continues m.current.kind = false) :
    callOrPath call s = .ok (.path parts, m) := by
  have hdot : m.current.kind ≠ .symbol .dot := by
    intro hd
    rw [hd] at hm
    cases hm
  have hnext : s.next.kind ≠ .symbol .leftParen := by
    rcases next_of_dotted h hT with hd | hd
    · rw [hd]
      simp
    · intro hp
      rw [← hd, hp] at hm
      cases hm
  rw [callOrPath, bind_ok rfl, if_neg hnext]
  exact path_ok h hT hdot

/-- A path may start with the word of a function. -/
theorem primary_path {parts : List String} {ts : List Token} (h : Dotted parts ts)
    (hT : s.Takes ts m) (hm : Tier.primary.continues m.current.kind = false) :
    Reading.primary inner s = .ok (.path parts, m) := by
  have hk := h.starts.current hT
  rw [Reading.primary, bind_ok rfl]
  unfold TokenKind.isName at hk
  split at hk
  · next hid =>
    simp only [hid]
    exact callOrPath_path h hT hm
  · next hf =>
    simp only [hf]
    exact callOrPath_path h hT hm
  · cases hk

theorem primary_paren {e : Node} (ho : s.current.Sign .leftParen)
    (hs : s.tail.current.kind ≠ .reserved .select) (h : inner .expression s.tail = .ok (e, m))
    (hc : m.current.Sign .rightParen) :
    Reading.primary inner s = .ok (.paren e, m.tail) := by
  rw [Reading.primary, bind_ok rfl]
  simp only [show s.current.kind = _ from ho]
  rw [parenthesized, bind_ok rfl, bind_ok rfl,
    if_neg (by rw [decide_eq_false hs]; exact Bool.false_ne_true), bind_ok h,
    bind_ok (expect_ok hc)]
  rfl

theorem primary_subquery {q : Node} (ho : s.current.Sign .leftParen)
    (hs : s.tail.current.Word .select) (h : inner .select s.tail = .ok (q, m))
    (hc : m.current.Sign .rightParen) :
    Reading.primary inner s = .ok (.subquery q, m.tail) := by
  rw [Reading.primary, bind_ok rfl]
  simp only [show s.current.kind = _ from ho]
  rw [parenthesized, bind_ok rfl, bind_ok rfl, if_pos (decide_eq_true hs), bind_ok h,
    bind_ok (expect_ok hc)]
  rfl

theorem primary_exists {q : Node} (hw : s.current.Word .exists)
    (ho : s.tail.current.Sign .leftParen) (hs : s.tail.tail.current.Word .select)
    (h : inner .select s.tail.tail = .ok (q, m)) (hc : m.current.Sign .rightParen) :
    Reading.primary inner s = .ok (.existsQuery q, m.tail) := by
  rw [Reading.primary, bind_ok rfl]
  simp only [show s.current.kind = _ from hw]
  rw [existsExpression, bind_ok rfl, bind_ok (expect_ok ho), bind_ok rfl,
    if_pos (decide_eq_true hs), bind_ok h, bind_ok (expect_ok hc)]
  rfl

/-! ### Case expressions -/

theorem branchStep_more {done : List Node} {condition result : Node} {k : Stream}
    (hw : s.current.Word .whenWord) (hc : inner .expression s.tail = .ok (condition, k))
    (hk : k.current.Word .thenWord) (hr : inner .expression k.tail = .ok (result, m)) :
    branchStep inner done s = .ok (some (done ++ [.branch condition result]), m) := by
  rw [branchStep, bind_ok (accept_ok hw), if_pos rfl, bind_ok hc, bind_ok (expect_ok hk),
    bind_ok hr]
  rfl

/-- Branches end where no `WHEN` follows. -/
theorem branches_ok {bs : List Node} (h : (Phrase.branches bs).Read inner s m)
    (hm : Tier.disjunction.continues m.current.kind = false)
    (hw : m.current.kind ≠ .reserved .whenWord) :
    Reading.branches inner s = .ok (bs, m) := by
  show loop (branchStep inner) [] s = _
  refine loop_ok (h hm) ?_
  rw [branchStep, bind_ok (accept_other hw)]
  rfl

/-- The rest of a case expression, its branches being next. -/
theorem caseBranches_ok {operand otherwise : Option Node} {bs : List Node} {k : Stream}
    (hb : Reading.branches inner s = .ok (bs, k)) (hne : bs ≠ [])
    (he : behind (.reserved .elseWord) (inner .expression) k = .ok (otherwise, m))
    (hk : m.current.Word .endWord) :
    (Reading.branches inner >>= fun branches =>
      if branches.isEmpty = true then Reading.fail .noWhen
      else do
        let otherwise ← behind (.reserved .elseWord) (inner .expression)
        let _ ← expect (.reserved .endWord) .noEnd
        pure (Node.caseOf operand branches otherwise)) s = .ok (.caseOf operand bs otherwise,
          m.tail) := by
  rw [bind_ok hb, if_neg (by simpa using hne), bind_ok he, bind_ok (expect_ok hk)]
  rfl

end Primaries

section Calls

variable {inner : Entry → Reading Node} {s k m : Stream}

/-- The operand is missing exactly if a `WHEN` follows the `CASE`. -/
theorem primary_case {operand otherwise : Option Node} {bs : List Node} {i : Stream}
    (hw : s.current.Word .case)
    (ho : (s.tail.current.Word .whenWord ∧ operand = none ∧ k = s.tail) ∨
      s.tail.current.kind ≠ .reserved .whenWord ∧ ∃ e, operand = some e ∧
    inner .expression s.tail = .ok (e, k))
    (hb : Reading.branches inner k = .ok (bs, i)) (hne : bs ≠ [])
    (he : behind (.reserved .elseWord) (inner .expression) i = .ok (otherwise, m))
    (hk : m.current.Word .endWord) :
    Reading.primary inner s = .ok (.caseOf operand bs otherwise, m.tail) := by
  rw [Reading.primary, bind_ok rfl]
  simp only [show s.current.kind = _ from hw]
  rw [caseExpression, bind_ok rfl, bind_ok rfl]
  rcases ho with ⟨hs, rfl, rfl⟩ | ⟨hs, e, rfl, h⟩
  · rw [if_pos (decide_eq_true hs), bind_ok rfl]
    exact caseBranches_ok hb hne he hk
  · rw [if_neg (by rw [decide_eq_false hs]; exact Bool.false_ne_true), bind_ok (map_ok h)]
    exact caseBranches_ok hb hne he hk

/-! ### Calls -/

/-- A name with a parenthesis behind it is called. -/
theorem primary_call {f : Function} (hf : s.current.kind = .function f)
    (hT : s.Takes [s.current] s.tail) (ho : s.tail.current.Sign .leftParen) :
    Reading.primary inner s = Reading.functionCall inner f s := by
  rw [Reading.primary, bind_ok rfl]
  simp only [hf]
  rw [callOrPath, bind_ok rfl, if_pos (by rw [next_of_takes hT]; exact ho)]

/-- The name of a function that is not known is kept as it is spelled. -/
theorem primary_otherCall {args : List Node} (hf : s.current.kind = .identifier)
    (hT : s.Takes [s.current] s.tail) (ho : s.tail.current.Sign .leftParen)
    (ha : Reading.arguments inner .noArgumentsClose s.tail.tail = .ok (args, m)) :
    Reading.primary inner s = .ok (.call s.current.text args false false none none none, m) := by
  rw [Reading.primary, bind_ok rfl]
  simp only [hf]
  rw [callOrPath, bind_ok rfl, if_pos (by rw [next_of_takes hT]; exact ho), Reading.otherCall,
    bind_ok rfl, bind_ok (expect_ok ho), bind_ok ha]
  rfl

/-- The number of arguments is checked for `SUBSTRING` alone. -/
theorem functionCall_plain {f : Function} {args : List Node} (hg : hasPlainArguments f = true)
    (hn : hasArity f args.length = true) (ho : s.tail.current.Sign .leftParen)
    (ha : Reading.arguments inner .noArgumentsClose s.tail.tail = .ok (args, m)) :
    Reading.functionCall inner f s = .ok (plainCall (TokenKind.function f).name args, m) := by
  simp only [hasPlainArguments, Bool.and_eq_true, Bool.not_eq_true', decide_eq_true_eq] at hg
  obtain ⟨⟨hagg, htrim⟩, hcast⟩ := hg
  have harity : ¬(f = .substring ∧ args.length ≠ 2 ∧ args.length ≠ 3) := by
    simp only [hasArity, Bool.or_eq_true, decide_eq_true_eq] at hn
    rintro ⟨hs, h2, h3⟩
    rcases hn with (h | h) | h
    · exact h hs
    · exact h2 h
    · exact h3 h
  rw [Reading.functionCall, bind_ok rfl, bind_ok (expect_ok ho),
    if_neg (by rw [hagg]; exact Bool.false_ne_true), if_neg htrim, if_neg hcast, bind_ok ha,
    if_neg harity]
  rfl

theorem functionCall_countAll (ho : s.tail.current.Sign .leftParen)
    (hs : s.tail.tail.current.Sign .star) (hc : s.tail.tail.tail.current.Sign .rightParen) :
    Reading.functionCall inner .count s =
      .ok (plainCall (TokenKind.function .count).name [.star], s.tail.tail.tail.tail) := by
  have hg : Function.count.isAggregate = true := rfl
  rw [Reading.functionCall, bind_ok rfl, bind_ok (expect_ok ho), if_pos hg, aggregateCall,
    bind_ok rfl, if_pos ⟨rfl, hs⟩, bind_ok rfl, bind_ok (expect_ok hc)]
  rfl

/-- `DISTINCT` is a word of the call and not of its argument. -/
theorem functionCall_aggregate {f : Function} {e : Node} {ms : List Token} {distinct : Bool}
    (hg : f.isAggregate = true) (ho : s.tail.current.Sign .leftParen)
    (hstar : s.tail.tail.current.kind ≠ .symbol .star) (hm : Mark (.reserved .distinct) distinct ms)
    (hT : s.tail.tail.Takes ms k) (hk : k.current.kind ≠ .reserved .distinct)
    (h : inner .expression k = .ok (e, m)) (hc : m.current.Sign .rightParen) :
    Reading.functionCall inner f s =
      .ok (.call (TokenKind.function f).name [e] distinct true none none none, m.tail) := by
  rw [Reading.functionCall, bind_ok rfl, bind_ok (expect_ok ho), if_pos hg, aggregateCall,
    bind_ok rfl, if_neg (fun h => hstar h.2), bind_ok (accept_mark hm hT hk), bind_ok h,
    bind_ok (expect_ok hc)]
  rfl

theorem functionCall_cast {e : Node} {type : String} {us : List Token}
    (ho : s.tail.current.Sign .leftParen) (h : inner .expression s.tail.tail = .ok (e, k))
    (hw : k.current.Word .asWord) (ht : TypeName type us) (hT : k.tail.Takes us m)
    (hc : m.current.Sign .rightParen) :
    Reading.functionCall inner .cast s = .ok (.call "CAST" [e] false true none none (some type),
      m.tail) := by
  rw [Reading.functionCall, bind_ok rfl, bind_ok (expect_ok ho), if_neg (by decide),
    if_neg (by decide), if_pos rfl, castCall, bind_ok h, bind_ok (expect_ok hw),
    bind_ok (typeName_ok ht hT hc), bind_ok (expect_ok hc)]
  rfl

/-! ### Trimming -/

/-- A word for a side is a name where a parenthesis closes behind it or a point follows. -/
theorem trimSide_absent
    (h : ¬(isSide s.current = true ∧ s.next.kind ≠ .symbol .rightParen ∧
      s.next.kind ≠ .symbol .dot)) :
    trimSide? s = .ok (none, s) := by
  have h' : ¬(s.current.kind = .identifier ∧ isTrimSide (Text.upper s.current.text) ∧
      s.next.kind ≠ .symbol .rightParen ∧ s.next.kind ≠ .symbol .dot) := by
    rintro ⟨hk, hs, hn⟩
    exact h ⟨by rw [isSide, decide_eq_true hk]; exact hs, hn⟩
  rw [trimSide?, bind_ok rfl, bind_ok rfl, if_neg h']
  rfl

theorem trimSide_present (h : isSide s.current = true) (hp : s.next.kind ≠ .symbol .rightParen)
    (hd : s.next.kind ≠ .symbol .dot) :
    trimSide? s = .ok (some (Text.upper s.current.text), s.tail) := by
  simp only [isSide, Bool.and_eq_true, decide_eq_true_eq] at h
  rw [trimSide?, bind_ok rfl, bind_ok rfl, if_pos ⟨h.1, h.2, hp, hd⟩]
  rfl

/-- A side is read if what follows it is no point and no closing parenthesis. -/
theorem trimSide_ok {side : Option String} {ss : List Token} (h : Side side ss) (hT : s.Takes ss m)
    (hp : m.current.kind ≠ .symbol .rightParen) (hd : m.current.kind ≠ .symbol .dot)
    (hn : side = none →
      ¬(isSide m.current = true ∧ m.next.kind ≠ .symbol .rightParen ∧ m.next.kind ≠ .symbol .dot)) :
    trimSide? s = .ok (side, m) := by
  cases h with
  | absent =>
    obtain rfl := takes_nil.mp hT
    exact trimSide_absent (hn rfl)
  | present h =>
    have hnext := next_of_takes hT
    obtain ⟨rfl, -, rfl⟩ := takes_singleton.mp hT
    exact trimSide_present h (by rw [hnext]; exact hp) (by rw [hnext]; exact hd)

theorem functionCall_trim {e : Node} {side : Option String} {char : Option Node}
    (ho : s.tail.current.Sign .leftParen) (hs : trimSide? s.tail.tail = .ok (side, k))
    (h : trimOperands inner side k = .ok ((e, char), m)) (hc : m.current.Sign .rightParen) :
    Reading.functionCall inner .trim s = .ok (.call "TRIM" [e] false true side char none,
      m.tail) := by
  rw [Reading.functionCall, bind_ok rfl, bind_ok (expect_ok ho), if_neg (by decide), if_pos rfl,
    trimCall, bind_ok hs, bind_ok h]
  dsimp only
  rw [bind_ok (expect_ok hc)]
  rfl

/-- Without a side, one operand alone is enough. -/
theorem trimOperands_plain {e : Node} (hf : s.current.kind ≠ .reserved .fromWord)
    (h : inner .expression s = .ok (e, m)) (hm : m.current.kind ≠ .reserved .fromWord) :
    trimOperands inner none s = .ok ((e, none), m) := by
  rw [trimOperands, bind_ok (accept_other hf), if_neg Bool.false_ne_true, bind_ok h,
    bind_ok (accept_other hm)]
  rfl

theorem trimOperands_from {e : Node} {side : Option String} (hf : s.current.Word .fromWord)
    (h : inner .expression s.tail = .ok (e, m)) :
    trimOperands inner side s = .ok ((e, none), m) := by
  rw [trimOperands, bind_ok (accept_ok hf), if_pos rfl, bind_ok h]
  rfl

/-- What stands before `FROM` is the character. -/
theorem trimOperands_character {e char : Node} {side : Option String}
    (hf : s.current.kind ≠ .reserved .fromWord) (hchar : inner .expression s = .ok (char, k))
    (hk : k.current.Word .fromWord) (h : inner .expression k.tail = .ok (e, m)) :
    trimOperands inner side s = .ok ((e, some char), m) := by
  rw [trimOperands, bind_ok (accept_other hf), if_neg Bool.false_ne_true, bind_ok hchar,
    bind_ok (accept_ok hk), if_pos rfl, bind_ok h]
  rfl

end Calls

end Grammar

end EntityQuery
