import EntityQuery.Proofs.Sql.Opening

/-!
# What is written can be read

For each phrase of the grammar, `PhraseWrites` says that its rendering, if it succeeds, shows a text
that is read as the translated phrase. Items of lists are the heart of it: a list is written item by
item with commas between them, and a constructor in a select list is written as a list of its own.
-/

namespace EntityQuery.Sql

open Grammar

/-! ## Pieces -/

/-- A piece shows a text that is read as tokens with `P`. -/
def Spelled (P : List Token → Prop) (p : Fragment) : Prop :=
  ∃ w, p.Shows w ∧ Spells isGap w P

/-- Pieces show texts that are read as tokens with `P` when blanks stand before each. -/
def SpelledBehind (P : List Token → Prop) (ps : List Fragment) : Prop :=
  ∃ ws, ShowAll ps ws ∧ Trailing (spaced ws) P

variable {q : Place} {P Q : List Token → Prop}

theorem Spelled.mono {p : Fragment} (h : Spelled P p) (hPQ : ∀ ts, P ts → Q ts) : Spelled Q p := by
  obtain ⟨w, hw, hs⟩ := h
  exact ⟨w, hw, hs.mono hPQ⟩

theorem SpelledBehind.nil : SpelledBehind (fun ts => ts = []) [] :=
  ⟨[], .nil, .nil⟩

theorem SpelledBehind.single {p : Fragment} (h : Spelled P p) : SpelledBehind P [p] := by
  obtain ⟨w, hw, hs⟩ := h
  refine ⟨[w], .cons hw .nil, ?_⟩
  rw [spaced, spaced, String.append_empty]
  exact .blank hs

theorem SpelledBehind.append {ps qs : List Fragment} (h : SpelledBehind P ps)
    (h' : SpelledBehind Q qs) :
    SpelledBehind (Both P Q) (ps ++ qs) := by
  obtain ⟨ws, hs, ht⟩ := h
  obtain ⟨us, hs', ht'⟩ := h'
  refine ⟨ws ++ us, hs.append hs', ?_⟩
  rw [spaced_append]
  exact ht.append ht'

theorem SpelledBehind.mono {ps : List Fragment} (h : SpelledBehind P ps) (hPQ : ∀ ts, P ts → Q ts) :
    SpelledBehind Q ps := by
  obtain ⟨ws, hs, ht⟩ := h
  exact ⟨ws, hs, ht.mono hPQ⟩

namespace Yields

variable {α : Type} {x : Rendering Fragment} {f : String → Rendering α} {S : α → Prop}

/-- A rendering whose result is formatted. -/
theorem display (h : Yields q x (Spelled P)) (hf : ∀ w, Spells isGap w P → Yields q (f w) S) :
    Yields q (x >>= fun p => Rendering.shown p >>= f) S := by
  refine h.bind fun p hp => ?_
  obtain ⟨w, hw, hs⟩ := hp
  refine (Yields.shown hw).bind fun v hv => ?_
  subst hv
  exact hf _ hs

/-- Pieces with blanks between them. -/
theorem spaced {p : Fragment} {ps : List Fragment} {w : String} (hp : p.Shows w)
    (h : Spells isGap w P) (h' : SpelledBehind Q ps) :
    Yields q (Rendering.strung " " (p :: ps)) fun v => (∃ u, v = w ++ u) ∧
      Spells isGap v (Both P Q) := by
  obtain ⟨ws, hws, ht⟩ := h'
  refine (Yields.strung (.cons hp hws)).mono fun text htext => ?_
  rw [htext, intercalate_blank]
  exact ⟨⟨_, rfl⟩, h.trail ht⟩

end Yields

/-! ## Phrases -/

/-- Tiers of expressions that open with a sign or with no operand of a tighter tier. -/
def isTight : Tier → Bool
  | .sign | .primary => true
  | _ => false

/-- An expression that is a minus sign with its operand. -/
def isMinus : Node → Bool
  | .unary operator _ => operator == "-"
  | _ => false

/-- A piece that an expression of a tier is written as. A tight one does not open with a minus sign
of its own accord. -/
def Written (q : Place) (t : Tier) (e : Node) (p : Fragment) : Prop :=
  ∃ w, p.Shows w ∧ Spells isGap w (Derives false (.expression t (translate q e))) ∧
    (isTight t = true → isMinus e = false → Opens (Lexeme.breaksOff (.symbol .minus)) w)

/-- An expression is written as the translated one. -/
def ExpressionWrites (t : Tier) (e : Node) : Prop :=
  ∀ ⦃q : Place⦄, everywhere isWritableHere q e = true → Yields q (render q.scope e) (Written q t e)

/-- The trees that the items of a list become. -/
def itemsOf (q : Place) : Part → List Node → List Node
  | .selection, ns => translateItems q ns
  | _, ns => translateList q ns

/-- What the text of a join is read as: nothing, if the join is left out. -/
inductive JoinText (q : Place) (n : Node) : String → Prop
  | dropped (h : translateJoins q [n] = []) : JoinText q n ""
  | kept {w : String} (hw : w ≠ "") (h : translateJoins q [n] = [translate q n])
      (hs : Spells isGap w (Derives false (.part .join (translate q n)))) : JoinText q n w

/-- A single tree is written as the translated one. -/
def PartWrites : Part → Node → Prop
  | .selection, n => ∀ ⦃q : Place⦄, everywhere isWritableHere q n = true →
      Yields q (render q.scope n)
      (Spelled (Derives false (.list .selection (translateItems q [n]))))
  | .join, n => ∀ ⦃q : Place⦄, everywhere isWritableHere q n = true →
      Yields q (render q.scope n) fun p => ∃ w, p = .text w ∧ JoinText q n w
  | .statement, n =>
      ∀ ⦃q : Place⦄, q.target = none → q.targetAlias = none → everywhere isWritableHere q n = true →
      Yields q (render q.scope n) (Spelled (Derives false (.part .statement (translate q n))))
  | .target, _ => True
  | k, n => ∀ ⦃q : Place⦄, everywhere isWritableHere q n = true →
      Yields q (render q.scope n) (Spelled (Derives false (.part k (translate q n))))

/-- The branches of a case expression are made of expressions that are written. -/
def BranchWrites (n : Node) : Prop :=
  ∃ condition result, n = .branch condition result ∧ PartWrites .argument condition ∧
    PartWrites .argument result

/-- The trees of a phrase are written as the translated ones. -/
def PhraseWrites : Phrase → Prop
  | .expression t e => ExpressionWrites t e
  | .part k n => PartWrites k n
  | .list k ns => ns ≠ [] ∧ ∀ n ∈ ns, PartWrites k n
  | .joins ns => ∀ n ∈ ns, PartWrites .join n
  | .branches ns => ∀ n ∈ ns, BranchWrites n
  | .arguments ns => ∀ n ∈ ns, PartWrites .argument n
  | .clause _ e => ∀ n ∈ e, PartWrites .argument n
  | .byClause _ k ns => ∀ n ∈ ns, PartWrites k n

/-! ## Lists -/

/-- Two lists with a comma between them are one list. -/
theorem derives_list_append {k : Part} {ns ms : List Node} {ts us : List Token} {comma : Token}
    (h : Derives false (.list k ns) ts) (hc : comma.Sign .comma)
    (h' : Derives false (.list k ms) us) :
    Derives false (.list k (ns ++ ms)) (ts ++ comma :: us) := by
  generalize hp : Phrase.list k ms = p at h'
  induction h' generalizing ms with
  | one h' =>
    cases hp
    exact .more h hc h'
  | more _ hc' hn ih =>
    cases hp
    have := Derives.more (ih rfl) hc' hn
    rw [List.append_assoc] at this
    simpa using this
  | _ => cases hp

theorem translateItems_cons (q : Place) (n : Node) (ns : List Node) :
    translateItems q (n :: ns) = translateItems q [n] ++ translateItems q ns := by
  cases n <;> simp [translateItems]

theorem itemsOf_cons (q : Place) (k : Part) (n : Node) (ns : List Node) :
    itemsOf q k (n :: ns) = itemsOf q k [n] ++ itemsOf q k ns := by
  unfold itemsOf
  split
  · exact translateItems_cons q n ns
  · simp [translateList]

/-- The parts that lists are made of. -/
def isItem : Part → Bool
  | .argument | .selection | .source | .ordering | .assignment => true
  | _ => false

theorem PartWrites.item {k : Part} {n : Node} (h : PartWrites k n) (hk : isItem k = true)
    (hw : everywhere isWritableHere q n = true) :
    Yields q (render q.scope n) (Spelled (Derives false (.list k (itemsOf q k [n])))) := by
  have hone : ∀ {k : Part}, Yields q (render q.scope n)
      (Spelled (Derives false (.part k (translate q n)))) →
      Yields q (render q.scope n) (Spelled (Derives false (.list k (translateList q [n])))) := by
    intro k h
    refine h.mono fun p hp => hp.mono fun ts hts => ?_
    rw [translateList, translateList]
    exact .one hts
  cases k with
  | argument => exact hone (h hw)
  | selection => exact h hw
  | source => exact hone (h hw)
  | ordering => exact hone (h hw)
  | assignment => exact hone (h hw)
  | _ => cases hk

/-- A list is written item by item. -/
theorem yields_list {k : Part} {ns : List Node} (hne : ns ≠ []) (h : ∀ n ∈ ns, PartWrites k n)
    (hk : isItem k = true) (hw : everywhereList isWritableHere q ns = true) :
    Yields q (renderList q.scope ns) fun ps =>
      ∃ ws, ShowAll ps ws ∧ ws ≠ [] ∧
        Spells isGap (", ".intercalate ws) (Derives false (.list k (itemsOf q k ns))) := by
  induction ns with
  | nil => exact absurd rfl hne
  | cons n ns ih =>
    rw [everywhereList, Bool.and_eq_true] at hw
    rw [renderList]
    refine ((h n (by simp)).item hk hw.1).bind fun p hp => ?_
    obtain ⟨w, hpw, hs⟩ := hp
    -- A comma is written only if another item follows.
    cases ns with
    | nil =>
      rw [renderList]
      refine .pure ⟨[w], .cons hpw .nil, by simp, ?_⟩
      rwa [String.intercalate_singleton]
    | cons m ns =>
      refine (ih (by simp) (fun n hn => h n (List.mem_cons_of_mem _ hn)) hw.2).bind fun ps hps => ?_
      obtain ⟨ws, hpws, hws, hss⟩ := hps
      refine .pure ⟨w :: ws, .cons hpw hpws, by simp, ?_⟩
      rw [String.intercalate_cons_of_ne_nil hws, itemsOf_cons]
      refine ((hs.append Spells.comma (Opens.append (a := ",") ⟨',', [], rfl, rfl⟩ " ")).next
        hss).mono ?_
      rintro ts ⟨us, vs, rfl, ⟨us, cs, rfl, hu, c, rfl, hc⟩, hv⟩
      rw [List.append_assoc]
      exact derives_list_append hu hc hv

variable {α : Type} {S : α → Prop}

/-- A list that is strung together with commas. -/
theorem Yields.commas {k : Part} {ns : List Node} {f : String → Rendering α}
    (h : PhraseWrites (.list k ns)) (hk : isItem k = true)
    (hw : everywhereList isWritableHere q ns = true)
    (hf : ∀ w, Spells isGap w (Derives false (.list k (itemsOf q k ns))) → Yields q (f w) S) :
    Yields q (renderList q.scope ns >>= fun ps => Rendering.strung ", " ps >>= f) S := by
  refine (yields_list h.1 h.2 hk hw).bind fun ps hps => ?_
  obtain ⟨ws, hpws, -, hs⟩ := hps
  refine (Yields.strung hpws).bind fun w hw => ?_
  subst hw
  exact hf _ hs

/-- Arguments that are strung together with commas. There may be none. -/
theorem Yields.arguments {ns : List Node} {f : String → Rendering α}
    (h : PhraseWrites (.arguments ns)) (hw : everywhereList isWritableHere q ns = true)
    (hf : ∀ w, Spells isGap w (Derives false (.arguments (translateList q ns))) →
      Yields q (f w) S) :
    Yields q (renderList q.scope ns >>= fun ps => Rendering.strung ", " ps >>= f) S := by
  cases ns with
  | nil =>
    rw [renderList]
    refine (Yields.pure (R := (ShowAll · [])) ShowAll.nil).bind fun ps hps => ?_
    refine (Yields.strung hps).bind fun w hw => ?_
    subst hw
    refine hf _ (Spells.nil.mono ?_)
    rintro ts rfl
    rw [translateList]
    exact .noArgument
  | cons n ns =>
    exact Yields.commas (k := .argument) ⟨by simp, h⟩ rfl hw fun w hs =>
      hf w (hs.mono fun ts => .someArguments)

end EntityQuery.Sql
