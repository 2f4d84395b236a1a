import EntityQuery.Proofs.Sql.WrittenName

/-!
# How expressions open

A `TRIM` takes the name of a side as its side, even where it was meant to be the first word of an
operand. Whether the tokens of an expression open with such a name can be seen from its tree:
`opensWithSide_append` and `opensWithSide_closed` say it for the two tokens that may stand behind an
operand. A conversion lets no operand open with such a name anew.
-/

namespace EntityQuery.Sql

open Grammar

/-- A token that is neither a point nor a closing parenthesis. -/
def EndsName (u : Token) : Prop :=
  u.kind ≠ .symbol .dot ∧ u.kind ≠ .symbol .rightParen

/-- The tokens of an expression open with its opening name; if it has none, then not with a name
that stands alone. -/
inductive OpensAs (e : Node) : List Token → Prop
  | name {t : Token} {rest : List Token} (he : openingName? e = some t.text)
      (hb : isBareName e = rest.isEmpty)
      (ht : t.kind.isName = true) (hr : ∀ u, rest.head? = some u → EndsName u) : OpensAs e
      (t :: rest)
  | other {t : Token} {rest : List Token} (he : openingName? e = none)
      (ht : t.kind ≠ .identifier) : OpensAs e (t :: rest)
  | path {t d : Token} {rest : List Token} (he : openingName? e = none) (hd : d.Sign .dot) : OpensAs
      e (t :: d :: rest)

/-- An expression opens like the operand that it starts with. -/
theorem OpensAs.append {e e' : Node} {ts us : List Token} {u : Token} (h : OpensAs e ts)
    (hu : EndsName u) (he : openingName? e' = openingName? e) (hb : isBareName e' = false) :
    OpensAs e' (ts ++ u :: us) := by
  cases h with
  | @name t rest hn _ ht hr =>
    refine .name (he.trans hn) ?_ ht ?_
    · rw [hb]
      cases rest <;> rfl
    · cases rest with
      | nil =>
        rintro v ⟨⟩
        exact hu
      | cons v rest => exact hr
  | other hn ht => exact .other (he.trans hn) ht
  | path hn hd => exact .path (he.trans hn) hd

theorem opensAs_path {parts : List String} {ts : List Token} (h : Dotted parts ts) :
    OpensAs (.path parts) ts := by
  have hsplit : (∃ t : Token, parts = [t.text] ∧ ts = [t] ∧ t.kind.isName = true) ∨
      ∃ (first second : String) (rest : List String) (t d : Token) (more : List Token),
        parts = first :: second :: rest ∧ ts = t :: d :: more ∧ d.Sign .dot := by
    induction h with
    | @name t h => exact .inl ⟨t, rfl, rfl, h⟩
    | @more parts ts dot word _ hd hw ih =>
      rcases ih with ⟨t, rfl, rfl, -⟩ | ⟨first, second, rest, t, d, more, rfl, rfl, hd'⟩
      · exact .inr ⟨t.text, word.text, [], t, dot, [word], rfl, rfl, hd⟩
      · exact .inr ⟨first, second, rest ++ [word.text], t, d, more ++ [dot, word], rfl, rfl, hd'⟩
  rcases hsplit with ⟨t, rfl, rfl, ht⟩ | ⟨first, second, rest, t, d, more, rfl, rfl, hd⟩
  · exact .name rfl rfl ht (by simp)
  · exact .path rfl hd

theorem endsName_of_word {t : Token} {w : Reserved} (h : t.Word w) : EndsName t := by
  constructor <;> rw [h] <;> nofun

theorem endsName_of_joins {t : Tier} {op : Token} (h : t.joins op.kind = true) : EndsName op := by
  constructor
  all_goals
    intro hk
    rw [hk] at h
    cases t <;> cases h

/-- A negation that may be left out, with a word behind it. -/
theorem OpensAs.marked {e e' : Node} {ts ms us : List Token} {w : Token} {k : Reserved}
    {negated : Bool} (h : OpensAs e ts) (hm : Mark (.reserved .not) negated ms) (hw : w.Word k)
    (he : openingName? e' = openingName? e) (hb : isBareName e' = false) :
    OpensAs e' (ts ++ (ms ++ w :: us)) := by
  cases hm with
  | absent => exact h.append (endsName_of_word hw) he hb
  | present hn => exact h.append (endsName_of_word hn) he hb

theorem opensAs_of_ne {e : Node} {t : Token} {rest : List Token} {k : TokenKind} (ht : t.kind = k)
    (hk : k ≠ .identifier) (he : openingName? e = none) : OpensAs e (t :: rest) :=
  .other he (by rw [ht]; exact hk)

theorem opensAs_atom {t : Token} {e : Node} (h : atom? t = some e) : OpensAs e [t] := by
  have hk : t.kind ≠ .identifier := by
    intro hk
    rw [atom?, hk] at h
    cases h
  refine .other ?_ hk
  unfold atom? at h
  split at h
  case h_10 => cases h
  all_goals
    cases h
    rfl

/-- How the tokens of a phrase open, if it is an expression. -/
def PhraseOpens : Phrase → List Token → Prop
  | .expression _ e, ts => OpensAs e ts
  | .part .argument e, ts => OpensAs e ts
  | _, _ => True

theorem derives_opens {whole : Bool} {p : Phrase} {ts : List Token} (h : Derives whole p ts) :
    PhraseOpens p ts := by
  induction h with
  | tighter _ ih => exact ih
  | binary ho _ _ ih _ => exact ih.append (endsName_of_joins ho) rfl rfl
  | not hw _ _ => exact opensAs_of_ne hw nofun rfl
  | sign ho _ _ =>
    rcases ho with ho | ho
    · exact opensAs_of_ne ho nofun rfl
    · exact opensAs_of_ne ho nofun rfl
  | isNull _ hi _ _ ih =>
    rw [List.append_assoc]
    exact ih.append (endsName_of_word hi) rfl rfl
  | between _ hm hw _ _ _ ih _ _ =>
    simp only [List.append_assoc]
    exact ih.marked hm hw rfl rfl
  | inParameter _ hm hw _ _ ih =>
    simp only [List.append_assoc]
    exact ih.marked hm hw rfl rfl
  | inQuery _ hm hw _ _ _ ih _ =>
    simp only [List.append_assoc]
    exact ih.marked hm hw rfl rfl
  | inList _ hm hw _ _ _ ih _ =>
    simp only [List.append_assoc]
    exact ih.marked hm hw rfl rfl
  | like _ hm hw _ ih _ =>
    simp only [List.append_assoc]
    exact ih.marked hm hw rfl rfl
  | likeEscape _ hm hw _ _ _ ih _ _ =>
    simp only [List.append_assoc]
    exact ih.marked hm hw rfl rfl
  | memberOf _ hm hw _ _ ih =>
    simp only [List.append_assoc]
    exact ih.marked hm hw rfl rfl
  | atom h => exact opensAs_atom h
  | path h => exact opensAs_path h
  | paren ho _ _ _ => exact opensAs_of_ne ho nofun rfl
  | subquery ho _ _ _ => exact opensAs_of_ne ho nofun rfl
  | existsQuery hw _ _ _ _ => exact opensAs_of_ne hw nofun rfl
  | caseSearched hw _ _ _ _ _ _ => exact opensAs_of_ne hw nofun rfl
  | caseSimple hw _ _ _ _ _ _ _ _ => exact opensAs_of_ne hw nofun rfl
  | @otherCall args ts f o c hf ho _ _ _ =>
    refine .name rfl rfl (by rw [hf]; rfl) ?_
    rintro u ⟨⟩
    constructor <;> rw [ho] <;> nofun
  | functionCall _ _ hf _ _ _ _ => exact opensAs_of_ne hf nofun rfl
  | countAll hf _ _ _ => exact opensAs_of_ne hf nofun rfl
  | aggregate _ hf _ _ _ _ _ => exact opensAs_of_ne hf nofun rfl
  | cast hf _ _ _ _ _ _ => exact opensAs_of_ne hf nofun rfl
  | trim hf _ _ _ _ _ => exact opensAs_of_ne hf nofun rfl
  | trimFrom hf _ _ _ _ _ _ => exact opensAs_of_ne hf nofun rfl
  | trimCharacter hf _ _ _ _ _ _ _ _ _ => exact opensAs_of_ne hf nofun rfl
  | argument _ ih => exact ih
  | _ => trivial

/-! ## Names of sides -/

/-- Whether a token is an identifier can be seen from its text. -/
theorem isIdentifier_eq {kind : TokenKind} {text : String} (h : Lexeme.Spelling kind text.toList) :
    isIdentifier text = decide (kind = .identifier) := by
  obtain ⟨c, cs, hc⟩ := h.exists_cons
  rw [hc] at h
  have hfront := @Lexeme.front_append kind c cs [] h (by simp)
  rw [List.append_nil] at hfront
  simp only [isIdentifier, hc, hfront]
  cases kind <;> rfl

theorem isSide_eq {t : Token} (ht : Lexeme.Spelling t.kind t.text.toList) :
    isSide t = isSideName t.text := by
  rw [isSideName, isIdentifier_eq ht]
  rfl

theorem opensWithSide_cons {t u : Token} {rest : List Token} (hu : EndsName u) :
    opensWithSide (t :: u :: rest) = isSide t := by
  simp [opensWithSide, hu.1, hu.2]

theorem opensWithSide_of_ne {t : Token} (ht : t.kind ≠ .identifier) (rest : List Token) :
    opensWithSide (t :: rest) = false := by
  cases rest with
  | nil => rfl
  | cons u rest => simp [opensWithSide, isSide, ht]

theorem opensWithSide_dot {d : Token} (hd : d.Sign .dot) (t : Token) (rest : List Token) :
    opensWithSide (t :: d :: rest) = false := by
  simp [opensWithSide, show d.kind = .symbol .dot from hd]

/-- Before a word, an operand opens with a side if its opening name is one. -/
theorem opensWithSide_append {whole : Bool} {e : Node} {us : List Token} {w : Token}
    (h : Derives whole (.part .argument e) us) (hp : Proper us) (hw : EndsName w) :
    opensWithSide (us ++ [w]) = (openingName? e).any isSideName := by
  cases (derives_opens h : OpensAs e us) with
  | @name t rest he _ _ hr =>
    rw [he, Option.any_some, ← isSide_eq (hp t (by simp))]
    cases rest with
    | nil => exact opensWithSide_cons hw
    | cons u rest => exact opensWithSide_cons (hr u rfl)
  | other he ht =>
    rw [he]
    exact opensWithSide_of_ne ht _
  | path he hd =>
    rw [he]
    exact opensWithSide_dot hd _ _

/-- Before the closing parenthesis, a name that is the whole operand is no side. -/
theorem opensWithSide_closed {whole : Bool} {e : Node} {us : List Token} {c : Token}
    (h : Derives whole (.part .argument e) us) (hp : Proper us) (hc : c.Sign .rightParen) :
    opensWithSide (us ++ [c]) = opensWithSideName e := by
  unfold opensWithSideName
  cases (derives_opens h : OpensAs e us) with
  | @name t rest he hb _ hr =>
    rw [he, hb, Option.any_some, ← isSide_eq (hp t (by simp))]
    cases rest with
    | nil => simp [opensWithSide, show c.kind = .symbol .rightParen from hc]
    | cons u rest => exact opensWithSide_cons (hr u rfl)
  | other he ht =>
    rw [he, Option.any_none, Bool.and_false]
    exact opensWithSide_of_ne ht _
  | path he hd =>
    rw [he, Option.any_none, Bool.and_false]
    exact opensWithSide_dot hd _ _

/-! ## Translations -/

variable {q : Place}

theorem isSideName_of_plain {text part : String} (h : isPlainName text = true)
    (hp : part ∈ nameParts text) :
    isSideName part = false := by
  rw [isSideName, (nameText_of_plain h hp).2, Bool.and_false]

/-- A column that stands for a single name is no side. -/
theorem openingName_path {parts : List String} (h : (q.pathColumn? parts).all isPlainName = true) :
    q.path parts = parts ∨ (openingName? (.path (q.path parts))).any isSideName = false := by
  cases hc : q.pathColumn? parts with
  | none => exact .inl (Place.path_of_none hc)
  | some column =>
    right
    rw [hc] at h
    match parts with
    | [] => cases hc
    | [name] =>
      rw [Place.path_singleton hc]
      match hn : nameParts column with
      | [] => rfl
      | [part] => exact isSideName_of_plain h (by rw [hn]; simp)
      | _ :: _ :: _ => rfl
    | first :: second :: rest =>
      rw [Place.path_cons hc]
      match hn : nameParts column with
      | [] => exact absurd hn (nameParts_ne_nil column)
      | _ :: _ => rfl

/-- A conversion lets no operand open with a side that did not open with one before. -/
theorem openingName_translate {e : Node} (hw : everywhere isWritableHere q e = true)
    (h : (openingName? e).any isSideName = false) :
    (openingName? (translate q e)).any isSideName = false := by
  fun_induction openingName? e with
  | case1 name =>
    simp only [everywhere, isWritableHere, writesPlainNames, Bool.and_eq_true] at hw
    rw [translate]
    rcases openingName_path hw.1.1.1 with hpath | hpath
    · rw [hpath]
      exact h
    · exact hpath
  | case2 name args distinct trimSpec trimChar castType =>
    rw [translate]
    exact h
  | case3 left op right ih =>
    simp only [everywhere, Bool.and_eq_true] at hw
    rw [translate]
    exact ih hw.1.2 h
  | case4 e negated ih =>
    simp only [everywhere, Bool.and_eq_true] at hw
    rw [translate]
    exact ih hw.2 h
  | case5 e lower upper negated ih =>
    simp only [everywhere, Bool.and_eq_true] at hw
    rw [translate]
    exact ih hw.1.1.2 h
  | case6 e values query parameter negated ih =>
    simp only [everywhere, Bool.and_eq_true] at hw
    rw [translate]
    exact ih hw.1.1.1.2 h
  | case7 e pattern escape negated ih =>
    simp only [everywhere, Bool.and_eq_true] at hw
    rw [translate]
    exact ih hw.1.1.2 h
  | case8 e collection negated ih =>
    simp only [everywhere, Bool.and_eq_true] at hw
    rw [translate]
    exact ih hw.1.2 h
  | case9 e hpath hcall hbinary hnull hbetween hin hlike hmember =>
    -- What opens with no name: only a path can get one, if its column is a single name.
    cases e with
    | path parts =>
      simp only [everywhere, isWritableHere, writesPlainNames, Bool.and_eq_true] at hw
      rw [translate]
      rcases openingName_path hw.1.1.1 with hsame | hside
      · match parts with
        | [] => rw [hsame]; rfl
        | [name] => exact absurd rfl (hpath name)
        | _ :: _ :: _ => rw [hsame]; rfl
      · exact hside
    | call name args distinct known trimSpec trimChar castType =>
      cases known with
      | false => exact absurd rfl (hcall _ _ _ _ _ _)
      | true => rw [translate]; rfl
    | binary left op right => exact absurd rfl (hbinary _ _ _)
    | isNull e negated => exact absurd rfl (hnull _ _)
    | between e lower upper negated => exact absurd rfl (hbetween _ _ _ _)
    | inSet e values query parameter negated => exact absurd rfl (hin _ _ _ _ _)
    | like e pattern escape negated => exact absurd rfl (hlike _ _ _ _)
    | memberOf e collection negated => exact absurd rfl (hmember _ _ _)
    | join kind along asName fetch condition => cases condition <;> (rw [translate]; rfl)
    | _ => rw [translate]; rfl

end EntityQuery.Sql
