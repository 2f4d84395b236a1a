import EntityQuery.Text.SnakeCase

/-!
# Snake case of ASCII names

A name without underscores becomes its small letters, with an underscore before each upper case
letter that opens a part. Everything about the result follows from where its underscores stand:
`snakeAfter_split` and `exists_split_snakeAfter` say that they stand directly before the images of
the letters that open a part, and nowhere else.

`snakeCase_ascii` is the main statement. It includes that snake case of snake case is nothing new,
also for names that have an underscore to begin with.
-/

namespace EntityQuery.Text

/-- The characters of a text between its underscores. -/
def withoutMarks (cs : List Char) : List Char :=
  cs.filter fun c => c != '_'

/-- An underscore stands before the character with number `i`, underscores not counted. -/
def MarkedAt (cs : List Char) (i : Nat) : Prop :=
  ∃ before c after, cs = before ++ '_' :: c :: after ∧ c ≠ '_' ∧ (withoutMarks before).length = i

/-! ## Small letters -/

section

variable {c : Char}

/-- What holds of the 128 ASCII characters. -/
theorem of_isAscii {P : Char → Prop} (h : ∀ n < 0x80, P (Char.ofNat n)) (hc : isAscii c = true) :
    P c := by
  have hn := h c.toNat (by simpa [isAscii] using hc)
  rwa [Char.ofNat_toNat] at hn

theorem isAscii_toLower (hc : isAscii c = true) : isAscii c.toLower = true :=
  of_isAscii (P := fun c => isAscii c.toLower = true) (by decide +kernel) hc

theorem isUpper_toLower (hc : isAscii c = true) : isUpper c.toLower = false :=
  of_isAscii (P := fun c => isUpper c.toLower = false) (by decide +kernel) hc

theorem toLower_of_isUpper (hc : isAscii c = true) (h : isUpper c = false) : c.toLower = c :=
  of_isAscii (P := fun c => isUpper c = false → c.toLower = c) (by decide +kernel) hc h

theorem toLower_ne_mark (hc : isAscii c = true) (h : c ≠ '_') : c.toLower ≠ '_' :=
  of_isAscii (P := fun c => c ≠ '_' → c.toLower ≠ '_') (by decide +kernel) hc h

theorem lowerChar_ascii (hc : isAscii c = true) : lowerChar c = [c.toLower] :=
  if_pos hc

end

variable {cs : List Char}

theorem lowerAfter_ascii (h : ∀ c ∈ cs, isAscii c = true) (before : List Char) :
    lowerAfter before cs = cs.map Char.toLower := by
  induction cs generalizing before with
  | nil => rfl
  | cons c cs ih =>
    obtain ⟨hc, hcs⟩ := List.forall_mem_cons.mp h
    have hsigma : c ≠ 'Σ' := by
      rintro rfl
      exact absurd hc (by decide)
    rw [lowerAfter, if_neg hsigma, lowerChar_ascii hc, ih hcs]
    rfl

theorem toList_lower {name : String} (h : ∀ c ∈ name.toList, isAscii c = true) :
    (lower name).toList = name.toList.map Char.toLower := by
  rw [lower, String.toList_ofList, lowerAfter_ascii h]

/-! ## One character -/

/-- The characters that an ASCII character becomes: its small letter, behind an underscore if it
opens a part. -/
theorem snakeAfter_cons {c : Char} (hc : isAscii c = true) (previous : Option Char)
    (rest : List Char) :
    snakeAfter previous (c :: rest) =
      (if isUpper c && opensPart previous rest then ['_'] else []) ++
        c.toLower :: snakeAfter (some c) rest := by
  rw [snakeAfter]
  cases hupper : isUpper c with
  | true => simp [lowerChar_ascii hc]
  | false => simp [toLower_of_isUpper hc hupper]

/-- Without upper case nothing changes. -/
theorem snakeAfter_of_lower (h : ∀ c ∈ cs, isUpper c = false) (previous : Option Char) :
    snakeAfter previous cs = cs := by
  induction cs generalizing previous with
  | nil => rfl
  | cons c cs ih =>
    obtain ⟨hc, hcs⟩ := List.forall_mem_cons.mp h
    rw [snakeAfter, hc, ih hcs]
    rfl

/-! ## All characters -/

theorem withoutMarks_cons {c : Char} (hc : c ≠ '_') (marked : Bool) (rest : List Char) :
    withoutMarks ((if marked then ['_'] else []) ++ c :: rest) = c :: withoutMarks rest := by
  unfold withoutMarks
  cases marked <;> simp [hc]

theorem withoutMarks_snakeAfter (h : ∀ c ∈ cs, isAscii c = true ∧ c ≠ '_')
    (previous : Option Char) :
    withoutMarks (snakeAfter previous cs) = cs.map Char.toLower := by
  induction cs generalizing previous with
  | nil => rfl
  | cons c cs ih =>
    obtain ⟨⟨hc, hmark⟩, hcs⟩ := List.forall_mem_cons.mp h
    rw [snakeAfter_cons hc, withoutMarks_cons (toLower_ne_mark hc hmark), ih hcs]
    rfl

/-- The character before a place: the last one of those before it, or the one before all. -/
def lastOf (previous : Option Char) : List Char → Option Char
  | [] => previous
  | c :: before => lastOf (some c) before

/-- A letter that opens a part has an underscore before its image. -/
theorem exists_split_snakeAfter {before after : List Char} {c : Char}
    (h : ∀ d ∈ before ++ c :: after, isAscii d = true ∧ d ≠ '_') {previous : Option Char}
    (hupper : isUpper c = true) (hopens : opensPart (lastOf previous before) after = true) :
    ∃ front, snakeAfter previous (before ++ c :: after) =
        front ++ '_' :: c.toLower :: snakeAfter (some c) after ∧
      withoutMarks front = before.map Char.toLower := by
  induction before generalizing previous with
  | nil =>
    have hopens : opensPart previous after = true := hopens
    refine ⟨[], ?_, rfl⟩
    rw [List.nil_append, snakeAfter_cons (h c List.mem_cons_self).1, hupper, hopens]
    rfl
  | cons d before ih =>
    obtain ⟨⟨hd, hmark⟩, hrest⟩ := List.forall_mem_cons.mp h
    obtain ⟨front, hsnake, hfront⟩ := ih hrest hopens
    rw [List.cons_append, snakeAfter_cons hd, hsnake]
    refine ⟨_ ++ d.toLower :: front, (List.append_assoc _ (d.toLower :: front) _).symm, ?_⟩
    rw [withoutMarks_cons (toLower_ne_mark hd hmark), hfront]
    rfl

/-- An underscore stands before the image of a letter that opens a part. -/
theorem snakeAfter_split (h : ∀ c ∈ cs, isAscii c = true ∧ c ≠ '_') {previous : Option Char}
    {front rest : List Char} (hsnake : snakeAfter previous cs = front ++ '_' :: rest) :
    ∃ before c after, cs = before ++ c :: after ∧ withoutMarks front = before.map Char.toLower ∧
      rest = c.toLower :: snakeAfter (some c) after ∧ isUpper c = true ∧
      opensPart (lastOf previous before) after = true := by
  induction cs generalizing previous front with
  | nil => exact absurd hsnake (by simp [snakeAfter])
  | cons c cs ih =>
    obtain ⟨⟨hc, hmark⟩, hcs⟩ := List.forall_mem_cons.mp h
    rw [snakeAfter_cons hc] at hsnake
    -- An underscore behind the image of the first character comes from the characters behind it.
    have hlater : ∀ front, c.toLower :: snakeAfter (some c) cs = front ++ '_' :: rest →
        ∃ before d after, c :: cs = before ++ d :: after ∧
          withoutMarks front = before.map Char.toLower ∧
          rest = d.toLower :: snakeAfter (some d) after ∧ isUpper d = true ∧
          opensPart (lastOf previous before) after = true := by
      intro front hfront
      cases front with
      | nil => exact absurd (List.cons.inj hfront).1 (toLower_ne_mark hc hmark)
      | cons d front =>
        obtain ⟨rfl, htail⟩ := List.cons.inj hfront
        obtain ⟨before, d, after, rfl, hbefore, hrest⟩ := ih hcs htail
        refine ⟨c :: before, d, after, rfl, ?_, hrest⟩
        rw [List.map_cons, ← hbefore]
        exact withoutMarks_cons (toLower_ne_mark hc hmark) false front
    cases hopens : isUpper c && opensPart previous cs with
    | false =>
      rw [hopens] at hsnake
      exact hlater front hsnake
    | true =>
      rw [hopens] at hsnake
      cases front with
      | nil =>
        obtain ⟨hupper, hopens⟩ := Bool.and_eq_true_iff.mp hopens
        exact ⟨[], c, cs, rfl, rfl, (List.cons.inj hsnake).2.symm, hupper, hopens⟩
      | cons d front =>
        obtain ⟨rfl, htail⟩ := List.cons.inj hsnake
        exact hlater front htail

/-! ## Names -/

/-- A letter that opens a part, by its number: not the first one, an upper case letter, with a lower
case letter or a digit before it or a lower case letter behind it. -/
def OpensAt (cs : List Char) (i : Nat) : Prop :=
  0 < i ∧ (∃ c ∈ cs[i]?, isUpper c = true) ∧
    ((∃ p ∈ cs[i - 1]?, isLower p = true ∨ isDigit p = true) ∨ ∃ n ∈ cs[i + 1]?, isLower n = true)

instance (cs : List Char) (i : Nat) : Decidable (OpensAt cs i) :=
  decidable_of_iff
    (0 < i ∧ cs[i]?.any isUpper = true ∧
      (cs[i - 1]?.any (fun p => isLower p || isDigit p) = true ∨ cs[i + 1]?.any isLower = true))
    (by simp [OpensAt, Option.any_eq_true])

theorem opensPart_iff {previous : Option Char} {rest : List Char} :
    opensPart previous rest = true ↔ ∃ p, previous = some p ∧
      (isLower p = true ∨ isDigit p = true ∨ ∃ n, rest.head? = some n ∧ isLower n = true) := by
  cases previous with
  | none => simp [opensPart]
  | some p => simp [opensPart, Option.any_eq_true, or_assoc]

theorem lastOf_concat (previous : Option Char) (before : List Char) (p : Char) :
    lastOf previous (before ++ [p]) = some p := by
  induction before generalizing previous with
  | nil => rfl
  | cons c before ih => exact ih (some c)

/-- Numbers and what stands before and behind a character say the same. -/
theorem opensAt_length {before after : List Char} {c : Char} :
    OpensAt (before ++ c :: after) before.length ↔
      isUpper c = true ∧ opensPart (lastOf none before) after = true := by
  rw [opensPart_iff]
  rcases List.eq_nil_or_concat before with rfl | ⟨front, p, rfl⟩
  · simp [OpensAt, lastOf]
  · rw [List.concat_eq_append, lastOf_concat]
    have hhere : (front ++ [p] ++ c :: after)[(front ++ [p]).length]? = some c := by
      rw [List.getElem?_append_right (Nat.le_refl _), Nat.sub_self]
      rfl
    have hbehind : (front ++ [p] ++ c :: after)[(front ++ [p]).length + 1]? = after.head? := by
      rw [List.getElem?_append_right (by omega), Nat.add_sub_cancel_left, List.getElem?_cons_succ,
        List.head?_eq_getElem?]
    have hbefore : (front ++ [p] ++ c :: after)[(front ++ [p]).length - 1]? = some p := by
      simp
    unfold OpensAt
    rw [hhere, hbehind, hbefore]
    simp [or_assoc]

/-- Underscores of the result mark the letters that open a part. -/
theorem markedAt_snakeAfter_iff (h : ∀ c ∈ cs, isAscii c = true ∧ c ≠ '_') (i : Nat) :
    MarkedAt (snakeAfter none cs) i ↔ OpensAt cs i := by
  constructor
  · rintro ⟨front, d, rest, hsnake, -, hi⟩
    obtain ⟨before, c, after, rfl, hfront, -, hupper, hopens⟩ := snakeAfter_split h hsnake
    rw [hfront, List.length_map] at hi
    rw [← hi]
    exact opensAt_length.mpr ⟨hupper, hopens⟩
  · intro hopens
    obtain ⟨c, before, after, rfl, rfl⟩ : ∃ c before after, cs = before ++ c :: after ∧
        before.length = i := by
      obtain ⟨-, ⟨c, hc, -⟩, -⟩ := hopens
      obtain ⟨hi, rfl⟩ := List.getElem?_eq_some_iff.mp hc
      exact ⟨cs[i], cs.take i, cs.drop (i + 1), by simp, List.length_take_of_le (Nat.le_of_lt hi)⟩
    obtain ⟨hupper, hopens⟩ := opensAt_length.mp hopens
    obtain ⟨front, hsnake, hfront⟩ := exists_split_snakeAfter h hupper hopens
    have hc := h c (by simp)
    exact ⟨front, c.toLower, _, hsnake, toLower_ne_mark hc.1 hc.2, by rw [hfront, List.length_map]⟩

theorem mem_snakeAfter (h : ∀ c ∈ cs, isAscii c = true) {previous : Option Char} {d : Char}
    (hd : d ∈ snakeAfter previous cs) : d = '_' ∨ ∃ c ∈ cs, d = c.toLower := by
  induction cs generalizing previous with
  | nil => cases hd
  | cons c cs ih =>
    obtain ⟨hc, hcs⟩ := List.forall_mem_cons.mp h
    rw [snakeAfter_cons hc, List.mem_append, List.mem_cons] at hd
    rcases hd with hd | rfl | hd
    · split at hd
      · exact .inl (List.mem_singleton.mp hd)
      · cases hd
    · exact .inr ⟨c, List.mem_cons_self, rfl⟩
    · exact (ih hcs hd).imp_right fun ⟨c, hc, heq⟩ => ⟨c, List.mem_cons_of_mem _ hc, heq⟩

variable {name : String}

/-- A name without upper case is its own small letters. -/
theorem lower_eq_self_iff (h : ∀ c ∈ name.toList, isAscii c = true) :
    name = lower name ↔ ∀ c ∈ name.toList, isUpper c = false := by
  rw [← String.toList_inj, toList_lower h]
  constructor
  · intro heq c hc
    rw [heq] at hc
    obtain ⟨d, hd, rfl⟩ := List.mem_map.mp hc
    exact isUpper_toLower (h d hd)
  · intro hlower
    rw [List.map_congr_left fun c hc => toLower_of_isUpper (h c hc) (hlower c hc), List.map_id']

/-- Snake case of a name without underscores, whichever way it is found. -/
theorem toList_snakeCase (h : ∀ c ∈ name.toList, isAscii c = true) (hmark : '_' ∉ name.toList) :
    (snakeCase name).toList = snakeAfter none name.toList := by
  unfold snakeCase
  split
  · next hkept =>
    have hname : name = lower name := by simpa [hmark] using hkept
    rw [snakeAfter_of_lower ((lower_eq_self_iff h).mp hname)]
  · exact String.toList_ofList

/-- A name that has been put into snake case has no upper case. -/
theorem isUpper_snakeCase (h : ∀ c ∈ name.toList, isAscii c = true) (hmark : '_' ∉ name.toList) :
    ∀ d ∈ (snakeCase name).toList, isAscii d = true ∧ isUpper d = false := by
  intro d hd
  rw [toList_snakeCase h hmark] at hd
  rcases mem_snakeAfter h hd with rfl | ⟨c, hc, rfl⟩
  · exact ⟨by decide, by decide⟩
  · exact ⟨isAscii_toLower (h c hc), isUpper_toLower (h c hc)⟩

theorem snakeCase_of_lower (h : name = lower name) : snakeCase name = name :=
  if_pos (by simp [← h])

/-- Snake case of snake case is nothing new. -/
theorem snakeCase_snakeCase (h : ∀ c ∈ name.toList, isAscii c = true) :
    snakeCase (snakeCase name) = snakeCase name := by
  by_cases hmark : '_' ∈ name.toList
  · have hkept : snakeCase name = name := if_pos (by simp [hmark])
    rw [hkept, hkept]
  · have hlower := isUpper_snakeCase h hmark
    exact snakeCase_of_lower ((lower_eq_self_iff fun d hd => (hlower d hd).1).mpr fun d hd =>
      (hlower d hd).2)

/--
Snake case of an ASCII name. Put into snake case again, it stays as it is. If the name has no
underscore, the result has no upper case; its underscores stand neither at an end nor side by side;
without them it is the name in small letters; and they stand before those letters that open a part
of the name.
-/
theorem snakeCase_ascii (name : String) (h : ∀ c ∈ name.toList, isAscii c = true) :
    snakeCase (snakeCase name) = snakeCase name ∧
    ('_' ∉ name.toList →
      (∀ d ∈ (snakeCase name).toList, isUpper d = false) ∧
      (snakeCase name).toList.head? ≠ some '_' ∧
      (snakeCase name).toList.getLast? ≠ some '_' ∧
      ¬['_', '_'] <:+: (snakeCase name).toList ∧
      withoutMarks (snakeCase name).toList = (lower name).toList ∧
      ∀ i, MarkedAt (snakeCase name).toList i ↔ OpensAt name.toList i) := by
  refine ⟨snakeCase_snakeCase h, fun hmark => ?_⟩
  have hplain : ∀ c ∈ name.toList, isAscii c = true ∧ c ≠ '_' :=
    fun c hc => ⟨h c hc, fun heq => hmark (heq ▸ hc)⟩
  refine ⟨fun d hd => (isUpper_snakeCase h hmark d hd).2, ?_⟩
  rw [toList_snakeCase h hmark, toList_lower h]
  refine ⟨fun hhead => ?_, fun hlast => ?_, ?_, withoutMarks_snakeAfter hplain none,
    markedAt_snakeAfter_iff hplain⟩
  · obtain ⟨rest, hrest⟩ := List.head?_eq_some_iff.mp hhead
    have hfirst : snakeAfter none name.toList = [] ++ '_' :: rest := hrest
    obtain ⟨before, c, after, -, hbefore, -, -, hopens⟩ := snakeAfter_split hplain hfirst
    obtain rfl : before = [] := List.map_eq_nil_iff.mp hbefore.symm
    cases hopens
  · obtain ⟨front, hfront⟩ := List.getLast?_eq_some_iff.mp hlast
    obtain ⟨before, c, after, -, -, hnil, -⟩ := snakeAfter_split hplain hfront
    cases hnil
  · rintro ⟨front, rest, hinfix⟩
    rw [List.append_assoc] at hinfix
    obtain ⟨before, c, after, hname, -, hrest, -⟩ := snakeAfter_split hplain hinfix.symm
    obtain ⟨hc, hne⟩ := hplain c (by simp [hname])
    exact toLower_ne_mark hc hne (List.cons.inj hrest).1.symm

/-- The last capital of a run opens a part if a small letter follows, and a capital behind a digit
opens one. -/
theorem snakeCase_ascii_server :
    snakeCase "HTTPServer2GO" = "http_server2_go" ∧
      snakeCase "http_server2_go" = "http_server2_go" ∧
      MarkedAt "http_server2_go".toList 4 ∧ MarkedAt "http_server2_go".toList 11 ∧
      ¬MarkedAt "http_server2_go".toList 12 := by
  have hascii : ∀ c ∈ "HTTPServer2GO".toList, isAscii c = true := List.all_eq_true.mp (by decide)
  have hsnake : snakeCase "HTTPServer2GO" = "http_server2_go" := by decide +kernel
  obtain ⟨hagain, hresult⟩ := snakeCase_ascii "HTTPServer2GO" hascii
  obtain ⟨-, -, -, -, -, hmarked⟩ := hresult (by decide)
  rw [hsnake] at hagain hmarked
  exact ⟨hsnake, hagain, (hmarked 4).mpr (by decide), (hmarked 11).mpr (by decide),
    mt (hmarked 12).mp (by decide)⟩

end EntityQuery.Text
