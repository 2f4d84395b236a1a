import EntityQuery.Text.SnakeCase
import EntityQuery.Token.Lexeme

/-!
# Quiet texts

Five characters mean something to a reader of SQL wherever they stand outside of a string: the quote
opens a string, `-` and `/` can open a comment, `:` and `?` open parameters. A text without any of
them is quiet. Words are quiet, and letter case keeps texts quiet: no case mapping leads to one of
the five characters (`quiet_lower`, `quiet_snakeCase`).
-/

namespace EntityQuery.Text

/-- The characters that open strings, comments and parameters. -/
def loudChars : List Char :=
  [singleQuote, '-', '/', ':', '?']

/-- A character that opens neither a string nor a comment nor a parameter. -/
def isQuietChar (c : Char) : Bool :=
  !loudChars.contains c

/-- A text of quiet characters. -/
def isQuiet (w : String) : Bool :=
  w.toList.all isQuietChar

theorem isQuiet_iff {w : String} : isQuiet w = true ↔ ∀ c ∈ w.toList, isQuietChar c = true :=
  List.all_eq_true

theorem isQuiet_append {v w : String} : isQuiet (v ++ w) = (isQuiet v && isQuiet w) := by
  rw [isQuiet, String.toList_append, List.all_append]
  rfl

theorem quiet_intercalate {sep : String} (hs : isQuiet sep = true) {ws : List String}
    (h : ∀ w ∈ ws, isQuiet w = true) :
    isQuiet (sep.intercalate ws) = true := by
  induction ws with
  | nil => rfl
  | cons w ws ih =>
    obtain ⟨hw, hws⟩ := List.forall_mem_cons.mp h
    cases ws with
    | nil => rwa [String.intercalate_singleton]
    | cons v ws =>
      rw [String.intercalate_cons_of_ne_nil (by simp), isQuiet_append, isQuiet_append, hw,
        hs, ih hws]
      rfl

/-- Every class of characters without the five is quiet. -/
theorem quiet_of_class {p : Char → Bool} (hp : loudChars.any p = false) {c : Char}
    (h : p c = true) :
    isQuietChar c = true := by
  rw [isQuietChar, Bool.not_eq_true', Bool.eq_false_iff]
  intro hc
  exact List.any_eq_false.mp hp c (List.contains_iff_mem.mp hc) h

/-- The characters that are not quiet are all below the letters. -/
theorem quiet_of_le {c : Char} (h : 0x40 ≤ c.toNat) : isQuietChar c = true :=
  quiet_of_class (p := fun c => 0x40 ≤ c.toNat) (by decide) (by simpa using h)

theorem quiet_ofNat {n : Nat} (h : 0x40 ≤ n) : isQuietChar (Char.ofNat n) = true := by
  by_cases hv : n.isValidChar
  · rw [Char.ofNat, dif_pos hv]
    exact quiet_of_le h
  · rw [Char.ofNat, dif_neg hv]
    decide

theorem quiet_of_isWordPart {c : Char} (h : Lexeme.isWordPart c = true) : isQuietChar c = true :=
  quiet_of_class (by decide +kernel) h

theorem quiet_of_isDigit {c : Char} (h : isDigit c = true) : isQuietChar c = true :=
  quiet_of_class (by decide +kernel) h

/-! ## Letter case -/

theorem quiet_mapBeyondAscii {expansions : List (Nat × List Nat)} {runs : List CaseRun} {c : Char}
    (he : ∀ e ∈ expansions, ∀ n ∈ e.2, 0x40 ≤ n) (hr : ∀ r ∈ runs, 0x40 ≤ r.image)
    (hc : isAscii c = false) :
    ∀ d ∈ mapBeyondAscii expansions runs c, isQuietChar d = true := by
  unfold mapBeyondAscii
  split
  · next e hfind =>
    intro d hd
    obtain ⟨n, hn, rfl⟩ := List.mem_map.mp hd
    exact quiet_ofNat (he e (List.mem_of_find?_eq_some hfind) n hn)
  · intro d hd
    rw [List.mem_singleton.mp hd]
    refine quiet_ofNat ?_
    unfold shiftBy
    cases hshift : runs.findSome? fun r => r.apply? c.toNat with
    | none =>
      have : ¬c.toNat < 0x80 := by simpa [isAscii] using hc
      rw [Option.getD_none]
      omega
    | some n =>
      obtain ⟨r, hmem, happly⟩ := List.exists_of_findSome?_eq_some hshift
      unfold CaseRun.apply? at happly
      split at happly
      · cases happly
        have := hr r hmem
        rw [Option.getD_some]
        omega
      · cases happly

theorem quiet_lowerChar {c : Char} (h : isQuietChar c = true) :
    ∀ d ∈ lowerChar c, isQuietChar d = true := by
  have hascii : ∀ n < 0x80, isQuietChar (Char.ofNat n) = true →
      isQuietChar (Char.ofNat n).toLower = true := by
    decide +kernel
  unfold lowerChar
  split
  · next hc =>
    intro d hd
    have hlower := hascii c.toNat (by simpa [isAscii] using hc)
    rw [Char.ofNat_toNat] at hlower
    rw [List.mem_singleton.mp hd]
    exact hlower h
  · next hc => exact quiet_mapBeyondAscii (by decide) (by decide +kernel) (by simpa using hc)

theorem quiet_upperChar {c : Char} (h : isQuietChar c = true) :
    ∀ d ∈ upperChar c, isQuietChar d = true := by
  have hascii : ∀ n < 0x80, isQuietChar (Char.ofNat n) = true →
      isQuietChar (Char.ofNat n).toUpper = true := by
    decide +kernel
  unfold upperChar
  split
  · next hc =>
    intro d hd
    have hupper := hascii c.toNat (by simpa [isAscii] using hc)
    rw [Char.ofNat_toNat] at hupper
    rw [List.mem_singleton.mp hd]
    exact hupper h
  · next hc =>
      exact quiet_mapBeyondAscii (by decide +kernel) (by decide +kernel) (by simpa using hc)

theorem quiet_lowerAfter {cs : List Char} (h : ∀ c ∈ cs, isQuietChar c = true)
    (before : List Char) :
    ∀ d ∈ lowerAfter before cs, isQuietChar d = true := by
  induction cs generalizing before with
  | nil => exact nofun
  | cons c cs ih =>
    obtain ⟨hc, hcs⟩ := List.forall_mem_cons.mp h
    intro d hd
    rcases List.mem_append.mp hd with hd | hd
    · split at hd
      · rw [List.mem_singleton.mp hd]
        split <;> decide
      · exact quiet_lowerChar hc d hd
    · exact ih hcs (c :: before) d hd

/-- Small letters keep a text quiet. -/
theorem quiet_lower {w : String} (h : isQuiet w = true) : isQuiet (lower w) = true := by
  rw [isQuiet_iff, lower, String.toList_ofList]
  exact quiet_lowerAfter (isQuiet_iff.mp h) []

theorem quiet_snakeAfter {cs : List Char} (h : ∀ c ∈ cs, isQuietChar c = true)
    (previous : Option Char) :
    ∀ d ∈ snakeAfter previous cs, isQuietChar d = true := by
  induction cs generalizing previous with
  | nil => exact nofun
  | cons c cs ih =>
    obtain ⟨hc, hcs⟩ := List.forall_mem_cons.mp h
    intro d hd
    rcases List.mem_append.mp hd with hd | hd
    · split at hd
      · rcases List.mem_append.mp hd with hd | hd
        · split at hd
          · rw [List.mem_singleton.mp hd]
            decide
          · cases hd
        · exact quiet_lowerChar hc d hd
      · rwa [List.mem_singleton.mp hd]
    · exact ih hcs (some c) d hd

/-- Snake case keeps a text quiet. -/
theorem quiet_snakeCase {w : String} (h : isQuiet w = true) : isQuiet (snakeCase w) = true := by
  unfold snakeCase
  split
  · exact h
  · rw [isQuiet_iff, String.toList_ofList]
    exact quiet_snakeAfter (isQuiet_iff.mp h) none

end EntityQuery.Text
