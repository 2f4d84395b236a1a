import EntityQuery.Json
import Mathlib.Data.List.Perm.Subperm

/-!
# Equal values

Two objects are equal if each field of the first has an equal one in the second and there are as
many of them. When no key of the first comes twice, the second then has no other keys: every lookup
gives equal values in both (`obj_of_equal`), and an object is equal to itself (`equal_self`).
-/

namespace EntityQuery.Json

/-- In no object below a value a key comes twice. -/
inductive DistinctKeys : Json → Prop
  | null : DistinctKeys .null
  | bool (b : Bool) : DistinctKeys (.bool b)
  | int (n : Int) : DistinctKeys (.int n)
  | decimal (value : Double) : DistinctKeys (.decimal value)
  | str (s : String) : DistinctKeys (.str s)
  | arr {items : List Json} (h : ∀ j ∈ items, DistinctKeys j) : DistinctKeys (.arr items)
  | obj {fields : List (String × Json)} (hk : (fields.map Prod.fst).Nodup)
      (h : ∀ f ∈ fields, DistinctKeys f.2) :
      DistinctKeys (.obj fields)

/-! ## Looking up fields -/

theorem field?_nil (key : String) : field? [] key = none := rfl

theorem field?_cons (k : String) (v : Json) (rest : List (String × Json)) (key : String) :
    field? ((k, v) :: rest) key = if k = key then some v else field? rest key := by
  by_cases h : k = key
  · subst h
    simp [field?, Registry.get?]
  · simp [field?, Registry.get?, h]

theorem mem_of_field? {fields : List (String × Json)} {key : String} {v : Json}
    (h : field? fields key = some v) :
    (key, v) ∈ fields := by
  induction fields with
  | nil => cases h
  | cons f rest ih =>
    obtain ⟨k, w⟩ := f
    rw [field?_cons] at h
    split at h
    · next hk =>
      cases h
      rw [hk]
      exact List.mem_cons_self
    · exact List.mem_cons_of_mem _ (ih h)

theorem field?_eq_none_iff {fields : List (String × Json)} {key : String} :
    field? fields key = none ↔ key ∉ fields.map Prod.fst := by
  induction fields with
  | nil => simp [field?_nil]
  | cons f rest ih =>
    obtain ⟨k, w⟩ := f
    rw [field?_cons, List.map_cons, List.mem_cons, not_or]
    split
    · next hk => simp [hk]
    · next hk =>
      rw [ih]
      exact (and_iff_right (Ne.symm hk)).symm

theorem field?_of_mem {fields : List (String × Json)} (hk : (fields.map Prod.fst).Nodup)
    {f : String × Json} (hf : f ∈ fields) : field? fields f.1 = some f.2 := by
  induction fields with
  | nil => cases hf
  | cons g rest ih =>
    obtain ⟨k, v⟩ := g
    rw [List.map_cons, List.nodup_cons] at hk
    rw [field?_cons]
    rcases List.mem_cons.mp hf with rfl | hf
    · rw [if_pos rfl]
    · have hne : k ≠ f.1 := fun h => hk.1 (List.mem_map.mpr ⟨f, hf, h.symm⟩)
      rw [if_neg hne, ih hk.2 hf]

/-! ## What is equal to a value -/

theorem sameInt_some {m : Int} {n? : Option Int} : sameInt (some m) n? = true ↔ n? = some m := by
  cases n? with
  | none => simp [sameInt]
  | some n => simp [sameInt, @eq_comm _ m n]

/-- The two zeros count as the same integer, and any other double is equal to itself only. -/
theorem int?_of_equal {x y : Double} (h : x.equal y = true) : y.int? = x.int? := by
  have hzero : ∀ {z : Double}, z.isZero = true → z.int? = some 0 := by
    intro z hz
    unfold Double.isZero at hz
    unfold Double.int?
    split at hz
    · next hunpack => rw [hunpack]
    · cases hz
  rw [Double.equal, Bool.or_eq_true, decide_eq_true_eq, Bool.and_eq_true] at h
  rcases h with rfl | ⟨hx, hy⟩
  · rfl
  · rw [hzero hx, hzero hy]

/-- A value that counts as an integer is equal only to values that count as the same one. -/
theorem asInt?_of_equal {d j : Json} {n : Int} (hd : d.asInt? = some n) (h : equal d j = true) :
    j.asInt? = some n := by
  cases d with
  | bool | int => cases j <;> simp_all [equal, asInt?, sameInt_some]
  | decimal x =>
    cases j with
    | decimal y =>
      rw [equal] at h
      exact (int?_of_equal h).trans hd
    | _ => simp_all [equal, asInt?, sameInt_some]
  | _ => cases hd

theorem equalItems_iff {xs ys : List Json} :
    equalItems xs ys = true ↔ List.Forall₂ (fun x y => equal x y = true) xs ys := by
  induction xs generalizing ys with
  | nil => cases ys <;> simp [equalItems]
  | cons x xs ih => cases ys <;> simp [equalItems, ih]

theorem equalFields_iff {xs ys : List (String × Json)} :
    equalFields xs ys = true ↔ ∀ f ∈ xs, ∃ w, field? ys f.1 = some w ∧ equal f.2 w = true := by
  induction xs with
  | nil => simp [equalFields]
  | cons f xs ih =>
    obtain ⟨k, v⟩ := f
    rw [equalFields, Bool.and_eq_true, ih, List.forall_mem_cons, field?, Registry.get?]
    cases ys.find? fun e => e.1 == k <;> simp

theorem arr_of_equal {xs : List Json} {j : Json} (h : equal (.arr xs) j = true) :
    ∃ ys, j = .arr ys ∧ List.Forall₂ (fun x y => equal x y = true) xs ys := by
  cases j with
  | arr ys =>
    rw [equal] at h
    exact ⟨ys, rfl, equalItems_iff.mp h⟩
  | _ => cases h

/-- An equal object gives equal values for every key, and none for the same keys. -/
theorem obj_of_equal {xs : List (String × Json)} {j : Json} (hk : (xs.map Prod.fst).Nodup)
    (h : equal (.obj xs) j = true) :
    ∃ ys, j = .obj ys ∧ ∀ key, Option.Rel (fun v w => equal v w = true) (field? xs key)
      (field? ys key) := by
  cases j with
  | obj ys =>
    rw [equal, Bool.and_eq_true, beq_iff_eq, equalFields_iff] at h
    obtain ⟨hlength, hfields⟩ := h
    refine ⟨ys, rfl, fun key => ?_⟩
    cases hx : field? xs key with
    | some v =>
      obtain ⟨w, hw, heq⟩ := hfields (key, v) (mem_of_field? hx)
      rw [hw]
      exact .some heq
    | none =>
      have hsubset : xs.map Prod.fst ⊆ ys.map Prod.fst := by
        intro k hk
        obtain ⟨f, hf, rfl⟩ := List.mem_map.mp hk
        obtain ⟨w, hw, -⟩ := hfields f hf
        exact List.mem_map.mpr ⟨_, mem_of_field? hw, rfl⟩
      -- As many keys, and none of the first ones twice: the second object has no other keys.
      have hperm : (xs.map Prod.fst).Perm (ys.map Prod.fst) :=
        (List.subperm_of_subset hk hsubset).perm_of_length_le (by simp [hlength])
      have hkey : key ∉ ys.map Prod.fst := fun hy => field?_eq_none_iff.mp hx (hperm.mem_iff.mpr hy)
      rw [field?_eq_none_iff.mpr hkey]
      exact .none
  | _ => cases h

/-- A value in which no key comes twice is equal to itself. -/
theorem equal_self {j : Json} (h : j.DistinctKeys) : equal j j = true := by
  induction h with
  | null => rfl
  | bool | int => simp [equal, asInt?, sameInt_some]
  | decimal => simp [equal, Double.equal]
  | str => simp [equal]
  | arr _ ih =>
    rw [equal, equalItems_iff, List.forall₂_same]
    exact ih
  | obj hk _ ih =>
    rw [equal, Bool.and_eq_true, equalFields_iff]
    exact ⟨beq_self_eq_true _, fun f hf => ⟨f.2, field?_of_mem hk hf, ih f hf⟩⟩

end EntityQuery.Json
