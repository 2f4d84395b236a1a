import EntityQuery.Registry

/-!
# Looking up what was entered

Keys are compared by a test that need not be equality: among values of a mapping file, for example,
the truth values equal numbers. The keys that matter here are texts, and a text equals only itself.
Such keys are called exact.

1. `get?_put_self`, `get?_put_of_ne`: what is entered is found, and nothing else changes.
2. `keys_ofList`, `get?_ofList`: entries that are made in turn leave each key in its first place,
   with its last value.
-/

namespace EntityQuery

/-! ## Lists without repetition -/

section

variable {α : Type} [BEq α] [LawfulBEq α]

/-- Names that are put at the end of a list in turn, unless it has them. -/
theorem foldl_appendNew (xs ys : List α) :
    xs.foldl appendNew ys = ys ++ (xs.filter fun x => !ys.contains x).eraseDups := by
  induction xs generalizing ys with
  | nil => simp
  | cons x xs ih =>
    rw [List.foldl_cons, ih]
    by_cases hx : ys.contains x = true
    · simp only [appendNew, hx, if_true, List.filter_cons, Bool.not_true,
        Bool.false_eq_true, if_false]
    · simp only [appendNew, hx, Bool.not_false, if_true, List.filter_cons,
        Bool.false_eq_true, if_false, List.eraseDups_cons, List.filter_filter, List.append_assoc,
        List.singleton_append]
      congr 3
      refine List.filter_congr fun y _ => ?_
      rw [List.contains_append, Bool.not_or, Bool.and_comm, List.contains_cons, List.contains_nil,
        Bool.or_false]

theorem foldl_appendNew_nil (xs : List α) : xs.foldl appendNew [] = xs.eraseDups := by
  rw [foldl_appendNew, List.nil_append, List.filter_eq_self.mpr (by simp)]

theorem nodup_appendNew {xs : List α} (h : xs.Nodup) (x : α) : (appendNew xs x).Nodup := by
  unfold appendNew
  split
  · exact h
  · next hx =>
    refine List.nodup_append.mpr ⟨h, by simp, ?_⟩
    rintro y hy z hz rfl
    rw [List.mem_singleton.mp hz] at hy
    exact hx (List.contains_iff_mem.mpr hy)

omit [LawfulBEq α] in
theorem prefix_appendNew (xs : List α) (x : α) : xs <+: appendNew xs x := by
  unfold appendNew
  split
  · exact List.prefix_rfl
  · exact List.prefix_append xs [x]

theorem appendNew_ne_nil (xs : List α) (x : α) : appendNew xs x ≠ [] := by
  unfold appendNew
  split
  · next hx => exact List.ne_nil_of_mem (List.contains_iff_mem.mp hx)
  · exact List.append_ne_nil_of_right_ne_nil xs (by simp)

end

namespace Registry

variable {κ α : Type} [BEq κ]

/-- A key that equals only itself. -/
def Exact (k : κ) : Prop :=
  ∀ x : κ, (x == k) = true ↔ x = k

theorem Exact.ofLawful [LawfulBEq κ] (k : κ) : Exact k :=
  fun _ => beq_iff_eq

theorem Exact.self {k : κ} (h : Exact k) : (k == k) = true :=
  (h k).mpr rfl

theorem find_putEntry_self {k : κ} (h : Exact k) (v : α) (es : List (κ × α)) :
    ((putEntry k v es).find? fun e => e.1 == k).map Prod.snd = some v := by
  induction es with
  | nil => simp [putEntry, h.self]
  | cons e rest ih =>
    by_cases he : (e.1 == k) = true
    · simp [putEntry, he]
    · simpa [putEntry, he] using ih

theorem find_putEntry_of_ne {k k' : κ} (h : Exact k) (h' : Exact k') (hne : k ≠ k') (v : α)
    (es : List (κ × α)) :
    ((putEntry k v es).find? fun e => e.1 == k').map Prod.snd =
      (es.find? fun e => e.1 == k').map Prod.snd := by
  have hk : ¬(k == k') = true := fun heq => hne ((h' k).mp heq)
  induction es with
  | nil => simp [putEntry, hk]
  | cons e rest ih =>
    by_cases he : (e.1 == k) = true
    · obtain rfl : e.1 = k := (h e.1).mp he
      simp [putEntry, he, hk]
    · by_cases he' : (e.1 == k') = true
      · simp [putEntry, he, he']
      · simpa [putEntry, he, he'] using ih

/-- What is entered is found. -/
theorem get?_put_self {k : κ} (h : Exact k) (r : Registry κ α) (v : α) :
    (r.put k v).get? k = some v :=
  find_putEntry_self h v r.entries

/-- The values of other keys stay as they are. -/
theorem get?_put_of_ne {k k' : κ} (h : Exact k) (h' : Exact k') (hne : k ≠ k') (r : Registry κ α)
    (v : α) :
    (r.put k v).get? k' = r.get? k' :=
  find_putEntry_of_ne h h' hne v r.entries

theorem isSome_get? (r : Registry κ α) (k : κ) : (r.get? k).isSome = r.contains k := by
  rw [get?, Option.isSome_map, List.isSome_find?]
  rfl

/-! ## Entries in turn -/

section

variable [LawfulBEq κ]

theorem keys_put (r : Registry κ α) (k : κ) (v : α) : (r.put k v).keys = appendNew r.keys k := by
  obtain ⟨es⟩ := r
  show (putEntry k v es).map Prod.fst = appendNew (es.map Prod.fst) k
  induction es with
  | nil => rfl
  | cons e rest ih =>
    by_cases he : e.1 = k
    · simp [putEntry, appendNew, he]
    · have hk : (k == e.1) = false := by simpa using Ne.symm he
      simp only [appendNew] at ih
      simp only [putEntry, appendNew, beq_iff_eq, he, if_false, List.map_cons, ih,
        List.contains_cons, hk, Bool.false_or]
      split <;> rfl

theorem nodup_keys_put {r : Registry κ α} (h : r.keys.Nodup) (k : κ) (v : α) :
    (r.put k v).keys.Nodup := by
  rw [keys_put]
  exact nodup_appendNew h k

/-- Every entry is the one that was made, or was there before. -/
theorem mem_entries_put {r : Registry κ α} {k : κ} {v : α} {e : κ × α}
    (h : e ∈ (r.put k v).entries) :
    e = (k, v) ∨ e ∈ r.entries := by
  obtain ⟨es⟩ := r
  change e ∈ putEntry k v es at h
  show e = (k, v) ∨ e ∈ es
  induction es with
  | nil => exact .inl (List.mem_singleton.mp h)
  | cons f es ih =>
    by_cases hf : f.1 = k
    · rw [putEntry, if_pos (beq_iff_eq.mpr hf), List.mem_cons, hf] at h
      exact h.imp_right (List.mem_cons_of_mem _)
    · rw [putEntry, if_neg (by simpa using hf), List.mem_cons] at h
      rcases h with rfl | h
      · exact .inr List.mem_cons_self
      · exact (ih h).imp_right (List.mem_cons_of_mem _)

theorem mem_entries_ofList {pairs : List (κ × α)} {e : κ × α} (h : e ∈ (ofList pairs).entries) :
    e ∈ pairs := by
  have hfold : ∀ r : Registry κ α, e ∈ (pairs.foldl (fun r e => r.put e.1 e.2) r).entries →
      e ∈ pairs ∨ e ∈ r.entries := by
    clear h
    induction pairs with
    | nil => exact fun r he => .inr he
    | cons f pairs ih =>
      intro r he
      rcases ih _ he with he | he
      · exact .inl (List.mem_cons_of_mem _ he)
      · rcases mem_entries_put he with rfl | he
        · exact .inl List.mem_cons_self
        · exact .inr he
  exact (hfold _ h).resolve_right List.not_mem_nil

theorem mem_entries_of_get? {r : Registry κ α} {k : κ} {v : α} (h : r.get? k = some v) :
    (k, v) ∈ r.entries := by
  obtain ⟨e, he, rfl⟩ := Option.map_eq_some_iff.mp h
  have hk : e.1 = k := by simpa using List.find?_some he
  rw [← hk]
  exact List.mem_of_find?_eq_some he

/-- Each key has the place where it came first. -/
theorem keys_ofList (pairs : List (κ × α)) :
    (ofList pairs).keys = (pairs.map Prod.fst).eraseDups := by
  have hfold : ∀ r : Registry κ α,
      (pairs.foldl (fun r e => r.put e.1 e.2) r).keys =
      (pairs.map Prod.fst).foldl appendNew r.keys := by
    induction pairs with
    | nil => exact fun r => rfl
    | cons e pairs ih =>
      intro r
      rw [List.foldl_cons, ih, keys_put]
      rfl
  rw [ofList, hfold]
  exact foldl_appendNew_nil _

/-- Each key has the value that came last. -/
theorem get?_ofList (pairs : List (κ × α)) (k : κ) :
    (ofList pairs).get? k = pairs.reverse.lookup k := by
  have hfold : ∀ r : Registry κ α,
      (pairs.foldl (fun r e => r.put e.1 e.2) r).get? k =
      (pairs.reverse.lookup k).or (r.get? k) := by
    induction pairs with
    | nil => exact fun r => rfl
    | cons e pairs ih =>
      obtain ⟨key, value⟩ := e
      intro r
      rw [List.foldl_cons, ih, List.reverse_cons, List.lookup_append, Option.or_assoc]
      by_cases hkey : key = k
      · rw [hkey, get?_put_self (.ofLawful _), List.lookup_cons_self, Option.some_or]
      · have hk : (k == key) = false := by simpa using Ne.symm hkey
        rw [get?_put_of_ne (.ofLawful _) (.ofLawful _) hkey, List.lookup_cons, hk, List.lookup_nil,
          Option.none_or]
  rw [ofList, hfold]
  exact Option.or_none

end

end Registry

end EntityQuery
