import EntityQuery.Proofs.Token.Layout

/-!
# Where tokens stand

Lines and columns are counted while a text is read. They are the true ones: whatever has been read,
in one piece or in many, the line is told by the line feeds in it and the column by what stands
behind the last of them.

1. `Position.Behind.after`: counting along a text leads to the place behind it, by induction on the
   text.
2. `scanFrom_places`: each token has the place behind all that was read before it, by induction on
   the scan.
-/

namespace EntityQuery

open Lexeme

/-! ## Lines and columns -/

/-- The last line of a text is what stands behind its last line feed, or the whole text. -/
def IsLastLine (text line : List Char) : Prop :=
  '\n' ∉ line ∧ (text = line ∨ ∃ lines, text = lines ++ '\n' :: line)

/-- The place behind a text that starts at the first line and column. -/
structure Position.Behind (text : List Char) (p : Position) : Prop where
  offset : p.offset = text.length
  line : p.line = 1 + text.count '\n'
  column : ∃ line, IsLastLine text line ∧ p.column = 1 + line.length

theorem IsLastLine.feed (text : List Char) : IsLastLine (text ++ ['\n']) [] :=
  ⟨by simp, .inr ⟨text, rfl⟩⟩

theorem IsLastLine.append {text line : List Char} (h : IsLastLine text line) {c : Char}
    (hc : c ≠ '\n') :
    IsLastLine (text ++ [c]) (line ++ [c]) := by
  obtain ⟨hfeed, htext⟩ := h
  refine ⟨by simp [hfeed, hc.symm], ?_⟩
  rcases htext with rfl | ⟨lines, rfl⟩
  · exact .inl rfl
  · exact .inr ⟨lines, by simp⟩

theorem Position.Behind.next {text : List Char} {p : Position} (h : p.Behind text) (c : Char) :
    (p.next c).Behind (text ++ [c]) := by
  obtain ⟨hoffset, hline, line, hlast, hcolumn⟩ := h
  unfold Position.next
  by_cases hc : c = '\n'
  · subst hc
    rw [if_pos rfl]
    refine ⟨by simp [hoffset], ?_, [], .feed text, rfl⟩
    simp only [hline, List.count_append, List.count_singleton_self]
    omega
  · rw [if_neg hc]
    refine ⟨by simp [hoffset], ?_, line ++ [c], hlast.append hc, ?_⟩
    · simp [hline, hc]
    · simp only [hcolumn, List.length_append, List.length_singleton]
      omega

/-- Counting goes on along a text. -/
theorem Position.Behind.after {text : List Char} {p : Position} (h : p.Behind text)
    (cs : List Char) :
    (p.after cs).Behind (text ++ cs) := by
  induction cs generalizing text p with
  | nil => rwa [List.append_nil]
  | cons c cs ih =>
    have hrest := ih (h.next c)
    rwa [List.append_assoc] at hrest

theorem Position.behind_after (text : List Char) : (({} : Position).after text).Behind text :=
  Position.Behind.after ⟨rfl, rfl, [], ⟨by simp, .inl rfl⟩, rfl⟩ text

/-! ## Scans -/

/-- A token is read where it stands, and has the place behind all that was read before it. A scan
without an error stops behind the whole text. -/
theorem scanFrom_places (pos : Position) (cs : List Char) :
    (∀ t ∈ (scanFrom pos cs).tokens, ∃ before rest, cs = before ++ (t.text.toList ++ rest) ∧
      t.pos = pos.after before) ∧
      ((scanFrom pos cs).error? = none → (scanFrom pos cs).stop = pos.after cs) := by
  fun_induction scanFrom pos cs with
  | case1 pos => exact ⟨by simp, fun _ => rfl⟩
  | case2 pos c rest text rest' hfront ih =>
    obtain ⟨hsplit, -⟩ : text ++ rest' = c :: rest ∧ text ≠ [] := by
      have := splits_front c rest
      rwa [hfront] at this
    obtain ⟨htokens, hstop⟩ := ih
    rw [← hsplit]
    refine ⟨fun t ht => ?_, fun herror => ?_⟩
    · obtain ⟨before, more, rfl, hpos⟩ := htokens t ht
      exact ⟨text ++ before, more, by simp, by rw [hpos, Position.after_append]⟩
    · rw [hstop herror, Position.after_append]
  | case3 pos c rest kind text rest' hfront ih =>
    obtain ⟨hsplit, -⟩ : text ++ rest' = c :: rest ∧ text ≠ [] := by
      have := splits_front c rest
      rwa [hfront] at this
    obtain ⟨htokens, hstop⟩ := ih
    rw [← hsplit]
    refine ⟨List.forall_mem_cons.mpr ⟨⟨[], rest', ?_, rfl⟩, fun t ht => ?_⟩, fun herror => ?_⟩
    · rw [String.toList_ofList, List.nil_append]
    · obtain ⟨before, more, rfl, hpos⟩ := htokens t ht
      exact ⟨text ++ before, more, by simp, by rw [hpos, Position.after_append]⟩
    · exact (hstop herror).trans (Position.after_append pos text rest').symm
  | case4 => exact ⟨by simp, by simp⟩

/--
The coordinates of a token are those of its first character, those of the ending are those behind
the last one. The line is one more than the line feeds before the token, and the column one more
than the characters between the last of these line feeds, or the start of the query, and the token.
-/
theorem tokenize_coordinates (query : String) (ts : List Token) (h : tokenize query = .ok ts)
    (t : Token) (ht : t ∈ ts) :
    ∃ before line rest, query.toList = before ++ (t.text.toList ++ rest) ∧
      t.pos.offset = before.length ∧
      t.pos.line = 1 + before.count '\n' ∧ IsLastLine before line ∧ t.pos.column = 1 + line.length ∧
      (t.kind = .endOfInput → before = query.toList) := by
  obtain ⟨herror, rfl⟩ := tokenize_eq_ok.mp h
  obtain ⟨htokens, hstop⟩ := scanFrom_places {} query.toList
  rcases List.mem_append.mp ht with ht | ht
  · obtain ⟨before, rest, hquery, hpos⟩ := htokens t ht
    obtain ⟨hoffset, hline, line, hlast, hcolumn⟩ := Position.behind_after before
    rw [hpos]
    refine ⟨before, line, rest, hquery, hoffset, hline, hlast, hcolumn, fun hend => ?_⟩
    exact absurd hend (scanFrom_spelling {} query.toList t ht).kind_ne_end
  · obtain rfl := List.mem_singleton.mp ht
    obtain ⟨hoffset, hline, line, hlast, hcolumn⟩ := Position.behind_after query.toList
    rw [← hstop herror] at hoffset hline hcolumn
    exact ⟨query.toList, line, [],
      by simp [Token.ending], hoffset, hline, hlast, hcolumn, fun _ => rfl⟩

/-- Line feeds in a string and in a comment count, a carriage return alone is a column like any
other. -/
theorem tokenize_coordinates_string :
    ∃ ts, tokenize "'a\nb' /*\n\n*/\r c" = .ok ts ∧
        ts.map (fun t => (t.text, t.pos.line, t.pos.column)) =
        [("'a\nb'", 1, 1), ("c", 4, 5), ("", 4, 6)] ∧
      ∀ t ∈ ts, ∃ before line rest, "'a\nb' /*\n\n*/\r c".toList =
        before ++ (t.text.toList ++ rest) ∧
        t.pos.offset = before.length ∧ t.pos.line = 1 + before.count '\n' ∧ IsLastLine before line ∧
        t.pos.column = 1 + line.length ∧
        (t.kind = .endOfInput → before = "'a\nb' /*\n\n*/\r c".toList) := by
  have hscan : tokenize "'a\nb' /*\n\n*/\r c" =
      .ok [⟨.string, "'a\nb'", ⟨1, 1, 0⟩⟩, ⟨.identifier, "c", ⟨4, 5, 14⟩⟩,
        ⟨.endOfInput, "", ⟨4, 6, 15⟩⟩] := by
    with_unfolding_all rfl
  exact ⟨_, hscan, rfl, tokenize_coordinates _ _ hscan⟩

end EntityQuery
