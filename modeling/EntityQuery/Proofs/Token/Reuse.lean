import EntityQuery.Proofs.Token.Spelling

/-!
# A scanner that is used again

A scanner can be asked for tokens again and again: to scan its query afresh, or for the tokens it
has. A new scanner answers both requests with the tokens of its query or the error. A scanner that
has been used does not: a scan that fails leaves the tokens before the error behind, and these are
handed out as if they were all.

1. `Scanner.run_answer_new`, `Scanner.run_answer_used`: one request. Every request leaves the
   scanner in the same state.
2. `Scanner.run_answers_used`: the requests that follow.
3. `Scanner.run_answers`: all answers to all sequences of requests.
-/

namespace EntityQuery.Scanner

/-- What a scanner can be asked for. -/
inductive Request where
  /-- The tokens of a new scan. -/
  | scan
  /-- The tokens at hand. -/
  | iterate
  deriving DecidableEq, Repr

/-- The answer to a request. -/
def Request.answer (r : Request) (s : Scanner) :
    Log.Logging (Except LexicalError (List Token) × Scanner) :=
  match r with
  | .scan => s.tokenize
  | .iterate => s.tokens

/-- The answers to requests that are made one after the other. -/
def answers (requests : List Request) (s : Scanner) :
    Log.Logging (List (Except LexicalError (List Token))) :=
  match requests with
  | [] => pure []
  | r :: rs => do
    let (outcome, used) ← r.answer s
    let outcomes ← answers rs used
    pure (outcome :: outcomes)

/-- A query whose scan reads some tokens and then fails. -/
def CutShort (query : String) : Prop :=
  (∃ e, EntityQuery.tokenize query = .error e) ∧ (scan query).tokens ≠ []

theorem cutShort_iff {query : String} :
    CutShort query ↔ (scan query).error? ≠ none ∧ (scan query).tokens ≠ [] := by
  unfold CutShort EntityQuery.tokenize Scan.result
  cases (scan query).error? <;> simp

instance (query : String) : Decidable (CutShort query) :=
  decidable_of_iff _ cutShort_iff.symm

/-- The scanner of a query after a scan. -/
def used (query : String) : Scanner :=
  ⟨query, (scan query).stored, (scan query).stop⟩

/-! ## One request -/

theorem run_tokenize (s : Scanner) (book : Log.Book) :
    (s.tokenize.run book).1 = (EntityQuery.tokenize s.query, used s.query) :=
  rfl

/-- Without tokens at hand there is nothing to choose: the query is scanned. -/
theorem run_answer_of_nil (r : Request) {s : Scanner} (h : s.stored = []) (book : Log.Book) :
    ((r.answer s).run book).1 = (EntityQuery.tokenize s.query, used s.query) := by
  cases r with
  | scan => exact run_tokenize s book
  | iterate =>
    rw [Request.answer, tokens, h]
    exact run_tokenize s book

theorem run_answer_new (r : Request) (query : String) (book : Log.Book) :
    ((r.answer { query }).run book).1 = (EntityQuery.tokenize query, used query) :=
  run_answer_of_nil r rfl book

/-- A scanner that has been used hands out the tokens before the error, and does not change any
more. -/
theorem run_answer_used (r : Request) (query : String) (book : Log.Book) :
    ((r.answer (used query)).run book).1 =
      (if r = .iterate ∧ CutShort query then .ok (scan query).tokens
        else EntityQuery.tokenize query, used query) := by
  cases r with
  | scan => rw [if_neg (by simp)]; exact run_tokenize _ book
  | iterate =>
    cases herror : (scan query).error? with
    | none =>
      have hok : EntityQuery.tokenize query = .ok (scan query).stored := by
        rw [EntityQuery.tokenize, Scan.result, herror]
      have hcut : ¬CutShort query := fun h => (cutShort_iff.mp h).1 herror
      have hstored : (scan query).stored.isEmpty = false := by
        simp [Scan.stored, herror]
      rw [if_neg fun h => hcut h.2, hok, Request.answer, tokens, if_neg (by simp [used, hstored])]
      rfl
    | some e =>
      have hstored : (scan query).stored = (scan query).tokens := by
        rw [Scan.stored, herror]
      by_cases htokens : (scan query).tokens = []
      · rw [if_neg fun h => h.2.2 htokens]
        exact run_answer_of_nil _ (hstored.trans htokens) book
      · have hcut : CutShort query := cutShort_iff.mpr ⟨by simp [herror], htokens⟩
        rw [if_pos ⟨rfl, hcut⟩, Request.answer, tokens,
          if_neg (by simpa [used, hstored] using htokens), ← hstored]
        rfl

/-! ## Many requests -/

theorem run_answers_cons (r : Request) (rs : List Request) (s : Scanner) (book : Log.Book) :
    ((answers (r :: rs) s).run book).1 =
      ((r.answer s).run book).1.1 ::
        ((answers rs ((r.answer s).run book).1.2).run ((r.answer s).run book).2).1 :=
  rfl

/-- What a scanner that has been used answers does not depend on how it was used. -/
theorem run_answers_used (requests : List Request) (query : String) (book : Log.Book) :
    ((answers requests (used query)).run book).1 = requests.map fun r =>
      if r = .iterate ∧ CutShort query then .ok (scan query).tokens
        else EntityQuery.tokenize query := by
  induction requests generalizing book with
  | nil => rfl
  | cons r rs ih => rw [run_answers_cons, run_answer_used, ih, List.map_cons]

/-- Only the first answer is that of a new scanner in any case. -/
theorem run_answers_new (requests : List Request) (query : String) (book : Log.Book) :
    ((answers requests { query }).run book).1 = requests.mapIdx fun i r =>
      if 0 < i ∧ r = .iterate ∧ CutShort query then .ok (scan query).tokens
        else EntityQuery.tokenize query := by
  cases requests with
  | nil => rfl
  | cons r rs =>
    have hrest : ∀ f : Request → Except LexicalError (List Token),
        rs.mapIdx (fun _ r => f r) = rs.map f := fun f =>
      List.ext_getElem? fun i => by rw [List.getElem?_mapIdx, List.getElem?_map]
    rw [run_answers_cons, run_answer_new, run_answers_used, List.mapIdx_cons,
      if_neg fun h => Nat.lt_irrefl 0 h.1, ← hrest]
    simp

/--
A new scanner answers every request with the complete list of tokens, which ends in its only ending,
or with the error. One that has been used does so too, for all requests, exactly if its query is not
cut short by an error behind some tokens. Otherwise a request for the tokens at hand that is not the
first request is answered with the tokens before the error, as if they were all; they have no
ending.
-/
theorem run_answers (query : String) :
    (∀ (r : Request) (book : Log.Book), ((r.answer { query }).run book).1.1 =
      EntityQuery.tokenize query) ∧ (∀ ts, EntityQuery.tokenize query = .ok ts →
        ∃ body stop, ts = body ++ [.ending stop] ∧ ∀ t ∈ body, t.kind ≠ .endOfInput) ∧
      (∀ (requests : List Request) (book : Log.Book), ((answers requests { query }).run book).1 =
        requests.mapIdx fun i r =>
          if 0 < i ∧ r = .iterate ∧ CutShort query then .ok (scan query).tokens
          else EntityQuery.tokenize query) ∧
      (∀ t ∈ (scan query).tokens, t.kind ≠ .endOfInput) ∧
      ((∀ (requests : List Request) (book : Log.Book), ((answers requests { query }).run book).1 =
        requests.map fun r => ((r.answer { query }).run book).1.1) ↔ ¬CutShort query) := by
  have hbody : ∀ t ∈ (scan query).tokens, t.kind ≠ .endOfInput := fun t ht =>
    (scanFrom_spelling {} query.toList t ht).kind_ne_end
  refine ⟨fun r book =>
    by rw [run_answer_new], fun ts hts => ?_, fun requests book =>
      run_answers_new requests query book,
    hbody, fun h hcut => ?_, fun hcut requests book => ?_⟩
  · exact ⟨_, _, (tokenize_eq_ok.mp hts).2.symm, hbody⟩
  · have htwice := h [.iterate, .iterate] []
    obtain ⟨e, he⟩ := hcut.1
    rw [run_answers_new] at htwice
    simp [run_answer_new, hcut, he] at htwice
  · refine List.ext_getElem? fun i => ?_
    rw [run_answers_new, List.getElem?_mapIdx, List.getElem?_map]
    simp [run_answer_new, hcut]

/-- The second answer leaves out what the first one was about. -/
theorem run_answers_twice :
    CutShort "a b # c" ∧ ((answers [.iterate, .iterate] { query := "a b # c" }).run []).1 =
      [.error ⟨.unexpectedCharacter '#', ⟨1, 5, 4⟩⟩,
        .ok [⟨.identifier, "a", ⟨1, 1, 0⟩⟩, ⟨.identifier, "b", ⟨1, 3, 2⟩⟩]] := by
  have hscan : scan "a b # c" = ⟨[⟨.identifier, "a", ⟨1, 1, 0⟩⟩, ⟨.identifier, "b", ⟨1, 3, 2⟩⟩],
      ⟨1, 5, 4⟩, some ⟨.unexpectedCharacter '#', ⟨1, 5, 4⟩⟩⟩ := by
    with_unfolding_all rfl
  have hcut : CutShort "a b # c" := cutShort_iff.mpr (by rw [hscan]; simp)
  refine ⟨hcut, ?_⟩
  rw [(run_answers "a b # c").2.2.1, EntityQuery.tokenize]
  simp [hcut, hscan, Scan.result]

end EntityQuery.Scanner
