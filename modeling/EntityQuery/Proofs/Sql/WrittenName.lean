import EntityQuery.Proofs.Sql.Yield
import EntityQuery.Proofs.Token.Layout

/-!
# Names that are written

Names of tables and columns come from a mapping and not from the query, so that they need not be
names of the query language. Plain names are: a plain name is read as its parts
(`spells_plainName`), and a path keeps being one when a plain name is put into it.

For each lookup of a rendering there is one statement here: it yields the name that `Place` gives.
-/

namespace EntityQuery.Sql

open Grammar

/-! ## Texts of names -/

/-- A text that is one word. -/
def WordText (text : String) : Prop :=
  ∃ kind : TokenKind, kind.isWord = true ∧ Lexeme.Spelling kind text.toList

/-- A text that is one name. -/
def NameText (text : String) : Prop :=
  ∃ kind : TokenKind, kind.isName = true ∧ Lexeme.Spelling kind text.toList

/-- Texts of which the first is a name and the others are words. -/
def PathText (parts : List String) : Prop :=
  ∃ first rest, parts = first :: rest ∧ NameText first ∧ ∀ word ∈ rest, WordText word

theorem isWord_of_isName {kind : TokenKind} (h : kind.isName = true) : kind.isWord = true := by
  unfold TokenKind.isName at h
  split at h
  · rfl
  · rfl
  · cases h

theorem NameText.word {text : String} (h : NameText text) : WordText text := by
  obtain ⟨kind, hk, hs⟩ := h
  exact ⟨kind, isWord_of_isName hk, hs⟩

theorem PathText.append {parts more : List String} (h : PathText parts)
    (hm : ∀ word ∈ more, WordText word) :
    PathText (parts ++ more) := by
  obtain ⟨first, rest, rfl, hf, hr⟩ := h
  refine ⟨first, rest ++ more, rfl, hf, ?_⟩
  intro word hw
  rcases List.mem_append.mp hw with hw | hw
  · exact hr word hw
  · exact hm word hw

theorem PathText.words {parts : List String} (h : PathText parts) :
    ∀ word ∈ parts, WordText word := by
  obtain ⟨first, rest, rfl, hf, hr⟩ := h
  exact List.forall_mem_cons.mpr ⟨hf.word, hr⟩

theorem WordText.isWordPart {text : String} (h : WordText text) :
    ∀ c ∈ text.toList, Lexeme.isWordPart c = true := by
  obtain ⟨kind, hk, hs⟩ := h
  generalize text.toList = cs at hs
  cases hs with
  | word _ _ hc hcs => exact List.forall_mem_cons.mpr ⟨Lexeme.isWordPart_of_isWordStart hc, hcs⟩
  | number =>
    unfold Lexeme.numberKind at hk
    split at hk <;> cases hk
  | _ => cases hk

theorem NameText.path {first : String} {rest : List String} (h : NameText first)
    (hr : ∀ word ∈ rest, WordText word) :
    PathText (first :: rest) :=
  ⟨first, rest, rfl, h, hr⟩

/-- The tokens of a list are spelled like their kinds. -/
def Proper (ts : List Token) : Prop :=
  ∀ t ∈ ts, Lexeme.Spelling t.kind t.text.toList

theorem proper_append {ts us : List Token} : Proper (ts ++ us) ↔ Proper ts ∧ Proper us := by
  simp only [Proper, List.mem_append]
  constructor
  · intro h
    exact ⟨fun t ht => h t (.inl ht), fun t ht => h t (.inr ht)⟩
  · rintro ⟨h, h'⟩ t (ht | ht)
    · exact h t ht
    · exact h' t ht

/-- The tokens that a text is read as are spelled like their kinds. -/
theorem spells_proper {b : Char → Bool} {w : String} {P : List Token → Prop} (h : Spells b w P) :
    Spells b w fun ts => P ts ∧ Proper ts := by
  intro pos
  obtain ⟨ts, hP, hs⟩ := h pos
  refine ⟨ts, ⟨hP, ?_⟩, hs⟩
  intro t ht
  have hscan := hs [] fun _ h => by cases h
  refine scanFrom_spelling pos (w.toList ++ []) t ?_
  rw [hscan]
  exact List.mem_append_left _ ht

/-- The names of a path that was read are texts of names. -/
theorem pathText_of_dotted {parts : List String} {ts : List Token} (h : Dotted parts ts)
    (hts : Proper ts) :
    PathText parts := by
  induction h with
  | @name t h => exact NameText.path ⟨_, h, hts t (by simp)⟩ (by simp)
  | @more parts ts dot word _ _ hw ih =>
    refine (ih (proper_append.mp hts).1).append ?_
    intro w hmem
    rw [List.mem_singleton.mp hmem]
    exact ⟨_, hw, hts word (by simp)⟩

theorem dotted_append_singleton {parts : List String} (hne : parts ≠ []) (word : String) :
    dotted (parts ++ [word]) = dotted parts ++ "." ++ word := by
  rw [dotted, dotted, String.intercalate_append_of_ne_nil hne (by simp),
    String.intercalate_singleton]

theorem spells_wordText {text : String} (h : WordText text) :
    Spells isWordGap text (One fun t => t.kind.isWord = true ∧ t.text = text) := by
  obtain ⟨kind, hk, hs⟩ := h
  refine (Spells.ofWord hs hk).mono ?_
  rintro ts ⟨t, rfl, rfl, ht⟩
  exact ⟨t, rfl, hk, ht⟩

theorem spells_nameText {text : String} (h : NameText text) :
    Spells isWordGap text (One fun t => t.kind.isName = true ∧ t.text = text) := by
  obtain ⟨kind, hk, hs⟩ := h
  refine (Spells.ofWord hs (isWord_of_isName hk)).mono ?_
  rintro ts ⟨t, rfl, rfl, ht⟩
  exact ⟨t, rfl, hk, ht⟩

theorem spells_dotted_append (parts : List String) (hne : parts ≠ [])
    (h : Spells isWordGap (dotted parts) (Dotted parts)) :
    ∀ {more : List String}, (∀ word ∈ more, WordText word) →
      Spells isWordGap (dotted (parts ++ more)) (Dotted (parts ++ more)) := by
  intro more hm
  induction more generalizing parts with
  | nil =>
    rw [List.append_nil]
    exact h
  | cons word more ih =>
    rw [List.append_cons]
    refine ih _ (by simp) ?_ fun w hw => hm w (List.mem_cons_of_mem _ hw)
    rw [dotted_append_singleton hne]
    have hdot : Spells (fun _ => true) "." (One fun t => t.Sign .dot) :=
      Spells.symbol rfl rfl fun _ => rfl
    refine ((h.append hdot ⟨'.', [], rfl, rfl⟩).next (spells_wordText (hm word (by simp)))).mono ?_
    rintro ts ⟨us, vs, rfl, ⟨ps, ds, rfl, hp, d, rfl, hd⟩, w, rfl, hw, rfl⟩
    rw [List.append_assoc]
    exact .more hp hd hw

/-- A path is read as its names. -/
theorem spells_dotted {parts : List String} (h : PathText parts) :
    Spells isWordGap (dotted parts) (Dotted parts) := by
  obtain ⟨first, rest, rfl, hf, hr⟩ := h
  refine spells_dotted_append [first] (by simp) ?_ hr
  rw [dotted, String.intercalate_singleton]
  refine (spells_nameText hf).mono ?_
  rintro ts ⟨t, rfl, ht, rfl⟩
  exact .name ht

/-! ## Plain names -/

theorem dotted_nameParts (text : String) : dotted (nameParts text) = text := by
  have hdot : ".".toList = ['.'] := rfl
  rw [← String.toList_inj, dotted, String.toList_intercalate, nameParts, List.map_map, hdot]
  have hid : String.toList ∘ String.ofList = id := by
    funext cs
    simp
  rw [hid, List.map_id, List.intercalate_splitOn]

/-- A path is read from its text: no word has a point in it. -/
theorem nameParts_dotted {parts : List String} (h : PathText parts) :
    nameParts (dotted parts) = parts := by
  have hpoint : ∀ cs ∈ parts.map String.toList, '.' ∉ cs := by
    intro cs hcs hpoint
    obtain ⟨word, hw, rfl⟩ := List.mem_map.mp hcs
    exact absurd ((h.words word hw).isWordPart _ hpoint) (by decide)
  have hne : parts.map String.toList ≠ [] := by
    obtain ⟨first, rest, rfl, -⟩ := h
    simp
  have hdot : ".".toList = ['.'] := rfl
  rw [nameParts, dotted, String.toList_intercalate, hdot, List.splitOn_intercalate _ hpoint hne,
    List.map_map]
  simp

theorem nameParts_ne_nil (text : String) : nameParts text ≠ [] := by
  simp [nameParts, List.splitOn_ne_nil]

theorem spelling_of_isIdentifier {text : String} (h : isIdentifier text = true) :
    Lexeme.Spelling .identifier text.toList := by
  unfold isIdentifier at h
  split at h
  · cases h
  · next c cs hc =>
    split at h
    · next t hf =>
      have hsplit := Lexeme.splits_front c cs
      rw [hf] at hsplit
      have ht : t = c :: cs := by simpa using hsplit.1
      rw [hc, ← ht]
      exact Lexeme.front_spelling hf
    · cases h

theorem nameText_of_isIdentifier {text : String} (h : isIdentifier text = true) : NameText text :=
  ⟨.identifier, rfl, spelling_of_isIdentifier h⟩

theorem nameText_of_plain {text part : String} (h : isPlainName text = true)
    (hp : part ∈ nameParts text) :
    NameText part ∧ isSideWord part = false := by
  have := List.all_eq_true.mp h part hp
  simp only [Bool.and_eq_true, Bool.not_eq_true'] at this
  exact ⟨nameText_of_isIdentifier this.1, this.2⟩

theorem words_of_plain {text : String} (h : isPlainName text = true) :
    ∀ part ∈ nameParts text, WordText part :=
  fun _ hp => (nameText_of_plain h hp).1.word

theorem pathText_of_plain {text : String} (h : isPlainName text = true) :
    PathText (nameParts text) := by
  cases hn : nameParts text with
  | nil => exact absurd hn (nameParts_ne_nil text)
  | cons first rest =>
    refine NameText.path (nameText_of_plain h (by rw [hn]; simp)).1 fun word hw => ?_
    exact words_of_plain h word (by rw [hn]; exact List.mem_cons_of_mem _ hw)

/-- A plain name is read as its parts. -/
theorem spells_plainName {text : String} (h : isPlainName text = true) :
    Spells isWordGap text (Dotted (nameParts text)) := by
  have hs := spells_dotted (pathText_of_plain h)
  rwa [dotted_nameParts] at hs

theorem isIdentifier_bracket (cs : List Char) :
    isIdentifier (String.ofList ('[' :: cs)) = false := by
  have hfront : Lexeme.front '[' cs = .fault (.unexpectedCharacter '[') [] := by
    rw [Lexeme.front, if_neg (by decide), if_neg (by simp), if_neg (by simp), if_neg (by decide),
      if_neg (by decide), if_neg (by decide), if_neg (by decide), if_neg (by decide)]
    cases cs with
    | nil => rfl
    | cons d ds => simp [Lexeme.sign, Lexeme.doubleSymbol?, Lexeme.single, Lexeme.singleSymbol?]
  simp only [isIdentifier, String.toList_ofList, hfront]

/-- The list of a column is shown in brackets, which start no name. -/
theorem not_plain_of_list (items : List Json) : isPlainName (Json.arr items).display = false := by
  have htext : (Json.arr items).display.toList =
      '[' :: ((", ".intercalate (Json.quotedItems items)).toList ++ [']']) := by
    show (Json.quoted (.arr items)).toList = _
    rw [Json.quoted, String.toList_append, String.toList_append]
    rfl
  rw [isPlainName, nameParts, htext, List.splitOn_cons_eq_if_modifyHead, if_neg (by decide)]
  cases hsplit : List.splitOn '.' ((", ".intercalate (Json.quotedItems items)).toList ++ [']']) with
  | nil => exact absurd hsplit (List.splitOn_ne_nil _ _)
  | cons p ps =>
    rw [List.modifyHead_cons, List.map_cons, List.all_cons, isIdentifier_bracket]
    rfl

/-! ## Lookups -/

theorem run_columnFor (s : Schema) (entity? : Option String) (field : String) (book : Log.Book) :
    ((s.columnFor entity? field).run book).1 = s.columnName entity? field := by
  unfold Schema.columnFor Schema.columnName
  cases entity?.bind fun entity => s.column? entity field <;> rfl

theorem run_tableFor (s : Schema) (entity : String) (book : Log.Book) :
    ((s.tableFor entity).run book).1 = s.tableName entity := by
  unfold Schema.tableFor Schema.tableName
  cases s.table? entity <;> rfl

variable {q : Place}

theorem finds_column (s : Schema) (entity? : Option String) (field : String) :
    Finds q (Rendering.logging (s.columnFor entity? field)) (· = s.columnName entity? field) :=
  .logging fun book => run_columnFor _ _ _ book

theorem finds_table (entity : String) :
    Finds q (Rendering.logging (q.scope.schema.tableFor entity))
      (· = q.scope.schema.tableName entity) :=
  .logging fun book => run_tableFor _ _ book

/-- A column with a plain name is shown by that name. -/
theorem yields_columnPiece {entity? : Option String} {field : String}
    (h : isPlainName (q.column entity? field) = true) :
    Yields q (columnPiece q.scope entity? field) (·.Shows (q.column entity? field)) := by
  refine Yields.get.bind fun s hs => ?_
  have hschema : { q.scope.schema with columns := s.columns } = q.scope.schema := by rw [hs.columns]
  rw [hschema]
  refine (finds_column q.scope.schema entity? field).yields.bind fun column hc => ?_
  subst hc
  split
  · next entity items _ hlist =>
    rw [Place.column, hlist, not_plain_of_list] at h
    cases h
  · exact .pure (Fragment.shows_ofJson _)

theorem display_of_text {v : Json} {w : String} (h : Fragment.ofJson v = .text w) :
    v.display = w := by
  cases v with
  | str text =>
    cases h
    rfl
  | _ => cases h

/-- A column that is a text is the one of the schema, even if lists have grown. -/
theorem finds_columnText (entity field : String) :
    Finds q (columnPiece q.scope (some entity) field) fun p =>
      ∀ w, p = .text w → w = q.column (some entity) field := by
  refine Finds.get.bind fun s hs => ?_
  refine (finds_column { q.scope.schema with columns := s.columns } (some entity) field).bind
    fun column hc => ?_
  subst hc
  split
  · exact .pure fun w hw => by cases hw
  · next hlist =>
    refine .pure fun w hw => ?_
    rw [← display_of_text hw]
    unfold Place.column Schema.columnName Schema.column?
    rcases hs.grown entity field with hsame | ⟨items, hitems⟩
    · simp only [Option.bind_some, hsame]
    · refine (hlist entity items rfl ?_).elim
      simp only [Schema.columnName, Schema.column?, Option.bind_some, hitems]
      rfl

theorem Place.path_of_none {parts : List String} (h : q.pathColumn? parts = none) :
    q.path parts = parts := by
  unfold path
  rw [h]

theorem Place.path_singleton {name column : String} (h : q.pathColumn? [name] = some column) :
    q.path [name] = nameParts column := by
  unfold path
  rw [h]

theorem Place.path_cons {first second column : String} {rest : List String}
    (h : q.pathColumn? (first :: second :: rest) = some column) :
    q.path (first :: second :: rest) = first :: nameParts column ++ rest := by
  unfold path
  rw [h]

theorem shows_name (name : String) : (Fragment.text name).Shows (dotted [name]) := by
  rw [dotted, String.intercalate_singleton]
  exact .text

theorem dotted_cons {first : String} {rest : List String} (h : rest ≠ []) :
    dotted (first :: rest) = first ++ "." ++ dotted rest := by
  rw [dotted, String.intercalate_cons_of_ne_nil h, dotted]

/-- A name with points is put into a path as a whole. -/
theorem dotted_nameParts_append (text : String) (rest : List String) :
    dotted (nameParts text ++ rest) = dotted (text :: rest) := by
  cases rest with
  | nil => rw [List.append_nil, dotted_nameParts, dotted, String.intercalate_singleton]
  | cons r rest =>
    rw [dotted_cons (by simp), dotted,
      String.intercalate_append_of_ne_nil (nameParts_ne_nil text) (by simp), ← dotted, ← dotted,
      dotted_nameParts]

theorem dotted_append_nameParts (before : List String) (text : String) (rest : List String) :
    dotted (before ++ nameParts text ++ rest) = dotted (before ++ text :: rest) := by
  rw [List.append_assoc]
  cases before with
  | nil => exact dotted_nameParts_append text rest
  | cons first before =>
    have hne : nameParts text ++ rest ≠ [] := by simp [nameParts_ne_nil]
    rw [dotted, String.intercalate_append_of_ne_nil (by simp) hne, ← dotted, ← dotted,
      dotted_nameParts_append, dotted, dotted,
      ← String.intercalate_append_of_ne_nil (by simp) (by simp), ← dotted]

/-- A column among names has to be a text, and is put into the path. -/
theorem finds_dotted {p : Fragment} {column : String} (hp : ∀ w, p = .text w → w = column)
    (before rest : List String) :
    Finds q (Rendering.strung "." (before.map Fragment.text ++ p :: rest.map Fragment.text))
      (· = dotted (before ++ nameParts column ++ rest)) := by
  refine (Finds.strung _ _).mono fun text ht => ?_
  obtain ⟨ws, hws, rfl⟩ := ht
  obtain ⟨us, vs, rfl, hus, hvs⟩ := List.map_eq_append_iff.mp hws.symm
  obtain ⟨w, vs, rfl, hw, hvs⟩ := List.map_eq_cons_iff.mp hvs
  have htext : ∀ v w, Fragment.text v = .text w → v = w := fun _ _ => Fragment.text.inj
  rw [dotted_append_nameParts, ← hp w hw.symm, (List.map_inj_right htext).mp hus,
    (List.map_inj_right htext).mp hvs, dotted]

/-- A path of several names is written with the column that it names, even if lists have grown. -/
theorem finds_path (first second : String) (rest : List String) :
    Finds q (renderPath q.scope (first :: second :: rest))
      (· = .text (dotted (q.path (first :: second :: rest)))) := by
  unfold renderPath
  dsimp only
  split
  · next hnone =>
    have ho : q.owner? first = none := hnone
    have hc : q.pathColumn? (first :: second :: rest) = none := by
      simp only [Place.pathColumn?, ho, Option.map_none]
    rw [Place.path_of_none hc]
    exact .pure rfl
  · next entity hsome =>
    have ho : q.owner? first = some entity := hsome
    have hc : q.pathColumn? (first :: second :: rest) = some (q.column (some entity) second) := by
      simp only [Place.pathColumn?, ho, Option.map_some]
    rw [Place.path_cons hc]
    refine (finds_columnText entity second).bind fun p hp => ?_
    refine (finds_dotted hp [first] rest).bind fun text ht => .pure ?_
    rw [ht]
    rfl

/-- A path shows the path with the column that it names. -/
theorem yields_path {parts : List String} (hne : parts ≠ [])
    (h : (q.pathColumn? parts).all isPlainName = true) :
    Yields q (renderPath q.scope parts) (·.Shows (dotted (q.path parts))) := by
  match parts, hne with
  | [name], _ =>
    rw [renderPath]
    refine Yields.get.bind fun s hs => ?_
    rw [hs.target]
    cases ht : q.target with
    | none =>
      have hc : q.pathColumn? [name] = none := by simp only [Place.pathColumn?, ht]
      rw [Place.path_of_none hc]
      exact .pure (shows_name name)
    | some target =>
      cases he : q.scope.metadata.entityOf? name with
      | some entity =>
        have hc : q.pathColumn? [name] = none := by simp only [Place.pathColumn?, ht, he]
        rw [Place.path_of_none hc]
        exact .pure (shows_name name)
      | none =>
        have hc : q.pathColumn? [name] = some (q.column (some target) name) := by
          simp only [Place.pathColumn?, ht, he]
        rw [hc] at h
        rw [Place.path_singleton hc, dotted_nameParts]
        exact yields_columnPiece h
  | first :: second :: rest, _ =>
    refine (finds_path first second rest).yields.mono fun p hp => ?_
    rw [hp]
    exact .text

/-- The left side of an assignment is written with its column, even if lists have grown. -/
theorem finds_target (first second : String) (rest : List String) :
    Finds q (renderTarget q.scope (first :: second :: rest))
      (· = .text (dotted (q.targetPath (first :: second :: rest)))) := by
  rw [renderTarget]
  refine (finds_columnText (q.targetEntity first) second).bind fun p hp => ?_
  refine Finds.get.bind fun s hs => ?_
  have hown : ((s.targetAlias == some first || s.target == some first) &&
      s.target == some ((given? (q.scope.metadata.entityOf? first)).getD first)) =
      q.isOwn first := by
    rw [hs.target, hs.targetAlias]
    rfl
  unfold Place.targetPath
  dsimp only
  rw [hown]
  cases q.isOwn first with
  | true =>
    refine (finds_dotted hp [] rest).bind fun text ht => .pure ?_
    rw [ht]
    rfl
  | false =>
    refine (finds_dotted hp [first] rest).bind fun text ht => .pure ?_
    rw [ht]
    rfl

/-- The left side of an assignment shows its column, with the names around it. -/
theorem yields_target {parts : List String} (hne : parts ≠ [])
    (h : isPlainName (q.targetColumn parts) = true) :
    Yields q (renderTarget q.scope parts) (·.Shows (dotted (q.targetPath parts))) := by
  match parts, hne with
  | [name], _ =>
    rw [renderTarget]
    refine Yields.get.bind fun s hs => ?_
    rw [hs.target]
    unfold Place.targetPath
    rw [dotted_nameParts]
    exact yields_columnPiece h
  | first :: second :: rest, _ =>
    refine (finds_target first second rest).yields.mono fun p hp => ?_
    rw [hp]
    exact .text

/-- A path keeps being one when a plain column is put into it. -/
theorem pathText_path {parts : List String} (hp : PathText parts)
    (h : (q.pathColumn? parts).all isPlainName = true) :
    PathText (q.path parts) := by
  obtain ⟨first, rest, rfl, hf, hr⟩ := hp
  cases hc : q.pathColumn? (first :: rest) with
  | none =>
    rw [Place.path_of_none hc]
    exact hf.path hr
  | some column =>
    rw [hc] at h
    cases rest with
    | nil =>
      rw [Place.path_singleton hc]
      exact pathText_of_plain h
    | cons second rest =>
      rw [Place.path_cons hc]
      exact (hf.path (words_of_plain h)).append fun word hw => hr word (List.mem_cons_of_mem _ hw)

/-- The left side of an assignment is a path. -/
theorem pathText_targetPath {parts : List String} (hp : PathText parts)
    (h : isPlainName (q.targetColumn parts) = true) : PathText (q.targetPath parts) := by
  obtain ⟨first, rest, rfl, hf, hr⟩ := hp
  cases rest with
  | nil => exact pathText_of_plain h
  | cons second rest =>
    have hrest : ∀ word ∈ rest, WordText word := fun word hw => hr word (List.mem_cons_of_mem _ hw)
    unfold Place.targetPath
    dsimp only
    split
    · exact (pathText_of_plain h).append hrest
    · exact (hf.path (words_of_plain h)).append hrest

/-! ## Joins -/

theorem finds_aliasTable (parts : List String) (asName : String) :
    Finds q (aliasTable q.scope parts asName) (· = q.aliasTable parts asName) := by
  unfold aliasTable Place.aliasTable
  cases q.scope.metadata.entityOf? asName with
  | some entity => exact finds_table entity
  | none =>
    have hentity : Finds q (Rendering.ofTree (inferEntity parts))
        (· = (inferEntity parts).toOption.getD "") :=
      .ofTree fun entity h => by rw [h]; rfl
    refine hentity.bind fun entity h => ?_
    dsimp only [Option.getD_none]
    rw [← h]
    exact (Finds.logged _).bind fun _ _ => finds_table entity

/-- A join goes to the table that its place gives. -/
theorem finds_joinTable (parts : List String) (asName : String) :
    Finds q (joinTable q.scope parts asName ((joinRelation q.scope parts).map Prod.snd))
      (· = q.joinTable parts asName) := by
  unfold joinTable Place.joinTable
  cases joinRelation q.scope parts with
  | none => exact finds_aliasTable parts asName
  | some step =>
    obtain ⟨source, r⟩ := step
    dsimp only [Option.map_some]
    split
    · exact .throw
    · cases q.scope.schema.tables.get? r.targetEntity with
      | some table => exact .pure rfl
      | none =>
        dsimp only
        split
        · exact .pure rfl
        · exact finds_aliasTable parts asName

/-- The text of an equation. -/
def Place.Equation.text (e : Place.Equation) : String :=
  dotted (e.leftAlias :: nameParts e.leftColumn) ++ " = " ++
    dotted (e.rightAlias :: nameParts e.rightColumn)

theorem equation_eq (leftAlias rightAlias : String) (leftColumn rightColumn : Json) :
    Resolver.equation leftAlias leftColumn rightAlias rightColumn =
      Place.Equation.text ⟨leftAlias, leftColumn.display, rightAlias, rightColumn.display⟩ := by
  unfold Resolver.equation Place.Equation.text
  simp only [dotted_cons (nameParts_ne_nil _), dotted_nameParts, String.append_assoc]

/-- The condition that a relation gives, behind a join. -/
def onText : Option Place.Equation → String
  | none => ""
  | some e => " ON " ++ e.text

theorem run_resolve {parts : List String} {source : String} {r : Relation}
    (h : joinRelation q.scope parts = some (source, r)) (asName : String) (book : Log.Book) :
    ((q.scope.schema.resolver.resolve source (dotted parts) asName (some r)).run book).1 =
      (q.joinEquation? parts asName).map Place.Equation.text := by
  unfold Place.joinEquation? Place.isCollection Resolver.resolve
  rw [h]
  dsimp only [Option.map_some]
  split
  · rw [← equation_eq]
    rfl
  · rw [← equation_eq]
    rfl

/-- A join without a condition of its own shows the one of its relation. -/
theorem finds_joinByRelation (parts : List String) (asName head : String) :
    Finds q (renderJoinByRelation q.scope parts asName head)
      (· = .text (head ++ onText (q.joinEquation? parts asName))) := by
  unfold renderJoinByRelation
  cases hr : joinRelation q.scope parts with
  | none =>
    refine (Finds.logged _).bind fun _ _ => .pure ?_
    rw [Place.joinEquation?, hr, Option.map_none, onText, String.append_empty]
  | some step =>
    obtain ⟨source, r⟩ := step
    have hresolve :=
      Finds.logging (q := q) (R := (· = (q.joinEquation? parts asName).map Place.Equation.text))
      (run_resolve hr asName)
    refine hresolve.bind fun condition? h => ?_
    cases he : q.joinEquation? parts asName with
    | none =>
      rw [he] at h
      subst h
      exact .pure (by rw [onText, String.append_empty])
    | some e =>
      rw [he] at h
      subst h
      exact .pure (by rw [onText, String.append_assoc])

theorem finds_joinHead (kind : JoinKind) (parts : List String) (name : String) :
    Finds q (renderJoinHead q.scope kind parts name)
      (· = joinWords kind ++ " " ++ (q.joinTable parts name).display ++ " " ++ name) := by
  refine (finds_joinTable parts name).bind fun table ht => ?_
  subst ht
  exact .pure rfl

theorem finds_aliasless (along : Node) :
    Finds q (renderAliasless q.scope along) (· = .text "") := by
  unfold renderAliasless
  have hpath : Finds q (Rendering.ofTree along.pathText) fun _ => True := .ofTree fun _ _ => trivial
  refine hpath.bind fun text _ => ?_
  split
  · exact (Finds.logged _).bind fun _ _ => .pure rfl
  · exact .throw

end EntityQuery.Sql
