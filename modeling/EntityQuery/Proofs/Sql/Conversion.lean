import EntityQuery.Proofs.Metadata.Encounter
import EntityQuery.Proofs.Node.Export

/-!
# How a conversion ends

What a query can spell can always be exported and analyzed. It can be converted as well, as long as
tables and columns are texts, unless it has something that SQL does not have; then exactly that is
said.

1. `dictionary_statement`: the dictionary form of a statement exists.
2. `convert_eq`: a conversion is the rendering of the statement under its metadata.
3. `convert_text`: what a conversion writes is the text of the statement.
4. `convert_rejects_iff`: a conversion ends with the text, or refuses the statement for what it has.
-/

namespace EntityQuery.Sql

open Grammar

/-! ## Dictionaries -/

/-- A statement has a dictionary form. -/
theorem dictionary_statement {n : Node} (h : WellFormedStatement n) :
    ∃ j, n.dictionary = .ok j := by
  obtain ⟨j, hj, -⟩ := Node.exports_statement h
  exact ⟨j, hj⟩

/-! ## Conversions -/

theorem run_renderStatement (schema : Schema) (metadata : Metadata) (kind : StatementKind)
    (node : Node) (book : Log.Book) :
    ((renderStatement schema metadata kind node).run book).1.1 =
      ((renderWhole ⟨schema, metadata⟩ node).run.run { columns := schema.columns, book }).1.mapError
        (.ofFault kind) := by
  have htree : ((renderTree schema metadata node).run book).1.1 =
      ((renderWhole ⟨schema, metadata⟩ node).run.run { columns := schema.columns, book }).1 := rfl
  unfold renderStatement
  rw [run_logging_bind, ← htree]
  generalize (renderTree schema metadata node).run book = r
  obtain ⟨⟨result, after⟩, b⟩ := r
  cases result <;> rfl

/-- There is metadata for a statement, its own unless another one is given. -/
theorem metadataFor_statement {node : Node} (h : WellFormedStatement node) (query : String)
    (metadata? : Option Metadata) (book : Log.Book) :
    ∃ m, ((Converter.metadataFor node query metadata?).run book).1 = .ok m := by
  cases metadata? with
  | some m => exact ⟨m, rfl⟩
  | none =>
    obtain ⟨m, hm⟩ := Analyzer.analyze_statement h {} query book
    exact ⟨m, congrArg Prod.fst hm⟩

/-- A conversion is the rendering of the statement under its metadata. -/
theorem convert_eq {c : Converter} {query : String} {node : Node}
    (hparse : parse c.maxDepth query = .ok node) (metadata? : Option Metadata) (book : Log.Book) :
    ∃ m b b', ((Converter.metadataFor node query metadata?).run b).1 = .ok m ∧
      ((c.convert query metadata?).run book).1.1 =
        ((renderWhole ⟨c.schema, m⟩ node).run.run
          { columns := c.schema.columns, book := b' }).1.mapError
          (.ofFault (node.statementKind?.getD .select)) := by
  have hrun := run_parse_eq { maxDepth := c.maxDepth } query book
  rw [hparse] at hrun
  unfold Converter.convert
  rw [run_logging_bind]
  generalize (({ maxDepth := c.maxDepth } : Parser).parse query).run book = r at hrun
  obtain ⟨⟨parsed, p⟩, b⟩ := r
  obtain rfl : parsed = .ok node := hrun
  obtain ⟨m, hm⟩ := metadataFor_statement (wellFormed_of_parse hparse) query metadata? b
  refine ⟨m, b, ((Converter.metadataFor node query metadata?).run b).2, hm, ?_⟩
  dsimp only
  rw [run_logging_bind, hm]
  exact run_renderStatement _ _ _ _ _

/-- A whole statement gives its text, if nothing in it is refused. -/
theorem gives_renderWhole {z : Scope} {node : Node} (hz : z.schema.hasTexts = true)
    (h : WellFormedStatement node) :
    Gives ⟨z, none, none⟩ (renderWhole z node) (treeText ⟨z, none, none⟩ node)
      (Place.Free ⟨z, none, none⟩ node) :=
  Ends.iff ((renders_statement (q := ⟨z, none, none⟩) hz rfl rfl h).bind (.pure _))
    (and_iff_left trivial)

/-- A conversion ends with the text of the statement, or refuses it; the target of a relation has to
be a name. -/
theorem convert_outcome {c : Converter} {query : String} {node : Node}
    (hparse : parse c.maxDepth query = .ok node) (hz : c.schema.hasTexts = true)
    (metadata? : Option Metadata) (book : Log.Book) :
    ∃ m b, ((Converter.metadataFor node query metadata?).run b).1 = .ok m ∧
      (((c.convert query metadata?).run book).1.1 =
        .ok (treeText ⟨⟨c.schema, m⟩, none, none⟩ node) ∧
          Place.Free ⟨⟨c.schema, m⟩, none, none⟩ node ∨
        ∃ f, ((c.convert query metadata?).run book).1.1 =
          .error (.ofFault (node.statementKind?.getD .select) f) ∧
          Fault c.schema (Place.Free ⟨⟨c.schema, m⟩, none, none⟩ node) f) := by
  obtain ⟨m, b, b', hm, hconvert⟩ := convert_eq hparse metadata? book
  refine ⟨m, b, hm, ?_⟩
  rw [hconvert]
  have hend := gives_renderWhole (z := ⟨c.schema, m⟩) hz (wellFormed_of_parse hparse)
  generalize hrun : (renderWhole ⟨c.schema, m⟩ node).run.run
    { columns := c.schema.columns, book := b' } = r
  obtain ⟨result, after⟩ := r
  rcases hend ⟨rfl, rfl, rfl⟩ hrun with ⟨rfl, -, hfree⟩ | ⟨f, rfl, hfault⟩
  · exact .inl ⟨rfl, hfree⟩
  · exact .inr ⟨f, rfl, hfault⟩

/-- What a conversion writes is the text of the statement, in which nothing is refused. -/
theorem convert_text {c : Converter} {query sql : String} {metadata? : Option Metadata}
    {book : Log.Book} (hz : c.schema.hasTexts = true)
    (h : ((c.convert query metadata?).run book).1.1 = .ok sql) :
    ∃ node m b, parse c.maxDepth query = .ok node ∧
      ((Converter.metadataFor node query metadata?).run b).1 = .ok m ∧
      sql = treeText ⟨⟨c.schema, m⟩, none, none⟩ node ∧
      Place.Free ⟨⟨c.schema, m⟩, none, none⟩ node := by
  obtain ⟨node, -, -, -, hparse, -⟩ := convert_ok h
  obtain ⟨m, b, hm, ⟨hok, hfree⟩ | ⟨f, herror, -⟩⟩ := convert_outcome hparse hz metadata? book
  · rw [hok] at h
    cases h
    exact ⟨node, m, b, hparse, hm, rfl, hfree⟩
  · rw [herror] at h
    cases h

/-! ## Rejections -/

/-- A membership test, a `SIZE`, or a `NEW` without arguments. -/
def isUnsupported : Node → Bool
  | .memberOf .. => true
  | .call name _ _ known _ _ _ => known && name == "SIZE"
  | .constructor _ args _ => args.isEmpty
  | _ => false

/-- A statement has something that SQL does not have: it is an insert; outside of what joins without
an alias take along there is a membership test, a `SIZE` or a `NEW` without arguments; or such joins
are not dropped, and there is one. -/
def Schema.Rejects (s : Schema) (node : Node) : Prop :=
  node.statementKind? = some .insert ∨ (∃ m ∈ node.nodes false, isUnsupported m = true) ∨
    s.options.dropAliaslessJoins = false ∧ ∃ m ∈ node.nodes true, m.isAliasless = true

instance (s : Schema) (node : Node) : Decidable (s.Rejects node) :=
  inferInstanceAs (Decidable (_ ∨ _ ∨ _))

theorem isRefused_iff {drop : Bool} {m : Node} :
    isRefused drop m = true ↔
      m.statementKind? = some .insert ∨ isUnsupported m = true ∨
      drop = false ∧ m.isAliasless = true := by
  cases m <;> simp [isRefused, isUnsupported, Node.isAliasless, Node.statementKind?, and_comm]

theorem WellFormed.ne_insert {m : Node} (h : WellFormed m) : m.statementKind? ≠ some .insert := by
  cases h <;> exact nofun

/-- Only the statement itself can be an insert. -/
theorem eq_of_insert {n m : Node} (h : WellFormedStatement n) (hm : m ∈ n.nodes false)
    (hk : m.statementKind? = some .insert) : m = n := by
  rcases h.nodes m ((Node.mem_nodes_whole n).mpr (.inl hm)) with heq | hm
  · exact heq
  · exact absurd hk hm.ne_insert

theorem free_iff_not_rejects {q : Place} {n : Node} (h : WellFormedStatement n) :
    q.Free n ↔ ¬q.scope.schema.Rejects n := by
  unfold Place.Free Schema.Rejects
  rw [Node.exists_isAliasless_whole]
  simp only [← Bool.not_eq_true, isRefused_iff]
  constructor
  · rintro hfree (hk | ⟨m, hm, hu⟩ | ⟨hdrop, m, hm, ha⟩)
    · exact hfree n (Node.mem_nodes_self false n) (.inl hk)
    · exact hfree m hm (.inr (.inl hu))
    · exact hfree m hm (.inr (.inr ⟨by simpa using hdrop, ha⟩))
  · rintro hnot m hm (hk | hu | ⟨hdrop, ha⟩)
    · exact hnot (.inl (eq_of_insert h hm hk ▸ hk))
    · exact hnot (.inr (.inl ⟨m, hm, hu⟩))
    · exact hnot (.inr (.inr ⟨by simpa using hdrop, m, hm, ha⟩))

/--
Whatever a query can spell is exported and analyzed; an analyzer is outside of updates and deletes
then, wherever it was before. Under a schema whose tables and columns are texts and whose relations
lead to names, it is also converted, unless it has something that SQL does not have, and nothing
else can go wrong.
-/
theorem convert_rejects_iff (c : Converter) (query : String) (node : Node)
    (hparse : parse c.maxDepth query = .ok node) :
    (∃ json, node.dictionary = .ok json) ∧
      (∀ z text book, ∃ m, ((Analyzer.analyze z node text).run book).1 = (.ok m,
        { target := none })) ∧
      (c.schema.hasTexts = true → c.schema.hasTargets = true → ∀ metadata? book,
        ((∃ feature, ((c.convert query metadata?).run book).1.1 =
            .error (.unsupported feature (node.statementKind?.getD .select))) ↔
            c.schema.Rejects node) ∧
        ((∃ sql, ((c.convert query metadata?).run book).1.1 = .ok sql) ↔
          ¬c.schema.Rejects node)) := by
  have hwell := wellFormed_of_parse hparse
  refine ⟨dictionary_statement hwell, fun z text book =>
    Analyzer.analyze_statement hwell z text book, ?_⟩
  intro hz ht metadata? book
  obtain ⟨m, b, -, hend⟩ := convert_outcome hparse hz metadata? book
  rw [free_iff_not_rejects hwell] at hend
  rcases hend with ⟨hok, hfree⟩ | ⟨f, herror, hfault⟩
  · rw [hok]
    refine ⟨iff_of_false ?_ hfree, iff_of_true ⟨_, rfl⟩ hfree⟩
    rintro ⟨feature, hf⟩
    cases hf
  · rw [herror]
    cases hfault with
    | notAName typeName hno =>
      rw [ht] at hno
      cases hno
    | unsupported feature hrejects =>
      refine ⟨iff_of_true ⟨feature, rfl⟩ (not_not.mp hrejects), iff_of_false ?_ hrejects⟩
      rintro ⟨sql, hsql⟩
      cases hsql

/-- Sales with a relation to their items. -/
def itemSchema (drop : Bool) : Schema where
  options := { dropAliaslessJoins := drop }
  tables := ⟨[(.str "Sale", .str "sales")]⟩
  columns := ⟨[(.str "Sale", ⟨[(.str "id", .str "sale_id")]⟩)]⟩
  relations := ⟨[("Sale", ⟨[("items",
    { property := "items", targetEntity := .str "Item", joinColumn := .str "sale_id",
      targetTable := .str "items" })]⟩)]⟩

/-- A membership test goes with the join that is dropped; if the join is not dropped, the statement
is rejected. -/
theorem convert_rejects_aliasless :
    (∃ sql, ((({ schema := itemSchema true, maxDepth := 64 } : Converter).convert
        "SELECT s.id FROM Sale s JOIN s.items ON s.id MEMBER OF s.tags" none).run []).1.1 =
        .ok sql) ∧
      ∃ feature, ((({ schema := itemSchema false, maxDepth := 64 } : Converter).convert
        "SELECT s.id FROM Sale s JOIN s.items ON s.id MEMBER OF s.tags" none).run []).1.1 =
          .error (.unsupported feature .select) := by
  have hparse : parse 64 "SELECT s.id FROM Sale s JOIN s.items ON s.id MEMBER OF s.tags" =
      .ok (.select [.selectItem (.path ["s", "id"]) none]
      [.fromItem "Sale" (some "s") [.join .plain (.path ["s", "items"]) none false
        (some (.memberOf (.path ["s", "id"]) (.path ["s", "tags"]) false))]] false none []
        none []) := by
    with_unfolding_all rfl
  obtain ⟨-, -, hdrop⟩ :=
    convert_rejects_iff { schema := itemSchema true, maxDepth := 64 } _ _ hparse
  obtain ⟨-, -, hkeep⟩ :=
    convert_rejects_iff { schema := itemSchema false, maxDepth := 64 } _ _ hparse
  refine ⟨(hdrop (by decide +kernel) (by decide +kernel) none []).2.mpr (by decide +kernel), ?_⟩
  exact (hkeep (by decide +kernel) (by decide +kernel) none []).1.mpr (by decide +kernel)

end EntityQuery.Sql
