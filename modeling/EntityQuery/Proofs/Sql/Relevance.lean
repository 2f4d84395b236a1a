import EntityQuery.Proofs.Mapping.Lookup
import EntityQuery.Proofs.Metadata.Declared
import EntityQuery.Proofs.Sql.Agreement
import EntityQuery.Proofs.Sql.RecordedField

/-!
# Names that matter

A conversion looks up tables, columns and relations under a few names only: the entities of the
statement, the first names of its paths, and the targets of the relations that these entities have.
What a mapping says about any other name cannot change the result.

1. `convert_eq_of_findsSame`: schemas under which every node finds the same give the same result.
2. `convert_eq_of_relevant`: configurations that say the same about the relevant names give the same
   result.
-/

namespace EntityQuery

open Sql Grammar

namespace Sql

/-! ## Two schemas -/

theorem metadataFor_book {node : Node} (h : WellFormedStatement node) (query : String)
    (metadata? : Option Metadata) (book book' : Log.Book) :
    ((Converter.metadataFor node query metadata?).run book).1 =
      ((Converter.metadataFor node query metadata?).run book').1 := by
  cases metadata? with
  | some m => rfl
  | none => exact Node.analyze_book h query book book'

/-- Two converters under which every node of a statement finds the same convert it to the same SQL,
or refuse it for the same reason. -/
theorem convert_eq_of_findsSame (known : String → Prop) (c c' : Converter) {query : String}
    {node : Node}
    (metadata? : Option Metadata) {m : Metadata} {b : Log.Book} (hdepth : c.maxDepth = c'.maxDepth)
    (hparse : parse c.maxDepth query = .ok node)
    (hm : ((Converter.metadataFor node query metadata?).run b).1 = .ok m)
    (hcolumns : ∀ entity, known entity → ∀ field,
      c.schema.columns.column? entity field = c'.schema.columns.column? entity field)
    (hfinds : ∀ n ∈ node.nodes false, FindsSame known ⟨c.schema, m⟩ ⟨c'.schema, m⟩ n)
    (book book' : Log.Book) :
    ((c.convert query metadata?).run book).1.1 = ((c'.convert query metadata?).run book').1.1 := by
  obtain ⟨m₁, b₁, b₁', hm₁, hconvert⟩ := convert_eq hparse metadata? book
  obtain ⟨m₂, b₂, b₂', hm₂, hconvert'⟩ := convert_eq (hdepth ▸ hparse) metadata? book'
  have hnode := wellFormed_of_parse hparse
  rw [metadataFor_book hnode query metadata? b₁ b, hm] at hm₁
  rw [metadataFor_book hnode query metadata? b₂ b, hm] at hm₂
  cases hm₁
  cases hm₂
  have hwhole : Agrees known (renderWhole ⟨c.schema, m⟩ node) (renderWhole ⟨c'.schema, m⟩ node) :=
    (agree_render node hfinds).bind fun _ hp => .shown hp
  have hview : SameView known { columns := c.schema.columns, book := b₁' }
      { columns := c'.schema.columns, book := b₂' } :=
    ⟨rfl, rfl, fun _ h => (by cases h), hcolumns⟩
  rw [hconvert, hconvert', (hwhole hview).1]

end Sql

/-! ## Relevant names -/

/-- Two mappings say the same about a name. -/
structure Lookup.SameFor (l l' : Lookup) (name : Json) : Prop where
  table? : l.table? name = l'.table? name
  column? : ∀ entity, name = .str entity → ∀ field, l.column? entity field = l'.column? entity field
  relation? : ∀ entity, name = .str entity → ∀ property,
    l.relation? entity property = l'.relation? entity property

/-- The names that matter to a statement with the given metadata: its entities, the first names of
its paths of several names, among them the left sides of assignments, and the targets of the
relations of its entities. -/
inductive Lookup.Relevant (l : Lookup) (m : Metadata) (node : Node) : Json → Prop
  | entity {entity : String} (h : entity ∈ m.entities) : Relevant l m node (.str entity)
  | qualifier {first second : String} {rest : List String}
      (h : .path (first :: second :: rest) ∈ node.nodes true) :
      Relevant l m node (.str first)
  | target {entity property : String} {r : Relation} (h : entity ∈ m.entities)
      (hr : l.relation? entity property = some r) :
      Relevant l m node r.targetEntity

theorem Node.eq_path_of_pathParts {n : Node} {parts : List String} (h : n.pathParts = .ok parts) :
    n = .path parts := by
  cases n with
  | path own =>
    cases h
    rfl
  | _ => cases h

namespace Sql

open Node

variable {node : Node} {query : String} {m : Metadata} {book : Log.Book}

theorem contains_eq_of_get? {s s' : Schema} {name : Json}
    (h : s.tables.get? name = s'.tables.get? name) :
    s.tables.contains name = s'.tables.contains name := by
  rw [← Registry.isSome_get?, ← Registry.isSome_get?, h]

/-- The relation of a join is that of an entity of the statement. -/
theorem entity_of_joinRelation {s : Schema} (hnode : WellFormedStatement node)
    (hm : ((node.analyze query).run book).1 = .ok m) {parts : List String} {source : String}
    {r : Relation} (hr : joinRelation ⟨s, m⟩ parts = some (source, r)) :
    ∃ entity property, entity ∈ m.entities ∧ s.lookup.relation? entity property = some r := by
  unfold joinRelation at hr
  split at hr
  · next property =>
    obtain ⟨entity, hentity, hr⟩ := Option.bind_eq_some_iff.mp hr
    obtain ⟨relation, hrelation, hr⟩ := Option.bind_eq_some_iff.mp hr
    cases hr
    exact ⟨entity, property, mem_entities_of_entityOf? hnode hm hentity, hrelation⟩
  · cases hr

theorem joinRelation_of_relevant {s s' : Schema} (hnode : WellFormedStatement node)
    (hm : ((node.analyze query).run book).1 = .ok m)
    (h : ∀ name, s.lookup.Relevant m node name → s.lookup.SameFor s'.lookup name)
    (parts : List String) :
    joinRelation ⟨s, m⟩ parts = joinRelation ⟨s', m⟩ parts := by
  unfold joinRelation
  split
  · next source property =>
    dsimp only
    cases hentity : m.entityOf? source with
    | none => rfl
    | some entity =>
      have hrelation : s.relation? entity property = s'.relation? entity property :=
        (h _ (.entity (mem_entities_of_entityOf? hnode hm hentity))).relation? entity rfl property
      rw [Option.bind_eq_bind, Option.bind_eq_bind, Option.bind_some, Option.bind_some, hrelation]
  · rfl

/-- Schemas that say the same about the relevant names of a statement find the same at each of its
nodes. -/
theorem findsSame_of_relevant {s s' : Schema} (hnode : WellFormedStatement node)
    (hm : ((node.analyze query).run book).1 = .ok m) (hoptions : s.options = s'.options)
    (h : ∀ name, s.lookup.Relevant m node name → s.lookup.SameFor s'.lookup name) {n : Node}
    (hn : n ∈ node.nodes true) :
    FindsSame (fun entity => s.lookup.Relevant m node (.str entity)) ⟨s, m⟩ ⟨s', m⟩ n := by
  have hentities : SameEntities (fun entity => s.lookup.Relevant m node (.str entity)) m m :=
    ⟨fun _ => rfl, fun _ _ he => .entity (mem_entities_of_entityOf? hnode hm he)⟩
  have htable : ∀ {entity : String}, entity ∈ m.entities → s.table? entity = s'.table? entity := by
    intro entity he
    rw [Schema.table?, Schema.table?]
    exact congrArg Schema.nonNull? (h _ (.entity he)).table?
  have hdeclared : ∀ {entity : String} {asName : Option String},
      n.declares? = some (entity, asName) → entity ∈ m.entities :=
    fun hd => mem_entities_of_declares hnode hm hn hd
  cases n with
  | path parts =>
    refine agree_path hentities ?_
    rintro first second rest rfl
    exact ⟨.qualifier hn, contains_eq_of_get? (h _ (.qualifier hn)).table?⟩
  | assignment target value =>
    intro parts hparts
    refine agree_target hentities ?_
    rintro first second rest rfl
    rw [eq_path_of_pathParts hparts] at hn
    exact .qualifier (mem_nodes_of_mem_children hn List.mem_cons_self)
  | join kind along asName fetch condition =>
    refine ⟨agree_aliasless along hoptions, ?_⟩
    rintro parts name hparts rfl
    obtain rfl := eq_path_of_pathParts hparts
    have hrelation := joinRelation_of_relevant hnode hm h parts
    refine ⟨agree_joinHead kind ?_, fun _ head => agree_joinByRelation name head hoptions ?_⟩
    · rw [← hrelation]
      refine agree_joinTable hentities ⟨fun entity he => ?_, fun entity _ he => ?_⟩ ?_
        fun r hr => ?_
      · exact htable (mem_entities_of_entityOf? hnode hm he)
      · have hd : declares? (.join kind (.path parts) (some name) fetch condition) =
            some (entity, some name) := by
          rw [declares?, he]
          rfl
        exact htable (hdeclared hd)
      · cases joinRelation ⟨s, m⟩ parts with
        | none => exact .none
        | some x => exact .some ⟨rfl, rfl, fun _ => rfl⟩
      · obtain ⟨⟨source, r⟩, hjoin, rfl⟩ := Option.map_eq_some_iff.mp hr
        obtain ⟨entity, property, he, hr⟩ := entity_of_joinRelation hnode hm hjoin
        exact (h _ (.target he hr)).table?
    · rw [← hrelation]
      cases joinRelation ⟨s, m⟩ parts with
      | none => exact .none
      | some x => exact .some ⟨rfl, rfl, rfl, rfl⟩
  | fromItem entity asName joins => exact htable (hdeclared rfl)
  | update entity asName assignments condition =>
    exact ⟨.entity (hdeclared rfl), htable (hdeclared rfl)⟩
  | delete entity asName condition => exact ⟨.entity (hdeclared rfl), htable (hdeclared rfl)⟩
  | _ => exact trivial

/-- A fresh converter that takes a configuration over. -/
def Converter.configured (options : ConverterOptions) (maxDepth : Int) (config : MappingConfig) :
    Converter where
  schema := ({ options } : Schema).apply config
  maxDepth := maxDepth

theorem options_apply (s : Schema) (config : MappingConfig) :
    (s.apply config).options = s.options := by
  rw [Schema.apply_eq]

/--
What a configuration says about other names than the relevant ones cannot change a conversion. Two
configurations that have the same table, the same columns and the same relations for each relevant
name of a statement, or none, convert it to the same SQL or refuse it for the same reason.
-/
theorem convert_eq_of_relevant (options : ConverterOptions) (maxDepth : Int) (query : String)
    (node : Node) (m : Metadata) (hparse : parse maxDepth query = .ok node)
    (hm : ((node.analyze query).run []).1 = .ok m) (config config' : MappingConfig)
    (hc : config.Distinct) (hc' : config'.Distinct)
    (h : ∀ name, config.lookup.Relevant m node name → config.lookup.SameFor config'.lookup name)
    (book book' : Log.Book) :
    (((Converter.configured options maxDepth config).convert query none).run book).1.1 =
      (((Converter.configured options maxDepth config').convert query none).run book').1.1 := by
  have hnode := wellFormed_of_parse hparse
  rw [← lookup_apply hc options, ← lookup_apply hc' options] at h
  have hoptions : (Converter.configured options maxDepth config).schema.options =
      (Converter.configured options maxDepth config').schema.options :=
    (options_apply _ config).trans (options_apply _ config').symm
  have hfinds : ∀ n ∈ node.nodes false, _ :=
    fun n hn => findsSame_of_relevant hnode hm hoptions h ((mem_nodes_whole node).mpr (.inl hn))
  have hcolumns : ∀ entity, _ → ∀ field, _ :=
    fun entity hentity field => (h _ hentity).column? entity rfl field
  exact convert_eq_of_findsSame _ (.configured options maxDepth config)
    (.configured options maxDepth config') none rfl hparse hm hcolumns hfinds book book'

/-- Sales with a relation to articles. -/
def articleConfig : MappingConfig where
  entities := ⟨[(.str "Article", .str "articles")]⟩
  fields := ⟨[("Sale", ⟨[(.str "id", .str "sale_id")]⟩)]⟩
  relations := ⟨[("Sale", ⟨[("items",
    { property := "items", targetEntity := .str "Article", joinColumn := .str "sale_id" })]⟩)]⟩

/-- The same with buyers and tags. -/
def storeConfig : MappingConfig where
  entities := ⟨(.str "Buyer", .str "buyers") :: articleConfig.entities.entries⟩
  fields := ⟨("Buyer", ⟨[(.str "id", .str "nr")]⟩) :: articleConfig.fields.entries⟩
  relations :=
    ⟨("Tag",
      ⟨[("items",
        { property := "items", targetEntity := .str "Sale", joinColumn := .str "nr" })]⟩) ::
    articleConfig.relations.entries⟩

/-- Buyers and tags do not matter to a statement about sales and their items. -/
theorem convert_articles_store :
    (((Converter.configured {} 64 storeConfig).convert "SELECT s.id FROM Sale s JOIN s.items i"
      none).run []).1.1 =
      .ok "SELECT s.sale_id FROM sale s JOIN articles i ON i.sale_id = s.id" := by
  have hparse : parse 64 "SELECT s.id FROM Sale s JOIN s.items i" =
      .ok (.select [.selectItem (.path ["s", "id"]) none]
      [.fromItem "Sale" (some "s") [.join .plain (.path ["s", "items"]) (some "i") false none]]
      false none [] none []) := by
    with_unfolding_all rfl
  have hsql : (((Converter.configured {} 64 articleConfig).convert
      "SELECT s.id FROM Sale s JOIN s.items i" none).run []).1.1 =
      .ok "SELECT s.sale_id FROM sale s JOIN articles i ON i.sale_id = s.id" :=
      ok_of_toOption (by decide +kernel)
  obtain ⟨m, hm⟩ :=
    metadataFor_statement (wellFormed_of_parse hparse)
      "SELECT s.id FROM Sale s JOIN s.items i" none []
  have hentities : m.entities = ["Sale", "Item"] :=
    Except.ok.inj ((congrArg (Except.map Metadata.entities) hm).symm.trans
      (by with_unfolding_all rfl))
  have hsame : ∀ name ∈ ["Sale", "Item", "Article", "s"],
      articleConfig.lookup.SameFor storeConfig.lookup (.str name) := by
    simp only [List.forall_mem_cons]
    refine ⟨?_, ?_, ?_, ?_, List.forall_mem_nil _⟩
    all_goals
      refine ⟨by with_unfolding_all rfl, ?_, ?_⟩
      all_goals
        rintro _ ⟨⟩ _
        with_unfolding_all rfl
  rw [← hsql]
  refine (convert_eq_of_relevant {} 64 _ _ m hparse hm articleConfig storeConfig
    ⟨by decide +kernel, by decide +kernel, by decide +kernel⟩
    ⟨by decide +kernel, by decide +kernel, by decide +kernel⟩ (fun name hname => ?_) [] []).symm
  cases hname with
  | entity he =>
    rw [hentities] at he
    exact hsame _ (List.subset_append_left _ ["Article", "s"] he)
  | qualifier hq =>
    simp only [Node.nodes, Node.nodesOfList, Node.nodesOfOption] at hq
    obtain ⟨rfl, -⟩ : _ ∧ _ := by simpa [← and_or_left] using hq
    exact hsame _ (by decide)
  | target he hr =>
    rw [hentities] at he
    simp only [List.mem_cons, List.not_mem_nil, or_false] at he
    rcases he with rfl | rfl
    · obtain ⟨-, rfl⟩ : _ ∧ _ = _ := by
        simpa [articleConfig, MappingConfig.lookup, Registry.get?] using hr
      exact hsame _ (by decide)
    · cases hr

end Sql

end EntityQuery
