import EntityQuery.Proofs.Sql.JoinClause
import EntityQuery.Proofs.Sql.Relevance

/-!
# Conditions of joins

A join with a condition of its own keeps it, whatever relation it goes along: the relation only
decides the table. So the columns of relations matter only to joins without a condition, and their
join types and source tables to none.

1. `convert_eq_of_sameUpTo`: configurations whose relations go to the same tables, over the same
   columns where a join needs them, give the same result.
2. `convert_conditions`: what may differ between two configurations, and with which condition, if
   any, the joins of a converted statement are written.
-/

namespace EntityQuery

open Sql Grammar

/-! ## Configurations with other relations -/

/-- Two relations differ at most in their columns, in being collections, in their join types and in
their source tables. -/
def Relation.SameButColumns (r r' : Relation) : Prop :=
  { r with
    joinColumn := r'.joinColumn
    referencedColumn := r'.referencedColumn
    isCollection := r'.isCollection
    joinType := r'.joinType
    sourceTable := r'.sourceTable } = r'

/-- Two relations differ at most in their join types and in their source tables. -/
def Relation.SameButHints (r r' : Relation) : Prop :=
  { r with joinType := r'.joinType, sourceTable := r'.sourceTable } = r'

/-- Two configurations have the same tables and columns, and relations along the same properties
that are the same in some respect. -/
structure MappingConfig.SameUpTo (R : Relation → Relation → Prop) (config config' : MappingConfig) :
    Prop where
  entities : config.entities = config'.entities
  fields : config.fields = config'.fields
  relation? : ∀ entity property, Option.Rel R (config.lookup.relation? entity property)
    (config'.lookup.relation? entity property)

/-- A join with an alias and without a condition of its own. -/
def Node.isUnconditional : Node → Bool
  | .join _ _ (some _) _ none => true
  | _ => false

namespace Relation

theorem SameButColumns.sameTarget {r r' : Relation} (h : r.SameButColumns r') :
    SameTarget r r' := by
  rw [← show _ = r' from h]
  exact ⟨rfl, rfl, fun _ => rfl⟩

theorem SameButHints.sameTarget {r r' : Relation} (h : r.SameButHints r') : SameTarget r r' := by
  rw [← show _ = r' from h]
  exact ⟨rfl, rfl, fun _ => rfl⟩

theorem SameButHints.sameColumns {r r' : Relation} (h : r.SameButHints r') : SameColumns r r' := by
  rw [← show _ = r' from h]
  exact ⟨rfl, rfl, rfl⟩

end Relation

namespace Sql

variable {z z' : Scope} {R : Relation → Relation → Prop}

/-- A join goes along relations that are the same in some respect. -/
theorem sameJoin_joinRelation (hm : z.metadata = z'.metadata)
    (hr : ∀ entity property, Option.Rel R (z.schema.relation? entity property)
      (z'.schema.relation? entity property))
    (parts : List String) :
    Option.Rel (SameJoin R) (joinRelation z parts) (joinRelation z' parts) := by
  unfold joinRelation
  split
  · next source property =>
    rw [← hm]
    cases z.metadata.entityOf? source with
    | none => exact .none
    | some entity =>
      have hrelation := hr entity property
      simp only [Option.bind_eq_bind, Option.bind_some]
      cases h : z.schema.relation? entity property <;> cases h' : z'.schema.relation? entity
        property <;> rw [h, h'] at hrelation <;> cases hrelation
      · exact .none
      · next hsame => exact .some ⟨rfl, hsame⟩
  · exact .none

theorem relMap_snd {x y : Option (String × Relation)} (h : Option.Rel (SameJoin R) x y) :
    Option.Rel R (x.map Prod.snd) (y.map Prod.snd) := by
  cases h with
  | none => exact .none
  | some hsame => exact .some hsame.2

/-- Schemas that differ in their relations find the same at a node, if the relations go to the same
tables, and over the same columns where a join takes its condition from them. -/
theorem findsSame_of_sameTarget (z z' : Scope) (hm : z.metadata = z'.metadata)
    (hoptions : z.schema.options = z'.schema.options) (htables : z.schema.tables = z'.schema.tables)
    (htarget : ∀ entity property, Option.Rel SameTarget (z.schema.relation? entity property)
      (z'.schema.relation? entity property))
    {n : Node} (hcolumns : n.isUnconditional = true → ∀ entity property,
      Option.Rel SameColumns (z.schema.relation? entity property)
        (z'.schema.relation? entity property)) :
    FindsSame (fun _ => True) z z' n := by
  have hentities : SameEntities (fun _ => True) z.metadata z'.metadata :=
    ⟨fun _ => by rw [hm], fun _ _ _ => trivial⟩
  have htable : ∀ entity, z.schema.table? entity = z'.schema.table? entity := by
    intro entity
    rw [Schema.table?, Schema.table?, htables]
  cases n with
  | path parts => exact agree_path hentities fun _ _ _ _ => ⟨trivial, by rw [htables]⟩
  | assignment target value => exact fun parts _ => agree_target hentities fun _ _ _ _ => trivial
  | join kind along asName fetch condition =>
    refine ⟨agree_aliasless along hoptions, ?_⟩
    rintro parts name - rfl
    refine ⟨agree_joinHead kind ?_, ?_⟩
    · refine agree_joinTable hentities ⟨fun _ _ => htable _, fun _ _ _ => htable _⟩ ?_ fun _ _ => by
        rw [htables]
      exact relMap_snd (sameJoin_joinRelation hm htarget parts)
    · rintro rfl head
      exact agree_joinByRelation name head hoptions (sameJoin_joinRelation hm (hcolumns rfl) parts)
  | fromItem entity asName joins => exact htable entity
  | update entity asName assignments condition => exact ⟨trivial, htable entity⟩
  | delete entity asName condition => exact ⟨trivial, htable entity⟩
  | _ => exact trivial

/-- A query that is malformed is refused for that, whatever the schema. -/
theorem convert_of_malformed {c : Converter} {query : String} {e : QueryError}
    (hparse : parse c.maxDepth query = .error e) (metadata? : Option Metadata) (book : Log.Book) :
    ((c.convert query metadata?).run book).1.1 = .error (.malformed e) := by
  have hrun := run_parse_eq { maxDepth := c.maxDepth } query book
  rw [hparse] at hrun
  unfold Converter.convert
  rw [run_logging_bind]
  generalize (({ maxDepth := c.maxDepth } : Parser).parse query).run book = r at hrun
  obtain ⟨⟨parsed, p⟩, b⟩ := r
  obtain rfl : parsed = .error e := hrun
  rfl

/-- Configurations whose relations go to the same tables, and over the same columns where a join
needs them, give the same result. -/
theorem convert_eq_of_sameUpTo {options : ConverterOptions} {maxDepth : Int} {query : String}
    {config config' : MappingConfig}
    (h : config.SameUpTo R config') (htarget : ∀ r r', R r r' → SameTarget r r')
    (hcolumns : ∀ node, parse maxDepth query = .ok node → ∀ n ∈ node.nodes false,
      n.isUnconditional = true →
      ∀ r r', R r r' → SameColumns r r') (metadata? : Option Metadata) (book book' : Log.Book) :
    (((Converter.configured options maxDepth config).convert query metadata?).run book).1.1 =
      (((Converter.configured options maxDepth config').convert query metadata?).run
        book').1.1 := by
  have hrelation : ∀ {S : Relation → Relation → Prop}, (∀ r r', R r r' → S r r') →
      ∀ entity property,
      Option.Rel S ((Converter.configured options maxDepth config).schema.relation? entity property)
        ((Converter.configured options maxDepth config').schema.relation? entity property) := by
    intro S hS entity property
    rw [Converter.configured, Converter.configured, relation?_apply, relation?_apply]
    have hrel := h.relation? entity property
    generalize config.lookup.relation? entity property = r? at hrel ⊢
    generalize config'.lookup.relation? entity property = r'? at hrel ⊢
    cases hrel with
    | none => exact .none
    | some hR => exact .some (hS _ _ hR)
  have hschema : ∀ c, (Converter.configured options maxDepth c).schema =
      { options, tables := c.entities.entries.foldl (fun r e => r.put e.1 e.2) {}
        columns := c.fields.entries.foldl (fun c e => c.putAll e.1 e.2) {}
        relations := if c.relations.isEmpty then {} else c.relations } :=
        fun c => Schema.apply_eq _ c
  cases hparse : parse maxDepth query with
  | error e =>
    rw [convert_of_malformed (c := .configured options maxDepth config) hparse,
      convert_of_malformed (c := .configured options maxDepth config') hparse]
  | ok node =>
    obtain ⟨m, hm⟩ := metadataFor_statement (wellFormed_of_parse hparse) query metadata? []
    refine convert_eq_of_findsSame (fun _ => True) (.configured options maxDepth config)
      (.configured options maxDepth config') metadata? rfl hparse hm ?_ ?_ book book'
    · intro entity _ field
      rw [hschema, hschema, h.fields]
    · intro n hn
      refine findsSame_of_sameTarget ⟨(Converter.configured options maxDepth config).schema, m⟩
        ⟨(Converter.configured options maxDepth config').schema, m⟩ rfl ?_ ?_
        (hrelation htarget) fun hu =>
          hrelation (hcolumns node hparse n hn hu)
      · rw [hschema, hschema]
      · rw [hschema, hschema, h.entities]

/--
A condition of its own wins over the relation of a join.

If every join with an alias has one, then columns and everything else about relations but their
targets do not matter. Join types and source tables never matter.

A converted statement has the texts of all its sources and of all its joins with an alias in it. The
text of such a join is never anything but its table and its alias with its own condition behind
them, or else with the equation of the relation along its path, or with nothing; and that of a
source is its table, its alias and the texts of these joins. Where the statement can be read again,
these are its joins, with a condition exactly where there is one.
-/
theorem convert_conditions (options : ConverterOptions) (maxDepth : Int) (query : String)
    (metadata? : Option Metadata) (config : MappingConfig) (book : Log.Book) :
    (∀ config' book', config.SameUpTo Relation.SameButColumns config' →
      (∀ node, parse maxDepth query = .ok node → ∀ n ∈ node.nodes false,
        n.isUnconditional = false) →
      (((Converter.configured options maxDepth config).convert query metadata?).run book).1.1 =
        (((Converter.configured options maxDepth config').convert query metadata?).run book').1.1) ∧
    (∀ config' book', config.SameUpTo Relation.SameButHints config' →
      (((Converter.configured options maxDepth config).convert query metadata?).run book).1.1 =
        (((Converter.configured options maxDepth config').convert query metadata?).run book').1.1) ∧
    ∀ (c : Converter) sql, ((c.convert query metadata?).run book).1.1 = .ok sql →
      ∃ node m, parse c.maxDepth query = .ok node ∧
        (metadata? = some m ∨ metadata? = none ∧ ∃ b, ((node.analyze query).run b).1 = .ok m) ∧
        (∀ n ∈ node.nodes false, isSourcePart n = true →
          ∃ w, RenderedAs ⟨c.schema, m⟩ n w ∧ w.toList <:+: sql.toList) ∧
        (∀ kind parts name fetch condition,
          .join kind (.path parts) (some name) fetch condition ∈ node.nodes false →
          Always (render ⟨c.schema, m⟩ (.join kind (.path parts) (some name) fetch condition))
            fun p => ∃ clause,
              p = .text (Place.joinText ⟨⟨c.schema, m⟩, none, none⟩ kind parts name ++ clause) ∧
              match condition, joinRelation ⟨c.schema, m⟩ parts with
              | some e, _ => ∃ s test t,
                (renderWhole ⟨c.schema, m⟩ e).run.run s = (.ok test, t) ∧ clause = " ON " ++ test
              | none, some _ => ∃ equation,
                Place.joinEquation? ⟨⟨c.schema, m⟩, none, none⟩ parts name = some equation ∧
                clause = " ON " ++ equation.text
              | none, none => clause = "") ∧
        (∀ entity asName joins, .fromItem entity asName joins ∈ node.nodes false →
          Always (render ⟨c.schema, m⟩ (.fromItem entity asName joins)) fun p =>
            ∃ texts, List.Forall₂ (RenderedAs ⟨c.schema, m⟩) (joins.filter isAliased) texts ∧
              p = .text (" ".intercalate
                (Place.table ⟨⟨c.schema, m⟩, none, none⟩ entity :: asName.toList ++ texts))) ∧
        (isWritable ⟨c.schema, m⟩ node = true →
          ∃ t, (∀ limit : Int, t.depth ≤ limit → parse limit sql = .ok t) ∧
            marks joinMark? t = marks (Scope.joinMark? ⟨c.schema, m⟩) node) := by
  refine ⟨fun config' book' h hown => ?_, fun config' book' h => ?_, fun c sql hsql => ?_⟩
  · refine convert_eq_of_sameUpTo h (fun _ _ => Relation.SameButColumns.sameTarget)
      (fun node hparse n hn hu => ?_) metadata? book book'
    rw [hown node hparse n hn] at hu
    cases hu
  · exact convert_eq_of_sameUpTo h (fun _ _ => Relation.SameButHints.sameTarget)
      (fun _ _ _ _ _ _ _ => Relation.SameButHints.sameColumns) metadata? book book'
  · obtain ⟨node, m, b, b', hparse, hm, hrender⟩ := convert_ok hsql
    have hnode := wellFormed_of_parse hparse
    refine ⟨node, m, hparse, (metadataFor_ok hm).imp_right fun hnone => ⟨hnone.1, b, hnone.2⟩,
      shows_renderWhole hnode hrender, ?_, ?_, fun hw => ?_⟩
    · intro kind parts name fetch condition hjoin
      cases wellFormed_of_isSourcePart hnode hjoin rfl with
      | join _ ha _ =>
        refine (always_join (ne_empty_of_nameText ha name rfl)).mono ?_
        rintro _ ⟨clause, hclause, rfl⟩
        refine ⟨clause, rfl, ?_⟩
        cases condition with
        | some e => exact hclause
        | none =>
          obtain rfl : clause =
              onText (Place.joinEquation? ⟨⟨c.schema, m⟩, none, none⟩ parts name) := hclause
          rw [Place.joinEquation?]
          cases joinRelation ⟨c.schema, m⟩ parts with
          | none => rfl
          | some step => exact ⟨_, rfl, rfl⟩
    · intro entity asName joins hsource
      cases wellFormed_of_isSourcePart hnode hsource rfl with
      | fromItem _ ha hk hj => exact always_fromItem (ne_empty_of_nameText ha) hj hk
    · exact ⟨_, fun limit hd => parse_renderWhole hparse hw hrender hd,
        marks_translate_statement hnode (kind_ne_insert hrender)⟩

/-- Sales with a relation to articles over another column, of another join type. -/
def billConfig : MappingConfig where
  entities := articleConfig.entities
  fields := articleConfig.fields
  relations := ⟨[("Sale", ⟨[("items",
    { property := "items", targetEntity := .str "Article", joinColumn := .str "bill",
      isCollection := .bool false
      joinType := .left, sourceTable := .str "sales" })]⟩)]⟩

/-- The articles, where `s` stands for sales. -/
def articleScope : Scope where
  schema := (Converter.configured {} 64 articleConfig).schema
  metadata := { aliases := ⟨[("s", "Sale")]⟩ }

/-- A join along a relation. -/
def itemsJoin : Node :=
  .join .plain (.path ["s", "items"]) (some "i") false none

/-- A join along none. -/
def buyerJoin : Node :=
  .join .left (.path ["s", "buyer"]) (some "b") false none

/-- A condition stays as it is, also in a sub-query, under a relation over another column. Without
one, a join has the equation of its relation, or none. -/
theorem convert_bill :
    (((Converter.configured {} 64 billConfig).convert
      ("SELECT 1 FROM Sale s JOIN s.items i ON i.nr = 1 " ++
       "WHERE EXISTS (SELECT 2 FROM Sale t JOIN t.items j ON 3 = 4)")
      none).run []).1.1 =
        .ok ("SELECT 1 FROM sale s JOIN articles i ON i.nr = 1 " ++
          "WHERE EXISTS (SELECT 2 FROM sale t JOIN articles j ON 3 = 4)") ∧
    Always (render articleScope itemsJoin) (· = .text "JOIN articles i ON i.sale_id = s.id") ∧
    Always (render articleScope buyerJoin) (· = .text "LEFT JOIN buyer b") ∧
    Always (render articleScope (.fromItem "Sale" (some "s") [itemsJoin, buyerJoin]))
      (· = .text "sale s JOIN articles i ON i.sale_id = s.id LEFT JOIN buyer b") := by
  constructor
  · have hsql : (((Converter.configured {} 64 articleConfig).convert
        ("SELECT 1 FROM Sale s JOIN s.items i ON i.nr = 1 " ++
         "WHERE EXISTS (SELECT 2 FROM Sale t JOIN t.items j ON 3 = 4)")
        none).run []).1.1 =
          .ok ("SELECT 1 FROM sale s JOIN articles i ON i.nr = 1 " ++
            "WHERE EXISTS (SELECT 2 FROM sale t JOIN articles j ON 3 = 4)") :=
      ok_of_toOption (by decide +kernel)
    have hown : (parse 64
        ("SELECT 1 FROM Sale s JOIN s.items i ON i.nr = 1 " ++
         "WHERE EXISTS (SELECT 2 FROM Sale t JOIN t.items j ON 3 = 4)")).toOption.all
        (fun node => (node.nodes false).all fun n => !n.isUnconditional) = true := by
      decide +kernel
    rw [← hsql]
    refine ((convert_conditions {} 64 _ none articleConfig []).1 billConfig []
      ⟨rfl, rfl, ?_⟩ ?_).symm
    · intro entity property
      by_cases he : "Sale" = entity
      · by_cases hp : "items" = property
        · subst he hp
          exact .some rfl
        · simp [articleConfig, billConfig, MappingConfig.lookup, Registry.get?, he, hp]
      · simp [articleConfig, billConfig, MappingConfig.lookup, Registry.get?, he]
    · intro node hparse n hn
      rw [hparse] at hown
      simpa using List.all_eq_true.mp hown n hn
  · have hparse : parse 64 "SELECT 1 FROM Sale s JOIN s.items i LEFT JOIN s.buyer b" = .ok (.select
        [.selectItem (.literal "1" .integer) none]
        [.fromItem "Sale" (some "s") [itemsJoin, buyerJoin]] false none [] none []) := by
      with_unfolding_all rfl
    have hsql : (((Converter.configured {} 64 articleConfig).convert
        "SELECT 1 FROM Sale s JOIN s.items i LEFT JOIN s.buyer b"
        (some articleScope.metadata)).run []).1.1 =
          .ok "SELECT 1 FROM sale s JOIN articles i ON i.sale_id = s.id LEFT JOIN buyer b" :=
      ok_of_toOption (by decide +kernel)
    obtain ⟨node, m, hnode, hm, -, hjoin, hsource, -⟩ :=
      (convert_conditions {} 64 _ (some articleScope.metadata) articleConfig []).2.2
        (.configured {} 64 articleConfig) _ hsql
    obtain rfl : articleScope.metadata = m := by simpa using hm
    obtain rfl := Except.ok.inj (hparse.symm.trans hnode)
    have hitems : Always (render articleScope itemsJoin)
        (· = .text "JOIN articles i ON i.sale_id = s.id") := by
      have hmem := hjoin .plain ["s", "items"] "i" false none
        (by simp [Node.nodes, Node.nodesOfList, itemsJoin])
      refine hmem.mono ?_
      rintro _ ⟨clause, rfl, equation, hequation, rfl⟩
      cases hequation
      rfl
    have hbuyer : Always (render articleScope buyerJoin) (· = .text "LEFT JOIN buyer b") := by
      have hmem := hjoin .left ["s", "buyer"] "b" false none
        (by simp [Node.nodes, Node.nodesOfList, buyerJoin])
      refine hmem.mono ?_
      rintro _ ⟨clause, rfl, rfl⟩
      rfl
    have hboth :=
      hsource "Sale" (some "s") [itemsJoin, buyerJoin] (by simp [Node.nodes, Node.nodesOfList])
    refine ⟨hitems, hbuyer, hboth.mono ?_⟩
    rintro _ ⟨texts, htexts, rfl⟩
    obtain _ | ⟨⟨s, t, h⟩, _ | ⟨⟨s', t', h'⟩, _ | _⟩⟩ := htexts
    cases hitems h
    cases hbuyer h'
    rfl

end Sql

end EntityQuery
