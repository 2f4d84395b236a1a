import EntityQuery.Proofs.Grammar.Wording
import EntityQuery.Proofs.Metadata.Encounter
import EntityQuery.Proofs.Sql.Agreement
import EntityQuery.Proofs.Sql.Conversion

/-!
# Conversions of the same wording

Two queries with the same wording are converted to the same SQL. They have the same tree, the
analyses of that tree under two query texts say the same about aliases, and a rendering sees neither
the query text nor the log.
-/

namespace EntityQuery

/-- A parser leaves the place and the depth of its run behind. -/
theorem run_parse (p : Parser) {query : String} (h : (scan query).error? = none) (book : Log.Book) :
    let run := parseStream p.maxDepth (Stream.start (scan query).tokens (.ending (scan query).stop))
    ((p.parse query).run book).1 = (run.result.mapError .grammatical,
      { p with tokens := (scan query).stored, pos := run.pos, depth := run.depth }) := by
  unfold Parser.parse
  dsimp only
  rw [Sql.run_logging_bind, h]
  dsimp only
  generalize parseStream p.maxDepth
    (Stream.start (scan query).tokens (.ending (scan query).stop)) = run
  cases run.result with
  | ok node => rfl
  | error e => rfl

/-- A parser that reads two queries with the same wording comes to the same end. -/
theorem run_parse_reworded (p : Parser) {query query' : String} {ts us : List Token}
    (hts : tokenize query = .ok ts) (hus : tokenize query' = .ok us) (h : SameWording ts us)
    (book book' : Log.Book) :
    ((p.parse query).run book).1.2.pos = ((p.parse query').run book').1.2.pos ∧
      ((p.parse query).run book).1.2.depth = ((p.parse query').run book').1.2.depth ∧
      ((∃ node, ((p.parse query).run book).1.1 = .ok node ∧
        ((p.parse query').run book').1.1 = .ok node) ∨
        ∃ e e', ((p.parse query).run book).1.1 = .error (.grammatical e) ∧
          ((p.parse query').run book').1.1 = .error (.grammatical e') ∧ e.fault = e'.fault ∧
          Beside ts us e.token e'.token) := by
  obtain ⟨herror, rfl⟩ := tokenize_eq_ok.mp hts
  obtain ⟨herror', rfl⟩ := tokenize_eq_ok.mp hus
  rw [run_parse p herror, run_parse p herror']
  obtain ⟨hpos, hdepth, hresult⟩ := parseStream_reworded h p.maxDepth
  refine ⟨hpos, hdepth, ?_⟩
  rcases hresult with ⟨node, hnode, hnode'⟩ | ⟨e, e', he, he', hfault, htoken⟩
  · rw [hnode, hnode']
    exact .inl ⟨node, rfl, rfl⟩
  · rw [he, he']
    exact .inr ⟨e, e', rfl, rfl, hfault, htoken⟩

namespace Sql

/-! ## Metadata that differ in the query text -/

theorem joinRelation_congr {schema : Schema} {m m' : Metadata}
    (h : ∀ name, m.entityOf? name = m'.entityOf? name) (parts : List String) :
    joinRelation ⟨schema, m⟩ parts = joinRelation ⟨schema, m'⟩ parts := by
  unfold joinRelation
  simp only [h]

/-- Under one schema, metadata that say the same about aliases find the same names everywhere. -/
theorem findsSame_of_sameEntities {schema : Schema} {m m' : Metadata}
    (h : SameEntities (fun _ => True) m m') (n : Node) :
    FindsSame (fun _ => True) ⟨schema, m⟩ ⟨schema, m'⟩ n := by
  cases n with
  | path parts => exact agree_path h fun _ _ _ _ => ⟨trivial, rfl⟩
  | assignment target value => exact fun parts _ => agree_target h fun _ _ _ _ => trivial
  | join kind along asName fetch condition =>
    refine ⟨agree_aliasless along rfl, fun parts name _ _ =>
      ⟨agree_joinHead kind ?_, fun _ head => ?_⟩⟩
    · rw [← joinRelation_congr h.entityOf? parts]
      refine agree_joinTable h ⟨fun _ _ => rfl, fun _ _ _ => rfl⟩ ?_ fun _ _ => rfl
      cases joinRelation ⟨schema, m⟩ parts with
      | none => exact .none
      | some x => exact .some ⟨rfl, rfl, fun _ => rfl⟩
    · refine agree_joinByRelation name head rfl ?_
      rw [← joinRelation_congr h.entityOf? parts]
      cases joinRelation ⟨schema, m⟩ parts with
      | none => exact .none
      | some x => exact .some ⟨rfl, rfl, rfl, rfl⟩
  | fromItem entity asName joins => exact rfl
  | update entity asName assignments condition => exact ⟨trivial, rfl⟩
  | delete entity asName condition => exact ⟨trivial, rfl⟩
  | _ => exact trivial

/-- The metadata of one tree under two query texts say the same about aliases. -/
theorem sameEntities_metadataFor {node : Node} {query query' : String} {metadata? : Option Metadata}
    {m m' : Metadata} {book book' : Log.Book}
    (hm : ((Converter.metadataFor node query metadata?).run book).1 = .ok m)
    (hm' : ((Converter.metadataFor node query' metadata?).run book').1 = .ok m') :
    SameEntities (fun _ => True) m m' := by
  refine ⟨fun name => ?_, fun _ _ _ => trivial⟩
  cases metadata? with
  | some given =>
    cases hm
    cases hm'
    rfl
  | none => rw [Node.analyze_entityOf? hm name, Node.analyze_entityOf? hm' name]

/-- Two queries with the same tree are converted to the same SQL, or refused for the same reason. -/
theorem convert_eq_of_parse {c : Converter} {query query' : String} {node : Node}
    (h : parse c.maxDepth query = .ok node) (h' : parse c.maxDepth query' = .ok node)
    (metadata? : Option Metadata) (book book' : Log.Book) :
    ((c.convert query metadata?).run book).1.1 = ((c.convert query' metadata?).run book').1.1 := by
  obtain ⟨m, b, b₁, hm, hconvert⟩ := convert_eq h metadata? book
  obtain ⟨m', b', b₁', hm', hconvert'⟩ := convert_eq h' metadata? book'
  have hrender : AgreeOn (fun _ => True) (render ⟨c.schema, m⟩ node) (render ⟨c.schema, m'⟩ node) :=
    agree_render node fun n _ => findsSame_of_sameEntities (sameEntities_metadataFor hm hm') n
  have hwhole : Agrees (fun _ => True) (renderWhole ⟨c.schema, m⟩ node)
      (renderWhole ⟨c.schema, m'⟩ node) :=
    hrender.bind fun _ hp => .shown hp
  have hview : SameView (fun _ => True) { columns := c.schema.columns, book := b₁ }
      { columns := c.schema.columns, book := b₁' } :=
    ⟨rfl, rfl, fun _ _ => trivial, fun _ _ _ => rfl⟩
  rw [hconvert, hconvert', (hwhole hview).1]

/--
Layout and the spelling of structuring words do not count. A parser reads two queries with the same
wording as the same tree, or stops at the same token of both, at the same place and depth. If the
queries are read, they are converted to the same SQL, or refused for the same reason, with any
schema and any options.
-/
theorem parse_convert_reworded (query query' : String) (ts us : List Token)
    (hts : tokenize query = .ok ts) (hus : tokenize query' = .ok us) (h : SameWording ts us) :
    (∀ (p : Parser) (book book' : Log.Book),
      ((p.parse query).run book).1.2.pos = ((p.parse query').run book').1.2.pos ∧
        ((p.parse query).run book).1.2.depth = ((p.parse query').run book').1.2.depth ∧
        ((∃ node, ((p.parse query).run book).1.1 = .ok node ∧
          ((p.parse query').run book').1.1 = .ok node) ∨
          ∃ e e', ((p.parse query).run book).1.1 = .error (.grammatical e) ∧
            ((p.parse query').run book').1.1 = .error (.grammatical e') ∧ e.fault = e'.fault ∧
            Beside ts us e.token e'.token)) ∧
      ∀ (c : Converter) (metadata? : Option Metadata) (book book' : Log.Book) (node : Node),
        parse c.maxDepth query = .ok node →
          ((c.convert query metadata?).run book).1.1 =
          ((c.convert query' metadata?).run book').1.1 := by
  refine ⟨fun p book book' => run_parse_reworded p hts hus h book book',
    fun c metadata? book book' node hnode => ?_⟩
  obtain ⟨-, -, hresult⟩ := run_parse_reworded { maxDepth := c.maxDepth } hts hus h book book'
  rw [run_parse_eq, run_parse_eq, hnode] at hresult
  rcases hresult with ⟨_, ⟨⟩, hnode'⟩ | ⟨e, e', he, -, -, -⟩
  · exact convert_eq_of_parse hnode hnode' metadata? book book'
  · cases he

/-- The first word may be spelled in any case; behind the point it is a name. -/
theorem parse_convert_reworded_delete :
    parse 64 "delete\n a.Delete" = .ok (.delete "a.Delete" none none) ∧
      ((({} : Converter).convert "DELETE a.Delete" none).run []).1.1 =
        ((({} : Converter).convert "delete\n a.Delete" none).run []).1.1 := by
  have hts : tokenize "DELETE a.Delete" =
      .ok [⟨.reserved .delete, "DELETE", ⟨1, 1, 0⟩⟩, ⟨.identifier, "a", ⟨1, 8, 7⟩⟩,
        ⟨.symbol .dot, ".", ⟨1, 9, 8⟩⟩, ⟨.reserved .delete, "Delete", ⟨1, 10, 9⟩⟩,
        .ending ⟨1, 16, 15⟩] := by
    with_unfolding_all rfl
  have hus : tokenize "delete\n a.Delete" =
      .ok [⟨.reserved .delete, "delete", ⟨1, 1, 0⟩⟩, ⟨.identifier, "a", ⟨2, 2, 8⟩⟩,
        ⟨.symbol .dot, ".", ⟨2, 3, 9⟩⟩, ⟨.reserved .delete, "Delete", ⟨2, 4, 10⟩⟩,
        .ending ⟨2, 10, 16⟩] := by
    with_unfolding_all rfl
  have hparse : parse 64 "DELETE a.Delete" = .ok (.delete "a.Delete" none none) := by
    with_unfolding_all rfl
  have hsame := parse_convert_reworded _ _ _ _ hts hus ⟨rfl, ?_⟩
  · refine ⟨by with_unfolding_all rfl, hsame.2 {} none [] [] _ hparse⟩
  · intro i t u ht hu
    match i with
    | 0 =>
      cases ht
      exact .inr ⟨rfl, fun j v hj => by omega⟩
    | 1 | 2 | 3 | 4 =>
      cases ht
      cases hu
      exact .inl rfl
    | n + 5 => cases ht

end Sql

end EntityQuery
