import EntityQuery.Proofs.Grammar.Completeness
import EntityQuery.Proofs.Sql.WrittenStatement
import EntityQuery.Sql.Converter

/-!
# Conversions are read again

The text of a conversion is a query of its own. Read as one, it gives the translated statement:
rendering keeps the grouping of operators, runs no two tokens together, and neither loses nor moves
a clause.

1. `derives_writes`: what the grammar derives is written as its translation, by induction on the
   derivation.
2. `convert_ok`: which statement and which metadata a conversion has rendered.
3. `parse_convert`: the text of a conversion is read as the translated statement.
-/

namespace EntityQuery.Sql

open Grammar

/-! ## Derivations -/

theorem Proper.of_subset {ts us : List Token} (h : Proper ts) (hu : ∀ t ∈ us, t ∈ ts) : Proper us :=
  fun t ht => h t (hu t ht)

/-- What the grammar derives from the tokens of a text is written as its translation. -/
theorem derives_writes {p : Phrase} {ts : List Token} (h : Derives false p ts) (hp : Proper ts) :
    PhraseWrites p := by
  -- One lemma for each rule; the tokens of the parts are spelled as they should because they are
  -- among those of the whole.
  induction h with
  | tighter _ ih => exact writes_tighter (ih hp)
  | @binary t l r us vs op ho _ _ ihl ihr =>
    exact writes_binary ho (hp op (by simp)) (ihl (hp.of_subset (by simp +contextual)))
      (ihr (hp.of_subset (by simp +contextual)))
  | not _ _ ih => exact writes_not (ih (hp.of_subset (by simp +contextual)))
  | @sign op e us ho _ ih =>
    exact writes_sign ho (hp op (by simp)) (ih (hp.of_subset (by simp +contextual)))
  | @isNull e us ms negated is null _ _ _ _ ih =>
    exact writes_isNull (ih (hp.of_subset (by simp +contextual))) negated
  | between _ _ _ _ _ _ ih ihl ihu =>
    exact writes_between (ih (hp.of_subset (by simp +contextual)))
      (ihl (hp.of_subset (by simp +contextual))) (ihu (hp.of_subset (by simp +contextual))) _
  | @inParameter e p us ms negated w t _ _ _ _ ha ih =>
    exact writes_inParameter (ih (hp.of_subset (by simp +contextual)))
      (writes_atom ha (hp t (by simp))) _
  | inQuery _ _ _ _ _ _ ih ihq =>
    exact writes_inQuery (ih (hp.of_subset (by simp +contextual)))
      (ihq (hp.of_subset (by simp +contextual))) _
  | inList _ _ _ _ _ _ ih ihv =>
    exact writes_inList (ih (hp.of_subset (by simp +contextual)))
      (ihv (hp.of_subset (by simp +contextual))) _
  | like _ _ _ _ ih ihp =>
    exact writes_like (ih (hp.of_subset (by simp +contextual)))
      (ihp (hp.of_subset (by simp +contextual))) _
  | likeEscape _ _ _ _ _ _ ih ihp ihe =>
    exact writes_likeEscape (ih (hp.of_subset (by simp +contextual)))
      (ihp (hp.of_subset (by simp +contextual))) (ihe (hp.of_subset (by simp +contextual))) _
  | memberOf _ _ _ _ _ _ => exact writes_memberOf _ _ _
  | atom h => exact writes_atom h (hp _ (by simp))
  | path h => exact writes_path (pathText_of_dotted h hp)
  | paren _ _ _ ih => exact writes_paren (ih (hp.of_subset (by simp +contextual)))
  | subquery _ _ _ ih => exact writes_subquery (ih (hp.of_subset (by simp +contextual)))
  | existsQuery _ _ _ _ ih => exact writes_existsQuery (ih (hp.of_subset (by simp +contextual)))
  | caseSearched _ _ hne _ _ ihb ihe =>
    exact writes_case (by simp) (ihb (hp.of_subset (by simp +contextual))) hne
      (ihe (hp.of_subset (by simp +contextual)))
  | caseSimple _ _ _ hne _ _ iho ihb ihe =>
    refine writes_case ?_ (ihb (hp.of_subset (by simp +contextual))) hne
      (ihe (hp.of_subset (by simp +contextual)))
    rintro n ⟨⟩
    exact iho (hp.of_subset (by simp +contextual))
  | @otherCall args us f o c hf _ _ _ ih =>
    exact writes_otherCall hf (hp f (by simp)) (ih (hp.of_subset (by simp +contextual)))
  | functionCall hg hn _ _ _ _ ih =>
    exact writes_functionCall hg hn (ih (hp.of_subset (by simp +contextual)))
  | countAll _ _ _ _ => exact writes_countAll
  | aggregate hg _ _ _ _ _ ih =>
    exact writes_aggregate hg _ (ih (hp.of_subset (by simp +contextual)))
  | cast _ _ _ _ ht _ ih =>
    exact writes_cast (ih (hp.of_subset (by simp +contextual)))
      (spells_typeName ht (hp.of_subset (by simp +contextual)))
  | trim _ _ _ _ _ ih => exact writes_trim (ih (hp.of_subset (by simp +contextual)))
  | trimFrom _ _ hs _ _ _ ih => exact writes_trimFrom hs (ih (hp.of_subset (by simp +contextual)))
  | @trimCharacter e char side ss us vs f o w c _ _ hs hu hw _ _ hn ihu ih =>
    have hproper : Proper us := hp.of_subset (by simp +contextual)
    refine writes_trimCharacter hs (ihu hproper) (ih (hp.of_subset (by simp +contextual)))
      fun hnone => ?_
    rw [← opensWithSide_append hu hproper (endsName_of_word hw)]
    simpa using hn hnone
  | one _ ih =>
    refine ⟨by simp, fun n hn => ?_⟩
    rw [List.mem_singleton.mp hn]
    exact ih hp
  | more _ _ _ ih ihn =>
    refine ⟨by simp, fun n hn => ?_⟩
    rcases List.mem_append.mp hn with hn | hn
    · exact (ih (hp.of_subset (by simp +contextual))).2 n hn
    · rw [List.mem_singleton.mp hn]
      exact ihn (hp.of_subset (by simp +contextual))
  | noJoin => exact fun n hn => by cases hn
  | moreJoins _ _ ih ihj =>
    intro n hn
    rcases List.mem_append.mp hn with hn | hn
    · exact ih (hp.of_subset (by simp +contextual)) n hn
    · rw [List.mem_singleton.mp hn]
      exact ihj (hp.of_subset (by simp +contextual))
  | noBranch => exact fun n hn => by cases hn
  | moreBranches _ _ _ _ _ ih ihc ihr =>
    intro n hn
    rcases List.mem_append.mp hn with hn | hn
    · exact ih (hp.of_subset (by simp +contextual)) n hn
    · rw [List.mem_singleton.mp hn]
      exact ⟨_, _, rfl, ihc (hp.of_subset (by simp +contextual)),
        ihr (hp.of_subset (by simp +contextual))⟩
  | noArgument => exact fun n hn => by cases hn
  | someArguments _ ih => exact (ih hp).2
  | noClause => exact fun n hn => by cases hn
  | someClause _ _ ih =>
    rintro n ⟨⟩
    exact ih (hp.of_subset (by simp +contextual))
  | noByClause => exact fun n hn => by cases hn
  | someByClause _ _ _ ih => exact (ih (hp.of_subset (by simp +contextual))).2
  | argument _ ih => exact writes_argument (ih hp)
  | target _ => exact trivial
  | selectItem _ ha ih =>
    exact writes_selectItem (ih (hp.of_subset (by simp +contextual)))
      (nameText_of_alias ha (hp.of_subset (by simp +contextual)))
  | constructor _ _ _ _ _ ha ih =>
    exact writes_constructor (ih (hp.of_subset (by simp +contextual)))
      (nameText_of_alias ha (hp.of_subset (by simp +contextual)))
  | join _ _ _ hd _ _ ih =>
    exact writes_join (pathText_of_dotted hd (hp.of_subset (by simp +contextual)))
      (ih (hp.of_subset (by simp +contextual)))
  | source _ _ _ ih => exact writes_source (ih (hp.of_subset (by simp +contextual)))
  | orderItem _ hd hn ih => exact writes_orderItem (ih (hp.of_subset (by simp +contextual))) hd hn
  | assignment hd _ _ ih =>
    exact writes_assignment (pathText_of_dotted hd (hp.of_subset (by simp +contextual)))
      (ih (hp.of_subset (by simp +contextual)))
  | select _ _ _ _ _ _ _ _ _ ihi ihs ihc ihg ihh iho =>
    exact writes_select (ihi (hp.of_subset (by simp +contextual)))
      (ihs (hp.of_subset (by simp +contextual)))
      (ihc (hp.of_subset (by simp +contextual))) (ihg (hp.of_subset (by simp +contextual)))
      (ihh (hp.of_subset (by simp +contextual))) (iho (hp.of_subset (by simp +contextual)))
  | ofSelect _ ih => exact writes_ofSelect (ih hp)
  | update _ _ _ _ _ _ ih ihc =>
    exact writes_update (ih (hp.of_subset (by simp +contextual)))
      (ihc (hp.of_subset (by simp +contextual)))
  | delete _ _ _ _ _ ih => exact writes_delete (ih (hp.of_subset (by simp +contextual)))
  | insert _ _ _ _ _ _ _ _ _ => exact writes_insert _ _ _

/-! ## Conversions -/

theorem run_logging_bind {α β : Type} (x : Log.Logging α) (f : α → Log.Logging β)
    (book : Log.Book) :
    (x >>= f).run book = (f (x.run book).1).run (x.run book).2 :=
  rfl

/-- A parser that is used again reads what a new one reads. -/
theorem run_parse_eq (p : Parser) (query : String) (book : Log.Book) (stack : CallStack := .ample) :
    ((p.parse query stack).run book).1.1 = parse p.maxDepth query stack := by
  unfold Parser.parse parse
  dsimp only
  rw [run_logging_bind]
  cases (scan query).error? with
  | some e => rfl
  | none =>
    dsimp only
    cases (parseStream p.maxDepth (Stream.start (scan query).tokens (.ending (scan query).stop))
      stack).result with
    | ok node => rfl
    | error e => rfl

/-- The rendering of a whole tree. -/
def renderWhole (z : Scope) (node : Node) : Rendering String := do
  Rendering.shown (← render z node)

theorem renderStatement_ok {schema : Schema} {metadata : Metadata} {kind : StatementKind}
    {node : Node} {book : Log.Book} {sql : String}
    (h : ((renderStatement schema metadata kind node).run book).1.1 = .ok sql) :
    ((renderWhole ⟨schema, metadata⟩ node).run.run { columns := schema.columns, book }).1 =
      .ok sql := by
  have htree : ((renderTree schema metadata node).run book).1.1 =
      ((renderWhole ⟨schema, metadata⟩ node).run.run { columns := schema.columns, book }).1 := rfl
  unfold renderStatement at h
  rw [run_logging_bind] at h
  rw [← htree]
  generalize (renderTree schema metadata node).run book = r at h
  obtain ⟨⟨result, after⟩, b⟩ := r
  cases result with
  | ok text =>
    cases h
    rfl
  | error f => cases h

/-- A conversion has read a statement, has metadata for it, and has rendered it. -/
theorem convert_ok {c : Converter} {query sql : String} {metadata? : Option Metadata}
    {book : Log.Book} (h : ((c.convert query metadata?).run book).1.1 = .ok sql) :
    ∃ node metadata b b', parse c.maxDepth query = .ok node ∧
      ((Converter.metadataFor node query metadata?).run b).1 = .ok metadata ∧
      ((renderWhole ⟨c.schema, metadata⟩ node).run.run
        { columns := c.schema.columns, book := b' }).1 = .ok sql := by
  unfold Converter.convert at h
  rw [run_logging_bind] at h
  have hparse := run_parse_eq { maxDepth := c.maxDepth } query book
  generalize (({ maxDepth := c.maxDepth } : Parser).parse query).run book = r at h hparse
  obtain ⟨⟨parsed, p⟩, b⟩ := r
  cases parsed with
  | error e => cases h
  | ok node =>
    dsimp only at h
    rw [run_logging_bind] at h
    cases hm : ((Converter.metadataFor node query metadata?).run b).1 with
    | error e =>
      rw [hm] at h
      cases h
    | ok metadata =>
      rw [hm] at h
      exact ⟨node, metadata, b, _, hparse.symm, hm, renderStatement_ok h⟩

/-- The metadata of a conversion is given, or that of the statement. -/
theorem metadataFor_ok {node : Node} {query : String} {metadata? : Option Metadata}
    {metadata : Metadata} {book : Log.Book}
    (h : ((Converter.metadataFor node query metadata?).run book).1 = .ok metadata) :
    metadata? = some metadata ∨
      metadata? = none ∧ ((node.analyze query).run book).1 = .ok metadata := by
  cases metadata? with
  | some m =>
    cases h
    exact .inl rfl
  | none => exact .inr ⟨rfl, h⟩

/-- A rendered statement is spelled like its translation. -/
theorem spells_renderWhole {z : Scope} {node : Node} {sql : String} {book : Log.Book}
    (hn : PartWrites .statement node) (hw : isWritable z node = true)
    (h : ((renderWhole z node).run.run { columns := z.schema.columns, book }).1 = .ok sql) :
    Spells isGap sql (Derives false (.part .statement (translate ⟨z, none, none⟩ node))) := by
  have hyields : Yields ⟨z, none, none⟩ (renderWhole z node)
      fun w =>
      Spells isGap w (Derives false (.part .statement (translate ⟨z, none, none⟩ node))) := by
    refine (hn rfl rfl hw).bind fun p hp => ?_
    obtain ⟨w, hpw, hs⟩ := hp
    exact (Yields.shown hpw).mono fun v hv => by rwa [hv]
  exact (hyields ⟨rfl, rfl, rfl⟩ (Prod.ext h rfl)).2

/-- What is read from a text is derived from tokens as they are spelled there. -/
theorem derives_of_parse {maxDepth : Int} {query : String} {node : Node}
    (h : parse maxDepth query = .ok node) :
    ∃ ts, Derives false (.part .statement node) ts ∧ Proper ts := by
  obtain ⟨-, hresult⟩ := parse_eq_ok.mp h
  obtain ⟨ts, semi, marked, hts, -, hderives⟩ :=
    derives_of_parseStream (scan_kind_ne_end query) rfl hresult
  refine ⟨ts, hderives, fun t ht => scanFrom_spelling {} query.toList t ?_⟩
  show t ∈ (scan query).tokens
  rw [hts]
  exact List.mem_append_left _ ht

/-- The text of a rendered statement is read as its translation. -/
theorem parse_renderWhole {z : Scope} {maxDepth : Int} {query sql : String} {node : Node}
    {book : Log.Book} (hparse : parse maxDepth query = .ok node) (hw : isWritable z node = true)
    (h : ((renderWhole z node).run.run { columns := z.schema.columns, book }).1 = .ok sql)
    {limit : Int} (hd : (translate ⟨z, none, none⟩ node).depth ≤ limit) :
    parse limit sql = .ok (translate ⟨z, none, none⟩ node) := by
  obtain ⟨ts, hderives, hproper⟩ := derives_of_parse hparse
  obtain ⟨us, stop, hus, htokens⟩ :=
    (spells_renderWhole (derives_writes hderives hproper) hw h).scan
  exact parse_ok hus .absent hd (by rwa [List.append_nil])

/-- The text of a conversion is read as the translated statement, if the statement can be
written. -/
theorem parse_convert (c : Converter) (query sql : String) (metadata? : Option Metadata)
    (book : Log.Book) (h : ((c.convert query metadata?).run book).1.1 = .ok sql) :
    ∃ node metadata, parse c.maxDepth query = .ok node ∧
      (metadata? = some metadata ∨ metadata? = none ∧ ∃ b,
        ((node.analyze query).run b).1 = .ok metadata) ∧
      (isWritable ⟨c.schema, metadata⟩ node = true →
        ∀ maxDepth : Int, (translate ⟨⟨c.schema, metadata⟩, none, none⟩ node).depth ≤ maxDepth →
          parse maxDepth sql = .ok (translate ⟨⟨c.schema, metadata⟩, none, none⟩ node)) := by
  obtain ⟨node, metadata, b, b', hparse, hm, hrender⟩ := convert_ok h
  refine ⟨node, metadata, hparse, ?_, fun hw maxDepth hd => parse_renderWhole hparse hw hrender hd⟩
  exact (metadataFor_ok hm).imp_right fun hnone => ⟨hnone.1, b, hnone.2⟩

theorem ok_of_toOption {ε α : Type} {x : Except ε α} {a : α} (h : x.toOption = some a) :
    x = .ok a := by
  cases x with
  | ok b =>
    cases h
    rfl
  | error e => cases h

/-- Sales with a relation to the people who buy, and the aliases of a query. -/
def saleScope : Scope where
  schema := {
    tables := ⟨[(.str "Person", .str "crm.people")]⟩
    relations := ⟨[("Sale", ⟨[("buyer",
      { property := "buyer", targetEntity := .str "Person", joinColumn := .str "buyer_id" })]⟩)]⟩ }
  metadata := { aliases := ⟨[("s", "Sale"), ("b", "Buyer")]⟩ }

/-- A constructor, a join with a condition from its relation, one that is left out, and a parameter
behind `IN`. -/
theorem parse_convert_sale :
    ∃ node,
      parse 64
        ("SELECT NEW Dto(s.gross, -s.netSum) AS x FROM Sale s JOIN s.buyer b JOIN s.tax " ++
         "WHERE s.id IN :ids") = .ok node ∧
      parse 64
        ("SELECT s.gross, -s.net_sum AS x FROM sale s JOIN crm.people b ON s.buyer_id = b.id " ++
         "WHERE s.id IN (:ids)") = .ok (translate ⟨saleScope, none, none⟩ node) := by
  obtain ⟨node, metadata, hparse, hm, hread⟩ := parse_convert ⟨saleScope.schema, 64⟩
    ("SELECT NEW Dto(s.gross, -s.netSum) AS x FROM Sale s JOIN s.buyer b JOIN s.tax " ++
     "WHERE s.id IN :ids")
    ("SELECT s.gross, -s.net_sum AS x FROM sale s JOIN crm.people b ON s.buyer_id = b.id " ++
     "WHERE s.id IN (:ids)")
    (some saleScope.metadata) [] (ok_of_toOption (by decide +kernel))
  obtain rfl : saleScope.metadata = metadata := by simpa using hm
  have hnode : ((parse 64
      ("SELECT NEW Dto(s.gross, -s.netSum) AS x FROM Sale s JOIN s.buyer b JOIN s.tax " ++
       "WHERE s.id IN :ids")).toOption.all fun node =>
        isWritable saleScope node &&
          decide ((translate ⟨saleScope, none, none⟩ node).depth ≤ 64)) = true := by
    decide +kernel
  rw [hparse] at hnode
  simp only [Except.toOption, Option.all_some, Bool.and_eq_true, decide_eq_true_eq] at hnode
  exact ⟨node, hparse, hread hnode.1 64 (by exact_mod_cast hnode.2)⟩

-- Which names an operand opens with is asked of what is written: here the column of the field
-- `leading`.
example : (parse 64 "DELETE FROM T WHERE TRIM(FROM leading || 'a') = 'b'").toOption.map
    (isWritable ⟨{ columns := ⟨[(.str "T", ⟨[(.str "leading", .str "ld")]⟩)]⟩ }, {}⟩) =
    some true := by
  decide +kernel

/--
Without the condition on `TRIM` the text can be one that is not read: here an operand opens with a
name that is taken for a side.
-/
theorem not_parse_convert_trim :
    ∃ node metadata, parse 64 "SELECT TRIM(FROM leading(x)) FROM T t" = .ok node ∧
      ((node.analyze "SELECT TRIM(FROM leading(x)) FROM T t").run []).1 = .ok metadata ∧
      ((({} : Converter).convert "SELECT TRIM(FROM leading(x)) FROM T t" none).run []).1.1 =
        .ok "SELECT TRIM(leading(x)) FROM t t" ∧
      everywhere (fun q n => writesPlainNames q n &&
        hasPlainAlias n && hasSingleMinus n) ⟨⟨{}, metadata⟩, none, none⟩ node = true ∧
      ∀ maxDepth, parse maxDepth "SELECT TRIM(leading(x)) FROM t t" ≠
        .ok (translate ⟨⟨{}, metadata⟩, none, none⟩ node) := by
  have hparse : parse 64 "SELECT TRIM(FROM leading(x)) FROM T t" = .ok (.select
      [.selectItem (plainCall "TRIM" [.call "leading" [.path ["x"]] false false none none none])
        none]
      [.fromItem "T" (some "t") []] false none [] none []) := by with_unfolding_all rfl
  refine ⟨_,
    { query := "SELECT TRIM(FROM leading(x)) FROM T t", entities := ["T"],
      aliases := ⟨[("t", "T")]⟩ }, hparse, rfl,
    ok_of_toOption (by decide +kernel), by decide +kernel, fun maxDepth h => ?_⟩
  -- Reading at any depth gives a derivation, and with it the same tree at the usual depth, where
  -- there is none.
  obtain ⟨herror, hresult⟩ := parse_eq_ok.mp h
  obtain ⟨ts, semi, marked, hts, hsemi, hd⟩ :=
    derives_of_parseStream (scan_kind_ne_end _) rfl hresult
  have hread :=
    parse_ok hd hsemi (show _ ≤ (64 : Int) by decide +kernel)
      (tokenize_eq_ok.mpr ⟨herror, by rw [hts]⟩)
  have hnone : (parse 64 "SELECT TRIM(leading(x)) FROM t t").toOption.isNone = true := by
    decide +kernel
  rw [hread] at hnone
  cases hnone

end EntityQuery.Sql
