import EntityQuery.Proofs.Metadata.Declaration
import EntityQuery.Proofs.Sql.AlikeTree
import EntityQuery.Proofs.Sql.RoundTrip

/-!
# Inferred and true entities

The entity that an analysis enters for the alias of a join is inferred from the name of the
property. The mappings may know better: the relation that is registered for the property names its
target. The rendering looks up tables, columns and further relations by the inferred entity all the
same, so the two have to lead to the same names.

1. `everywhere_of_translate`: trees with the same translation under two alias tables find the same
   names everywhere.
2. `HasTrueEntities`: the alias table that the registered relations give.
3. `convert_eq_iff_trueNames`: what a conversion writes is what the true entities give, if and only
   if each path, each join and each assignment finds the same names by both.
-/

namespace EntityQuery.Sql

open Grammar

variable {other : Metadata} {q : Place}

/-! ## From translations to names -/

theorem nameParts_injective {a b : String} (h : nameParts a = nameParts b) : a = b := by
  rw [← dotted_nameParts a, h, dotted_nameParts]

theorem Place.Equation.node_injective {d e : Place.Equation} (h : d.node = e.node) : d = e := by
  obtain ⟨la, lc, ra, rc⟩ := d
  obtain ⟨la', lc', ra', rc'⟩ := e
  simp only [node, Node.binary.injEq, Node.path.injEq, List.cons.injEq, true_and] at h
  obtain ⟨⟨rfl, hl⟩, rfl, hr⟩ := h
  rw [nameParts_injective hl, nameParts_injective hr]

theorem constructorItems_injective {asName : Option String} {es fs : List Node}
    (hlength : es.length = fs.length)
    (h : constructorItems asName es = constructorItems asName fs) : es = fs := by
  induction es generalizing fs with
  | nil => rw [List.length_nil] at hlength; exact (List.length_eq_zero_iff.mp hlength.symm).symm
  | cons e es ih =>
    obtain _ | ⟨f, fs⟩ := fs
    · cases hlength
    · have hrest : es.length = fs.length := by simpa using hlength
      obtain _ | ⟨e', es⟩ := es <;> obtain _ | ⟨f', fs⟩ := fs
      · simpa [constructorItems] using h
      · cases hrest
      · cases hrest
      · simp only [constructorItems, List.cons.injEq, Node.selectItem.injEq, and_true] at h
        rw [h.1, ih hrest h.2]

theorem length_constructorItems (asName : Option String) (es : List Node) :
    (constructorItems asName es).length = es.length := by
  fun_induction constructorItems asName es with
  | case1 => rfl
  | case2 => rfl
  | case3 e rest _ ih => rw [List.length_cons, List.length_cons, ih]

mutual

/-- A tree with the same translation under two alias tables finds the same names everywhere. -/
theorem everywhere_of_translate {q : Place} :
    ∀ n : Node, translate (q.under other) n = translate q n →
    everywhere (writesSameNames other) q n = true
  | .literal value kind, _ => by simp only [everywhere, writesSameNames]
  | .parameter name positional, _ => by simp only [everywhere, writesSameNames]
  | .star, _ => by simp only [everywhere, writesSameNames]
  | .insert entity targets source, _ => by simp only [everywhere, writesSameNames]
  | .path parts, h => by
    simp only [translate, Node.path.injEq] at h
    simp only [everywhere, writesSameNames, h, beq_self_eq_true]
  | .call name args distinct known trimSpec trimChar castType, h => by
    simp only [translate, Node.call.injEq] at h
    simp only [everywhere, writesSameNames, everywhereList_of_translate args h.2.1,
      everywhereOption_of_translate trimChar h.2.2.2.2.2.1, Bool.and_self]
  | .paren e, h => by
    simp only [translate, Node.paren.injEq] at h
    simp only [everywhere, writesSameNames, everywhere_of_translate e h, Bool.and_self]
  | .unary operator e, h => by
    simp only [translate, Node.unary.injEq] at h
    simp only [everywhere, writesSameNames, everywhere_of_translate e h.2, Bool.and_self]
  | .binary left operator right, h => by
    simp only [translate, Node.binary.injEq] at h
    simp only [everywhere, writesSameNames, everywhere_of_translate left h.1,
      everywhere_of_translate right h.2.2, Bool.and_self]
  | .isNull e negated, h => by
    simp only [translate, Node.isNull.injEq] at h
    simp only [everywhere, writesSameNames, everywhere_of_translate e h.1, Bool.and_self]
  | .between e lower upper negated, h => by
    simp only [translate, Node.between.injEq] at h
    simp only [everywhere, writesSameNames, everywhere_of_translate e h.1,
      everywhere_of_translate lower h.2.1, everywhere_of_translate upper h.2.2.1, Bool.and_self]
  | .inSet e values query parameter negated, h => by
    simp only [translate, Node.inSet.injEq, and_true] at h
    have hlength : (translateList (q.under other) values).length =
        (translateList q values).length := by
      rw [length_translateList, length_translateList]
    obtain ⟨hvalues, hlast⟩ := List.append_inj h.2.1 hlength
    have hparameter : translateOption (q.under other) parameter = translateOption q parameter := by
      simpa only [Option.head?_toList] using congrArg List.head? hlast
    simp only [everywhere, writesSameNames, everywhere_of_translate e h.1,
      everywhereList_of_translate values hvalues, everywhereOption_of_translate query h.2.2,
      everywhereOption_of_translate parameter hparameter, Bool.and_self]
  | .like e pattern escape negated, h => by
    simp only [translate, Node.like.injEq] at h
    simp only [everywhere, writesSameNames, everywhere_of_translate e h.1,
      everywhere_of_translate pattern h.2.1, everywhereOption_of_translate escape h.2.2.1,
      Bool.and_self]
  | .memberOf e collection negated, h => by
    simp only [translate, Node.memberOf.injEq] at h
    simp only [everywhere, writesSameNames, everywhere_of_translate e h.1,
      everywhere_of_translate collection h.2.1, Bool.and_self]
  | .existsQuery query, h => by
    simp only [translate, Node.existsQuery.injEq] at h
    simp only [everywhere, writesSameNames, everywhere_of_translate query h, Bool.and_self]
  | .subquery query, h => by
    simp only [translate, Node.subquery.injEq] at h
    simp only [everywhere, writesSameNames, everywhere_of_translate query h, Bool.and_self]
  | .branch condition result, h => by
    simp only [translate, Node.branch.injEq] at h
    simp only [everywhere, writesSameNames, everywhere_of_translate condition h.1,
      everywhere_of_translate result h.2, Bool.and_self]
  | .caseOf operand branches otherwise, h => by
    simp only [translate, Node.caseOf.injEq] at h
    simp only [everywhere, writesSameNames, everywhereOption_of_translate operand h.1,
      everywhereList_of_translate branches h.2.1, everywhereOption_of_translate otherwise h.2.2,
      Bool.and_self]
  | .selectItem e asName, h => by
    simp only [translate, Node.selectItem.injEq] at h
    simp only [everywhere, writesSameNames, everywhere_of_translate e h.1, Bool.and_self]
  | .constructor className args asName, h => by
    simp only [translate, Node.constructor.injEq] at h
    simp only [everywhere, writesSameNames, everywhereList_of_translate args h.2.1, Bool.and_self]
  | .join kind along none fetch condition, _ => by simp only [everywhere]
  | .join kind along (some name) fetch none, h => by
    simp only [translate, Node.join.injEq, Node.path.injEq, Option.getD_some, true_and] at h
    have hequation := Option.map_injective (fun _ _ => Place.Equation.node_injective) h.2
    simp only [everywhere, writesSameNames, Option.getD_some, nameParts_injective h.1, hequation,
      beq_self_eq_true, everywhereOption, Bool.or_true, Bool.and_self]
  | .join kind along (some name) fetch (some e), h => by
    simp only [translate, Node.join.injEq, Node.path.injEq, Option.getD_some, Option.some.injEq,
      true_and] at h
    simp only [everywhere, writesSameNames, Option.getD_some, nameParts_injective h.1,
      beq_self_eq_true, Option.isSome_some, Bool.true_or, everywhereOption,
      everywhere_of_translate e h.2, Bool.and_self]
  | .fromItem entity asName joins, h => by
    simp only [translate, Node.fromItem.injEq] at h
    simp only [everywhere, writesSameNames, everywhereList_of_translateJoins joins h.2.2,
      Bool.and_self]
  | .assignment target value, h => by
    simp only [translate, Node.assignment.injEq, Node.path.injEq] at h
    simp only [everywhere, writesSameNames, h.1, beq_self_eq_true,
      everywhere_of_translate value h.2, Bool.and_self]
  | .orderItem e direction nulls, h => by
    simp only [translate, Node.orderItem.injEq] at h
    simp only [everywhere, writesSameNames, everywhere_of_translate e h.1, Bool.and_self]
  | .select items sources distinct condition grouping having ordering, h => by
    simp only [translate, Node.select.injEq] at h
    obtain ⟨hi, hs, -, hc, hg, hh, ho⟩ := h
    simp only [everywhere, writesSameNames, everywhereList_of_translateItems items hi,
      everywhereList_of_translate sources hs, everywhereOption_of_translate condition hc,
      everywhereList_of_translate grouping hg, everywhereOption_of_translate having hh,
      everywhereList_of_translate ordering ho, Bool.and_self]
  | .update entity asName assignments condition, h => by
    simp only [translate, Node.update.injEq] at h
    simp only [everywhere, writesSameNames, Bool.true_and, Bool.and_eq_true]
    exact ⟨everywhereList_of_translate assignments h.2.2.1,
      everywhereOption_of_translate condition h.2.2.2⟩
  | .delete entity asName condition, h => by
    simp only [translate, Node.delete.injEq] at h
    simp only [everywhere, writesSameNames, Bool.true_and]
    exact everywhereOption_of_translate condition h.2.2

theorem everywhereList_of_translate {q : Place} :
    ∀ ns : List Node, translateList (q.under other) ns = translateList q ns →
    everywhereList (writesSameNames other) q ns = true
  | [], _ => by rw [everywhereList]
  | n :: ns, h => by
    simp only [translateList, List.cons.injEq] at h
    rw [everywhereList, everywhere_of_translate n h.1, everywhereList_of_translate ns h.2,
      Bool.and_self]

theorem everywhereList_of_translateItems {q : Place} : ∀ ns : List Node,
    translateItems (q.under other) ns = translateItems q ns →
    everywhereList (writesSameNames other) q ns = true
  | [], _ => by rw [everywhereList]
  | n :: ns, h => by
    cases n with
    | constructor className args asName =>
      simp only [translateItems] at h
      have hlength : (translateList (q.under other) args).length =
          (translateList q args).length := by
        rw [length_translateList, length_translateList]
      obtain ⟨hitems, hrest⟩ :=
        List.append_inj h (by rw [length_constructorItems, length_constructorItems, hlength])
      have hargs := everywhereList_of_translate args (constructorItems_injective hlength hitems)
      simp only [everywhereList, everywhere, writesSameNames, hargs,
        everywhereList_of_translateItems ns hrest, Bool.and_self]
    | _ =>
      simp only [translateItems, List.cons.injEq] at h
      rw [everywhereList, everywhere_of_translate _ h.1, everywhereList_of_translateItems ns h.2,
        Bool.and_self]

theorem everywhereList_of_translateJoins {q : Place} : ∀ ns : List Node,
    translateJoins (q.under other) ns = translateJoins q ns →
    everywhereList (writesSameNames other) q ns = true
  | [], _ => by rw [everywhereList]
  | n :: ns, h => by
    cases n with
    | join kind along asName fetch condition =>
      cases asName with
      | none =>
        simp only [translateJoins] at h
        simp only [everywhereList, everywhere, everywhereList_of_translateJoins ns h, Bool.and_self]
      | some name =>
        simp only [translateJoins, List.cons.injEq] at h
        rw [everywhereList, everywhere_of_translate _ h.1, everywhereList_of_translateJoins ns h.2,
          Bool.and_self]
    | _ =>
      simp only [translateJoins, List.cons.injEq] at h
      rw [everywhereList, everywhere_of_translate _ h.1, everywhereList_of_translateJoins ns h.2,
        Bool.and_self]

theorem everywhereOption_of_translate {q : Place} : ∀ n? : Option Node,
    translateOption (q.under other) n? = translateOption q n? →
    everywhereOption (writesSameNames other) q n? = true
  | none, _ => by rw [everywhereOption]
  | some n, h => by
    simp only [translateOption, Option.some.injEq] at h
    rw [everywhereOption, everywhere_of_translate n h]

end

/-! ## True entities -/

/--
The entity that an alias stands for by the mappings. A source has its own entity. A join along a
property of another alias leads to the target of the relation that is registered for that property
of the true entity of that alias.
-/
def trueEntity? (schema : Schema) (m : Metadata) (d : Declaration) : Option String :=
  match d.along? with
  | none => some d.inferred
  | some join => do
    let source ← m.entityOf? join.sourceAlias
    let relation ← schema.relation? source join.propertyName
    match relation.targetEntity with
    | .str target =>
      if join.path = join.sourceAlias ++ "." ++ join.propertyName then some target else none
    | _ => none

/-- Metadata with the true entity of every alias that a statement declares, and with no
other alias. -/
structure HasTrueEntities (schema : Schema) (node : Node) (m : Metadata) : Prop where
  declared : ∀ d ∈ declarations node.visits,
    (trueEntity? schema m d).isSome = true ∧ m.entityOf? d.asName = trueEntity? schema m d
  only : ∀ name ∈ m.aliases.keys, ∃ d ∈ declarations node.visits, d.asName = name

theorem mem_keys_of_entityOf? {m : Metadata} {name : String}
    (h : (m.entityOf? name).isSome = true) :
    name ∈ m.aliases.keys := by
  unfold Metadata.entityOf? Registry.get? at h
  rw [Option.isSome_map, List.find?_isSome] at h
  obtain ⟨e, he, hname⟩ := h
  rw [beq_iff_eq] at hname
  exact hname ▸ List.mem_map_of_mem he

/-- An analysis of its own and the true entities know the same aliases, if each is declared once. -/
theorem sameAliases_of_trueEntities {schema : Schema} {node : Node} {truth : Metadata}
    {start last : Analysis} (hstart : start.metadata.aliases = {})
    (hrun : start.run node.visits = (last, none))
    (honce : ((declarations node.visits).map Declaration.asName).Nodup)
    (htrue : HasTrueEntities schema node truth) :
    SameAliases last.metadata truth := by
  intro name
  by_cases hd : ∃ d ∈ declarations node.visits, d.asName = name
  · obtain ⟨d, hd, rfl⟩ := hd
    obtain ⟨hsome, heq⟩ := htrue.declared d hd
    rw [Analysis.entityOf?_of_declared hrun honce hd, heq, hsome, Option.isSome_some]
  · have hnone : last.metadata.entityOf? name = none := by
      rw [Analysis.entityOf?_of_undeclared hrun fun d hmem heq => hd ⟨d, hmem, heq⟩,
        Metadata.entityOf?, hstart]
      rfl
    rw [hnone, Option.isSome_none, ← Bool.not_eq_true]
    exact fun hsome => hd (htrue.only name (mem_keys_of_entityOf? hsome))

/-! ## Conversions -/

/-- A statement that finds the same names everywhere is rendered as the same text. -/
theorem renderWhole_eq {schema : Schema} {m other : Metadata} {node : Node} {ts : List Token}
    {sql sql' : String} {book book' : Log.Book} (hd : Derives false (.part .statement node) ts)
    (hm : SameAliases m other)
    (hw : everywhere (writesSameNames other) ⟨⟨schema, m⟩, none, none⟩ node = true)
    (h : ((renderWhole ⟨schema, m⟩ node).run.run { columns := schema.columns, book }).1 = .ok sql)
    (h' : ((renderWhole ⟨schema, other⟩ node).run.run
      { columns := schema.columns, book := book' }).1 = .ok sql') :
    sql' = sql := by
  have halike : Alike ⟨⟨schema, m⟩, none, none⟩ ⟨⟨schema, m⟩, none, none⟩
      (renderWhole ⟨schema, m⟩ node)
      (renderWhole ⟨schema, other⟩ node) := (derives_alike hd rfl rfl hm hw).bind Alike.shown
  exact (halike ⟨rfl, rfl, .refl _⟩ (Prod.ext h rfl) (Prod.ext h' rfl)).1

/-- Two alias tables that lead to the same text find the same names everywhere, if the statement can
be written. -/
theorem everywhere_of_renderWhole_eq {schema : Schema} {m other : Metadata} {maxDepth : Int}
    {query sql : String} {node : Node} {book book' : Log.Book}
    (hparse : parse maxDepth query = .ok node) (hw : isWritable ⟨schema, m⟩ node = true)
    (hw' : isWritable ⟨schema, other⟩ node = true)
    (h : ((renderWhole ⟨schema, m⟩ node).run.run { columns := schema.columns, book }).1 = .ok sql)
    (h' : ((renderWhole ⟨schema, other⟩ node).run.run
      { columns := schema.columns, book := book' }).1 = .ok sql) :
    everywhere (writesSameNames other) ⟨⟨schema, m⟩, none, none⟩ node = true := by
  -- One limit that is enough for both translations: the same text then gives the same tree.
  let q : Place := ⟨⟨schema, m⟩, none, none⟩
  let limit : Int := (max (translate q node).depth (translate (q.under other) node).depth : Nat)
  have hread : parse limit sql = .ok (translate q node) :=
    parse_renderWhole hparse hw h (Int.ofNat_le.mpr (Nat.le_max_left _ _))
  have hread' : parse limit sql = .ok (translate (q.under other) node) :=
    parse_renderWhole hparse hw' h' (Int.ofNat_le.mpr (Nat.le_max_right _ _))
  rw [hread] at hread'
  exact everywhere_of_translate node (Except.ok.inj hread').symm

/--
A conversion looks everything up by the inferred entities. Where every alias is declared once and
the mappings give the true entities, it writes what these give if each node finds the same names by
both, and only then: the statement can be read from its text.
-/
theorem convert_eq_iff_trueNames (c : Converter) (query sql sql' : String) (node : Node)
    (truth : Metadata) (book book' : Log.Book) (hparse : parse c.maxDepth query = .ok node)
    (honce : ((declarations node.visits).map Declaration.asName).Nodup)
    (htrue : HasTrueEntities c.schema node truth)
    (hsql : ((c.convert query none).run book).1.1 = .ok sql)
    (hsql' : ((c.convert query (some truth)).run book').1.1 = .ok sql') :
    ∃ own, (∃ b, ((node.analyze query).run b).1 = .ok own) ∧
      (∀ d ∈ declarations node.visits, own.entityOf? d.asName = some d.inferred) ∧
      (everywhere (writesSameNames truth) ⟨⟨c.schema, own⟩, none, none⟩ node = true → sql' = sql) ∧
      (isWritable ⟨c.schema, own⟩ node = true → isWritable ⟨c.schema, truth⟩ node = true →
        sql' = sql →
        everywhere (writesSameNames truth) ⟨⟨c.schema, own⟩, none, none⟩ node = true) := by
  obtain ⟨node₁, own, b, b₁, hparse₁, hown, hrender⟩ := convert_ok hsql
  obtain ⟨node₂, m, b', b₂, hparse₂, hgiven, hrender'⟩ := convert_ok hsql'
  obtain rfl : node = node₁ := Except.ok.inj (hparse.symm.trans hparse₁)
  obtain rfl : node = node₂ := Except.ok.inj (hparse.symm.trans hparse₂)
  obtain rfl : truth = m := Except.ok.inj hgiven
  obtain ⟨start, last, hstart, hrun, rfl⟩ := Node.analyze_ok hown
  obtain ⟨ts, hderives, -⟩ := derives_of_parse hparse
  refine ⟨last.metadata, ⟨b, hown⟩, fun d hd => Analysis.entityOf?_of_declared hrun honce hd,
    fun hw => ?_, fun hw hw' heq => ?_⟩
  · exact renderWhole_eq hderives (sameAliases_of_trueEntities hstart hrun honce htrue) hw
      hrender hrender'
  · subst heq
    exact everywhere_of_renderWhole_eq hparse hw hw' hrender hrender'

/-- Sales to customers. The property that leads to a customer is named for something else. -/
def buyerSchema : Schema where
  tables := ⟨[(.str "Customer", .str "customers")]⟩
  columns := ⟨[(.str "Customer", ⟨[(.str "fullName", .str "full_nm")]⟩)]⟩
  relations := ⟨[("Sale", ⟨[("buyer",
    { property := "buyer", targetEntity := .str "Customer", joinColumn := .str "buyer_id" })]⟩)]⟩

/-- The column of a customer is missed: it is looked up for the inferred entity `Buyer`. -/
theorem convert_buyer :
    ∃ node own, parse 64 "SELECT b.fullName FROM Sale s JOIN s.buyer b" = .ok node ∧
      ((({ schema := buyerSchema, maxDepth := 64 } : Converter).convert
        "SELECT b.fullName FROM Sale s JOIN s.buyer b" none).run []).1.1 =
        .ok "SELECT b.full_name FROM sale s JOIN customers b ON s.buyer_id = b.id" ∧
      own.entityOf? "b" = some "Buyer" ∧
      everywhere (writesSameNames { aliases := ⟨[("s", "Sale"), ("b", "Customer")]⟩ })
        ⟨⟨buyerSchema, own⟩, none, none⟩ node =
        false := by
  have hparse : parse 64 "SELECT b.fullName FROM Sale s JOIN s.buyer b" = .ok (.select
      [.selectItem (.path ["b", "fullName"]) none]
      [.fromItem "Sale" (some "s") [.join .plain (.path ["s", "buyer"]) (some "b") false none]]
      false none [] none []) := by
    with_unfolding_all rfl
  have hsql : ((({ schema := buyerSchema, maxDepth := 64 } : Converter).convert
      "SELECT b.fullName FROM Sale s JOIN s.buyer b" none).run []).1.1 =
      .ok "SELECT b.full_name FROM sale s JOIN customers b ON s.buyer_id = b.id" :=
      ok_of_toOption (by decide +kernel)
  obtain ⟨own, -, hdeclared, hsame, -⟩ :=
    convert_eq_iff_trueNames { schema := buyerSchema, maxDepth := 64 }
    "SELECT b.fullName FROM Sale s JOIN s.buyer b"
      "SELECT b.full_name FROM sale s JOIN customers b ON s.buyer_id = b.id"
    "SELECT b.full_nm FROM sale s JOIN customers b ON s.buyer_id = b.id" _
    { aliases := ⟨[("s", "Sale"), ("b", "Customer")]⟩ } [] [] hparse (by decide +kernel)
    ⟨by decide +kernel, by decide +kernel⟩ hsql (ok_of_toOption (by decide +kernel))
  refine ⟨_, own, hparse, hsql, hdeclared ⟨"b", "Buyer", _⟩ (List.mem_of_getElem? (i := 1) rfl), ?_⟩
  rw [← Bool.not_eq_true]
  intro heverywhere
  have hne := hsame heverywhere
  revert hne
  decide

end EntityQuery.Sql
