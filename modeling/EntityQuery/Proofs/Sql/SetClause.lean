import EntityQuery.Proofs.Sql.Conversion

/-!
# The left sides of assignments

SQL wants bare columns on the left sides of an update. A left side is bare if its first name is the
alias or the name of the target and still stands for it. There is one alias table for a whole
statement, so that a sub-query that declares the name again takes it away from the target: then the
left side keeps the name, and its column is looked up for the other entity.

`convert_update_targets` gives the text of an update with its left sides, by what their first names
stand for.
-/

namespace EntityQuery.Sql

/-- The entity that the first name of a left side stands for: that of its last declaration, or one
of that name. -/
def standsFor (node : Node) (first : String) : String :=
  (given? (lastEntity? first (declarations node.visits))).getD first

/-- The text of the column of a field of an entity. -/
def Schema.columnText (s : Schema) (entity field : String) : String :=
  (s.columnName (some entity) field).display

theorem dotted_column (column : String) (rest : List String) :
    dotted (nameParts column ++ rest) = dotted (column :: rest) :=
  dotted_append_nameParts [] column rest

/-- The left side of an assignment to the target of an update. -/
theorem targetText {s : Schema} {m : Metadata} {node : Node} {entity : String}
    {asName : Option String}
    (hm : ∀ name, m.entityOf? name = lastEntity? name (declarations node.visits)) {first : String}
    (hown : asName = some first ∨ entity = first) (second : String) (rest : List String) :
    dotted (Place.targetPath ⟨⟨s, m⟩, some entity, asName⟩ (first :: second :: rest)) =
      if standsFor node first = entity then dotted (s.columnText entity second :: rest)
      else dotted (first :: s.columnText (standsFor node first) second :: rest) := by
  have hentity : Place.targetEntity ⟨⟨s, m⟩, some entity, asName⟩ first = standsFor node first := by
    rw [Place.targetEntity, standsFor, ← hm]
  have hisOwn : Place.isOwn ⟨⟨s, m⟩, some entity, asName⟩ first =
      decide (standsFor node first = entity) := by
    rw [Place.isOwn, hentity]
    have hname : (asName == some first || some entity == some first) = true := by simpa using hown
    rw [hname, Bool.true_and, Bool.eq_iff_iff, beq_iff_eq, Option.some.injEq, decide_eq_true_eq]
    exact eq_comm
  rw [Place.targetPath, hisOwn, Place.targetColumn, hentity]
  by_cases hstands : standsFor node first = entity
  · rw [if_pos (by simpa using hstands), if_pos hstands, dotted_column, hstands]
    rfl
  · rw [if_neg (by simpa using hstands), if_neg hstands]
    exact dotted_append_nameParts [first] _ rest

/--
The text of an update. Its left sides that begin with the alias or the name of the target are bare
exactly if that name stands for the target at the end of the statement; otherwise they keep the
name, and name a column of the other entity.
-/
theorem convert_update_targets (c : Converter) (query sql entity : String) (asName : Option String)
    (assignments : List Node) (condition : Option Node) (book : Log.Book)
    (hparse : parse c.maxDepth query = .ok (.update entity asName assignments condition))
    (hz : c.schema.hasTexts = true) (hsql : ((c.convert query none).run book).1.1 = .ok sql) :
    ∃ m b, (((Node.update entity asName assignments condition).analyze query).run b).1 = .ok m ∧
      let inside : Place := ⟨⟨c.schema, m⟩, some entity, asName⟩
      sql = " ".intercalate (["UPDATE", (c.schema.tableName entity).display] ++ asName.toList ++
        ["SET " ++ ", ".intercalate (assignments.map (treeText inside))] ++
        headed "WHERE " (optionTexts inside condition)) ∧
      ∀ a ∈ assignments, ∃ parts value, a = .assignment (.path parts) value ∧
        ∀ first second rest, parts = first :: second :: rest →
          asName = some first ∨ entity = first →
          treeText inside a =
            (if standsFor (.update entity asName assignments condition) first = entity then
              dotted (c.schema.columnText entity second :: rest)
            else
              dotted (first ::
                c.schema.columnText (standsFor (.update entity asName assignments condition) first)
                  second :: rest)) ++
            " = " ++ treeText inside value := by
  obtain ⟨node, m, b, hnode, hm, rfl, -⟩ := convert_text hz hsql
  obtain rfl : node = .update entity asName assignments condition :=
    Except.ok.inj (hnode.symm.trans hparse)
  refine ⟨m, b, hm, ?_, ?_⟩
  · rw [treeText, listTexts_eq]
    rfl
  · intro a ha
    cases wellFormed_of_parse hparse with
    | query _ hk => cases hk
    | update _ _ hk h _ =>
      have hassign := hk a ha
      cases h a ha with
      | @assignment parts value hp _ =>
        refine ⟨parts, value, rfl, ?_⟩
        rintro first second rest rfl hown
        rw [treeText]
        exact congrArg (· ++ " = " ++ _) (targetText (Node.analyze_entityOf? hm) hown second rest)
      | _ => cases hassign

/-- Products with a price. -/
def productSchema : Schema where
  tables := ⟨[(.str "Product", .str "products")]⟩
  columns := ⟨[(.str "Product", ⟨[(.str "unitPrice", .str "price")]⟩)]⟩

/-- A sub-query that takes the alias for sales: the price of a product is not found, and the left
side is not bare. -/
theorem convert_update_shadowed :
    ((({ schema := productSchema, maxDepth := 64 } : Converter).convert
        "UPDATE Product p SET p.unitPrice = 1 WHERE p.id IN (SELECT p.id FROM Sale p)"
          none).run []).1.1 =
        .ok "UPDATE products p SET p.unit_price = 1 WHERE p.id IN (SELECT p.id FROM sale p)" ∧
      productSchema.columnText "Product" "unitPrice" = "price" ∧
      ∃ m, treeText ⟨⟨productSchema, m⟩, some "Product", some "p"⟩
        (.assignment (.path ["p", "unitPrice"]) (.literal "1" .integer)) = "p.unit_price = 1" := by
  have hparse : parse 64
      "UPDATE Product p SET p.unitPrice = 1 WHERE p.id IN (SELECT p.id FROM Sale p)" = .ok (.update
      "Product" (some "p") [.assignment (.path ["p", "unitPrice"]) (.literal "1" .integer)]
      (some (.inSet (.path ["p", "id"]) [] (some (.select [.selectItem (.path ["p", "id"]) none]
        [.fromItem "Sale" (some "p") []] false none [] none [])) none false))) := by
    with_unfolding_all rfl
  have hsql : ((({ schema := productSchema, maxDepth := 64 } : Converter).convert
      "UPDATE Product p SET p.unitPrice = 1 WHERE p.id IN (SELECT p.id FROM Sale p)"
      none).run []).1.1 =
      .ok "UPDATE products p SET p.unit_price = 1 WHERE p.id IN (SELECT p.id FROM sale p)" :=
      ok_of_toOption (by decide +kernel)
  obtain ⟨m, -, -, -, htargets⟩ :=
    convert_update_targets { schema := productSchema, maxDepth := 64 } _ _ _ _ _ _ [] hparse
    (by decide +kernel) hsql
  obtain ⟨parts, value, heq, htext⟩ := htargets _ List.mem_cons_self
  cases heq
  refine ⟨hsql, by decide +kernel, m, ?_⟩
  rw [htext "p" "unitPrice" [] rfl (.inl rfl), if_neg (by decide +kernel), treeText]
  decide +kernel

end EntityQuery.Sql
