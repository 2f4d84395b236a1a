import EntityQuery.Proofs.Metadata.Fields
import EntityQuery.Proofs.Sql.Conversion

/-!
# The fields that a conversion looks up

A conversion looks up a column for a path under the entity that its first name stands for, by rules
of its own: an alias stands for its entity, and any other name for itself if it has a table. The
analysis has taken the same path for a field of an entity while it was still collecting the aliases.

1. `pathColumn?_recorded`: the two agree on a path exactly if its first name is an alias, or has a
   table exactly if it is a declared entity.
2. `everywhere_of_met`: what holds of all nodes that an analysis meets holds everywhere in a tree
   that is written. The left sides of assignments are not among them, they are looked up otherwise.
3. `analyze_fields`: the fields of a statement, and the columns that a conversion writes for its
   paths.
-/

namespace EntityQuery

open Sql Grammar

/-! ## Logs -/

namespace Analysis

/-- What a step collects does not depend on the log. -/
theorem step_book {a b : Analysis} {v : Visit} (h : a.step v = .ok b) (book : Log.Book) :
    ∃ book', ({ a with book } : Analysis).step v = .ok { b with book := book' } := by
  cases v with
  | mention parts =>
    match parts with
    | [] => cases h
    | [name] =>
      simp only [step, mention] at h ⊢
      split at h
      · cases h
        refine ⟨book, ?_⟩
        split <;> rfl
      · cases h
        exact ⟨book, rfl⟩
    | first :: second :: rest =>
      simp only [step, mention] at h ⊢
      split at h <;> cases h <;> exact ⟨_, rfl⟩
  | broken => cases h
  | _ =>
    cases h
    exact ⟨book, rfl⟩

theorem run_book {a b : Analysis} {vs : List Visit} (h : a.run vs = (b, none)) (book : Log.Book) :
    ∃ book', ({ a with book } : Analysis).run vs = ({ b with book := book' }, none) := by
  induction vs generalizing a book with
  | nil =>
    cases h
    exact ⟨book, rfl⟩
  | cons v vs ih =>
    obtain ⟨c, hstep, hrun⟩ := run_cons h
    obtain ⟨book', hstep'⟩ := step_book hstep book
    obtain ⟨book'', hrun'⟩ := ih hrun book'
    refine ⟨book'', ?_⟩
    rw [run, hstep']
    exact hrun'

end Analysis

/-- The metadata of a statement does not depend on the log. -/
theorem Node.analyze_book {node : Node} (h : WellFormedStatement node) (query : String)
    (book book' : Log.Book) :
    ((node.analyze query).run book).1 = ((node.analyze query).run book').1 := by
  obtain ⟨kind, last, hkind, hrun, hm⟩ := Node.analyze_met h query book
  obtain ⟨kind', last', hkind', hrun', hm'⟩ := Node.analyze_met h query book'
  obtain rfl : kind = kind' := Option.some.inj (hkind.symm.trans hkind')
  obtain ⟨book'', hlast⟩ := Analysis.run_book hrun book'
  obtain rfl : last' = { last with book := book'' } := congrArg Prod.fst (hrun'.symm.trans hlast)
  rw [hm, hm']

namespace Sql

/-! ## Columns -/

/-- The field that a path starts with: a single name, or the one behind the qualifier. -/
def pathField : List String → String
  | [] => ""
  | [name] => name
  | _ :: second :: _ => second

theorem pathField_mem {parts : List String} (h : parts ≠ []) :
    pathField parts ∈ fieldNames parts := by
  match parts with
  | [] => exact absurd rfl h
  | [name] => exact List.mem_singleton.mpr rfl
  | first :: second :: rest =>
    refine List.mem_map.mpr ⟨[], (List.mem_inits _ _).mpr (List.nil_prefix), ?_⟩
    exact String.intercalate_singleton

/-- The first name of a path of several names is an alias, or it has a table exactly if it is a
declared entity. -/
def Schema.knows (s : Schema) (node : Node) : List String → Bool
  | first :: _ :: _ =>
    (node.aliasEntity? first).isSome ||
      (decide (first ∈ (declared node.met).map Prod.fst) == s.tables.contains (.str first))
  | _ => true

/-- The column of a path in a place is that of the field that the analysis has taken it for. -/
def Place.readsRecorded (q : Place) (node : Node) (parts : List String) : Bool :=
  q.pathColumn? parts == (node.pathOwner? parts).map fun entity =>
    q.column (some entity) (pathField parts)

/-- A conversion and an analysis agree on the entity of a path exactly if the schema knows its first
name. -/
theorem pathColumn?_recorded {q : Place} {node : Node}
    (hm : ∀ name, q.scope.metadata.entityOf? name = node.aliasEntity? name)
    (ht : q.target = node.target?) (parts : List String) :
    q.readsRecorded node parts = q.scope.schema.knows node parts := by
  unfold Place.readsRecorded
  match parts with
  | [] => rfl
  | [name] =>
    simp only [Place.pathColumn?, Node.pathOwner?, Schema.knows, hm, ht, pathField]
    cases node.aliasEntity? name <;> cases node.target? <;> simp
  | first :: second :: rest =>
    simp only [Place.pathColumn?, Place.owner?, Node.pathOwner?, Node.denotes?, Schema.knows, hm,
      pathField]
    cases node.aliasEntity? first with
    | some entity => simp
    | none =>
      by_cases hdeclared : first ∈ (declared node.met).map Prod.fst
      · cases q.scope.schema.tables.contains (.str first) <;> simp [hdeclared]
      · cases q.scope.schema.tables.contains (.str first) <;> simp [hdeclared]

/-! ## Trees -/

theorem everywhereList_iff {test : Place → Node → Bool} {q : Place} {ns : List Node} :
    everywhereList test q ns = true ↔ ∀ n ∈ ns, everywhere test q n = true := by
  induction ns with
  | nil => simp [everywhereList]
  | cons n ns ih => simp [everywhereList, ih]

theorem everywhereOption_iff {test : Place → Node → Bool} {q : Place} {n? : Option Node} :
    everywhereOption test q n? = true ↔ ∀ n ∈ n?, everywhere test q n = true := by
  cases n? <;> simp [everywhereOption]

/-- A test that all nodes pass which an analysis meets is passed everywhere in what is written. -/
theorem everywhere_of_met {test : Place → Node → Bool} {q : Place} {n : Node} (h : WellFormed n)
    (ht : ∀ m ∈ n.met, test q m = true) : everywhere test q n = true := by
  have hself := ht n n.mem_met_self
  have hbelow : ∀ c ∈ n.inspected, everywhere test q c = true := by
    intro c hc
    exact everywhere_of_met (h.children c (Node.inspected_subset hc)) fun m hm =>
      ht m (Node.mem_met.mpr (.inr ⟨c, hc, hm⟩))
  cases h with
  | @join _ _ asName _ _ _ _ _ =>
    cases asName with
    | none => rw [everywhere]
    | some name =>
      rw [everywhere, hself, Bool.true_and, everywhereOption_iff]
      exact fun c hc => hbelow c (Option.mem_toList.mpr hc)
  | _ =>
    simp_all [everywhere, everywhereList_iff, everywhereOption_iff, Node.inspected, Node.children,
      plainCall]
termination_by sizeOf n
decreasing_by exact Node.sizeOf_lt_of_mem_children (Node.inspected_subset hc)

/-- The same for a statement: below an update or delete there is its target. -/
theorem everywhere_of_statement {test : Place → Node → Bool} {z : Scope} {n : Node}
    (h : WellFormedStatement n) (hself : test ⟨z, none, none⟩ n = true)
    (ht : ∀ q : Place, q.scope = z → q.target = n.target? → ∀ m ∈ n.met, test q m = true) :
    everywhere test ⟨z, none, none⟩ n = true := by
  have hbelow : ∀ q : Place, q.scope = z → q.target = n.target? → ∀ c ∈ n.inspected,
      everywhere test q c = true := by
    intro q hz htarget c hc
    exact everywhere_of_met (h.children c (Node.inspected_subset hc))
      fun m hm => ht q hz htarget m (Node.mem_met.mpr (.inr ⟨c, hc, hm⟩))
  cases h with
  | query h hk =>
    obtain ⟨-, htarget, -⟩ := Node.opening_select hk
    exact everywhere_of_met h (ht ⟨z, none, none⟩ rfl htarget.symm)
  | @update parts asName assignments condition =>
    have hinside := hbelow ⟨z, some (dotted parts), asName⟩ rfl rfl
    simp only [everywhere, hself, Bool.true_and, Bool.and_eq_true, everywhereList_iff,
      everywhereOption_iff]
    exact ⟨fun c hc => hinside c (List.mem_append_left _ hc),
      fun c hc => hinside c (List.mem_append_right _ (Option.mem_toList.mpr hc))⟩
  | @delete parts asName condition =>
    have hinside := hbelow ⟨z, some (dotted parts), none⟩ rfl rfl
    simp only [everywhere, hself, Bool.true_and, everywhereOption_iff]
    exact fun c hc => hinside c (Option.mem_toList.mpr hc)
  | insert => rwa [everywhere]

/-- The column of a path is that of the field that the analysis has taken it for, exactly if the
schema knows its first name. The metadata has that field. -/
def Place.agrees (node : Node) (q : Place) : Node → Bool
  | .path parts =>
    (q.readsRecorded node parts == q.scope.schema.knows node parts) &&
      (node.pathOwner? parts).all fun entity =>
      (q.scope.metadata.fieldsOf entity).contains (pathField parts)
  | _ => true

/--
If names are declared before they are used and each alias stands for one entity, the metadata of a
query has exactly the fields that the statement as a whole has, each of them once. For every path
that a conversion writes, the left sides of assignments apart, the column is looked up for the
entity and the field that the metadata has for this path, exactly if the schema knows its first
name. A declared entity without a table is the case where the two differ, or a table of an entity
that is not declared.
-/
theorem analyze_fields (maxDepth : Int) (query : String) (node : Node) (book : Log.Book)
    (hparse : parse maxDepth query = .ok node) (hd : node.DeclaredFirst) :
    ∃ m, ((node.analyze query).run book).1 = .ok m ∧
      (∀ entity, (m.fieldsOf entity).Nodup ∧ ∀ field, field ∈ m.fieldsOf entity ↔
        node.HasField entity field) ∧
      ∀ c : Converter, c.maxDepth = maxDepth →
        everywhere (Place.agrees node) ⟨⟨c.schema, m⟩, none, none⟩ node = true ∧
        ∀ sql book', c.schema.hasTexts = true → ((c.convert query none).run book').1.1 = .ok sql →
          sql = treeText ⟨⟨c.schema, m⟩, none, none⟩ node := by
  have h := wellFormed_of_parse hparse
  obtain ⟨m, hm, hdistinct, hfields, haliases⟩ := Node.analyze_hasField h hd query book
  refine ⟨m, hm, fun entity => ⟨hdistinct entity, hfields entity⟩, ?_⟩
  rintro c rfl
  constructor
  · have hnode : ∀ q : Place, q.scope = ⟨c.schema, m⟩ → q.target = node.target? → ∀ n ∈ node.met,
        q.agrees node n = true := by
      rintro q hz htarget n hn
      cases n with
      | path parts =>
        have hmeta : q.scope.metadata = m := by rw [hz]
        have hcolumn := pathColumn?_recorded (q := q) (by rwa [hmeta]) htarget parts
        simp only [Place.agrees, hcolumn, beq_self_eq_true, Bool.true_and,
          Option.all_eq_true, hmeta, List.contains_iff_mem, hfields]
        intro entity howner
        refine .inl ⟨parts, hn, howner, pathField_mem ?_⟩
        rintro rfl
        cases howner
      | _ => rfl
    refine everywhere_of_statement h ?_ hnode
    cases node with
    | path parts => exact absurd rfl (Node.ne_path_of_statement h parts)
    | _ => rfl
  · intro sql book' hz hsql
    obtain ⟨node', m', b, hparse', hm', rfl, -⟩ := convert_text hz hsql
    obtain rfl : node' = node := Except.ok.inj (hparse'.symm.trans hparse)
    have hsame : ((node'.analyze query).run b).1 = .ok m := by
      rw [Node.analyze_book h query b book, hm]
    obtain rfl : m' = m := Except.ok.inj (hm'.symm.trans hsame)
    rfl

/-- Single names inside a sub-query of an update are fields of its target, not of the source of the
sub-query. -/
theorem analyze_fields_items :
    ∃ query node m,
      query =
      ("UPDATE Item i SET cost = 1 " ++
       "WHERE i.maker.name = Item.MAX OR 1 IN (SELECT old FROM Sale s WHERE s.id > 1)") ∧
      parse 64 query = .ok node ∧ node.DeclaredFirst ∧ ((node.analyze query).run []).1 = .ok m ∧
      (m.fieldsOf "Item").Nodup ∧ "maker.name" ∈ m.fieldsOf "Item" ∧ "old" ∈ m.fieldsOf "Item" ∧
      "old" ∉ m.fieldsOf "Sale" ∧
      treeText ⟨⟨{ tables := ⟨[(.str "Item", .str "items")]⟩ }, m⟩, none, none⟩ node =
        ("UPDATE items i SET cost = 1 " ++
         "WHERE i.maker.name = Item.max OR 1 IN (SELECT old FROM sale s WHERE s.id > 1)") := by
  have hparse : parse 64
      ("UPDATE Item i SET cost = 1 " ++
       "WHERE i.maker.name = Item.MAX OR 1 IN (SELECT old FROM Sale s WHERE s.id > 1)") =
      .ok (.update "Item" (some "i") [.assignment (.path ["cost"]) (.literal "1" .integer)]
        (some (.binary (.binary (.path ["i", "maker", "name"]) "=" (.path ["Item", "MAX"])) "OR"
          (.inSet (.literal "1" .integer) [] (some (.select [.selectItem (.path ["old"]) none]
            [.fromItem "Sale" (some "s") []] false
            (some (.binary (.path ["s", "id"]) ">" (.literal "1" .integer))) []
            none [])) none false)))) := by
    with_unfolding_all rfl
  have hsql : ((Converter.convert
      { schema := { tables := ⟨[(.str "Item", .str "items")]⟩ }, maxDepth := 64 }
      ("UPDATE Item i SET cost = 1 " ++
       "WHERE i.maker.name = Item.MAX OR 1 IN (SELECT old FROM Sale s WHERE s.id > 1)")
      none).run []).1.1 = .ok
        ("UPDATE items i SET cost = 1 " ++
         "WHERE i.maker.name = Item.max OR 1 IN (SELECT old FROM sale s WHERE s.id > 1)") :=
    ok_of_toOption (by decide +kernel)
  generalize hnode : Node.update "Item" _ _ _ = node at hparse
  have hfirst : node.DeclaredFirst := by
    subst hnode
    exact ⟨by decide +kernel, by decide +kernel, by decide +kernel⟩
  obtain ⟨m, hm, hfields, hconvert⟩ := analyze_fields 64 _ _ [] hparse hfirst
  obtain ⟨-, htext⟩ :=
    hconvert { schema := { tables := ⟨[(.str "Item", .str "items")]⟩ }, maxDepth := 64 } rfl
  have hpath : ∀ parts, .path parts ∈ node.met ↔
      parts ∈ [["cost"], ["i", "maker", "name"], ["Item", "MAX"], ["old"], ["s", "id"]] := by
    subst hnode
    simp [Node.met_eq, Node.inspected, Node.children]
  have howner : node.pathOwner? ["i", "maker", "name"] = some "Item" ∧
      node.pathOwner? ["old"] = some "Item" := by
    subst hnode
    decide +kernel
  refine ⟨_, node, m, rfl, hparse, hfirst, hm, (hfields "Item").1, ?_, ?_, ?_,
    (htext _ [] (by decide +kernel) hsql).symm⟩
  · exact ((hfields "Item").2 _).mpr
      (.inl ⟨_, (hpath ["i", "maker", "name"]).mpr (by simp), howner.1, by decide⟩)
  · exact ((hfields "Item").2 _).mpr (.inl ⟨_, (hpath ["old"]).mpr (by simp), howner.2, by decide⟩)
  · rw [(hfields "Sale").2]
    rintro (⟨parts, hmem, hsale, hold⟩ | hfill)
    · -- Among the paths that name such a field there is none of a sale.
      have hparts := (hpath parts).mp hmem
      simp only [List.mem_cons, List.not_mem_nil, or_false] at hparts
      rcases hparts with rfl | rfl | rfl | rfl | rfl
      · simp [fieldNames] at hold
      · revert hold
        decide
      · revert hold
        decide
      · rw [howner.2] at hsale
        simp at hsale
      · revert hold
        decide
    · subst hnode
      cases hfill

end Sql

end EntityQuery
