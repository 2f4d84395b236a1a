import EntityQuery.Proofs.Metadata.Fields

/-!
# Renaming an alias

The name of an alias does not matter to an analysis. If an alias of a query is given a name that the
query does not use, in the source or join that declares it and wherever a path starts with it, then
the metadata is the same up to this name.

1. `visits_rename`: what is met in the renamed tree is what is met in the tree, renamed.
2. `step_renamed`, `run_renamed`: two analyses that differ by a name go on to differ by it only.
3. `analyze_rename`: the metadata of a query and of its renamed form.
-/

namespace EntityQuery

open Sql Grammar

/-! ## Renamed trees -/

/-- One name for another. -/
def replaceName (old new name : String) : String :=
  if name = old then new else name

/-- A path with another first name. -/
def renameFirst (ρ : String → String) : List String → List String
  | [] => []
  | first :: rest => ρ first :: rest

namespace Node

mutual

/-- A tree with other names for aliases: where sources, joins and targets declare them, and where
paths start with them. -/
def rename (ρ : String → String) : Node → Node
  | .literal value kind => .literal value kind
  | .path parts => .path (renameFirst ρ parts)
  | .parameter name positional => .parameter name positional
  | .star => .star
  | .call name args distinct known trimSpec trimChar castType =>
    .call name (renameList ρ args) distinct known trimSpec (renameOption ρ trimChar) castType
  | .paren e => .paren (rename ρ e)
  | .unary operator e => .unary operator (rename ρ e)
  | .binary left operator right => .binary (rename ρ left) operator (rename ρ right)
  | .isNull e negated => .isNull (rename ρ e) negated
  | .between e lower upper negated =>
    .between (rename ρ e) (rename ρ lower) (rename ρ upper) negated
  | .inSet e values query single negated =>
    .inSet (rename ρ e) (renameList ρ values) (renameOption ρ query) (renameOption ρ single) negated
  | .like e pattern escape negated =>
    .like (rename ρ e) (rename ρ pattern) (renameOption ρ escape) negated
  | .memberOf e collection negated => .memberOf (rename ρ e) (rename ρ collection) negated
  | .existsQuery query => .existsQuery (rename ρ query)
  | .subquery query => .subquery (rename ρ query)
  | .branch condition result => .branch (rename ρ condition) (rename ρ result)
  | .caseOf operand branches otherwise =>
    .caseOf (renameOption ρ operand) (renameList ρ branches) (renameOption ρ otherwise)
  | .selectItem e asName => .selectItem (rename ρ e) asName
  | .constructor className args asName => .constructor className (renameList ρ args) asName
  | .join kind along asName fetch condition =>
    .join kind (rename ρ along) (asName.map ρ) fetch (renameOption ρ condition)
  | .fromItem entity asName joins => .fromItem entity (asName.map ρ) (renameList ρ joins)
  | .assignment target value => .assignment (rename ρ target) (rename ρ value)
  | .orderItem e direction nulls => .orderItem (rename ρ e) direction nulls
  | .select items sources distinct condition grouping having ordering =>
    .select (renameList ρ items) (renameList ρ sources) distinct (renameOption ρ condition)
      (renameList ρ grouping) (renameOption ρ having) (renameList ρ ordering)
  | .update entity asName assignments condition =>
    .update entity (asName.map ρ) (renameList ρ assignments) (renameOption ρ condition)
  | .delete entity asName condition => .delete entity (asName.map ρ) (renameOption ρ condition)
  | .insert entity targets source => .insert entity targets (renameOption ρ source)

/-- The trees of a list with other names for aliases. -/
def renameList (ρ : String → String) : List Node → List Node
  | [] => []
  | node :: rest => rename ρ node :: renameList ρ rest

/-- An optional tree with other names for aliases. -/
def renameOption (ρ : String → String) : Option Node → Option Node
  | none => none
  | some node => some (rename ρ node)

end

variable {ρ : String → String}

theorem renameList_eq (ns : List Node) : renameList ρ ns = ns.map (rename ρ) := by
  induction ns with
  | nil => rfl
  | cons n ns ih => rw [renameList, ih, List.map_cons]

theorem toList_renameOption (n? : Option Node) :
    (renameOption ρ n?).toList = n?.toList.map (rename ρ) := by
  cases n? <;> rfl

/-- An analysis goes on to the same nodes, renamed. -/
theorem inspected_rename (n : Node) : (n.rename ρ).inspected = n.inspected.map (rename ρ) := by
  cases n <;> simp [rename, inspected, children, renameList_eq, toList_renameOption]

/-- A node can be renamed: a join along a single name goes to an entity, and that name stays. -/
def IsRenamable (ρ : String → String) : Node → Prop
  | .join _ along _ _ _ =>
    ∃ parts, along = .path parts ∧ PathText parts ∧ ∀ name, parts = [name] → ρ name = name
  | _ => True

end Node

/-! ## Renamed visits -/

/-- The text of a path with another first name. -/
def renamePath (ρ : String → String) (text : String) : String :=
  dotted (renameFirst ρ (nameParts text))

/-- A join path with other names for aliases. -/
def JoinPath.rename (ρ : String → String) (j : JoinPath) : JoinPath where
  sourceAlias := ρ j.sourceAlias
  path := renamePath ρ j.path
  targetAlias := j.targetAlias.map ρ
  targetEntity := j.targetEntity

/-- What is met, with other names for aliases. -/
def Visit.rename (ρ : String → String) : Visit → Visit
  | .declare entity asName => .declare entity (asName.map ρ)
  | .joined j => .joined (j.rename ρ)
  | .mention parts => .mention (renameFirst ρ parts)
  | v => v

section

variable {ρ : String → String}

theorem renamePath_dotted {parts : List String} (h : PathText parts) :
    renamePath ρ (dotted parts) = dotted (renameFirst ρ parts) := by
  rw [renamePath, nameParts_dotted h]

theorem ofJoin_rename {parts : List String} (h : PathText parts)
    (hname : ∀ name, parts = [name] → ρ name = name) (asName : Option String) :
    Visit.ofJoin (.path (renameFirst ρ parts)) (asName.map ρ) =
      (Visit.ofJoin (.path parts) asName).map (Visit.rename ρ) := by
  match parts with
  | [] => rfl
  | [name] =>
    simp only [Visit.ofJoin, Node.pathParts, renameFirst, inferEntity, hname name rfl]
    rfl
  | first :: second :: rest =>
    -- The entity is that of the last name, which is not the first one.
    have hentity : inferEntity (ρ first :: second :: rest) =
        inferEntity (first :: second :: rest) := by
      simp only [inferEntity, List.getLast?_eq_some_getLast (List.cons_ne_nil second rest),
        Option.getD_some]
    obtain ⟨entity, he⟩ := inferEntity_ok h
    have hpath : renamePath ρ (dotted (first :: second :: rest)) =
        dotted (ρ first :: second :: rest) := renamePath_dotted h
    simp only [Visit.ofJoin, Node.pathParts, renameFirst, hentity, he, List.map_cons, List.map_nil,
      Visit.rename, JoinPath.rename, hpath]

namespace Node

theorem opening_rename {n : Node} (h : n.IsRenamable ρ) :
    (n.rename ρ).opening = n.opening.map (Visit.rename ρ) := by
  cases n with
  | join kind along asName fetch condition =>
    obtain ⟨parts, rfl, hp, hname⟩ := h
    exact ofJoin_rename hp hname asName
  | insert entity targets source =>
    have htarget : ∀ t ∈ targets, Visit.rename ρ (Visit.ofTarget entity t) =
        Visit.ofTarget entity t := by
      intro t _
      unfold Visit.ofTarget
      split <;> rfl
    simp only [rename, opening, List.map_cons, List.map_map]
    exact congrArg _ (List.map_congr_left fun t ht => (htarget t ht).symm)
  | _ => rfl

theorem closing_rename (n : Node) : (n.rename ρ).closing = n.closing.map (Visit.rename ρ) := by
  cases n <;> rfl

/-- What is met in a renamed tree. -/
theorem visits_rename {n : Node} (h : ∀ m ∈ n.nodes true, m.IsRenamable ρ) :
    (n.rename ρ).visits = n.visits.map (Visit.rename ρ) := by
  have hbelow : ∀ c ∈ n.inspected, (c.rename ρ).visits = c.visits.map (Visit.rename ρ) :=
    fun c hc => visits_rename fun m hm => h m (mem_nodes.mpr (.inr ⟨c, inspected_subset hc, hm⟩))
  rw [visits_eq, visits_eq n, inspected_rename, opening_rename (h n (mem_nodes_self true n)),
    closing_rename, List.map_append, List.map_append, List.map_flatMap, List.flatMap_map,
    List.flatMap_congr hbelow]
termination_by sizeOf n
decreasing_by exact sizeOf_lt_of_mem_children (inspected_subset hc)

end Node

end

/-! ## Renamed keys -/

namespace Registry

variable {κ α β : Type} [BEq κ] [LawfulBEq κ] {f : κ → κ} {g : α → β}

/-- The entries with other keys and values, in their order. -/
def relabel (f : κ → κ) (g : α → β) (r : Registry κ α) : Registry κ β :=
  ⟨r.entries.map (Prod.map f g)⟩

theorem putEntry_relabel {k : κ} {v : α} {es : List (κ × α)} (h : ∀ e ∈ es, f e.1 = f k → e.1 = k) :
    putEntry (f k) (g v) (es.map (Prod.map f g)) = (putEntry k v es).map (Prod.map f g) := by
  induction es with
  | nil => rfl
  | cons e es ih =>
    obtain ⟨he, hes⟩ := List.forall_mem_cons.mp h
    by_cases hk : e.1 = k
    · simp [putEntry, hk]
    · have hf : f e.1 ≠ f k := fun heq => hk (he heq)
      simp [putEntry, hk, hf, ih hes]

/-- Entering under the new key, if that is not also the new key of another entry. -/
theorem put_relabel {r : Registry κ α} {k : κ} (v : α) (h : ∀ x ∈ r.keys, f x = f k → x = k) :
    (r.relabel f g).put (f k) (g v) = (r.put k v).relabel f g := by
  rw [relabel, put, putEntry_relabel fun e he => h e.1 (List.mem_map_of_mem he)]
  rfl

theorem get?_relabel {r : Registry κ α} {k : κ} (h : ∀ x ∈ r.keys, f x = f k → x = k) :
    (r.relabel f g).get? (f k) = (r.get? k).map g := by
  obtain ⟨es⟩ := r
  unfold relabel get?
  dsimp only
  induction es with
  | nil => rfl
  | cons e es ih =>
    obtain ⟨he, hes⟩ := List.forall_mem_cons.mp h
    by_cases hk : e.1 = k
    · simp [hk]
    · have hf : f e.1 ≠ f k := fun heq => hk (he heq)
      simpa [hk, hf] using ih hes

theorem mem_keys_put {r : Registry κ α} {k x : κ} {v : α} :
    x ∈ (r.put k v).keys ↔ x ∈ r.keys ∨ x = k := by
  rw [keys_put, Analysis.mem_appendNew]

end Registry

/-! ## Steps -/

section

variable {old new : String}

theorem replaceName_inj {x y : String} (hx : x ≠ new) (hy : y ≠ new)
    (h : replaceName old new x = replaceName old new y) :
    x = y := by
  unfold replaceName at h
  grind

theorem pathText_renameFirst (hnew : NameText new) {parts : List String} (h : PathText parts) :
    PathText (renameFirst (replaceName old new) parts) := by
  obtain ⟨first, rest, rfl, hfirst, hrest⟩ := h
  refine ⟨_, rest, rfl, ?_, hrest⟩
  unfold replaceName
  split
  · exact hnew
  · exact hfirst

/-- The text of a path that does not start with the new name. -/
def AvoidsPath (new text : String) : Prop :=
  ∃ parts, PathText parts ∧ parts.head? ≠ some new ∧ text = dotted parts

theorem renamePath_inj (hnew : NameText new) {text text' : String} (h : AvoidsPath new text)
    (h' : AvoidsPath new text')
    (heq : renamePath (replaceName old new) text = renamePath (replaceName old new) text') :
    text = text' := by
  obtain ⟨parts, hp, hhead, rfl⟩ := h
  obtain ⟨parts', hp', hhead', rfl⟩ := h'
  rw [renamePath_dotted hp, renamePath_dotted hp'] at heq
  have hparts := congrArg nameParts heq
  rw [nameParts_dotted (pathText_renameFirst hnew hp),
    nameParts_dotted (pathText_renameFirst hnew hp')] at hparts
  obtain ⟨first, rest, rfl, -, -⟩ := hp
  obtain ⟨first', rest', rfl, -, -⟩ := hp'
  obtain ⟨hfirst, rfl⟩ := List.cons.inj hparts
  rw [List.head?_cons, ne_eq, Option.some.injEq] at hhead hhead'
  rw [replaceName_inj hhead hhead' hfirst]

/-- Metadata that is the same up to the names of aliases. -/
structure Metadata.RenamedTo (ρ : String → String) (m m' : Metadata) : Prop where
  kind : m'.kind = m.kind
  entities : m'.entities = m.entities
  fields : m'.fields = m.fields
  parameters : m'.parameters = m.parameters
  aliases : m'.aliases = m.aliases.relabel ρ id
  joinPaths : m'.joinPaths = m.joinPaths.relabel (renamePath ρ) (JoinPath.rename ρ)

namespace Metadata.RenamedTo

variable {ρ : String → String} {m m' : Metadata}

theorem addField (h : m.RenamedTo ρ m') (entity field : String) :
    (m.addField entity field).RenamedTo ρ (m'.addField entity field) where
  kind := h.kind
  entities := by rw [Metadata.addField, Metadata.addField, h.entities]
  fields := by rw [Metadata.addField, Metadata.addField, h.fields]
  parameters := h.parameters
  aliases := h.aliases
  joinPaths := h.joinPaths

theorem addLonger (h : m.RenamedTo ρ m') (entity field : String) (rest : List String) :
    (Analysis.addLonger m entity field rest).RenamedTo ρ
      (Analysis.addLonger m' entity field rest) := by
  induction rest generalizing m m' field with
  | nil => exact h
  | cons name rest ih => exact ih (h.addField entity _) _

end Metadata.RenamedTo

/-- What is met in a query does not have the new name, and does not declare the old one as an
entity. -/
def Visit.Avoids (old new : String) : Visit → Prop
  | .declare entity asName => entity ≠ old ∧ entity ≠ new ∧ ∀ name ∈ asName, name ≠ "" ∧ name ≠ new
  | .joined j => AvoidsPath new j.path
  | .mention parts => PathText parts ∧ parts.head? ≠ some new
  | .parameter _ => True
  | .filled .. | .enter _ | .leave | .broken _ => False

namespace Analysis

/-- An analysis that has not met the new name, nor the old one as an entity: a path that starts with
the old name is looked up as an alias. -/
structure Apart (old new : String) (a : Analysis) : Prop where
  grounded : a.Grounded
  target : a.target = none
  old_entity : old ∉ a.metadata.entities
  new_entity : new ∉ a.metadata.entities
  new_alias : ∀ name ∈ a.metadata.aliases.keys, name ≠ new
  new_path : ∀ text ∈ a.metadata.joinPaths.keys, AvoidsPath new text

/-- An analysis of a query, and one of the renamed query that has come as far. -/
structure Renamed (old new : String) (a a' : Analysis) : Prop extends Apart old new a where
  metadata : a.metadata.RenamedTo (replaceName old new) a'.metadata
  target' : a'.target = none

variable {a a' b : Analysis} {v : Visit}

theorem needs_avoids (hv : v.Avoids old new) : v.needs? = none := by
  cases v with
  | filled | enter => exact hv.elim
  | _ => rfl

theorem step_apart (h : Apart old new a) (hv : v.Avoids old new) (hstep : a.step v = .ok b) :
    Apart old new b := by
  have hneeds : ∀ e ∈ v.needs?, e ∈ a.metadata.entities := by
    rw [needs_avoids hv]
    exact fun _ he => by cases he
  have hentities : ∀ e ∈ b.metadata.entities, e ∈ a.metadata.entities ∨ (e ≠ old ∧ e ≠ new) := by
    intro e he
    rw [step_entities h.grounded hneeds hstep] at he
    cases v with
    | declare entity asName =>
      rcases mem_appendNew.mp he with he | rfl
      · exact .inl he
      · exact .inr ⟨hv.1, hv.2.1⟩
    | _ => exact .inl he
  refine ⟨step_grounded h.grounded hneeds hstep, ?_, ?_, ?_, ?_, ?_⟩
  · cases v with
    | mention => rw [mention_target hstep, h.target]
    | enter | leave | broken => exact hv.elim
    | _ =>
      cases hstep
      exact h.target
  · intro he
    exact (hentities old he).elim h.old_entity fun hne => hne.1 rfl
  · intro he
    exact (hentities new he).elim h.new_entity fun hne => hne.2 rfl
  · intro name hname
    rw [step_aliases hstep] at hname
    cases v with
    | declare entity asName =>
      rw [Visit.aliasesAfter, given_eq fun w hw => (hv.2.2 w hw).1] at hname
      cases asName with
      | none => exact h.new_alias name hname
      | some own =>
        rcases Registry.mem_keys_put.mp hname with hname | rfl
        · exact h.new_alias name hname
        · exact (hv.2.2 name rfl).2
    | _ => exact h.new_alias name hname
  · intro text htext
    rw [step_joinPaths hstep] at htext
    cases v with
    | joined j =>
      rcases Registry.mem_keys_put.mp htext with htext | rfl
      · exact h.new_path text htext
      · exact hv
    | _ => exact h.new_path text htext

/-- The first name of a path stands for the same entity as before. -/
theorem owner?_renamed (h : Renamed old new a a') {first : String} (hfirst : first ≠ new) :
    owner? a'.metadata (replaceName old new first) = owner? a.metadata first := by
  have halias : a'.metadata.entityOf? (replaceName old new first) = a.metadata.entityOf? first := by
    rw [Metadata.entityOf?, h.metadata.aliases,
      Registry.get?_relabel fun x hx => replaceName_inj (h.new_alias x hx) hfirst]
    exact Option.map_id_apply
  have hentity : a'.metadata.hasEntity (replaceName old new first) =
      a.metadata.hasEntity first := by
    rw [Metadata.hasEntity, Metadata.hasEntity, h.metadata.entities]
    unfold replaceName
    split
    · next heq => simp [heq, h.old_entity, h.new_entity]
    · rfl
  unfold owner?
  rw [halias, hentity]
  -- Where a name is an entity itself, it is neither the old nor the new one.
  cases a.metadata.entityOf? first with
  | some entity => rfl
  | none =>
    dsimp only
    split
    · next hmem =>
      have hne : first ≠ old := fun heq => h.old_entity (heq ▸ List.contains_iff_mem.mp hmem)
      rw [replaceName, if_neg hne]
    · rfl

theorem mention_renamed (h : Renamed old new a a') {parts : List String}
    (hp : parts.head? ≠ some new) (hm : a.mention parts = .ok b) :
    ∃ b', a'.mention (renameFirst (replaceName old new) parts) = .ok b' ∧ b'.target = none ∧
      b.metadata.RenamedTo (replaceName old new) b'.metadata := by
  match parts with
  | [] => cases hm
  | [name] =>
    simp only [mention, h.target] at hm
    cases hm
    refine ⟨a', ?_, h.target', h.metadata⟩
    simp only [renameFirst, mention, h.target']
  | first :: second :: rest =>
    rw [List.head?_cons, ne_eq, Option.some.injEq] at hp
    simp only [renameFirst, mention, owner?_renamed h hp] at hm ⊢
    cases howner : owner? a.metadata first with
    | none =>
      rw [howner] at hm
      cases hm
      exact ⟨_, rfl, h.target', h.metadata⟩
    | some entity =>
      rw [howner] at hm
      cases hm
      exact ⟨_, rfl, h.target', (h.metadata.addField entity second).addLonger entity second rest⟩

theorem declare_renamed (hnew : NameText new) (h : Renamed old new a a') (entity : String)
    {asName : Option String} (hname : ∀ name ∈ asName, name ≠ "" ∧ name ≠ new) :
    (a.metadata.addEntity entity asName).RenamedTo (replaceName old new)
      (a'.metadata.addEntity entity (asName.map (replaceName old new))) := by
  cases asName with
  | none =>
    obtain ⟨hkind, hentities, hfields, hparameters, haliases, hpaths⟩ := h.metadata
    exact ⟨hkind, congrArg (appendNew · entity) hentities, hfields, hparameters, haliases, hpaths⟩
  | some name =>
    obtain ⟨hne, hname⟩ := hname name rfl
    have hgiven : given? (some (replaceName old new name)) = some (replaceName old new name) := by
      refine given_of_ne ?_
      unfold replaceName
      split
      · exact ne_empty_of_spelling hnew.choose_spec.2
      · exact hne
    obtain ⟨hkind, hentities, hfields, hparameters, haliases, hpaths⟩ := h.metadata
    have hput : a'.metadata.aliases.put (replaceName old new name) entity =
        (a.metadata.aliases.put name entity).relabel (replaceName old new) id := by
      rw [haliases]
      exact Registry.put_relabel entity fun x hx => replaceName_inj (h.new_alias x hx) hname
    simp only [Metadata.addEntity, Option.map_some, hgiven, given_of_ne hne]
    exact ⟨hkind, congrArg (appendNew · entity) hentities, hfields, hparameters, hput, hpaths⟩

/-- Two analyses that differ by a name differ by it after the next step. -/
theorem step_renamed (hnew : NameText new) (h : Renamed old new a a') (hv : v.Avoids old new)
    (hstep : a.step v = .ok b) :
    ∃ b', a'.step (v.rename (replaceName old new)) = .ok b' ∧ Renamed old new b b' := by
  have hapart := step_apart h.toApart hv hstep
  cases v with
  | declare entity asName =>
    cases hstep
    exact ⟨_, rfl, hapart, declare_renamed hnew h entity hv.2.2, h.target'⟩
  | joined j =>
    cases hstep
    obtain ⟨hkind, hentities, hfields, hparameters, haliases, hpaths⟩ := h.metadata
    refine ⟨_, rfl, hapart, ⟨hkind, hentities, hfields, hparameters, haliases, ?_⟩, h.target'⟩
    show Registry.put a'.metadata.joinPaths (renamePath _ j.path) (j.rename _) = _
    rw [hpaths]
    exact Registry.put_relabel j fun x hx => renamePath_inj hnew (h.new_path x hx) hv
  | mention parts =>
    obtain ⟨b', hb', htarget, hm⟩ := mention_renamed h hv.2 hstep
    exact ⟨b', hb', hapart, hm, htarget⟩
  | parameter name =>
    cases hstep
    obtain ⟨hkind, hentities, hfields, hparameters, haliases, hpaths⟩ := h.metadata
    exact ⟨_, rfl, hapart,
      ⟨hkind, hentities, hfields, congrArg (appendNew · name) hparameters, haliases, hpaths⟩,
      h.target'⟩
  | filled | enter | leave | broken => exact hv.elim

/-- Two analyses that differ by a name differ by it at their ends. -/
theorem run_renamed (hnew : NameText new) {vs : List Visit} (h : Renamed old new a a')
    (hvs : ∀ v ∈ vs, v.Avoids old new) (hrun : a.run vs = (b, none)) :
    ∃ b', a'.run (vs.map (Visit.rename (replaceName old new))) = (b', none) ∧
      Renamed old new b b' := by
  induction vs generalizing a a' with
  | nil =>
    cases hrun
    exact ⟨a', rfl, h⟩
  | cons v vs ih =>
    obtain ⟨hv, hvs⟩ := List.forall_mem_cons.mp hvs
    obtain ⟨c, hstep, hrest⟩ := run_cons hrun
    obtain ⟨c', hstep', hc⟩ := step_renamed hnew h hv hstep
    obtain ⟨b', hrun', hb⟩ := ih hc hvs hrest
    refine ⟨b', ?_, hb⟩
    rw [List.map_cons, run, hstep']
    exact hrun'

end Analysis

/-! ## Statements -/

namespace Node

/-- The entities that are declared in a tree. -/
def entityNames (node : Node) : List String :=
  (declared (node.nodes true)).map Prod.fst

/-- The aliases that are declared in a tree. -/
def aliasNames (node : Node) : List String :=
  (declaredAliases (node.nodes true)).map Prod.fst

/-- The names that paths in a tree start with. -/
def firstNames (node : Node) : List String :=
  (node.nodes true).filterMap firstName?

/-- A name that is not used in a tree. -/
structure Unused (name : String) (node : Node) : Prop where
  entity : name ∉ node.entityNames
  asName : name ∉ node.aliasNames
  first : name ∉ node.firstNames

theorem mem_nodes_of_mem_met {n m : Node} (h : m ∈ n.met) : m ∈ n.nodes true := by
  rcases mem_met.mp h with rfl | ⟨c, hc, hm⟩
  · exact mem_nodes_self true _
  · exact mem_nodes.mpr (.inr ⟨c, inspected_subset hc, mem_nodes_of_mem_met hm⟩)
termination_by sizeOf n
decreasing_by exact sizeOf_lt_of_mem_children (inspected_subset hc)

variable {node n : Node}

theorem entity_mem_entityNames (hn : n ∈ node.nodes true) {entity : String} {asName : Option String}
    (hd : n.declares? = some (entity, asName)) : entity ∈ node.entityNames :=
  List.mem_map.mpr ⟨_, List.mem_filterMap.mpr ⟨n, hn, hd⟩, rfl⟩

theorem name_mem_aliasNames (hn : n ∈ node.nodes true) {entity name : String}
    (hd : n.declares? = some (entity, some name)) : name ∈ node.aliasNames := by
  have hmem : (entity, some name) ∈ declared (node.nodes true) := List.mem_filterMap.mpr ⟨n, hn, hd⟩
  exact List.mem_map.mpr ⟨(name, entity), List.mem_filterMap.mpr ⟨_, hmem, rfl⟩, rfl⟩

theorem head?_ne_of_unused (hnew : node.Unused new) {parts : List String}
    (hn : .path parts ∈ node.nodes true) :
    parts.head? ≠ some new := by
  cases parts with
  | nil => simp
  | cons first rest =>
    rintro ⟨⟩
    exact hnew.first (List.mem_filterMap.mpr ⟨_, hn, rfl⟩)

/-- A declaration in a tree that does not use the new name, and does not have the old one as an
entity. -/
theorem declare_avoids (hold : old ∉ node.entityNames) (hnew : node.Unused new)
    (hn : n ∈ node.nodes true) (h : WellFormed n) {entity : String} {asName : Option String}
    (hd : n.declares? = some (entity, asName)) :
    Visit.Avoids old new (.declare entity asName) := by
  have hentity := entity_mem_entityNames hn hd
  refine ⟨fun he => hold (he ▸ hentity), fun he => hnew.entity (he ▸ hentity), ?_⟩
  rintro name ⟨⟩
  exact ⟨ne_empty_of_declares (.inl h) hd, fun he => hnew.asName (he ▸ name_mem_aliasNames hn hd)⟩

theorem opening_avoids (hold : old ∉ node.entityNames) (hnew : node.Unused new)
    (hn : n ∈ node.nodes true) (h : WellFormed n) : ∀ v ∈ n.opening, v.Avoids old new := by
  cases h with
  | path hp => simpa [opening, Visit.Avoids, hp] using head?_ne_of_unused hnew hn
  | parameter => simp [opening, Visit.Avoids]
  | @join kind parts asName fetch condition hp ha hc =>
    obtain ⟨entity, he⟩ := inferEntity_ok hp
    have hdeclare : Visit.Avoids old new (.declare entity asName) :=
      declare_avoids hold hnew hn (.join hp ha hc) (by simp only [declares?, he]; rfl)
    have hpath : .path parts ∈ node.nodes true := mem_nodes_of_mem_children hn List.mem_cons_self
    simp only [opening, Visit.ofJoin, pathParts, he, List.forall_mem_cons]
    refine ⟨hdeclare, ?_⟩
    split
    · simpa [Visit.Avoids] using ⟨_, hp, head?_ne_of_unused hnew hpath, rfl⟩
    · simp
  | @fromItem parts asName joins hp ha hk hj =>
    have hdeclare : Visit.Avoids old new (.declare (dotted parts) asName) :=
      declare_avoids hold hnew hn (.fromItem hp ha hk hj) rfl
    simpa [opening] using hdeclare
  | _ => simp [opening, plainCall]

/-- The old name is no entity, so no join goes to an entity of that name. -/
theorem isRenamable_of_mem (hold : old ∉ node.entityNames) (hn : n ∈ node.nodes true)
    (h : WellFormed n) :
    n.IsRenamable (replaceName old new) := by
  cases h with
  | @join kind parts asName fetch condition hp =>
    refine ⟨parts, rfl, hp, ?_⟩
    rintro name rfl
    have hdeclares : declares? (.join kind (.path [name]) asName fetch condition) =
        some (name, asName) := rfl
    have hne : name ≠ old := fun he => hold (he ▸ entity_mem_entityNames hn hdeclares)
    exact if_neg hne
  | _ => trivial

theorem statementKind?_rename (ρ : String → String) (node : Node) :
    (node.rename ρ).statementKind? = node.statementKind? := by
  cases node <;> rfl

end Node

theorem renamed_start (old new query query' : String) (kind : StatementKind)
    (book book' : Log.Book) :
    Analysis.Renamed old new ⟨{ query, kind }, none, book⟩ ⟨{ query := query', kind }, none,
      book'⟩ where
  grounded := ⟨fun _ _ h => (by cases h), fun _ h => (by cases h)⟩
  target := rfl
  target' := rfl
  old_entity := List.not_mem_nil
  new_entity := List.not_mem_nil
  new_alias := List.forall_mem_nil _
  new_path := List.forall_mem_nil _
  metadata := ⟨rfl, rfl, rfl, rfl, rfl, rfl⟩

end

/--
Let `old` be no entity of a select statement, and `new` a name that it does not use as an alias, as
an entity or at the start of a path. With `new` for `old` in sources, joins and paths the statement
has the same entities, fields and parameters, in the same order. Its aliases and join paths are the
same up to this name.
-/
theorem analyze_rename {maxDepth : Int} {source : String} {node : Node}
    (hparse : parse maxDepth source = .ok node) (hkind : node.statementKind? = some .select)
    (old new : String) (hold : old ∉ node.entityNames) (hname : NameText new)
    (hnew : node.Unused new) (query query' : String) (book book' : Log.Book) :
    ∃ m m', ((node.analyze query).run book).1 = .ok m ∧
      (((node.rename (replaceName old new)).analyze query').run book').1 = .ok m' ∧
      m.RenamedTo (replaceName old new) m' := by
  have hstatement := wellFormed_of_parse hparse
  have h : WellFormed node := by
    cases hstatement with
    | query h => exact h
    | _ => cases hkind
  have hrenamable : ∀ n ∈ node.nodes true, n.IsRenamable (replaceName old new) :=
    fun n hn => Node.isRenamable_of_mem hold hn (h.nodes n hn)
  have havoids : ∀ v ∈ node.visits, v.Avoids old new := by
    rw [Node.visits_wellFormed h]
    intro v hv
    obtain ⟨n, hn, hvn⟩ := List.mem_flatMap.mp hv
    exact Node.opening_avoids hold hnew (Node.mem_nodes_of_mem_met hn)
      (Node.wellFormed_of_mem_below h hn) v hvn
  obtain ⟨last, hrun, -⟩ :=
    Analysis.run_statement hstatement ⟨{ query, kind := .select }, none, book⟩ rfl
  obtain ⟨last', hrun', hlast⟩ :=
    Analysis.run_renamed hname (renamed_start old new query query' .select book book') havoids hrun
  rw [← Node.visits_rename hrenamable] at hrun'
  exact ⟨last.metadata, last'.metadata, Node.analyze_of_run hkind hrun,
    Node.analyze_of_run (Node.statementKind?_rename _ node ▸ hkind) hrun', hlast.metadata⟩

/-- An alias of the outer query is renamed in a join path, in a sub-query and where it
stands alone. -/
theorem analyze_rename_sale :
    ∃ node m',
      parse 64
        ("SELECT s.id FROM Sale s JOIN s.items i " ++
         "WHERE EXISTS (SELECT 1 FROM Tag t WHERE t.of = s AND s.no = :n)") = .ok node ∧
      (((node.rename (replaceName "s" "r")).analyze "").run []).1 = .ok m' ∧
      m'.entities = ["Sale", "Item", "Tag"] ∧
      m'.fields = ⟨[("Sale", ["id", "no"]), ("Tag", ["of"])]⟩ ∧
      m'.parameters = ["n"] ∧ m'.aliases = ⟨[("r", "Sale"), ("i", "Item"), ("t", "Tag")]⟩ ∧
      m'.joinPaths = ⟨[("r.items", ⟨"r", "r.items", some "i", some "Item"⟩)]⟩ := by
  have hparse : parse 64
      ("SELECT s.id FROM Sale s JOIN s.items i " ++
       "WHERE EXISTS (SELECT 1 FROM Tag t WHERE t.of = s AND s.no = :n)") =
      .ok (.select [.selectItem (.path ["s", "id"]) none]
        [.fromItem "Sale" (some "s") [.join .plain (.path ["s", "items"]) (some "i") false none]]
        false
        (some (.existsQuery
          (.select [.selectItem (.literal "1" .integer) none] [.fromItem "Tag" (some "t") []] false
          (some (.binary (.binary (.path ["t", "of"]) "=" (.path ["s"])) "AND"
            (.binary (.path ["s", "no"]) "=" (.parameter "n" false)))) [] none []))) []
            none []) := by
    with_unfolding_all rfl
  have hname : NameText "r" := nameText_of_isIdentifier (by decide)
  obtain ⟨m, m', hm, hm', hr⟩ := analyze_rename hparse rfl "s" "r" (by decide +kernel) hname
    ⟨by decide +kernel, by decide +kernel, by decide +kernel⟩ "" "" [] []
  obtain rfl : ({
      entities := ["Sale", "Item", "Tag"]
      aliases := ⟨[("s", "Sale"), ("i", "Item"), ("t", "Tag")]⟩
      fields := ⟨[("Sale", ["id", "no"]), ("Tag", ["of"])]⟩
      parameters := ["n"]
      joinPaths := ⟨[("s.items", ⟨"s", "s.items", some "i", some "Item"⟩)]⟩ } : Metadata) = m :=
    Except.ok.inj (hm.symm.trans (by with_unfolding_all rfl)).symm
  refine ⟨_, m', hparse, hm', hr.entities, hr.fields, hr.parameters, ?_, ?_⟩
  · rw [hr.aliases]
    rfl
  · rw [hr.joinPaths]
    with_unfolding_all rfl

end EntityQuery
