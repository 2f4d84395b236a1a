import EntityQuery.Proofs.Metadata.Order
import EntityQuery.Proofs.Token.LexicalClass

/-!
# The parameters of a query

Every token of a parameter becomes one node of the tree, and an analysis comes upon all of them.

1. `derives_uses`: a tree uses a parameter as often as its tokens do, by induction on the
   derivation.
2. `run_parameters_nodup`: an analysis enters each parameter once.
3. `analyze_parameters`: the parameters in the metadata of a query are those among its tokens.
-/

namespace EntityQuery

open Sql Grammar

/-! ## Uses -/

/-- The name of the parameter that a token is, and whether it is positional. -/
def Token.parameter? (t : Token) : Option (String × Bool) :=
  match t.kind with
  | .namedParameter => some (String.ofList t.text.toList.tail, false)
  | .positionalParameter => some (t.text, true)
  | _ => none

/-- How often a parameter stands among tokens. -/
def tokenUses (x : String × Bool) (ts : List Token) : Nat :=
  (ts.filterMap Token.parameter?).count x

/-- The parameter that a node is. -/
def Node.parameter? : Node → Option (String × Bool)
  | .parameter name positional => some (name, positional)
  | _ => none

/-- How often a parameter stands in a tree. -/
def Node.uses (x : String × Bool) (n : Node) : Nat :=
  ((n.nodes true).filterMap Node.parameter?).count x

/-- How often a parameter stands in the trees of a list. -/
def treeUses (x : String × Bool) (ns : List Node) : Nat :=
  ((ns.flatMap (Node.nodes true)).filterMap Node.parameter?).count x

section

variable {x : String × Bool}

theorem tokenUses_nil : tokenUses x [] = 0 := rfl

theorem tokenUses_append (ts us : List Token) :
    tokenUses x (ts ++ us) = tokenUses x ts + tokenUses x us := by
  rw [tokenUses, List.filterMap_append, List.count_append]
  rfl

theorem tokenUses_cons_of_none {t : Token} (h : t.parameter? = none) (ts : List Token) :
    tokenUses x (t :: ts) = tokenUses x ts := by
  rw [tokenUses, List.filterMap_cons_none h]
  rfl

theorem treeUses_nil : treeUses x [] = 0 := rfl

theorem treeUses_append (ns ms : List Node) :
    treeUses x (ns ++ ms) = treeUses x ns + treeUses x ms := by
  rw [treeUses, List.flatMap_append, List.filterMap_append, List.count_append]
  rfl

theorem treeUses_cons (n : Node) (ns : List Node) :
    treeUses x (n :: ns) = n.uses x + treeUses x ns := by
  rw [treeUses, List.flatMap_cons, List.filterMap_append, List.count_append]
  rfl

/-- A node that is no parameter uses what its children use. -/
theorem Node.uses_eq {n : Node} (h : n.parameter? = none) :
    n.uses x = treeUses x (n.children true) := by
  rw [uses, nodes_eq, List.filterMap_cons_none h]
  rfl

theorem Node.uses_path (parts : List String) : (Node.path parts).uses x = 0 :=
  Node.uses_eq rfl

theorem Node.uses_pos {n : Node} : 0 < n.uses x ↔ .parameter x.1 x.2 ∈ n.nodes true := by
  rw [uses, List.count_pos_iff, List.mem_filterMap]
  constructor
  · rintro ⟨m, hm, hx⟩
    cases m with
    | parameter name positional =>
      cases hx
      exact hm
    | _ => cases hx
  · intro hm
    exact ⟨_, hm, rfl⟩

theorem tokenUses_pos {ts : List Token} : 0 < tokenUses x ts ↔ ∃ t ∈ ts, t.parameter? = some x := by
  rw [tokenUses, List.count_pos_iff, List.mem_filterMap]

end

/-! ## Derivations -/

namespace Grammar

variable {x : String × Bool}

theorem parameter?_of_kind {t : Token} {kind : TokenKind} (h : t.kind = kind)
    (hk : kind.isParameter = false) :
    t.parameter? = none := by
  unfold Token.parameter?
  rw [h]
  cases kind with
  | namedParameter | positionalParameter => cases hk
  | _ => rfl

theorem parameter?_of_isWord {t : Token} (h : t.kind.isWord = true) : t.parameter? = none := by
  refine parameter?_of_kind rfl ?_
  generalize t.kind = kind at h
  cases kind with
  | namedParameter | positionalParameter => cases h
  | _ => rfl

theorem parameter?_of_joins {tier : Tier} {t : Token} (h : tier.joins t.kind = true) :
    t.parameter? = none := by
  refine parameter?_of_kind rfl ?_
  generalize t.kind = kind at h
  cases kind with
  | namedParameter | positionalParameter => cases tier <;> cases h
  | _ => rfl

/-- No parameter is among tokens. -/
def Plain (ts : List Token) : Prop :=
  ∀ t ∈ ts, t.parameter? = none

theorem Plain.uses {ts : List Token} (h : Plain ts) : tokenUses x ts = 0 := by
  induction ts with
  | nil => rfl
  | cons t ts ih =>
    obtain ⟨ht, hts⟩ := List.forall_mem_cons.mp h
    rw [tokenUses_cons_of_none ht, ih hts]

theorem plain_mark {kind : TokenKind} (hk : kind.isParameter = false) {present : Bool}
    {ts : List Token} (h : Mark kind present ts) : Plain ts := by
  cases h with
  | absent => exact List.forall_mem_nil _
  | present h => exact List.forall_mem_singleton.mpr (parameter?_of_kind h hk)

theorem plain_dotted {parts : List String} {ts : List Token} (h : Dotted parts ts) : Plain ts := by
  induction h with
  | name h => exact List.forall_mem_singleton.mpr (parameter?_of_isWord (isWord_of_isName h))
  | more _ hd hw ih =>
    refine List.forall_mem_append.mpr ⟨ih, ?_⟩
    exact List.forall_mem_cons.mpr
      ⟨parameter?_of_kind hd rfl, List.forall_mem_singleton.mpr (parameter?_of_isWord hw)⟩

theorem plain_alias {asName : Option String} {ts : List Token} (h : Alias asName ts) :
    Plain ts := by
  cases h with
  | absent => exact List.forall_mem_nil _
  | bare h => exact List.forall_mem_singleton.mpr (parameter?_of_kind h rfl)
  | marked hw h =>
    exact List.forall_mem_cons.mpr ⟨parameter?_of_kind hw rfl,
      List.forall_mem_singleton.mpr (parameter?_of_isWord (isWord_of_isName h))⟩

theorem plain_sizes {sizes : List String} {ts : List Token} (h : Sizes sizes ts) : Plain ts := by
  induction h with
  | one h => exact List.forall_mem_singleton.mpr (parameter?_of_kind h rfl)
  | more _ hc ht ih =>
    refine List.forall_mem_append.mpr ⟨ih, ?_⟩
    exact List.forall_mem_cons.mpr
      ⟨parameter?_of_kind hc rfl, List.forall_mem_singleton.mpr (parameter?_of_kind ht rfl)⟩

theorem plain_typeName {type : String} {ts : List Token} (h : TypeName type ts) : Plain ts := by
  cases h with
  | plain h => exact plain_dotted h
  | sized h ho hs hc =>
    refine List.forall_mem_append.mpr ⟨List.forall_mem_append.mpr ⟨plain_dotted h, ?_⟩, ?_⟩
    · exact List.forall_mem_cons.mpr ⟨parameter?_of_kind ho rfl, plain_sizes hs⟩
    · exact List.forall_mem_singleton.mpr (parameter?_of_kind hc rfl)

/-- Words and signs are no parameters. -/
theorem plain_joinWords {kind : JoinKind} {ts : List Token} (h : JoinWords kind ts) : Plain ts := by
  cases h <;> simp_all [Plain, Token.parameter?]

theorem plain_directionWord {direction : Option Direction} {ts : List Token}
    (h : DirectionWord direction ts) : Plain ts := by
  cases h <;> simp_all [Plain, Token.parameter?]

theorem plain_nullsWords {nulls : Option String} {ts : List Token} (h : NullsWords nulls ts) :
    Plain ts := by
  cases h <;> simp_all [Plain, Token.parameter?]

theorem plain_side {side : Option String} {ts : List Token} (h : Side side ts) : Plain ts := by
  cases h with
  | absent => exact List.forall_mem_nil _
  | present h =>
    rw [isSide, Bool.and_eq_true, decide_eq_true_eq] at h
    exact List.forall_mem_singleton.mpr (parameter?_of_kind h.1 rfl)

/-- A single token is the parameter that its tree is. -/
theorem uses_atom {t : Token} {e : Node} (h : atom? t = some e) : tokenUses x [t] = e.uses x := by
  have hother : t.kind.isParameter = false → e.parameter? = none → e.children true = [] →
      tokenUses x [t] = e.uses x := by
    intro hk he hc
    rw [tokenUses_cons_of_none (parameter?_of_kind rfl hk), Node.uses_eq he, hc]
    rfl
  unfold atom? at h
  split at h
  all_goals cases h
  all_goals first
    | (next hk =>
        refine hother ?_ rfl rfl
        rw [hk]
        rfl)
    | (next hk => simp [tokenUses, Token.parameter?, hk, Node.uses, Node.nodes, Node.parameter?])

/-- The trees of a phrase. -/
def Phrase.trees : Phrase → List Node
  | .expression _ e => [e]
  | .part _ n => [n]
  | .list _ ns | .joins ns | .branches ns | .arguments ns | .byClause _ _ ns => ns
  | .clause _ e => e.toList

theorem uses_node {n : Node} {ts : List Token} (hn : n.parameter? = none)
    (h : tokenUses x ts = treeUses x (n.children true)) :
    tokenUses x ts = treeUses x [n] := by
  rw [treeUses_cons, treeUses_nil, Node.uses_eq hn, h]
  rfl

section

-- Tokens are counted one by one, trees child by child.
attribute [local simp] Phrase.trees Token.parameter? tokenUses_nil tokenUses_append
  tokenUses_cons_of_none treeUses_nil treeUses_cons treeUses_append Node.children Node.uses_path

/-- The tokens of a phrase have a parameter as often as its trees have. -/
theorem derives_uses {whole : Bool} {p : Phrase} {ts : List Token} (h : Derives whole p ts) :
    tokenUses x ts = treeUses x p.trees := by
  induction h with
  | tighter _ ih | one _ ih | someArguments _ ih | argument _ ih | ofSelect _ ih => exact ih
  | noJoin | noBranch | noArgument | noClause | noByClause => rfl
  | atom h =>
    rw [uses_atom h]
    simp
  | path h | target h => exact uses_node rfl (plain_dotted h).uses
  -- Rules without small parts: every token of their own is a word or a sign.
  | not | paren | subquery | existsQuery | caseSearched | caseSimple | otherCall | trim =>
    exact uses_node rfl (by simp_all)
  | functionCall => exact uses_node rfl (by simp_all [plainCall])
  | countAll =>
    have hstar : Node.star.uses x = 0 := Node.uses_eq rfl
    exact uses_node rfl (by simp_all [plainCall])
  | sign ho =>
    refine uses_node rfl ?_
    rcases ho with ho | ho <;> simp_all
  | binary ho =>
    have hop := parameter?_of_joins ho
    exact uses_node rfl (by simp_all)
  -- Predicates that may be negated.
  | isNull _ _ hm | between _ hm | inQuery _ hm | inList _ hm | like _ hm | likeEscape _ hm =>
    have hmark := (plain_mark rfl hm).uses (x := x)
    exact uses_node rfl (by simp_all)
  | inParameter _ hm _ _ hp =>
    have hmark := (plain_mark rfl hm).uses (x := x)
    have hatom := uses_atom (x := x) hp
    exact uses_node rfl (by simp_all)
  | memberOf _ hm _ ho hc =>
    have hmark := (plain_mark rfl hm).uses (x := x)
    have hof := (plain_mark rfl ho).uses (x := x)
    have hcollection := (plain_dotted hc).uses (x := x)
    exact uses_node rfl (by simp_all)
  -- Calls.
  | aggregate _ _ _ hm =>
    have hmark := (plain_mark rfl hm).uses (x := x)
    exact uses_node rfl (by simp_all)
  | cast _ _ _ _ ht =>
    have htype := (plain_typeName ht).uses (x := x)
    exact uses_node rfl (by simp_all)
  | trimFrom _ _ hs =>
    have hside := (plain_side hs).uses (x := x)
    exact uses_node rfl (by simp_all)
  | trimCharacter _ _ hs =>
    have hside := (plain_side hs).uses (x := x)
    refine uses_node rfl ?_
    simp_all
    omega
  -- Lists and clauses.
  | more | moreJoins | someClause | someByClause => simp_all
  | @moreBranches _ condition result =>
    have hbranch : (Node.branch condition result).uses x = treeUses x [condition, result] :=
      Node.uses_eq rfl
    simp_all
  -- Items.
  | selectItem _ ha =>
    have halias := (plain_alias ha).uses (x := x)
    exact uses_node rfl (by simp_all)
  | constructor _ hn _ _ _ ha =>
    have hname := (plain_dotted hn).uses (x := x)
    have halias := (plain_alias ha).uses (x := x)
    exact uses_node rfl (by simp_all)
  | join hk _ hf hp ha =>
    have hkind := (plain_joinWords hk).uses (x := x)
    have hfetch := (plain_mark rfl hf).uses (x := x)
    have hpath := (plain_dotted hp).uses (x := x)
    have halias := (plain_alias ha).uses (x := x)
    exact uses_node rfl (by simp_all)
  | source hp ha =>
    have hpath := (plain_dotted hp).uses (x := x)
    have halias := (plain_alias ha).uses (x := x)
    exact uses_node rfl (by simp_all)
  | orderItem _ hd hn =>
    have hdirection := (plain_directionWord hd).uses (x := x)
    have hnulls := (plain_nullsWords hn).uses (x := x)
    exact uses_node rfl (by simp_all)
  | assignment hp =>
    have hpath := (plain_dotted hp).uses (x := x)
    exact uses_node rfl (by simp_all)
  -- Statements.
  | select _ hd =>
    have hdistinct := (plain_mark rfl hd).uses (x := x)
    exact uses_node rfl (by simp_all)
  | update _ hp ha =>
    have hpath := (plain_dotted hp).uses (x := x)
    have halias := (plain_alias ha).uses (x := x)
    exact uses_node rfl (by simp_all)
  | delete _ hf hp ha =>
    have hfrom := (plain_mark rfl hf).uses (x := x)
    have hpath := (plain_dotted hp).uses (x := x)
    have halias := (plain_alias ha).uses (x := x)
    exact uses_node rfl (by simp_all)
  | insert _ _ hp =>
    have hpath := (plain_dotted hp).uses (x := x)
    exact uses_node rfl (by simp_all)

end

end Grammar

/-! ## Analyses -/

/-- The parameter that is met. -/
def Visit.parameter? : Visit → Option String
  | .parameter name => some name
  | _ => none

theorem nodup_foldl_appendNew {xs ys : List String} (h : ys.Nodup) :
    (xs.foldl appendNew ys).Nodup := by
  induction xs generalizing ys with
  | nil => exact h
  | cons x xs ih => exact ih (nodup_appendNew h x)

namespace Analysis

theorem step_parameters_elim {a b : Analysis} {v : Visit} (h : a.step v = .ok b) :
    b.metadata.parameters =
      v.parameter?.elim a.metadata.parameters (appendNew a.metadata.parameters) := by
  cases v with
  | mention parts =>
    obtain ⟨entities, fields, hm⟩ := mention_metadata h
    rw [hm]
    rfl
  | declare entity asName =>
    cases h
    unfold Metadata.addEntity
    cases given? asName <;> rfl
  | broken => cases h
  | _ =>
    cases h
    rfl

/-- A run enters each parameter once. -/
theorem run_parameters_nodup {a b : Analysis} {vs : List Visit} (ha : a.metadata.parameters.Nodup)
    (h : a.run vs = (b, none)) : b.metadata.parameters.Nodup := by
  obtain ⟨-, hparameters⟩ :=
    run_foldl (fun a => a.metadata.parameters) Visit.parameter? appendNew (P := fun _ => True)
    (fun _ _ _ _ _ hstep => ⟨trivial, step_parameters_elim hstep⟩) trivial h
  rw [hparameters]
  exact nodup_foldl_appendNew ha

end Analysis

/-! ## Queries -/

/-- The tokens of a query that is read are well spelled, and use its parameters as often as the
tree. -/
theorem tokenize_uses {maxDepth : Int} {query : String} {node : Node}
    (h : parse maxDepth query = .ok node) :
    ∃ ts, tokenize query = .ok ts ∧
      (∀ t ∈ ts, t.kind ≠ .endOfInput → Lexeme.Spelling t.kind t.text.toList) ∧
      ∀ x, tokenUses x ts = node.uses x := by
  obtain ⟨herror, hresult⟩ := parse_eq_ok.mp h
  obtain ⟨us, semi, marked, hts, hsemi, hderives⟩ :=
    @derives_of_parseStream true _ _ _ _ (scan_kind_ne_end query) rfl hresult
  refine ⟨_, tokenize_eq_ok.mpr ⟨herror, rfl⟩, ?_, fun x => ?_⟩
  · intro t ht hend
    rcases List.mem_append.mp ht with ht | ht
    · exact scanFrom_spelling {} query.toList t ht
    · rw [List.mem_singleton.mp ht] at hend
      exact absurd rfl hend
  · have hlast : Token.parameter? (.ending (scan query).stop) = none := rfl
    rw [hts, tokenUses_append, tokenUses_append, tokenUses_cons_of_none hlast, tokenUses_nil,
      (plain_mark rfl hsemi).uses, derives_uses hderives]
    simp [Phrase.trees, treeUses_cons, treeUses_nil]

theorem parameter?_named {t : Token}
    (ht : t.kind ≠ .endOfInput → Lexeme.Spelling t.kind t.text.toList) (name : String) :
    t.parameter? = some (name, false) ↔ t.kind = .namedParameter ∧ t.text = ":" ++ name := by
  constructor
  · intro h
    unfold Token.parameter? at h
    split at h
    · next hk =>
      obtain rfl : String.ofList t.text.toList.tail = name := (Prod.mk.inj (Option.some.inj h)).1
      refine ⟨hk, (text_of_namedParameter ?_).symm⟩
      rw [← hk]
      exact ht (by rw [hk]; simp)
    · simp at h
    · cases h
  · rintro ⟨hk, htext⟩
    unfold Token.parameter?
    rw [hk, htext]
    simp

theorem parameter?_positional (t : Token) (name : String) :
    t.parameter? = some (name, true) ↔ t.kind = .positionalParameter ∧ t.text = name := by
  unfold Token.parameter?
  cases t.kind <;> simp

/-- A named parameter is no positional one without its colon: a question mark does not open
a name. -/
theorem named_ne_positional {named positional : List Char}
    (hn : Lexeme.Spelling .namedParameter named)
    (hp : Lexeme.Spelling .positionalParameter positional) : named ≠ ':' :: positional := by
  obtain ⟨name, ⟨c, cs, rfl, hc, -⟩, rfl⟩ := Lexeme.spelling_lexicalClass hn
  obtain ⟨ds, -, rfl⟩ := Lexeme.spelling_lexicalClass hp
  intro heq
  obtain ⟨rfl, -⟩ := List.cons.inj (List.cons.inj heq).2
  revert hc
  decide

/--
The parameters in the metadata of a query are those of its tokens, named ones without their colon
and positional ones as they are written. None of them is entered twice, and no name is that of a
named and a positional parameter.
-/
theorem analyze_parameters (maxDepth : Int) (query : String) (node : Node) (book : Log.Book)
    (hparse : parse maxDepth query = .ok node) :
    ∃ ts m, tokenize query = .ok ts ∧ ((node.analyze query).run book).1 = .ok m ∧
      m.parameters.Nodup ∧
      (∀ name, name ∈ m.parameters ↔ (∃ t ∈ ts, t.kind = .namedParameter ∧ t.text = ":" ++ name) ∨
        ∃ t ∈ ts, t.kind = .positionalParameter ∧ t.text = name) ∧
      ∀ t ∈ ts, ∀ u ∈ ts, t.kind = .namedParameter → u.kind = .positionalParameter →
        t.text ≠ ":" ++ u.text := by
  have h := wellFormed_of_parse hparse
  obtain ⟨ts, hts, hspelled, huses⟩ := tokenize_uses hparse
  obtain ⟨kind, last, -, hrun, hm⟩ := Node.analyze_met h query book
  have hnode : ∀ name positional, .parameter name positional ∈ node.nodes true ↔
      ∃ t ∈ ts, t.parameter? = some (name, positional) := by
    intro name positional
    rw [← tokenUses_pos, huses, Node.uses_pos]
  refine ⟨ts, last.metadata, hts, hm, Analysis.run_parameters_nodup List.nodup_nil hrun, ?_, ?_⟩
  · intro name
    rw [Node.mem_parameters h hm, Node.HasParameter, Bool.exists_bool, hnode, hnode]
    refine or_congr ?_ ?_
    · exact exists_congr fun t => and_congr_right fun ht => parameter?_named (hspelled t ht) name
    · exact exists_congr fun t => and_congr_right fun _ => parameter?_positional t name
  · intro t ht u hu htk huk heq
    have htoken := hspelled t ht (by rw [htk]; simp)
    have hother := hspelled u hu (by rw [huk]; simp)
    rw [htk] at htoken
    rw [huk] at hother
    refine named_ne_positional htoken hother ?_
    rw [heq, String.toList_append]
    rfl

/-- Parameters of both forms, in a trim character, a join condition, behind `IN` and in an
ordering. -/
theorem analyze_parameters_trim :
    ∃ query node m,
      query =
      "SELECT TRIM(:c FROM u.n) FROM User u JOIN u.o o ON o.k = ?1 WHERE u.a IN :c ORDER BY ?" ∧
      parse 64 query = .ok node ∧ ((node.analyze query).run []).1 = .ok m ∧ m.parameters.Nodup ∧
      (∀ name ∈ ["c", "?1", "?"], name ∈ m.parameters) ∧ "u" ∉ m.parameters := by
  have hparse : parse 64
      "SELECT TRIM(:c FROM u.n) FROM User u JOIN u.o o ON o.k = ?1 WHERE u.a IN :c ORDER BY ?" =
      .ok (.select [.selectItem
          (.call "TRIM" [.path ["u", "n"]] false true none (some (.parameter "c" false)) none) none]
        [.fromItem "User" (some "u") [.join .plain (.path ["u", "o"]) (some "o") false
          (some (.binary (.path ["o", "k"]) "=" (.parameter "?1" true)))]] false
        (some (.inSet (.path ["u", "a"]) [] none (some (.parameter "c" false)) false)) [] none
        [.orderItem (.parameter "?" true) none none]) := by
    with_unfolding_all rfl
  obtain ⟨ts, m, hts, hm, hnodup, hmem, -⟩ := analyze_parameters 64 _ _ [] hparse
  have hlist : ts = Option.getD (Except.toOption (tokenize
      "SELECT TRIM(:c FROM u.n) FROM User u JOIN u.o o ON o.k = ?1 WHERE u.a IN :c ORDER BY ?"))
      [] := by
    rw [hts]
    rfl
  refine ⟨_, _, m, rfl, hparse, hm, hnodup, ?_⟩
  simp only [hmem, hlist]
  decide +kernel

end EntityQuery
