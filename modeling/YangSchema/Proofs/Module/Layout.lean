import YangSchema.Proofs.Module.UsableDefault
import YangSchema.Proofs.Statement.Reachable
import YangSchema.Proofs.Typedef.SameBelow

/-!
# The layout of a module

The children of a module statement are read by keyword. However children with different keywords are
mixed, and whatever stands between them that is not read, the same module is built of them, and the
same errors are told in the same order.
-/
namespace YangSchema

namespace ModuleText

def readKeywords : List String :=
  headerKeywords ++ ["revision", "typedef"]

end ModuleText

/-- One statement in two trees, with the same children of each keyword that is read, in the same
order, and with the same statements below those. -/
structure Rearranged (tree tree' : StatementTree) (s s' : Statement) : Prop where
  statement : s' = { s with children := s'.children }
  named : ∀ k ∈ ModuleText.readKeywords, tree'.childrenNamed s' k = tree.childrenNamed s k
  below : ∀ k ∈ ModuleText.readKeywords, ∀ c ∈ tree.childrenNamed s k, tree.SameBelow tree' c

/-- The same error, told of one statement or of the other. -/
inductive SchemaError.Relaid (s s' : Statement) : SchemaError → SchemaError → Prop
  | same (e : SchemaError) : Relaid s s' e e
  | missing (keyword : String) :
    Relaid s s' (.missingRequiredStatement s keyword) (.missingRequiredStatement s' keyword)
  | unnamed : Relaid s s' (.argumentExpected s) (.argumentExpected s')
  | stranger (keyword : String) :
    Relaid s s' (.expectedStatement s keyword) (.expectedStatement s' keyword)

namespace BuiltModule

/-- The same module over the same types and the same errors, or the same fault. -/
inductive SameModule (s s' : Statement) :
    Except BrokenModule BuiltModule → Except BrokenModule BuiltModule → Prop
  | built {m m' : BuiltModule} (hmodule : m'.module = m.module) (hstore : m'.store = m.store)
    (herrors : List.Forall₂ (SchemaError.Relaid s s') m.errors m'.errors)
    (htexts : m'.errors.map (·.text) = m.errors.map (·.text)) :
    SameModule s s' (.ok m) (.ok m')
  | broken {x x' : BrokenModule} (h : x'.fault = x.fault) : SameModule s s' (.error x) (.error x')

end BuiltModule

open StatementTree ModuleText BuiltModule Build

variable {runtime : Runtime} {tree tree' : StatementTree} {s s' : Statement} {name : String}
  {es es' : List SchemaError}

theorem SchemaError.Relaid.text_eq {e e' : SchemaError} (h : e.Relaid s s' e')
    (hs : s' = { s with children := s'.children }) : e'.text = e.text := by
  cases h with
  | same => rfl
  | missing | unnamed | stranger =>
    rw [hs]
    rfl

theorem texts_eq (h : List.Forall₂ (SchemaError.Relaid s s') es es')
    (hs : s' = { s with children := s'.children }) : es'.map (·.text) = es.map (·.text) := by
  induction h with
  | nil => rfl
  | cons he _ ih => rw [List.map_cons, List.map_cons, he.text_eq hs, ih]

theorem relaid_refl (es : List SchemaError) : List.Forall₂ (SchemaError.Relaid s s') es es :=
  List.forall₂_same.2 fun e _ => .same e

theorem relaid_append {fs fs' : List SchemaError}
    (h : List.Forall₂ (SchemaError.Relaid s s') es es')
    (h' : List.Forall₂ (SchemaError.Relaid s s') fs fs') :
    List.Forall₂ (SchemaError.Relaid s s') (es ++ fs) (es' ++ fs') :=
  List.rel_append h h'

theorem single_congr (h : Rearranged tree tree' s s') (keyword : String)
    (hk : keyword ∈ readKeywords) :
    single tree' s' keyword = single tree s keyword := by
  rw [single, h.named keyword hk, single]

theorem singleArgument_congr (h : Rearranged tree tree' s s') (keyword : String)
    (hk : keyword ∈ readKeywords) :
    singleArgument tree' s' keyword = singleArgument tree s keyword := by
  rw [singleArgument, single_congr h keyword hk, singleArgument]

theorem version_congr (h : Rearranged tree tree' s s') : version tree' s' = version tree s := by
  rw [version, single_congr h _ (by decide), version]

theorem requiredArgument_congr (h : Rearranged tree tree' s s') (keyword : String)
    (hk : keyword ∈ readKeywords) :
    ∃ a es es', requiredArgument tree s keyword = (a, es) ∧
      requiredArgument tree' s' keyword = (a, es') ∧
        List.Forall₂ (SchemaError.Relaid s s') es es' := by
  unfold requiredArgument
  rw [single_congr h keyword hk]
  dsimp only
  cases (single tree s keyword).1 with
  | none =>
    refine ⟨_, _, _, rfl, rfl, List.rel_append (relaid_refl _) ?_⟩
    exact .cons (.missing keyword) .nil
  | some c => exact ⟨_, _, _, rfl, rfl, relaid_refl _⟩

theorem revision_congr (h : tree.SameBelow tree' s) : revision tree' s = revision tree s := by
  simp only [revision, singleArgument, single, strangers, childrenNamed, h.children]

theorem revisions_congr {row : List Statement} (h : ∀ r ∈ row, tree.SameBelow tree' r) :
    revisions tree' row = revisions tree row := by
  induction row with
  | nil => rfl
  | cons r row ih =>
    obtain ⟨hr, hrow⟩ := List.forall_mem_cons.1 h
    rw [revisions, revision_congr hr, ih hrow, revisions]

theorem header_congr (h : Rearranged tree tree' s s') {m : YangModule}
    (hm : header tree s name = .ok (m, es)) :
    ∃ es', header tree' s' name = .ok (m, es') ∧
      List.Forall₂ (SchemaError.Relaid s s') es es' := by
  have horigin : s'.origin = s.origin := by
    rw [h.statement]
    rfl
  obtain ⟨rs, es₈, hrs, -⟩ := revisions_spec tree (tree.childrenNamed s "revision")
  have hrs' : revisions tree' (tree'.childrenNamed s' "revision") = .ok (rs, es₈) := by
    rw [h.named _ (by decide), revisions_congr (h.below _ (by decide)), hrs]
  obtain ⟨uri, es₂, es₂', huri, huri', hrelaid₂⟩ :=
    requiredArgument_congr h "namespace" (by decide)
  obtain ⟨qualifier, es₃, es₃', hqualifier, hqualifier', hrelaid₃⟩ :=
    requiredArgument_congr h "prefix" (by decide)
  rw [header, huri, hqualifier, hrs] at hm
  rw [header, huri', hqualifier', hrs', version_congr h, horigin,
    singleArgument_congr h "organization" (by decide),
    singleArgument_congr h "contact" (by decide),
    singleArgument_congr h "description" (by decide),
    singleArgument_congr h "reference" (by decide)]
  -- Both sides read these from the same rows; only what is missing names the statement itself.
  generalize singleArgument tree s "organization" = organization at hm ⊢
  generalize singleArgument tree s "contact" = contact at hm ⊢
  generalize singleArgument tree s "description" = description at hm ⊢
  generalize singleArgument tree s "reference" = reference at hm ⊢
  cases hm
  have hrequired := relaid_append (relaid_append (relaid_refl (version tree s)) hrelaid₂) hrelaid₃
  refine ⟨_, rfl, ?_⟩
  exact relaid_append (relaid_append (relaid_append (relaid_append (relaid_append hrequired
    (relaid_refl _)) (relaid_refl _)) (relaid_refl _)) (relaid_refl _)) (relaid_refl _)

theorem get_of_start (hn : tree.Numbered) {id? : Option StatementId} (h : tree.start id? = .ok s) :
    tree.get s.id = .ok s := by
  obtain ⟨id, hs⟩ := exists_get_of_start h
  exact hn.get_id hs

theorem sameModule_of_relaid {m m' : BuiltModule} (h : Rearranged tree tree' s s')
    (hmodule : m'.module = m.module) (hstore : m'.store = m.store)
    (herrors : List.Forall₂ (SchemaError.Relaid s s') m.errors m'.errors) :
    SameModule s s' (.ok m) (.ok m') :=
  .built hmodule hstore herrors (texts_eq herrors h.statement)

theorem addTypedefs_congr (h : Rearranged tree tree' s s') (hn : tree.Numbered)
    (hn' : tree'.Numbered) (hs : tree.get s.id = .ok s) (hs' : tree'.get s'.id = .ok s') :
    addTypedefs tree' s'.id = addTypedefs tree s.id := by
  have hrow := h.named "typedef" (by decide)
  have heach : addEach tree' (tree.childrenNamed s "typedef") =
      addEach tree (tree.childrenNamed s "typedef") := by
    refine addEach_congr (h.below _ (by decide)) (fun c hc => hn.get_child hc) fun c hc => ?_
    exact hn'.get_child (hrow.symm ▸ hc)
  funext b
  simp only [addTypedefs, hs, hs', bind_apply, ofTree_ok, hrow, heach]

theorem withTypes_congr (h : Rearranged tree tree' s s')
    (hadd : addTypedefs tree' s'.id = addTypedefs tree s.id)
    (hes : List.Forall₂ (SchemaError.Relaid s s') es es') (m : YangModule) :
    SameModule s s' (withTypes runtime tree s m es) (withTypes runtime tree' s' m es') := by
  unfold withTypes
  rw [hadd]
  split
  · cases addTypedefs tree s.id (builderFor runtime m) with
    | error f b => exact .broken rfl
    | ok ids b => exact sameModule_of_relaid h rfl rfl (relaid_append hes (relaid_refl _))
  · exact sameModule_of_relaid h rfl rfl hes

theorem ofStatement_congr (h : Rearranged tree tree' s s')
    (hadd : addTypedefs tree' s'.id = addTypedefs tree s.id) :
    SameModule s s' (ofStatement runtime tree s) (ofStatement runtime tree' s') := by
  have hname : s'.name = s.name := by
    rw [h.statement]
  have hqualifier : s'.qualifier = s.qualifier := by
    rw [h.statement]
  have hargument : s'.argument = s.argument := by
    rw [h.statement]
  unfold ofStatement
  rw [hname, hqualifier, hargument]
  split
  · exact sameModule_of_relaid h rfl rfl (.cons (.stranger _) .nil)
  cases s.argument with
  | none => exact sameModule_of_relaid h rfl rfl (.cons .unnamed .nil)
  | some name =>
    obtain ⟨m, es, hm, -⟩ := header_spec tree s name
    obtain ⟨es', hm', hes⟩ := header_congr h hm
    have hsame : SameModule s s' (withTypes runtime tree s m es)
        (withTypes runtime tree' s' m es') := withTypes_congr h hadd hes m
    dsimp only
    rw [hm, hm']
    dsimp only
    generalize withTypes runtime tree s m es = r at hsame ⊢
    generalize withTypes runtime tree' s' m es' = r' at hsame ⊢
    cases hsame with
    | built hmodule hstore herrors => exact sameModule_of_relaid h hmodule hstore herrors
    | broken hfault => exact .broken hfault

namespace StatementTree

variable {t : StatementTree} {c q : Statement} {row : List StatementId}

theorem Wired.parent_of_child (h : t.Wired) (hs : t.get? s.id = some s)
    (hc : c ∈ t.childStatements s) : t.links.parent c.id = some s.id := by
  obtain ⟨j, hj, hget⟩ := List.mem_filterMap.1 hc
  rw [h.sound.parent_iff, links_children hs, h.numbered hget]
  exact hj

theorem Wired.exists_climb (h : t.Wired) (hs : t.get? s.id = some s) (hq : t.Within s q) :
    t.get? q.id = some q ∧ ∃ n, t.links.climb n q.id = some s.id := by
  induction hq with
  | self => exact ⟨hs, 0, rfl⟩
  | child _ hq ih =>
    obtain ⟨hc, n, hn⟩ := ih
    refine ⟨h.numbered.get?_child hq, n + 1, ?_⟩
    rw [Links.climb, h.parent_of_child hc hq, Option.bind_some, hn]

/-- A statement is not below its children. -/
theorem Wired.id_ne_of_within (h : t.Wired) (hs : t.get? s.id = some s)
    (hc : c ∈ t.childStatements s) (hq : t.Within c q) : q.id ≠ s.id := by
  obtain ⟨-, n, hn⟩ := h.exists_climb (h.numbered.get?_child hc) hq
  have hup : t.links.climb (n + 1) q.id = some s.id := by
    rw [Links.climb_add, hn, Option.bind_some, Links.climb, h.parent_of_child hs hc]
    rfl
  intro heq
  rw [heq] at hup
  exact h.sound.acyclic s.id n hup

theorem get?_setChildren (hs : t.get? s.id = some s) (row : List StatementId) :
    (t.setChildren s.id row).get? s.id = some { s with children := row } := by
  rw [setChildren, get?_modify, if_pos rfl, hs, Option.map_some]

theorem get?_setChildren_of_ne (t : StatementTree) (row : List StatementId) {i : StatementId}
    (hi : i ≠ s.id) : (t.setChildren s.id row).get? i = t.get? i := by
  rw [setChildren, get?_modify, if_neg (Ne.symm hi)]

theorem Wired.sameBelow_setChildren (h : t.Wired) (hs : t.get? s.id = some s)
    (hc : c ∈ t.childStatements s) (row : List StatementId) :
    t.SameBelow (t.setChildren s.id row) c := by
  intro q hq
  refine List.filterMap_congr fun i hi => get?_setChildren_of_ne t row ?_
  rintro rfl
  -- Only the row of `s` was changed, and `s` would be below its own child.
  have hself : s ∈ t.childStatements q := List.mem_filterMap.2 ⟨s.id, hi, hs⟩
  exact h.id_ne_of_within hs hc (hq.trans (.child .self hself)) rfl

/-- Any row of children that has the same ones of each keyword that is read, in the same order. -/
theorem Wired.rearranged_setChildren (h : t.Wired) (hs : t.get? s.id = some s)
    (hself : s.id ∉ row)
    (hrow : ∀ k ∈ readKeywords, t.childrenNamed { s with children := row } k =
      t.childrenNamed s k) :
    Rearranged t (t.setChildren s.id row) s { s with children := row } where
  statement := rfl
  named k hk := by
    rw [← hrow k hk]
    refine congrArg (List.filter _) (List.filterMap_congr fun i hi => ?_)
    exact get?_setChildren_of_ne t row fun heq => hself (heq ▸ hi)
  below k hk c hc := h.sameBelow_setChildren hs (List.mem_filter.1 hc).1 row

end StatementTree

/-- The module that is built of a statement depends on the children that are read, on their order
among those with the same keyword, and on what is below them. -/
theorem sameModule_of_rearranged (hn : tree.Numbered) (hn' : tree'.Numbered)
    {id? id?' : Option StatementId} (hs : tree.start id? = .ok s) (hs' : tree'.start id?' = .ok s')
    (h : Rearranged tree tree' s s') :
    SameModule s s' (BuiltModule.of runtime tree id?) (BuiltModule.of runtime tree' id?') := by
  unfold BuiltModule.of
  rw [hs, hs']
  exact ofStatement_congr h (addTypedefs_congr h hn hn' (get_of_start hn hs) (get_of_start hn' hs'))

def mixedModule : String :=
  "module m \x7b prefix p; typedef a \x7b type p:b; \x7d x:y; namespace n; " ++
    "typedef b \x7b type int8; \x7d \x7d"

/-- Another order of the children, without the extension. -/
theorem sameModule_of_mixed : ∃ p s, parseStatement mixedModule {} = .ok p ∧
    p.tree.start (some 0) = .ok s ∧ s.children = [1, 2, 4, 5, 6] ∧
      Rearranged p.tree (p.tree.setChildren 0 [5, 2, 6, 1]) s { s with children := [5, 2, 6, 1] } ∧
        SameModule s { s with children := [5, 2, 6, 1] } (BuiltModule.of {} p.tree (some 0))
          (BuiltModule.of {} (p.tree.setChildren 0 [5, 2, 6, 1]) (some 0)) := by
  have hparsed : (parseStatement mixedModule {}).toOption.any (fun p =>
      (p.tree.get? 0).any fun s => s.children = [1, 2, 4, 5, 6] ∧
        ∀ k ∈ readKeywords, p.tree.childrenNamed { s with children := [5, 2, 6, 1] } k =
          p.tree.childrenNamed s k) = true := by
    decide +kernel
  obtain ⟨p, hp, hparsed⟩ := Option.any_eq_true _ _ |>.1 hparsed
  obtain ⟨s, hs, hparsed⟩ := Option.any_eq_true _ _ |>.1 hparsed
  obtain ⟨hchildren, hrow⟩ := of_decide_eq_true hparsed
  have hp := toOption_eq_some.1 hp
  have hwired := wired_of_parseStatement hp
  have hid : s.id = 0 := hwired.numbered hs
  have hself : s.id ∉ [5, 2, 6, 1] := by
    rw [hid]
    decide
  rw [← hid] at hs ⊢
  have hstart : p.tree.start (some s.id) = .ok s := StatementTree.get_eq_ok.2 hs
  have hstart' : (p.tree.setChildren s.id [5, 2, 6, 1]).start (some s.id) =
      .ok { s with children := [5, 2, 6, 1] } :=
    StatementTree.get_eq_ok.2 (get?_setChildren hs _)
  have hnumbered : (p.tree.setChildren s.id [5, 2, 6, 1]).Numbered :=
    hwired.numbered.modify s.id fun _ => rfl
  have hrearranged := hwired.rearranged_setChildren hs hself hrow
  exact ⟨p, s, hp, hstart, hchildren, hrearranged,
    sameModule_of_rearranged hwired.numbered hnumbered hstart hstart' hrearranged⟩

end YangSchema
