import YangSchema.Module.Builder
import YangSchema.Proofs.Statement.Linked
import YangSchema.Proofs.Statement.RoundTrip
import YangSchema.Proofs.Typedef.TypedefFlaw

/-!
# Flawed modules

Building the module of a document ends early exactly if the first typedef with a fatal flaw is
reached, and otherwise it tells every other flaw that it comes to.
-/
namespace YangSchema
open Build

variable {runtime : Runtime} {tree : StatementTree} {s : Statement} {name : String}

theorem StatementTree.Numbered.get_id (h : tree.Numbered) {id : StatementId}
    (hs : tree.get id = .ok s) : tree.get s.id = .ok s := by
  rwa [h (StatementTree.get_eq_ok.1 hs)]

theorem StatementTree.Numbered.get_child (h : tree.Numbered) {c : Statement} {keyword : String}
    (hc : c ∈ tree.childrenNamed s keyword) : tree.get c.id = .ok c :=
  StatementTree.get_eq_ok.2 (h.get?_child (List.mem_of_mem_filter hc))

namespace BuiltModule
open ModuleText

/-- What is wrong with the arguments of a module, as the builder comes to them: with the dates of
its revisions, or with its typedefs, which it reads if it has a namespace. -/
inductive ModuleFlaw (runtime : Runtime) (tree : StatementTree) (s : Statement) (name : String) :
    Flaw → Prop
  | revision {r : Statement} {text : String} {x : Flaw}
      (hr : r ∈ tree.childrenNamed s "revision") (ha : r.argument = some text)
      (h : Refused r (Argument.date text) False x) : ModuleFlaw runtime tree s name x
  | typedefs {m : YangModule} {es : List SchemaError} {x : Flaw}
      (hm : header tree s name = .ok (m, es)) (hnamespace : m.namespaceOf.isValid = true)
      (h : RowFlaw tree (tree.childrenNamed s "typedef") (builderFor runtime m) x) :
      ModuleFlaw runtime tree s name x

theorem revision_spec (tree : StatementTree) (s : Statement) :
    ∃ r es, revision tree s = .ok (r, es) ∧ ∀ text e, s.argument = some text →
      Refused s (Argument.date text) False (.told e) → e ∈ es := by
  unfold revision ModuleText.argument
  dsimp only
  cases ha : s.argument with
  | none => exact ⟨_, _, rfl, by simp⟩
  | some text =>
    dsimp only
    cases hdate : Argument.date text with
    | ok date =>
      refine ⟨_, _, rfl, ?_⟩
      rintro text' e ⟨⟩ ⟨h⟩
      rw [hdate] at h
      cases h
    | error e =>
      cases e with
      | numeral f => exact absurd ⟨f, hdate⟩ (Argument.not_isTooLong_date text)
      | fault f =>
        refine ⟨_, _, rfl, ?_⟩
        rintro text' e ⟨⟩ ⟨h⟩
        rw [hdate] at h
        cases h
        exact List.mem_singleton.2 rfl

theorem revisions_spec (tree : StatementTree) (row : List Statement) :
    ∃ rs es, revisions tree row = .ok (rs, es) ∧ ∀ r ∈ row, ∀ text e, r.argument = some text →
      Refused r (Argument.date text) False (.told e) → e ∈ es := by
  induction row with
  | nil => exact ⟨[], [], rfl, by simp⟩
  | cons s row ih =>
    obtain ⟨r, e₁, hr, hfirst⟩ := revision_spec tree s
    obtain ⟨rs, e₂, hrs, hothers⟩ := ih
    refine ⟨r.toList ++ rs, e₁ ++ e₂, by rw [revisions, hr, hrs]; rfl, ?_⟩
    rw [List.forall_mem_cons]
    constructor
    · exact fun text e ha h => List.mem_append_left _ (hfirst text e ha h)
    · exact fun q hq text e ha h => List.mem_append_right _ (hothers q hq text e ha h)

theorem header_spec (tree : StatementTree) (s : Statement) (name : String) :
    ∃ m es, header tree s name = .ok (m, es) ∧
      ∀ r ∈ tree.childrenNamed s "revision", ∀ text e, r.argument = some text →
        Refused r (Argument.date text) False (.told e) → e ∈ es := by
  obtain ⟨rs, es, hrs, htold⟩ := revisions_spec tree (tree.childrenNamed s "revision")
  refine ⟨_, _, by rw [header, hrs]; rfl, fun r hr text e ha h => ?_⟩
  exact List.mem_append_right _ (htold r hr text e ha h)

theorem withTypes_spec (hs : tree.get s.id = .ok s) (hn : tree.Numbered) (m : YangModule)
    (errors : List SchemaError) :
    (∀ f, withTypes runtime tree s m errors = .error f → m.namespaceOf.isValid = true ∧
      RowFlaw tree (tree.childrenNamed s "typedef") (builderFor runtime m) .fatal) ∧
    ∀ built, withTypes runtime tree s m errors = .ok built → errors ⊆ built.errors ∧
      (m.namespaceOf.isValid = true →
        ¬ RowFlaw tree (tree.childrenNamed s "typedef") (builderFor runtime m) .fatal ∧
          ∀ e, RowFlaw tree (tree.childrenNamed s "typedef") (builderFor runtime m) (.told e) →
            e ∈ built.errors) := by
  unfold withTypes
  by_cases hvalid : m.namespaceOf.isValid = true
  · have htells : Tells (addTypedefs tree s.id (builderFor runtime m)) (builderFor runtime m)
        (RowFlaw tree (tree.childrenNamed s "typedef") (builderFor runtime m)) := by
      unfold addTypedefs
      rw [bind_apply, hs, ofTree_ok]
      exact addEach_spec (TypeBuilder.sound_initial rfl) fun c hc => hn.get_child hc
    simp only [if_pos hvalid]
    cases hadd : addTypedefs tree s.id (builderFor runtime m) with
    | error f b =>
      rw [hadd] at htells
      exact ⟨fun _ _ => ⟨hvalid, htells⟩, by simp⟩
    | ok ids b =>
      rw [hadd] at htells
      obtain ⟨hnot, -, htold⟩ := tells_ok.1 htells
      refine ⟨by simp, ?_⟩
      rintro built ⟨⟩
      exact ⟨List.subset_append_left _ _, fun _ => ⟨hnot, fun e he =>
        List.mem_append_right _ (htold e he)⟩⟩
  · simp only [if_neg hvalid]
    refine ⟨by simp, ?_⟩
    rintro built ⟨⟩
    exact ⟨List.Subset.refl _, fun h => absurd h hvalid⟩

theorem ofStatement_spec (hs : tree.get s.id = .ok s) (hn : tree.Numbered)
    (hq : s.qualifier = none) (hmodule : s.name = "module") (ha : s.argument = some name) :
    (∀ f, ofStatement runtime tree s = .error f → ModuleFlaw runtime tree s name .fatal) ∧
      ∀ built, ofStatement runtime tree s = .ok built → ¬ ModuleFlaw runtime tree s name .fatal ∧
        ∀ e, ModuleFlaw runtime tree s name (.told e) → e ∈ built.errors := by
  obtain ⟨m, es, hm, hdates⟩ := header_spec tree s name
  obtain ⟨herror, hok⟩ := withTypes_spec hs hn m es
  have hcond : ¬ (s.qualifier.isSome || s.name ≠ "module") = true := by simp [hq, hmodule]
  unfold ofStatement
  rw [if_neg hcond, ha]
  dsimp only
  rw [hm]
  dsimp only
  cases hbuilt : withTypes runtime tree s m es with
  | error f =>
    obtain ⟨hvalid, h⟩ := herror f hbuilt
    exact ⟨fun _ _ => .typedefs hm hvalid h, by simp [Except.map]⟩
  | ok built =>
    obtain ⟨hsub, hvalid⟩ := hok built hbuilt
    refine ⟨by simp [Except.map], ?_⟩
    rintro built' ⟨⟩
    constructor
    · rintro (⟨-, -, h⟩ | ⟨hm', hnamespace, h⟩)
      · exact not_refused_fatal h
      · rw [hm] at hm'
        cases hm'
        exact (hvalid hnamespace).1 h
    · rintro e (⟨hr, hra, h⟩ | ⟨hm', hnamespace, h⟩)
      · exact hsub (hdates _ hr _ e hra h)
      · rw [hm] at hm'
        cases hm'
        exact (hvalid hnamespace).2 e h

end BuiltModule

inductive DocumentFlaw (runtime : Runtime) (tree : StatementTree) : Flaw → Prop
  | mk {s : Statement} {name : String} {x : Flaw} (hroot : tree.rootStatement = .ok s)
      (hq : s.qualifier = none) (hmodule : s.name = "module") (ha : s.argument = some name)
      (h : BuiltModule.ModuleFlaw runtime tree s name x) : DocumentFlaw runtime tree x

end YangSchema
