import YangSchema.Proofs.Module.Flaw
import YangSchema.Proofs.Typedef.Settled

/-!
# Defaults of a module without errors

A module that was built without an error exports only types with a default that they accept.
-/
namespace YangSchema

variable {runtime : Runtime} {tree : StatementTree} {s : Statement} {m : YangModule}

/-- A module exports what it did before and the new types. -/
theorem YangModule.mem_exportType {name : QualifiedName} {id : TypeId}
    {e : QualifiedName × TypeId} (he : e ∈ (m.exportType name id).exported) :
    e ∈ m.exported ∨ e.2 = id := by
  unfold exportType at he
  split at he
  · obtain ⟨e', he', rfl⟩ := List.mem_map.1 he
    split
    · exact .inr rfl
    · exact .inl he'
  · obtain he | he := List.mem_append.1 he
    · exact .inl he
    · exact .inr (by rw [List.mem_singleton.1 he])

theorem YangModule.mem_foldl_exportType {name : TypeId → QualifiedName} {ids : List TypeId}
    {e : QualifiedName × TypeId}
    (he : e ∈ (ids.foldl (fun m id => m.exportType (name id) id) m).exported) :
    e ∈ m.exported ∨ e.2 ∈ ids := by
  induction ids generalizing m with
  | nil => exact .inl he
  | cons id ids ih =>
    obtain he | he := ih he
    · obtain he | rfl := mem_exportType he
      · exact .inl he
      · exact .inr List.mem_cons_self
    · exact .inr (List.mem_cons_of_mem id he)

/-- Building starts at a statement of the tree. -/
theorem StatementTree.exists_get_of_start {id? : Option StatementId}
    (h : tree.start id? = .ok s) : ∃ id, tree.get id = .ok s := by
  cases id? with
  | some id => exact ⟨id, h⟩
  | none =>
    simp only [start, rootStatement] at h
    split at h
    · exact ⟨_, h⟩
    · cases h
    · cases h

namespace BuiltModule
open ModuleText Build

theorem exported_header {name : String} {es : List SchemaError}
    (h : header tree s name = .ok (m, es)) : m.exported = [] := by
  obtain ⟨⟨rs, e₈⟩, -, h⟩ := except_bind_eq_ok.1 h
  cases h
  rfl

theorem usable_of_withTypes (hs : tree.get s.id = .ok s) (hn : tree.Numbered)
    (hm : m.exported = []) {errors : List SchemaError} {built : BuiltModule}
    (h : withTypes runtime tree s m errors = .ok built) (he : built.errors = []) {m' : YangModule}
    (hm' : built.module = some m') {e : QualifiedName × TypeId} (hmem : e ∈ m'.exported) :
    built.store.HasUsableDefault e.2 := by
  unfold withTypes at h
  split at h
  · cases hadd : addTypedefs tree s.id (builderFor runtime m) with
    | error f b =>
      rw [hadd] at h
      cases h
    | ok ids b =>
      rw [hadd] at h
      cases h
      cases hm'
      unfold addTypedefs at hadd
      rw [bind_apply, hs, ofTree_ok] at hadd
      have hadvances := advances_addEach (TypeBuilder.tidy_initial rfl)
        (fun c hc => hn.get_child hc) hadd (List.append_eq_nil_iff.1 he).2
      obtain hmem | hmem := YangModule.mem_foldl_exportType hmem
      · rw [hm] at hmem
        exact absurd hmem List.not_mem_nil
      · exact (hadvances.built _ hmem).usable
  · cases h
    cases hm'
    rw [hm] at hmem
    exact absurd hmem List.not_mem_nil

theorem usable_of_ofStatement (hs : tree.get s.id = .ok s) (hn : tree.Numbered)
    {built : BuiltModule} (h : ofStatement runtime tree s = .ok built) (he : built.errors = [])
    (hm : built.module = some m) {e : QualifiedName × TypeId} (hmem : e ∈ m.exported) :
    built.store.HasUsableDefault e.2 := by
  unfold ofStatement at h
  split at h
  · cases h
    cases hm
  · split at h
    · cases h
      cases hm
    · next name ha =>
      split at h
      · cases h
      · next header errors hheader =>
        cases htypes : withTypes runtime tree s header errors with
        | error f =>
          rw [htypes] at h
          cases h
        | ok types =>
          rw [htypes] at h
          cases h
          exact usable_of_withTypes hs hn (exported_header hheader) htypes he hm hmem

end BuiltModule

/-- Every type that a module without errors exports has a default that it reads and that no
restriction of its chain refuses, if it has one at all. -/
theorem usable_of_noErrors {text : String} {settings : ParserSettings} {p : Parsed}
    (h : parseDocument text settings = .ok p) {id? : Option StatementId} {built : BuiltModule}
    (hb : BuiltModule.of runtime p.tree id? = .ok built) (hm : built.module = some m)
    (he : built.errors = []) : ∀ e ∈ m.exported, built.store.HasUsableDefault e.2 := by
  obtain ⟨t, -, ht⟩ := exists_of_parseDocument h
  rw [ht] at hb
  have hn : t.arena.Numbered := fun id q hq => SyntaxTree.id_of_get?_arena hq
  intro e hmem
  unfold BuiltModule.of at hb
  split at hb
  · cases hb
  · next s hs =>
    obtain ⟨id, hid⟩ := StatementTree.exists_get_of_start hs
    exact BuiltModule.usable_of_ofStatement (hn.get_id hid) hn hb he hm hmem

/-- The second type of this module inherits a default, and restricts it further. -/
theorem usable_of_inherited :
    ∃ p built m, parseDocument ("module m \x7b namespace n; prefix p; typedef a \x7b type int8; " ++
        "default 5; \x7d typedef b \x7b type a \x7b range '2..6'; \x7d \x7d \x7d") {} = .ok p ∧
      BuiltModule.of {} p.tree none = .ok built ∧ built.module = some m ∧ built.errors = [] ∧
        m.exported.map (fun e => (built.store.property e.2 .default).text?) = [some "5", some "5"] ∧
          ∀ e ∈ m.exported, built.store.HasUsableDefault e.2 := by
  have hbuilt : (parseDocument ("module m \x7b namespace n; prefix p; typedef a \x7b type int8; " ++
      "default 5; \x7d typedef b \x7b type a \x7b range '2..6'; \x7d \x7d \x7d") {}).toOption.bind
        (fun p => (BuiltModule.of {} p.tree none).toOption.bind fun built =>
          built.module.map fun m => (built.errors.length,
            m.exported.map fun e => (built.store.property e.2 .default).text?)) =
      some (0, [some "5", some "5"]) := by
    decide +kernel
  obtain ⟨p, hp, hbuilt⟩ := Option.bind_eq_some_iff.1 hbuilt
  obtain ⟨built, hb, hbuilt⟩ := Option.bind_eq_some_iff.1 hbuilt
  obtain ⟨m, hm, hbuilt⟩ := Option.map_eq_some_iff.1 hbuilt
  obtain ⟨herrors, hdefaults⟩ := Prod.mk.inj hbuilt
  have hp := toOption_eq_some.1 hp
  have hb := toOption_eq_some.1 hb
  have he := List.eq_nil_of_length_eq_zero herrors
  exact ⟨p, built, m, hp, hb, hm, he, hdefaults, usable_of_noErrors hp hb hm he⟩

end YangSchema
