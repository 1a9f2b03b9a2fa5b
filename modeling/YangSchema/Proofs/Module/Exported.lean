import YangSchema.Module.Builder
import YangSchema.Proofs.Module.UsableDefault
import YangSchema.Proofs.Typedef.Extends
import YangSchema.Statement.Parser

/-!
# Exported types

A module exports the typedefs that were built, in their order. Each rests on a built-in type by way
of typedefs that were exported before it, and reads and writes as that one does.
-/
namespace YangSchema

namespace TypeStore

variable {s s' : TypeStore} {id root : TypeId} {earlier : List TypeId}
  {row : List (QualifiedName × TypeId)}

/-- A built-in type as it is made, or a decimal64 with its fraction digits. -/
inductive Registered (s : TypeStore) : TypeId → Prop
  | shared {i : TypeId} (hi : i < Primitive.shared.length)
    (hn : s.get? i = some (primitiveNode Primitive.shared[i])) : Registered s i
  | decimal64 {id : TypeId} {digits : Nat} (hd : 1 ≤ digits ∧ digits ≤ 18)
    (hn : s.get? id = some (decimalNode digits)) : Registered s id

theorem Registered.keeps (h : s.Registered id) (hs : s.Keeps s') : s'.Registered id := by
  cases h with
  | shared hi hn => exact .shared hi (hs hn)
  | decimal64 hd hn => exact .decimal64 hd (hs hn)

theorem Registered.descends (h : s.Registered id) : s.Descends id [id] := by
  cases h with
  | shared hi hn => exact .root hn rfl
  | decimal64 hd hn => exact .root hn rfl

theorem Registered.exists_reads (h : s.Registered id) : ∃ c, s.Reads id c := by
  cases h with
  | shared hi hn =>
    obtain ⟨c, hc⟩ := TypeBuilder.exists_codec_of_mem_shared (List.getElem_mem hi)
    exact ⟨c, .own hn rfl hc⟩
  | decimal64 hd hn => exact ⟨_, .own hn rfl rfl⟩

/-- A type rests on a built-in one, by way of given types. -/
structure Rests (s : TypeStore) (earlier : List TypeId) (id root : TypeId) : Prop where
  descends : ∃ levels, s.Descends id (id :: (levels ++ [root])) ∧ levels ⊆ earlier
  registered : s.Registered root
  reads : ∃ c, s.Reads id c ∧ s.Reads root c

/-- In a row of types each one is put on an earlier one or on a built-in type. -/
inductive Layered (s : TypeStore) : List (QualifiedName × TypeId) → Prop
  | nil : Layered s []
  | snoc {row : List (QualifiedName × TypeId)} {name : QualifiedName} {id base : TypeId}
    {n : TypeNode} (h : Layered s row) (hn : s.get? id = some n) (hname : n.name = name)
    (hnature : n.nature = .derived) (hbase : n.base = some base) (hlt : base < id)
    (hlow : base ∈ row.map (·.2) ∨ s.Registered base) : Layered s (row ++ [(name, id)])

theorem Layered.keeps (h : s.Layered row) (hs : s.Keeps s') : s'.Layered row := by
  induction h with
  | nil => exact .nil
  | snoc h hn hname hnature hbase hlt hlow ih =>
    exact .snoc ih (hs hn) hname hnature hbase hlt (hlow.imp_right (·.keeps hs))

theorem Layered.name_eq (h : s.Layered row) {e : QualifiedName × TypeId} (he : e ∈ row) :
    (s.get e.2).name = e.1 := by
  induction h with
  | nil => cases he
  | snoc h hn hname hnature hbase hlt hlow ih =>
    rcases List.mem_append.1 he with he | he
    · exact ih he
    · obtain rfl := List.mem_singleton.1 he
      rw [get_eq hn, hname]

/-- Every type of the row rests on a built-in one by way of those before it. -/
theorem Layered.rests (h : s.Layered row) {before after : List (QualifiedName × TypeId)}
    {e : QualifiedName × TypeId} (hrow : row = before ++ e :: after) :
    ∃ root, s.Rests (before.map (·.2)) e.2 root := by
  induction h generalizing before e after with
  | nil => simp at hrow
  | @snoc row name id base n h hn hname hnature hbase hlt hlow ih =>
    rcases List.eq_nil_or_concat after with rfl | ⟨after, last, rfl⟩
    · obtain ⟨rfl, he⟩ := List.append_inj' hrow rfl
      cases he
      rcases hlow with hlow | hlow
      · obtain ⟨e, he, rfl⟩ := List.mem_map.1 hlow
        obtain ⟨before', after', rfl⟩ := List.append_of_mem he
        obtain ⟨root, ⟨levels, hdescends, hlevels⟩, hregistered, c, hreads, hroot⟩ := ih rfl
        refine ⟨root, ⟨e.2 :: levels, .step hn hbase hdescends, ?_⟩, hregistered, c,
          .derived hn hnature hbase hlt hreads, hroot⟩
        apply List.cons_subset.2
        constructor
        · exact hlow
        · intro i hi
          rw [List.map_append]
          exact List.mem_append_left _ (hlevels hi)
      · obtain ⟨c, hc⟩ := hlow.exists_reads
        exact ⟨base, ⟨[], .step hn hbase hlow.descends, by simp⟩, hlow, c,
          .derived hn hnature hbase hlt hc, hc⟩
    · have hinit : row = before ++ e :: after := by
        have hsplit : row ++ [(name, id)] = (before ++ e :: after) ++ [last] := by
          rw [hrow]
          simp
        exact (List.append_inj' hsplit rfl).1
      exact ih hinit

/-- A type can be used: its chain ends at a built-in type, and leads there by way of given types. It
reads and writes as that one does, which is ready for it. -/
structure Usable (s : TypeStore) (earlier : List TypeId) (id : TypeId) : Prop where
  chain : ∃ levels, s.chain id = id :: (levels ++ [s.root id]) ∧
    s.Descends id (id :: (levels ++ [s.root id])) ∧ levels ⊆ earlier
  registered : s.Registered (s.root id)
  parse : ∀ v, s.parseValue id v = s.parseValue (s.root id) v
  serialize : ∀ v, s.serialize id v = s.serialize (s.root id) v
  parses : ∀ v f, s.parseValue id v = .error f → ∃ long, f = .numeral long
  serializes : ∀ v, ∃ text?, s.serialize id v = .ok text?

theorem Reads.parseValue_eq_error {c : Codec} (h : s.Reads id c) {v : Value} {f : TypeFault}
    (hf : s.parseValue id v = .error f) : ∃ long, f = .numeral long := by
  rw [parseValue, codec_of_reads h] at hf
  change (c.parseValue v).mapError TypeFault.numeral = _ at hf
  cases hv : c.parseValue v with
  | ok w? =>
    rw [hv] at hf
    cases hf
  | error long =>
    rw [hv] at hf
    cases hf
    exact ⟨long, rfl⟩

theorem Rests.usable (h : s.Rests earlier id root) : s.Usable earlier id := by
  obtain ⟨⟨levels, hdescends, hlevels⟩, hregistered, c, hreads, hroot⟩ := h
  have hchain := hdescends.chain
  obtain rfl : s.root id = root := by
    rw [TypeStore.root, hchain, ← List.cons_append, List.getLastD_concat]
  exact {
    chain := ⟨levels, hchain, hdescends, hlevels⟩
    registered := hregistered
    parse v := by rw [parseValue, parseValue, codec_of_reads hreads, codec_of_reads hroot]
    serialize v := by rw [serialize, serialize, codec_of_reads hreads, codec_of_reads hroot]
    parses v f := hreads.parseValue_eq_error
    serializes v := ⟨c.serialize v, by
      rw [TypeStore.serialize, codec_of_reads hreads]
      rfl⟩ }

end TypeStore

namespace TypeBuilder

/-- A builder that knows only the built-in types, which nobody has changed, and what was built from
them. -/
structure Stocked (b : TypeBuilder) : Prop where
  ready : b.Ready
  builtIn : TypeStore.initial.Keeps b.store
  external : b.scope.external = []
  layered : b.store.Layered b.typedefs

theorem stocked_initial {scope : Scope} (h : scope.external = []) : Stocked { scope } := by
  have hstarts : Starts { scope } := ⟨rfl, .initial, by simp [h]⟩
  exact ⟨hstarts.ready, .refl _, h, .nil⟩

theorem Stocked.enlarges {b b' : TypeBuilder} {r : Option TypeId} (hb : b.Stocked)
    (h : Build.Enlarges b r b') : b'.Stocked := by
  have hready := h.ready hb.ready
  cases h with
  | left h hg =>
    refine ⟨hready, hb.builtIn.trans h.store, by rw [h.scope, hb.external], ?_⟩
    rw [h.typedefs, List.append_nil]
    exact hb.layered.keeps h.store
  | @entered _ name id base n h hg hfree hn hname hnature hbase hlt hcarries =>
    refine ⟨hready, hb.builtIn.trans h.store, by rw [h.scope, hb.external], ?_⟩
    rw [h.typedefs]
    refine .snoc (hb.layered.keeps h.store) hn hname hnature hbase hlt ?_
    cases hcarries with
    | known hknown =>
      cases hknown with
      | shared hi => exact .inr (.shared hi (h.store (hb.builtIn (TypeStore.get?_initial hi))))
      | typedef he => exact .inl (List.mem_map_of_mem he)
      | external he =>
        rw [hb.external] at he
        cases he
    | configured hd hn => exact .inr (.decimal64 hd hn)

end TypeBuilder

theorem Build.stocked_of_addEach {tree : StatementTree} {row : List Statement} {ids : List TypeId}
    {b b' : TypeBuilder} (hb : b.Stocked) (h : addEach tree row b = .ok ids b') : b'.Stocked := by
  induction row generalizing b ids with
  | nil =>
    cases h
    exact hb
  | cons s row ih =>
    obtain ⟨r, b₁, hfirst, h⟩ := bind_eq_ok.1 h
    obtain ⟨others, b₂, hothers, h⟩ := bind_eq_ok.1 h
    cases h
    exact ih (hb.enlarges (enlarges_of_addTypedef hb.ready hfirst)) hothers

/-- The names that were entered are those of the types. -/
theorem Build.typedefs_of_addEach {tree : StatementTree} {row : List Statement} {ids : List TypeId}
    {b b' : TypeBuilder} (hb : b.Stocked) (ht : b.typedefs = [])
    (h : addEach tree row b = .ok ids b') :
    b'.typedefs = ids.map fun id => ((b'.store.get id).name, id) := by
  have hlayered := (stocked_of_addEach hb h).layered
  obtain ⟨new, hx, rfl, -⟩ := extends_of_addEach hb.ready h
  have htypedefs : b'.typedefs = new := by rw [hx.typedefs, ht, List.nil_append]
  rw [htypedefs] at hlayered ⊢
  calc new = new.map id := (List.map_id new).symm
    _ = new.map fun e => ((b'.store.get e.2).name, e.2) :=
      List.map_congr_left fun e he => by rw [hlayered.name_eq he, id_eq]
    _ = (new.map (·.2)).map fun i => ((b'.store.get i).name, i) := by
      rw [List.map_map, Function.comp_def]

/-- Types with different names are exported one after the other. -/
theorem YangModule.exported_foldl_exportType {name : TypeId → QualifiedName} {ids : List TypeId}
    {m : YangModule} (h : (m.exported.map (·.1) ++ ids.map name).Nodup) :
    (ids.foldl (fun m id => m.exportType (name id) id) m).exported =
      m.exported ++ ids.map fun id => (name id, id) := by
  induction ids generalizing m with
  | nil => simp
  | cons id ids ih =>
    have hfresh : m.exported.any (·.1 = name id) = false := by
      rw [List.map_cons, List.nodup_append] at h
      refine List.any_eq_false.2 fun e he hname => ?_
      exact h.2.2 e.1 (List.mem_map_of_mem he) (name id) List.mem_cons_self (by simpa using hname)
    have hexport : (m.exportType (name id) id).exported = m.exported ++ [(name id, id)] := by
      rw [exportType, if_neg (by simp [hfresh])]
    rw [List.foldl_cons, ih, hexport]
    · simp
    · rw [hexport]
      simpa using h

/-- Where no local name comes twice, it names the one exported type that has it. -/
theorem YangModule.typeNamed?_eq_some {m : YangModule} {name : String} {id : TypeId}
    (h : (m.exported.map (·.1.name)).Nodup) :
    m.typeNamed? name = some id ↔ ∃ e ∈ m.exported, e.1.name = name ∧ e.2 = id := by
  rw [typeNamed?, Option.map_eq_some_iff]
  constructor
  · rintro ⟨e, he, rfl⟩
    have hname := List.find?_some he
    exact ⟨e, List.mem_reverse.1 (List.mem_of_find?_eq_some he), by simpa using hname, rfl⟩
  · rintro ⟨e, he, hname, rfl⟩
    cases hfind : m.exported.reverse.find? (·.1.name = name) with
    | none =>
      have hnone := List.find?_eq_none.1 hfind e (List.mem_reverse.2 he)
      simp [hname] at hnone
    | some e' =>
      have hname' := List.find?_some hfind
      have he' := List.mem_reverse.1 (List.mem_of_find?_eq_some hfind)
      have heq : e' = e := List.inj_on_of_nodup_map h he' he (by simp_all)
      exact ⟨e', rfl, by rw [heq]⟩

namespace BuiltModule
open ModuleText Build

variable {runtime : Runtime} {tree : StatementTree} {s : Statement} {m m' : YangModule}
  {built : BuiltModule}

/-- A module exports what a builder has entered in its scope. -/
theorem exists_stocked_of_withTypes (hm : m.exported = []) {errors : List SchemaError}
    (h : withTypes runtime tree s m errors = .ok built) (hm' : built.module = some m') :
    ∃ b : TypeBuilder, b.Stocked ∧ b.typedefs = m'.exported ∧ b.store = built.store ∧
      ∀ e ∈ b.typedefs, ∃ text, e.1 = b.scope.qualify text := by
  have hb : (builderFor runtime m).Stocked := TypeBuilder.stocked_initial rfl
  unfold withTypes at h
  split at h
  · cases hadd : addTypedefs tree s.id (builderFor runtime m) with
    | error f b =>
      rw [hadd] at h
      cases h
    | ok ids b =>
      rw [hadd] at h
      cases h
      cases hm'
      unfold addTypedefs at hadd
      obtain ⟨q, _, hq, hrow⟩ := bind_eq_ok.1 hadd
      obtain ⟨-, rfl⟩ := eq_of_ofTree hq
      have hstocked := stocked_of_addEach hb hrow
      have htypedefs := typedefs_of_addEach hb rfl hrow
      have hnames := hstocked.ready.names
      rw [htypedefs, List.map_map] at hnames
      refine ⟨b, hstocked, ?_, rfl, ?_⟩
      · rw [YangModule.exported_foldl_exportType (by simpa [hm, Function.comp_def] using hnames),
          hm, List.nil_append, ← htypedefs]
      · obtain ⟨new, hextends, -, -⟩ := extends_of_addEach hb.ready hrow
        have hnew : b.typedefs = new := hextends.typedefs
        intro e he
        rw [hnew] at he
        obtain ⟨text, htext, -⟩ := hextends.names e he
        exact ⟨text, by rw [htext, hextends.scope]⟩
  · cases h
    cases hm'
    exact ⟨builderFor runtime m, hb, hm.symm, rfl, by simp [builderFor]⟩

theorem exists_stocked_of_ofStatement (h : ofStatement runtime tree s = .ok built)
    (hm : built.module = some m) :
    ∃ b : TypeBuilder, b.Stocked ∧ b.typedefs = m.exported ∧ b.store = built.store ∧
      ∀ e ∈ b.typedefs, ∃ text, e.1 = b.scope.qualify text := by
  unfold ofStatement at h
  split at h
  · cases h
    cases hm
  split at h
  · cases h
    cases hm
  next name ha =>
  split at h
  · cases h
  next header errors hheader =>
  cases htypes : withTypes runtime tree s header errors with
  | error f =>
    rw [htypes] at h
    cases h
  | ok types =>
    rw [htypes] at h
    cases h
    have hstocked := exists_stocked_of_withTypes (exported_header hheader) htypes hm
    exact hstocked

theorem usable_of_ofStatement_exported (h : ofStatement runtime tree s = .ok built)
    (hm : built.module = some m) {before after : List (QualifiedName × TypeId)}
    {e : QualifiedName × TypeId} (he : m.exported = before ++ e :: after) :
    built.store.Usable (before.map (·.2)) e.2 := by
  obtain ⟨b, hstocked, htypedefs, hstore, -⟩ := exists_stocked_of_ofStatement h hm
  obtain ⟨root, hrests⟩ := hstocked.layered.rests (htypedefs.trans he)
  rw [← hstore]
  exact hrests.usable

/-- All types that are exported are in one namespace, so that their local names tell them apart. -/
theorem nodup_exported_names {id? : Option StatementId} (h : of runtime tree id? = .ok built)
    (hm : built.module = some m) : (m.exported.map (·.1.name)).Nodup := by
  unfold of at h
  split at h
  · cases h
  next s hs =>
  obtain ⟨b, hstocked, htypedefs, -, hnames⟩ := exists_stocked_of_ofStatement h hm
  rw [← htypedefs]
  have hnodup := hstocked.ready.names
  rw [List.Nodup, List.pairwise_map] at hnodup ⊢
  refine hnodup.imp_of_mem ?_
  intro e e' he he' hne hname
  obtain ⟨text, htext⟩ := hnames e he
  obtain ⟨text', htext'⟩ := hnames e' he'
  rw [htext, htext'] at hname hne
  exact hne (congrArg _ hname)

end BuiltModule

/-- Every type that a module exports can be used: it rests on a built-in type by way of types that
are exported before it. -/
theorem usable_of_exported {runtime : Runtime} {tree : StatementTree} {id? : Option StatementId}
    {built : BuiltModule} {m : YangModule}
    (h : BuiltModule.of runtime tree id? = .ok built) (hm : built.module = some m)
    {before after : List (QualifiedName × TypeId)} {e : QualifiedName × TypeId}
    (he : m.exported = before ++ e :: after) : built.store.Usable (before.map (·.2)) e.2 := by
  unfold BuiltModule.of at h
  split at h
  · cases h
  · exact BuiltModule.usable_of_ofStatement_exported h hm he

/-- Of these typedefs two are exported, and the second one is a decimal64 by way of the first. -/
theorem usable_of_second : ∃ p built m first second,
    parseDocument ("module m \x7b namespace n; prefix p; typedef a \x7b type decimal64 \x7b " ++
        "fraction-digits 2; \x7d \x7d typedef b \x7b type c; \x7d " ++
        "typedef c \x7b type p:a; \x7d typedef a \x7b type int8; \x7d \x7d") {} = .ok p ∧
      BuiltModule.of {} p.tree none = .ok built ∧ built.module = some m ∧
        m.exported = [first] ++ second :: [] ∧ built.store.Usable [first.2] second.2 := by
  have hbuilt : (parseDocument ("module m \x7b namespace n; prefix p; typedef a \x7b type " ++
      "decimal64 \x7b fraction-digits 2; \x7d \x7d typedef b \x7b type c; \x7d " ++
      "typedef c \x7b type p:a; \x7d typedef a \x7b type int8; \x7d \x7d") {}).toOption.bind
        (fun p => (BuiltModule.of {} p.tree none).toOption.bind fun built =>
          built.module.map fun m => m.exported.length) = some 2 := by
    decide +kernel
  obtain ⟨p, hp, hbuilt⟩ := Option.bind_eq_some_iff.1 hbuilt
  obtain ⟨built, hb, hbuilt⟩ := Option.bind_eq_some_iff.1 hbuilt
  obtain ⟨m, hm, hlength⟩ := Option.map_eq_some_iff.1 hbuilt
  obtain ⟨first, second, hexported⟩ := List.length_eq_two.1 hlength
  have hb := toOption_eq_some.1 hb
  have hsplit : m.exported = [first] ++ second :: [] := hexported
  exact ⟨p, built, m, first, second, toOption_eq_some.1 hp, hb, hm, hsplit,
    usable_of_exported hb hm hsplit⟩

end YangSchema
