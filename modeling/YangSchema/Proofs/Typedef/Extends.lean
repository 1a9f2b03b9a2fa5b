import YangSchema.Proofs.Types.Chain
import YangSchema.Proofs.Typedef.Resolution

/-!
# Builders only extend their scope

While a builder goes on, the types that were there stay as they are. New types are added above them,
and only a decimal64 that was made in the same step is given its fraction digits: the names of a
scope stand for types that need none.
-/
namespace YangSchema

namespace TypeStore

variable {s s' : TypeStore} {id : TypeId}

theorem Keeps.unconfigured_iff (h : s.Keeps s') (hid : id < s.size) :
    s'.Unconfigured id ↔ s.Unconfigured id := by
  unfold Unconfigured
  rw [h.get hid]

end TypeStore

namespace TypeBuilder

variable {b b' b'' : TypeBuilder} {new new' : List (QualifiedName × TypeId)}

/-- A state comes after another one: it has its scope and its types, more reports, and some more
names, which are no names of built-in types. -/
structure Extends (b : TypeBuilder) (new : List (QualifiedName × TypeId)) (b' : TypeBuilder) :
    Prop where
  scope : b'.scope = b.scope
  typedefs : b'.typedefs = b.typedefs ++ new
  errors : b.errors <+: b'.errors
  store : b.store.Keeps b'.store
  names : ∀ e ∈ new, ∃ text, e.1 = b.scope.qualify text ∧ Primitive.named? text = none

theorem Extends.refl (b : TypeBuilder) : Extends b [] b :=
  ⟨rfl, (List.append_nil _).symm, List.prefix_refl _, .refl _, by simp⟩

theorem Extends.append (h : Extends b new b') (h' : Extends b' new' b'') :
    Extends b (new ++ new') b'' where
  scope := h'.scope.trans h.scope
  typedefs := by rw [h'.typedefs, h.typedefs, List.append_assoc]
  errors := h.errors.trans h'.errors
  store := h.store.trans h'.store
  names e he := by
    rcases List.mem_append.1 he with he | he
    · exact h.names e he
    · rw [← h.scope]
      exact h'.names e he

theorem extends_reporting (b : TypeBuilder) (es : List SchemaError) :
    Extends b [] (b.reporting es) :=
  ⟨rfl, (List.append_nil _).symm, Build.errors_prefix_reporting b es, .refl _, by simp⟩

theorem Extends.of_adds {n : TypeNode} (ha : b.store.Adds b'.store n) (hscope : b'.scope = b.scope)
    (htypedefs : b'.typedefs = b.typedefs) (herrors : b.errors <+: b'.errors) : Extends b [] b' :=
  ⟨hscope, by rw [htypedefs, List.append_nil], herrors, ha.keeps, by simp⟩

/-- Every chain ends, no name is entered twice, and the types that are known need no fraction
digits. -/
structure Ready (b : TypeBuilder) : Prop where
  grounded : b.store.Grounded
  names : (b.typedefs.map (·.1)).Nodup
  known : ∀ id, b.Known id → id < b.store.size ∧ ¬ b.store.Unconfigured id

theorem Extends.known (h : Extends b new b') {id : TypeId} (hid : b'.Known id) :
    b.Known id ∨ id ∈ new.map (·.2) := by
  cases hid with
  | shared hi => exact .inl (.shared hi)
  | typedef he =>
    rw [h.typedefs] at he
    rcases List.mem_append.1 he with he | he
    · exact .inl (.typedef he)
    · exact .inr (List.mem_map_of_mem he)
  | external he => exact .inl (.external (h.scope ▸ he))

/-- A builder stays ready if the names that are entered are new, and their types need no fraction
digits. -/
theorem Ready.extends (hb : b.Ready) (h : Extends b new b') (hg : b'.store.Grounded)
    (hn : (b'.typedefs.map (·.1)).Nodup)
    (hnew : ∀ id ∈ new.map (·.2), id < b'.store.size ∧ ¬ b'.store.Unconfigured id) : b'.Ready := by
  refine ⟨hg, hn, fun id hid => ?_⟩
  rcases h.known hid with hid | hid
  · obtain ⟨hlt, hready⟩ := hb.known id hid
    exact ⟨h.store.lt_size hlt, hready ∘ (h.store.unconfigured_iff hlt).1⟩
  · exact hnew id hid

theorem Ready.extends_nil (hb : b.Ready) (h : Extends b [] b') (hg : b'.store.Grounded) :
    b'.Ready := by
  refine hb.extends h hg ?_ (by simp)
  rw [h.typedefs, List.append_nil]
  exact hb.names

/-- A builder to start with: it has no typedefs, and no type from outside needs fraction digits. -/
structure Starts (b : TypeBuilder) : Prop where
  typedefs : b.typedefs = []
  store : b.store.Reachable
  external : ∀ e ∈ b.scope.external, e.2 < b.store.size ∧ ¬ b.store.Unconfigured e.2

theorem Starts.ready (h : Starts b) : b.Ready := by
  refine ⟨h.store.grounded, by simp [h.typedefs], fun id hid => ?_⟩
  cases hid with
  | shared hi =>
    obtain ⟨n, hn, hnature⟩ := h.store.shared hi
    refine ⟨TypeStore.lt_size_of_get? hn, ?_⟩
    have hshared := TypeStore.isDecimal64_shared _ (List.getElem_mem hi)
    rw [TypeNode.isDecimal64, ← hnature] at hshared
    unfold TypeStore.Unconfigured
    rw [TypeStore.get_eq hn]
    rintro hbare
    rw [hbare] at hshared
    cases hshared
  | typedef he =>
    rw [h.typedefs] at he
    cases he
  | external he => exact h.external _ he

end TypeBuilder

namespace Build
open TypeBuilder

variable {tree : StatementTree} {s t : Statement} {base id : TypeId} {b b' b₁ : TypeBuilder}

/-- A type that others are put on: one that is known, or a decimal64 of its own, which has its
fraction digits. -/
inductive Carries (b : TypeBuilder) (store : TypeStore) : TypeId → Prop
  | known {id : TypeId} (h : b.Known id) : Carries b store id
  | configured {digits : Nat} (hd : 1 ≤ digits ∧ digits ≤ 18)
    (hn : store.get? b.store.size = some (TypeStore.decimalNode digits)) :
    Carries b store b.store.size

theorem Carries.lt_size {store : TypeStore} (h : Carries b store id) (hb : b.Ready)
    (hs : b.store.Keeps store) : id < store.size := by
  cases h with
  | known h => exact hs.lt_size (hb.known id h).1
  | configured hd hn => exact TypeStore.lt_size_of_get? hn

theorem extends_of_found {r : Option TypeId} (hb : b.Ready) (h : Found b r b') :
    Extends b [] b' ∧ b'.store.Grounded := by
  cases h with
  | missing => exact ⟨.refl b, hb.grounded⟩
  | known => exact ⟨.refl b, hb.grounded⟩
  | fresh =>
    have hadds := TypeStore.adds_add b.store (TypeStore.primitiveNode .decimal64)
    exact ⟨.of_adds hadds rfl rfl (List.prefix_refl _), hb.grounded.adds hadds (by simp)⟩

theorem extends_of_names {r : Option TypeId} (hb : b.Ready) (h : Names b r b') :
    Extends b [] b' ∧ b'.store.Grounded := by
  cases h with
  | refused es => exact ⟨extends_reporting b es, hb.grounded⟩
  | found h => exact extends_of_found hb h

/-- What was found becomes ready for use, and only what was made for this use is changed. -/
theorem carries_of_readied {found : Substatements} {es : List SchemaError} {b₂ : TypeBuilder}
    (hb : b.Ready) (hfound : Found b (some base) b₁)
    (h : Readied (b₁.reporting es) found base (some ()) b₂) :
    Extends b [] b₂ ∧ b₂.store.Grounded ∧ Carries b b₂.store base := by
  have hreported (fs : List SchemaError) : b.errors <+: (b.reporting fs).errors :=
    errors_prefix_reporting b fs
  cases hfound with
  | known hknown =>
    cases h with
    | ready =>
      rw [reporting_reporting]
      exact ⟨extends_reporting b _, hb.grounded, .known hknown⟩
    | configured hbare => exact absurd hbare (hb.known base hknown).2
  | fresh =>
    have hadds := TypeStore.adds_add b.store (TypeStore.primitiveNode .decimal64)
    cases h with
    | ready hready =>
      refine absurd ?_ hready
      change (b.store.add _ |>.get _).nature = _
      rw [TypeStore.get_eq hadds.node]
      rfl
    | @configured _ _ digits hbare hd ha hdigits =>
      have hadds := hadds.modify fun n => { n with nature := .decimal64 (some ⟨digits⟩) }
      refine ⟨.of_adds hadds rfl rfl (hreported es), hb.grounded.adds hadds (by simp), ?_⟩
      exact .configured (Argument.bounds_of_fractionDigits hdigits) hadds.node

theorem extends_of_resolve {r : Option (TypeId × List Restriction)} (hb : b.Ready)
    (h : resolve tree t b = .ok r b') : Extends b [] b' ∧ b'.store.Grounded ∧
      ∀ base rs, r = some (base, rs) → Carries b b'.store base := by
  cases resolves_of_resolve h with
  | refused es => exact ⟨extends_reporting b es, hb.grounded, by simp⟩
  | unready hbase es =>
    obtain ⟨hextends, hgrounded⟩ := extends_of_names hb hbase
    exact ⟨hextends.append (extends_reporting _ es), hgrounded, by simp⟩
  | resolved ha hbase hdigits hrs =>
    obtain ⟨es, rfl, -⟩ := reports_restrictions _ _ _ _ _ _ hrs
    cases names_of_baseOf hbase with
    | found hfound =>
      obtain ⟨hextends, hgrounded, hcarries⟩ :=
        carries_of_readied hb hfound (readied_of_fractionDigits hdigits)
      refine ⟨hextends.append (extends_reporting _ es), hgrounded, ?_⟩
      rintro _ _ ⟨⟩
      exact hcarries

inductive Enlarges (b : TypeBuilder) : Option TypeId → TypeBuilder → Prop
  | left {b' : TypeBuilder} (h : Extends b [] b') (hg : b'.store.Grounded) : Enlarges b none b'
  | entered {b' : TypeBuilder} {name : QualifiedName} {id base : TypeId} {n : TypeNode}
    (h : Extends b [(name, id)] b') (hg : b'.store.Grounded)
    (hfree : b.typedefs.lookup name = none) (hn : b'.store.get? id = some n)
    (hname : n.name = name) (hnature : n.nature = .derived) (hbase : n.base = some base)
    (hlt : base < id) (hcarries : Carries b b'.store base) : Enlarges b (some id) b'

theorem Carries.keeps {store store' : TypeStore} (h : Carries b store id)
    (hs : store.Keeps store') : Carries b store' id := by
  cases h with
  | known h => exact .known h
  | configured hd hn => exact .configured hd (hs hn)

theorem Carries.of_reporting {store : TypeStore} {es : List SchemaError}
    (h : Carries (b.reporting es) store id) : Carries b store id := by
  cases h with
  | known h =>
    rcases (extends_reporting b es).known h with h | h
    · exact .known h
    · cases h
  | configured hd hn => exact .configured hd hn

theorem enlarges_of_defines {r : Option TypeId} (hb : b.Ready) (h : Defines tree s b r b') :
    Enlarges b r b' := by
  cases h with
  | refused es => exact .left (extends_reporting b es) hb.grounded
  | unresolved hresolve =>
    have hextends := extends_reporting b (below tree Allowed.inTypedef s).errors
    obtain ⟨hextends', hgrounded, -⟩ :=
      extends_of_resolve (hb.extends_nil hextends hb.grounded) hresolve
    exact .left (hextends.append hextends') hgrounded
  | @defined name t row base rs b₁ b₂ b₃ log ha hname hfree ht hresolve hproperties hdefault =>
    have hextends := extends_reporting b (below tree Allowed.inTypedef s).errors
    obtain ⟨hextends₁, hgrounded₁, hcarries⟩ :=
      extends_of_resolve (hb.extends_nil hextends hb.grounded) hresolve
    have hcarries := (hcarries base rs rfl).of_reporting
    have hextends := hextends.append hextends₁
    obtain ⟨n, hl, hn, -⟩ := leaves_of_properties rfl hproperties
    obtain ⟨es, rfl, -⟩ := reports_checkDefault _ _ _ _ _ hdefault
    have hbase : n.base = some base := by rw [hn]
    have hlt : base < b₁.store.size := hcarries.lt_size hb hextends.store
    have hextends₂ : Extends b₁ [] b₂ := .of_adds hl.adds hl.scope hl.typedefs hl.errors
    obtain ⟨hscope, htypedefs, herrors, hstore, -⟩ :=
      (hextends.append hextends₂).append (extends_reporting b₂ es)
    refine .entered ⟨hscope, ?_, herrors, hstore, ?_⟩ ?_ hfree hl.adds.node (by rw [hn])
      (by rw [hn]) hbase hlt (hcarries.keeps hl.adds.keeps)
    · exact congrArg (· ++ [(b.scope.qualify name, b₁.store.size)])
        (htypedefs.trans (List.append_nil _))
    · rintro e he
      obtain rfl := List.mem_singleton.1 he
      exact ⟨name, rfl, hname⟩
    · exact hgrounded₁.adds hl.adds fun base' h => by
        rw [hbase] at h
        cases h
        exact hlt

theorem Enlarges.ready {r : Option TypeId} (hb : b.Ready) (h : Enlarges b r b') : b'.Ready := by
  cases h with
  | left h hg => exact hb.extends_nil h hg
  | @entered _ name id base n h hg hfree hn hname hnature hbase hlt hcarries =>
    refine hb.extends h hg ?_ ?_
    · rw [h.typedefs, List.map_append, List.map_singleton]
      refine List.nodup_append.2 ⟨hb.names, List.nodup_singleton _, ?_⟩
      rintro _ hold _ hnew rfl
      obtain rfl := List.mem_singleton.1 hnew
      obtain ⟨e, he, hname⟩ := List.mem_map.1 hold
      have hne := List.lookup_eq_none_iff.1 hfree e he
      simp [hname] at hne
    · rintro i hi
      obtain rfl := List.mem_singleton.1 hi
      refine ⟨TypeStore.lt_size_of_get? hn, ?_⟩
      unfold TypeStore.Unconfigured
      rw [TypeStore.get_eq hn, hnature]
      simp

theorem Enlarges.exists_new {r : Option TypeId} (h : Enlarges b r b') :
    ∃ new, Extends b new b' ∧ new.map (·.2) = r.toList := by
  cases h with
  | left h hg => exact ⟨[], h, rfl⟩
  | entered h => exact ⟨_, h, rfl⟩

theorem enlarges_of_addTypedef {i : StatementId} {r : Option TypeId} (hb : b.Ready)
    (h : addTypedef tree i b = .ok r b') : Enlarges b r b' := by
  obtain ⟨s, -, hdefines⟩ := defines_of_addTypedef h
  exact enlarges_of_defines hb hdefines

theorem eq_of_ofTree {x : Except TreeFault Statement} (h : ofTree x b = .ok s b') :
    x = .ok s ∧ b' = b := by
  cases x with
  | error f => cases h
  | ok q =>
    cases h
    exact ⟨rfl, rfl⟩

/-- A row of typedefs enters one type for each that is built. -/
theorem extends_of_addEach {row : List Statement} {ids : List TypeId} (hb : b.Ready)
    (h : addEach tree row b = .ok ids b') :
    ∃ new, Extends b new b' ∧ new.map (·.2) = ids ∧ b'.Ready := by
  induction row generalizing b ids with
  | nil =>
    cases h
    exact ⟨[], .refl _, rfl, hb⟩
  | cons s row ih =>
    obtain ⟨r, b₁, hfirst, h⟩ := bind_eq_ok.1 h
    obtain ⟨others, b₂, hothers, h⟩ := bind_eq_ok.1 h
    cases h
    have henlarges := enlarges_of_addTypedef hb hfirst
    obtain ⟨new₁, hextends₁, hids₁⟩ := henlarges.exists_new
    obtain ⟨new₂, hextends₂, hids₂, hready⟩ := ih (henlarges.ready hb) hothers
    exact ⟨_, hextends₁.append hextends₂, by rw [List.map_append, hids₁, hids₂], hready⟩

end Build
end YangSchema
