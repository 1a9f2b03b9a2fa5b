import YangSchema.Proofs.Typedef.Resolution

/-!
# Defaults that can be used

The default of a typedef is its own or that of its base. A builder that has nothing to report knows
only types whose default is a literal that the whole chain admits: an inherited default that is no
literal is not told again, but then the base has one that was told.
-/
namespace YangSchema
namespace TypeStore

variable {s s' : TypeStore} {id : TypeId} {c : Codec} {v : Value}

/-- The default of a type, if it has one, is a literal that no restriction of its chain refuses. -/
def HasUsableDefault (s : TypeStore) (id : TypeId) : Prop :=
  s.property id .default ≠ .none →
    ∃ v, s.parseValue id (s.property id .default) = .ok (some v) ∧ s.violation? id v = .ok none

structure Settled (s : TypeStore) (id : TypeId) : Prop where
  reads : ∃ c, s.Reads id c
  usable : s.HasUsableDefault id

theorem violation?_eq_none : s.violation? id v = .ok none ↔
    refusal? v (s.allRestrictions id) = .ok none := by
  rw [allRestrictions, ← map_firstViolation?, violation?]
  cases s.firstViolation? v (s.chain id) with
  | error f => simp [Except.map]
  | ok x? => cases x? <;> simp [Except.map]

/-- A default that is a literal and violates nothing is admitted by the whole chain. -/
theorem violation?_of_defaultViolation?
    (hv : s.parseValue id (s.property id .default) = .ok (some v))
    (hd : s.defaultViolation? id = .ok none) : s.violation? id v = .ok none := by
  rwa [violation?_eq_none, ← defaultViolation?_eq hv]

theorem Grows.parseValue (hg : Grows s s') (h : s.Reads id c) (v : Value) :
    s'.parseValue id v = s.parseValue id v := by
  rw [TypeStore.parseValue, TypeStore.parseValue, codec_of_reads h, codec_of_reads (h.grows hg)]

theorem Settled.grows (h : s.Settled id) (hg : Grows s s') : s'.Settled id where
  reads := by
    obtain ⟨c, hc⟩ := h.reads
    exact ⟨c, hc.grows hg⟩
  usable := by
    obtain ⟨c, hc⟩ := h.reads
    have husable := h.usable
    unfold HasUsableDefault at husable ⊢
    rw [hg.property hc]
    simpa only [hg.parseValue hc, violation?_eq_none, hg.allRestrictions hc] using husable

/-- A type below no other that sets no property has no default. -/
theorem usable_of_root {n : TypeNode} (hn : s.get? id = some n) (hb : n.base = none)
    (ho : n.overrides = []) : s.HasUsableDefault id := by
  refine fun hne => absurd ?_ hne
  obtain ⟨levels, hlevels⟩ :=
    Nat.exists_eq_succ_of_ne_zero (Nat.ne_of_gt (Nat.zero_lt_of_lt (lt_size_of_get? hn)))
  have hchain : s.chain id = [id] := by
    rw [chain, hlevels, chainTo, get_eq hn, hb]
  rw [property, hchain, List.findSome?_cons, get_eq hn, TypeNode.override?, ho]
  rfl

/-- A decimal64 that was given its fraction digits. -/
theorem settled_of_bare (hbare : s.IsBare id) (hg : Grows s s') (hr : s'.Reads id c) :
    s'.Settled id := by
  obtain ⟨nature, hn, -⟩ := hg hbare
  exact ⟨⟨c, hr⟩, usable_of_root hn rfl rfl⟩

end TypeStore

namespace TypeBuilder

variable {b b' : TypeBuilder} {ids ids' : List TypeId}

def Tidy (b : TypeBuilder) : Prop :=
  ∀ ⦃id⦄, b.Known id → b.store.Settled id

theorem Tidy.sound (hb : b.Tidy) : b.Sound :=
  fun _ hid => (hb hid).reads

theorem Tidy.stays (hb : b.Tidy) (h : Stays b b') : b'.Tidy :=
  fun _ hid => (hb (hid.of_stays h)).grows h.store

theorem tidy_initial {scope : Scope} (h : scope.external = []) : Tidy { scope } := by
  intro id hid
  obtain ⟨p, -, hn⟩ := exists_of_known_initial h hid
  exact ⟨sound_initial h hid, TypeStore.usable_of_root hn rfl rfl⟩

/-- A builder has gone on to another state with some new types, and everything is settled there. -/
structure Advances (b : TypeBuilder) (ids : List TypeId) (b' : TypeBuilder) : Prop where
  tidy : b'.Tidy
  built : ∀ id ∈ ids, b'.store.Settled id
  store : b.store.Grows b'.store

theorem Advances.of_stays (hb : b.Tidy) (h : Stays b b') : Advances b [] b' :=
  ⟨hb.stays h, by simp, h.store⟩

theorem Advances.append {b'' : TypeBuilder} (h : Advances b ids b') (h' : Advances b' ids' b'') :
    Advances b (ids ++ ids') b'' where
  tidy := h'.tidy
  built id hid := by
    obtain hid | hid := List.mem_append.1 hid
    · exact (h.built id hid).grows h'.store
    · exact h'.built id hid
  store := h.store.trans h'.store

end TypeBuilder

namespace Build
open TypeBuilder

variable {tree : StatementTree} {t s : Statement} {base id : TypeId} {rs : List Restriction}
  {found : Substatements} {b b' : TypeBuilder} {store : TypeStore} {n : TypeNode}

/-- A type statement is put on a type that is known, or on a decimal64 of its own. -/
theorem settled_of_resolve (hb : b.Tidy) (h : resolve tree t b = .ok (some (base, rs)) b') :
    b.Stays b' ∧ b'.store.Settled base := by
  obtain ⟨hstays, hreads⟩ := (resolve_spec hb.sound tree t).2 _ b' h
  obtain ⟨c, hc⟩ := hreads base rs rfl
  refine ⟨hstays, ?_⟩
  cases resolves_of_resolve h with
  | @resolved text _ _ b₁ b₂ _ ha hbase hdigits hrs =>
  obtain ⟨es, rfl, -⟩ := reports_restrictions tree base _ b₂ rs _ hrs
  obtain ⟨_, _, hbase', -, -, hknown⟩ := baseOf_spec b t text
  cases hbase'.symm.trans hbase
  obtain hknown | hbare := hknown base rfl
  · exact (hb hknown).grows hstays.store
  · have hnameable : (b₁.reporting (below tree Allowed.inType t).errors).store.Nameable base :=
      .inr hbare
    obtain ⟨hstays₂, -⟩ := (fractionDigits_spec hnameable t _).2 _ b₂ hdigits
    exact TypeStore.settled_of_bare hbare hstays₂.store hc

/-- A check that has nothing to report found a default that can be used, or an inherited one that is
no literal. -/
theorem checkDefault_quiet (hok : checkDefault id found b = .ok () b)
    (hne : b.store.property id .default ≠ .none) :
    (∃ v, b.store.parseValue id (b.store.property id .default) = .ok (some v) ∧
      b.store.defaultViolation? id = .ok none) ∨
    (b.store.parseValue id (b.store.property id .default) = .ok none ∧
      found.named "default" = []) := by
  have hquiet (e : SchemaError) :
      (EStateM.Result.ok () (b.reporting [e]) : EStateM.Result BuildFault _ _) ≠ .ok () b :=
    fun h => by simpa using (EStateM.Result.ok.inj h).2
  rw [checkDefault_apply found hne] at hok
  split at hok
  · cases hok
  · next hparse =>
    split at hok
    · next hfound => exact .inr ⟨hparse, hfound⟩
    · exact absurd hok (hquiet _)
  · next v hparse =>
    split at hok
    · cases hok
    · next hviolation => exact .inl ⟨v, hparse, hviolation⟩
    · exact absurd hok (hquiet _)

/-- An inherited default that is no literal would be no literal of the base either. -/
theorem usable_of_checkDefault (h : store.Adds b.store n) (hbase : n.base = some base)
    (hnature : n.nature = .derived)
    (hdefault : n.override? .default = (found.text? "default").map .string)
    (hb : store.Settled base) (hok : checkDefault store.size found b = .ok () b) :
    b.store.HasUsableDefault store.size := by
  obtain ⟨c, hc⟩ := hb.reads
  have hreads := h.reads hnature hbase hc
  intro hne
  obtain ⟨v, hv, hviolation⟩ | ⟨hnone, hfound⟩ := checkDefault_quiet hok hne
  · exact ⟨v, hv, TypeStore.violation?_of_defaultViolation? hv hviolation⟩
  · have hinherited : b.store.property store.size .default = store.property base .default := by
      rw [h.property hbase hc, hdefault, Substatements.text?, hfound]
      rfl
    rw [hinherited] at hne hnone
    obtain ⟨v, hv, -⟩ := hb.usable hne
    cases ((TypeStore.parseValue_eq_ok hreads).1 hnone).symm.trans
      ((TypeStore.parseValue_eq_ok hc).1 hv)

/-- A type that is added, told its properties and checked is settled, if nothing is reported. -/
theorem settled_of_checkDefault {n₀ : TypeNode} {d : TypeBuilder} (hbase : b.store.Settled base)
    (hn₀ : n₀.base = some base) (hnature : n₀.nature = .derived) (hset : n₀.overrides = [])
    (hproperties : properties b.store.size found { b with store := b.store.add n₀ } = .ok () d)
    (hok : checkDefault b.store.size found d = .ok () d) :
    b.Stays d ∧ d.store.Settled b.store.size := by
  obtain ⟨n, hl, hn, htold⟩ := leaves_of_properties hset hproperties
  have hbase' : n.base = some base := by rw [hn, hn₀]
  have hnature' : n.nature = .derived := by rw [hn, hnature]
  have hdefault : n.override? .default = (found.text? "default").map .string := by
    rw [htold .default, found.value?_of_ne (by simp)]
    rfl
  obtain ⟨c, hc⟩ := hbase.reads
  refine ⟨⟨hl.scope, hl.typedefs, hl.adds.grows⟩, ⟨c, hl.adds.reads hnature' hbase' hc⟩, ?_⟩
  exact usable_of_checkDefault hl.adds hbase' hnature' hdefault hbase hok

theorem advances_addTypedef {i : StatementId} {r : Option TypeId} (hb : b.Tidy)
    (h : addTypedef tree i b = .ok r b') (he : b'.errors = []) : b.Advances r.toList b' := by
  obtain ⟨s, -, hdefines⟩ := defines_of_addTypedef h
  have hstays := stays_reporting b (below tree Allowed.inTypedef s).errors
  cases hdefines with
  | refused es => exact .of_stays hb (stays_reporting b es)
  | unresolved hresolve =>
    obtain ⟨hstays₁, -⟩ := (resolve_spec (hb.stays hstays).sound tree _).2 none _ hresolve
    exact .of_stays hb (hstays.trans hstays₁)
  | @defined name t row base rs b₁ b₂ b₃ log _ _ _ _ hresolve hproperties hdefault =>
    obtain ⟨hstays₁, hbase⟩ := settled_of_resolve (hb.stays hstays) hresolve
    obtain ⟨es, rfl, -⟩ := reports_checkDefault _ _ _ _ _ hdefault
    obtain rfl : es = [] := (List.append_eq_nil_iff.1 he).2
    rw [reporting_nil] at hdefault
    obtain ⟨hstays₂, hnew⟩ := settled_of_checkDefault hbase rfl rfl rfl hproperties hdefault
    have hstays := (hstays.trans hstays₁).trans hstays₂
    rw [reporting_nil]
    refine ⟨fun i hi => ?_, by simpa using hnew, hstays.store⟩
    obtain hi | rfl := known_register hi
    · exact hb.stays hstays hi
    · exact hnew

/-- A row of typedefs is told in the order of the document, so that the types that one is put on
were told before. -/
theorem advances_addEach {row : List Statement} {ids : List TypeId} (hb : b.Tidy)
    (hrow : ∀ s ∈ row, tree.get s.id = .ok s) (h : addEach tree row b = .ok ids b')
    (he : b'.errors = []) : b.Advances ids b' := by
  induction row generalizing b ids with
  | nil =>
    cases h
    exact .of_stays hb (.refl _)
  | cons s row ih =>
    obtain ⟨hs, hrow⟩ := List.forall_mem_cons.1 hrow
    obtain ⟨r, b₁, hfirst, h⟩ := bind_eq_ok.1 h
    obtain ⟨others, b₂, hothers, h⟩ := bind_eq_ok.1 h
    cases h
    have hsound : b₁.Sound := (addTypedef_spec hb.sound hs).2 r b₁ hfirst
    have hprefix : b₁.errors <+: b'.errors := by
      have htells := addEach_spec hsound hrow
      rw [hothers] at htells
      exact (tells_ok.1 htells).2.1
    have he₁ : b₁.errors = [] := List.prefix_nil.1 (he ▸ hprefix)
    have hadvances := advances_addTypedef hb hfirst he₁
    exact hadvances.append (ih hadvances.tidy hrow hothers)

end Build
end YangSchema
