import YangSchema.Proofs.Types.Rebase

/-!
# Properties that are overridden

A property of a type is that of the first type of its chain that sets it. So what is set on a type
is told of it and of those types that come to it first, and nothing else changes, whatever the value
is: to set a property to no value is not to leave it unset. When it is taken away again, the type
tells what its base tells.
-/
namespace YangSchema
namespace TypeStore

variable {s s' : TypeStore} {t u i base : TypeId} {n : TypeNode} {p q : Property} {v : Value}
  {above below row : List TypeId}

/-- A type is the first of a chain to set a property. -/
def FirstToSet (s : TypeStore) (u : TypeId) (p : Property) (t : TypeId) : Prop :=
  ∃ above below, s.chain u = above ++ t :: below ∧
    (∀ i ∈ above, (s.get i).override? p = none) ∧ (s.get t).override? p ≠ none

theorem FirstToSet.property (h : s.FirstToSet u p t) :
    (s.get t).override? p = some (s.property u p) := by
  obtain ⟨above, below, hrow, habove, hset⟩ := h
  obtain ⟨w, hw⟩ := Option.ne_none_iff_exists'.1 hset
  rw [TypeStore.property, hrow, List.findSome?_append, List.findSome?_eq_none_iff.2 habove,
    Option.none_or, List.findSome?_cons, hw]
  rfl

/-- What differs only at a type that is not the first to tell is told in the same way. -/
theorem findSome?_eq_of_not_first {α : Type} {f f' : TypeId → Option α}
    (hsame : ∀ i ∈ row, i ≠ t → f' i = f i)
    (hnot : ∀ above below, row = above ++ t :: below → (∀ i ∈ above, f i = none) → f' t = f t) :
    row.findSome? f' = row.findSome? f := by
  induction row with
  | nil => rfl
  | cons i row ih =>
    rw [List.forall_mem_cons] at hsame
    have hi : f' i = f i := by
      by_cases heq : i = t
      · subst heq
        exact hnot [] row rfl (by simp)
      · exact hsame.1 heq
    rw [List.findSome?_cons, List.findSome?_cons, hi]
    cases hf : f i with
    | some a => rfl
    | none =>
      apply ih hsame.2
      rintro above below rfl habove
      exact hnot (i :: above) below rfl (List.forall_mem_cons.2 ⟨hf, habove⟩)

/-- What is changed of a type but its base is told of no type that comes to another first. -/
theorem Descends.property_modify (h : s.Descends u row) {f : TypeNode → TypeNode}
    (hbase : ∀ n, (f n).base = n.base)
    (hnot : ∀ above below, row = above ++ t :: below →
      (∀ i ∈ above, (s.get i).override? q = none) →
        (f (s.get t)).override? q = (s.get t).override? q) :
    (s.modify t f).property u q = s.property u q := by
  have hget : ∀ i ∈ row, (s.modify t f).get i = if t = i then f (s.get i) else s.get i :=
    fun i hi => get_modify f (h.lt_size_of_mem hi)
  rw [property, property, (h.modify_base t hbase).chain, h.chain]
  congr 1
  apply findSome?_eq_of_not_first (t := t)
  · intro i hi hne
    rw [hget i hi, if_neg hne.symm]
  · intro above below hrow habove
    rw [hget t (by simp [hrow]), if_pos rfl, hnot above below hrow habove]

/-- The way down from a type on another way is the rest of this. -/
theorem Descends.of_append (h : s.Descends u (above ++ t :: below)) :
    s.Descends t (t :: below) := by
  induction above generalizing u with
  | nil =>
    rw [List.nil_append] at h
    cases h with
    | root hn hb => exact .root hn hb
    | step hn hb h => exact .step hn hb h
  | cons i above ih =>
    generalize hrow : i :: above ++ t :: below = row at h
    cases h with
    | root => simp at hrow
    | step hn hb h =>
      rw [List.cons_append, List.cons.injEq] at hrow
      exact ih (hrow.2 ▸ h)

theorem Descends.setProperty (h : s.Descends u row) (t : TypeId) (p : Property) (v : Value) :
    (s.setProperty t p v).Descends u row :=
  h.modify_base t fun _ => rfl

structure SetsProperty (s s' : TypeStore) (t : TypeId) (p : Property) (v : Value) : Prop where
  chain : ∀ u < s.size, s.Descends u (s.chain u) ∧ s'.chain u = s.chain u
  told : ∀ u < s.size, s'.FirstToSet u p t → s'.property u p = v
  others : ∀ u < s.size, ∀ q, ¬ (q = p ∧ s'.FirstToSet u p t) → s'.property u q = s.property u q

theorem override?_setProperty (ht : i < s.size) (v : Value) :
    ((s.setProperty t p v).get i).override? q =
      if t = i ∧ q = p then some v else (s.get i).override? q := by
  rw [TypeStore.setProperty, get_modify _ ht]
  by_cases hti : t = i
  · simp [hti, TypeNode.override?_set]
  · simp [hti]

theorem Grounded.setsProperty (h : s.Grounded) (ht : t < s.size) (p : Property) (v : Value) :
    s.SetsProperty (s.setProperty t p v) t p v := by
  refine ⟨?_, ?_, ?_⟩
  · intro u hu
    have hrow := h.descends_chain hu
    exact ⟨hrow, (hrow.setProperty t p v).chain⟩
  · intro u _ hfirst
    have htold := hfirst.property
    rw [override?_setProperty ht, if_pos ⟨rfl, rfl⟩] at htold
    exact (Option.some.inj htold).symm
  · intro u hu q hnot
    obtain ⟨row, hrow⟩ := h u hu
    apply hrow.property_modify
    · exact fun _ => rfl
    · rintro above below rfl habove
      rw [TypeNode.override?_set, if_neg]
      rintro rfl
      apply hnot
      refine ⟨rfl, above, below, (hrow.setProperty t q v).chain, ?_, ?_⟩
      · intro i hi
        have hne : t ≠ i := by
          rintro rfl
          exact (List.nodup_append.1 hrow.nodup).2.2 t hi t List.mem_cons_self rfl
        rw [override?_setProperty (hrow.lt_size_of_mem (by simp [hi])), if_neg (by simp [hne]),
          habove i hi]
      · simp [override?_setProperty ht]

theorem Descends.clearProperty (h : s.Descends u row) (t : TypeId) (p : Property) :
    (s.clearProperty t p).Descends u row :=
  h.modify_base t fun _ => rfl

structure ClearsProperty (s s' : TypeStore) (t : TypeId) (p : Property) : Prop where
  chain : ∀ u < s.size, s.Descends u (s.chain u) ∧ s'.chain u = s.chain u
  /-- The type tells what its base tells, as it did before. -/
  told : ∀ base, (s.get t).base = some base →
    s'.property t p = s'.property base p ∧ s'.property base p = s.property base p
  fallback : (s.get t).base = none → s'.property t p = p.fallback
  inherited : ∀ u < s.size, s.FirstToSet u p t → s'.property u p = s'.property t p
  others : ∀ u < s.size, ∀ q, ¬ (q = p ∧ s.FirstToSet u p t) → s'.property u q = s.property u q

theorem override?_clearProperty (ht : i < s.size) :
    ((s.clearProperty t p).get i).override? q =
      if t = i ∧ q = p then none else (s.get i).override? q := by
  rw [TypeStore.clearProperty, get_modify _ ht]
  by_cases hti : t = i
  · simp [hti, TypeNode.override?_clear]
  · simp [hti]

theorem Grounded.property_clearProperty (h : s.Grounded) (hu : u < s.size)
    (hnot : ¬ (q = p ∧ s.FirstToSet u p t)) :
    (s.clearProperty t p).property u q = s.property u q := by
  obtain ⟨row, hrow⟩ := h u hu
  apply hrow.property_modify
  · exact fun _ => rfl
  · rintro above below rfl habove
    rw [TypeNode.override?_clear]
    split
    · next hq =>
      subst hq
      by_contra hne
      exact hnot ⟨rfl, above, below, hrow.chain, habove, Ne.symm hne⟩
    · rfl

/-- The base of a type does not come to it, and tells what it told. -/
theorem Grounded.property_clearProperty_base (h : s.Grounded) (hn : s.get? t = some n)
    (hb : n.base = some base) :
    (s.clearProperty t p).property t p = (s.clearProperty t p).property base p ∧
      (s.clearProperty t p).property base p = s.property base p := by
  have ht := lt_size_of_get? hn
  obtain ⟨row, hrow⟩ := h t ht
  cases hrow with
  | root hn' hb' => simp_all
  | step hn' hb' hbelow =>
    obtain rfl : n = _ := Option.some.inj (hn.symm.trans hn')
    obtain rfl : base = _ := Option.some.inj (hb.symm.trans hb')
    have hdown := Descends.step hn hb hbelow
    constructor
    · rw [property, property, (hdown.clearProperty t p).chain, (hbelow.clearProperty t p).chain,
        List.findSome?_cons, override?_clearProperty ht, if_pos ⟨rfl, rfl⟩]
    · apply h.property_clearProperty hbelow.lt_size
      rintro ⟨-, above, below, hchain, -⟩
      rw [hbelow.chain] at hchain
      apply (List.nodup_cons.1 hdown.nodup).1
      rw [hchain]
      simp

/-- What comes first to a type tells what it tells. -/
theorem Grounded.property_clearProperty_first (h : s.Grounded) (hu : u < s.size)
    (hfirst : s.FirstToSet u p t) :
    (s.clearProperty t p).property u p = (s.clearProperty t p).property t p := by
  obtain ⟨above, below, hchain, habove, -⟩ := hfirst
  have hrow := h.descends_chain hu
  rw [hchain] at hrow
  have habove' : ∀ i ∈ above, ((s.clearProperty t p).get i).override? p = none := by
    intro i hi
    rw [override?_clearProperty (hrow.lt_size_of_mem (by simp [hi])), habove i hi, ite_self]
  rw [property, property, (hrow.clearProperty t p).chain,
    (hrow.of_append.clearProperty t p).chain, List.findSome?_append,
    List.findSome?_eq_none_iff.2 habove', Option.none_or]

theorem Grounded.clearsProperty (h : s.Grounded) (ht : t < s.size) (p : Property) :
    s.ClearsProperty (s.clearProperty t p) t p := by
  obtain ⟨n, hn⟩ := exists_get?_of_lt ht
  refine ⟨?_, ?_, ?_, fun u hu => h.property_clearProperty_first hu,
    fun u hu q => h.property_clearProperty hu⟩
  · intro u hu
    have hrow := h.descends_chain hu
    exact ⟨hrow, (hrow.clearProperty t p).chain⟩
  · intro base hbase
    rw [get_eq hn] at hbase
    exact h.property_clearProperty_base hn hbase
  · intro hbase
    rw [get_eq hn] at hbase
    rw [property, ((Descends.root hn hbase).clearProperty t p).chain, List.findSome?_cons,
      override?_clearProperty ht, if_pos ⟨rfl, rfl⟩]
    rfl

theorem clearProperty_setProperty (hnone : (s.get t).override? p = none) (v : Value) :
    (s.setProperty t p v).clearProperty t p = s := by
  have hnodes : ((s.setProperty t p v).clearProperty t p).nodes = s.nodes := by
    refine Array.ext_getElem? fun i => ?_
    change ((s.setProperty t p v).clearProperty t p).get? i = s.get? i
    rw [TypeStore.clearProperty, get?_modify, TypeStore.setProperty, get?_modify]
    split
    · next hi =>
      subst hi
      cases hn : s.get? t with
      | none => rfl
      | some n =>
        rw [get_eq hn] at hnone
        exact congrArg some (TypeNode.clear_set hnone)
    · rfl
  exact congrArg TypeStore.mk hnodes

/-- However the types came about: a property that is set on a type is told of it and of what comes
to it first, and to take it away again leaves what the base tells. Setting and taking away changes
nothing if the property was not set. -/
theorem Reachable.property_overridden (h : s.Reachable) (ht : t < s.size) (p : Property)
    (v : Value) :
    s.SetsProperty (s.setProperty t p v) t p v ∧ s.ClearsProperty (s.clearProperty t p) t p ∧
      ((s.get t).override? p = none → (s.setProperty t p v).clearProperty t p = s) :=
  ⟨h.grounded.setsProperty ht p v, h.grounded.clearsProperty ht p,
    fun hnone => clearProperty_setProperty hnone v⟩

/-- No value is told of the derived type, though a status is current where none is set. -/
theorem overridden_twoLevels :
    (twoLevels.SetsProperty (twoLevels.setProperty 12 .status .none) 12 .status .none ∧
      twoLevels.ClearsProperty (twoLevels.clearProperty 12 .status) 12 .status ∧
      (twoLevels.setProperty 12 .status .none).clearProperty 12 .status = twoLevels) ∧
      (twoLevels.setProperty 12 .status .none).property 13 .status = .none := by
  have hlt : 12 < twoLevels.size := by
    simp [twoLevels, size, initial, Primitive.shared, add]
  have h := assembled_twoLevels.reachable.property_overridden hlt .status .none
  refine ⟨⟨h.1, h.2.1, h.2.2 rfl⟩, h.1.told 13 ?_ ⟨[13], [0], rfl, ?_, ?_⟩⟩
  · simp [twoLevels, size, initial, Primitive.shared, add]
  · rw [List.forall_mem_singleton]
    rfl
  · rw [override?_setProperty hlt, if_pos ⟨rfl, rfl⟩]
    exact Option.some_ne_none _

end TypeStore
end YangSchema
