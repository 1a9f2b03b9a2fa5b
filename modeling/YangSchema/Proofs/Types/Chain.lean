import Mathlib.Data.List.Nodup
import Mathlib.Data.List.Perm.Subperm
import YangSchema.Proofs.Types.Reads

/-!
# Chains that end

A chain goes from a type to its base and on to a type without one. Where every chain ends in the
store, no type comes twice on its way, so that it is found whole with as many levels as there are
types. Whatever is added above leaves a type with everything that its chain tells.
-/
namespace YangSchema
namespace TypeStore

variable {s s' s'' : TypeStore} {id base i : TypeId} {n : TypeNode} {row row' : List TypeId}

/-- A type and its bases down to one that has none, all of them in the store. -/
inductive Descends (s : TypeStore) : TypeId → List TypeId → Prop
  | root {id : TypeId} {n : TypeNode} (hn : s.get? id = some n) (hb : n.base = none) :
    Descends s id [id]
  | step {id base : TypeId} {n : TypeNode} {row : List TypeId} (hn : s.get? id = some n)
    (hb : n.base = some base) (h : Descends s base row) : Descends s id (id :: row)

theorem Descends.lt_size (h : s.Descends id row) : id < s.size := by
  cases h with
  | root hn => exact lt_size_of_get? hn
  | step hn => exact lt_size_of_get? hn

/-- There is one way down from a type. -/
theorem Descends.unique (h : s.Descends id row) (h' : s.Descends id row') : row = row' := by
  induction h generalizing row' with
  | root hn hb =>
    cases h' with
    | root => rfl
    | step hn' hb' =>
      rw [hn] at hn'
      cases hn'
      rw [hb] at hb'
      cases hb'
  | step hn hb h ih =>
    cases h' with
    | root hn' hb' =>
      rw [hn] at hn'
      cases hn'
      rw [hb] at hb'
      cases hb'
    | step hn' hb' h' =>
      rw [hn] at hn'
      cases hn'
      rw [hb] at hb'
      cases hb'
      rw [ih h']

/-- The way down from a type that one passes is the rest of the way. -/
theorem Descends.exists_suffix (h : s.Descends id row) (hi : i ∈ row) :
    ∃ rest, s.Descends i rest ∧ rest <:+ row := by
  induction h with
  | root hn hb =>
    obtain rfl := List.mem_singleton.1 hi
    exact ⟨_, .root hn hb, List.suffix_refl _⟩
  | step hn hb h ih =>
    rcases List.mem_cons.1 hi with rfl | hi
    · exact ⟨_, .step hn hb h, List.suffix_refl _⟩
    · obtain ⟨rest, hrest, hsuffix⟩ := ih hi
      exact ⟨rest, hrest, hsuffix.trans (List.suffix_cons _ _)⟩

theorem Descends.lt_size_of_mem (h : s.Descends id row) (hi : i ∈ row) : i < s.size := by
  obtain ⟨rest, hrest, -⟩ := h.exists_suffix hi
  exact hrest.lt_size

/-- A type that came twice would have a way down that is longer than itself. -/
theorem Descends.nodup (h : s.Descends id row) : row.Nodup := by
  induction h with
  | root => exact List.nodup_singleton _
  | step hn hb h ih =>
    refine List.nodup_cons.2 ⟨?_, ih⟩
    intro hmem
    obtain ⟨rest, hrest, hsuffix⟩ := h.exists_suffix hmem
    have hlength := hsuffix.length_le
    rw [hrest.unique (.step hn hb h), List.length_cons] at hlength
    omega

theorem Descends.length_le (h : s.Descends id row) : row.length ≤ s.size := by
  have hsub : row ⊆ List.range s.size := by
    intro i hi
    exact List.mem_range.2 (h.lt_size_of_mem hi)
  have hle := (h.nodup.subperm hsub).length_le
  rwa [List.length_range] at hle

theorem Descends.chainTo (h : s.Descends id row) {levels : Nat} (hl : row.length ≤ levels) :
    s.chainTo levels id = row := by
  induction h generalizing levels with
  | root hn hb =>
    obtain ⟨levels, rfl⟩ := Nat.exists_eq_add_of_le' (Nat.lt_of_lt_of_le Nat.zero_lt_one hl)
    rw [TypeStore.chainTo, get_eq hn, hb]
  | step hn hb h ih =>
    obtain ⟨levels, rfl⟩ := Nat.exists_eq_add_of_le' (Nat.lt_of_lt_of_le (Nat.succ_pos _) hl)
    rw [TypeStore.chainTo, get_eq hn, hb]
    simp only
    rw [ih (Nat.le_of_succ_le_succ hl)]

/-- The chain of a type is the whole way down. -/
theorem Descends.chain (h : s.Descends id row) : s.chain id = row :=
  h.chainTo h.length_le

/-- A way down stays one where the types on it keep their bases. -/
theorem Descends.congr (h : s.Descends id row)
    (hk : ∀ i ∈ row, ∀ n, s.get? i = some n → ∃ n', s'.get? i = some n' ∧ n'.base = n.base) :
    s'.Descends id row := by
  induction h with
  | root hn hb =>
    obtain ⟨n', hn', hbase⟩ := hk _ List.mem_cons_self _ hn
    exact .root hn' (hbase.trans hb)
  | step hn hb h ih =>
    obtain ⟨n', hn', hbase⟩ := hk _ List.mem_cons_self _ hn
    exact .step hn' (hbase.trans hb) (ih fun i hi => hk i (List.mem_cons_of_mem _ hi))

def Keeps (s s' : TypeStore) : Prop :=
  ∀ ⦃id n⦄, s.get? id = some n → s'.get? id = some n

theorem Keeps.refl (s : TypeStore) : Keeps s s :=
  fun _ _ h => h

theorem Keeps.trans (h : Keeps s s') (h' : Keeps s' s'') : Keeps s s'' :=
  fun _ _ hn => h' (h hn)

theorem exists_get?_of_lt (h : id < s.size) : ∃ n, s.get? id = some n :=
  ⟨_, Array.getElem?_eq_getElem h⟩

theorem Keeps.lt_size (h : Keeps s s') (hid : id < s.size) : id < s'.size := by
  obtain ⟨n, hn⟩ := exists_get?_of_lt hid
  exact lt_size_of_get? (h hn)

theorem Keeps.get (h : Keeps s s') (hid : id < s.size) : s'.get id = s.get id := by
  obtain ⟨n, hn⟩ := exists_get?_of_lt hid
  rw [get_eq hn, get_eq (h hn)]

theorem Adds.keeps (h : s.Adds s' n) : Keeps s s' := by
  intro id m hm
  rw [h.below id (lt_size_of_get? hm), hm]

theorem Keeps.descends (h : Keeps s s') (hd : s.Descends id row) : s'.Descends id row :=
  hd.congr fun _ _ n hn => ⟨n, h hn, rfl⟩

/-- Everything that can be asked of a type has the same answer in both stores. The types of its
chain are the same with all that they have: names, restrictions, properties and fraction digits. -/
structure Same (s s' : TypeStore) (id : TypeId) : Prop where
  chain : s'.chain id = s.chain id
  level : ∀ i ∈ s.chain id, s'.get? i = s.get? i
  property : ∀ p, s'.property id p = s.property id p
  parse : ∀ v, s'.parseValue id v = s.parseValue id v
  serialize : ∀ v, s'.serialize id v = s.serialize id v
  validate : ∀ v, s'.violation? id v = s.violation? id v

theorem firstCodec_congr {name : QualifiedName} (h : ∀ i ∈ row, s'.get i = s.get i) :
    s'.firstCodec name row = s.firstCodec name row := by
  induction row with
  | nil => rfl
  | cons i row ih =>
    obtain ⟨hi, hrow⟩ := List.forall_mem_cons.1 h
    rw [firstCodec, firstCodec, ownCodec, ownCodec, hi, ih hrow]

theorem firstViolation?_congr {v : Value} (h : ∀ i ∈ row, s'.get i = s.get i) :
    s'.firstViolation? v row = s.firstViolation? v row := by
  induction row with
  | nil => rfl
  | cons i row ih =>
    obtain ⟨hi, hrow⟩ := List.forall_mem_cons.1 h
    rw [firstViolation?, firstViolation?, hi, ih hrow]

theorem Keeps.same (h : Keeps s s') (hd : s.Descends id row) : Same s s' id := by
  have hchain : s'.chain id = s.chain id := by
    rw [(h.descends hd).chain, hd.chain]
  have hget (i : TypeId) (hi : i ∈ s.chain id) : s'.get i = s.get i := by
    rw [hd.chain] at hi
    exact h.get (hd.lt_size_of_mem hi)
  have hcodec : s'.codec id = s.codec id := by
    rw [codec, codec, hchain, firstCodec_congr hget, h.get hd.lt_size]
  refine ⟨hchain, ?_, ?_, ?_, ?_, ?_⟩
  · intro i hi
    rw [hd.chain] at hi
    obtain ⟨n, hn⟩ := exists_get?_of_lt (hd.lt_size_of_mem hi)
    rw [hn, h hn]
  · intro p
    rw [property, property, hchain]
    congr 1
    exact findSome?_override? fun i hi => by rw [hget i hi]
  · intro v
    rw [parseValue, parseValue, hcodec]
  · intro v
    rw [serialize, serialize, hcodec]
  · intro v
    rw [violation?, violation?, hchain, firstViolation?_congr hget]

def Grounded (s : TypeStore) : Prop :=
  ∀ id < s.size, ∃ row, s.Descends id row

theorem Grounded.descends_chain (h : s.Grounded) (hid : id < s.size) :
    s.Descends id (s.chain id) := by
  obtain ⟨row, hrow⟩ := h id hid
  rwa [hrow.chain]

theorem Grounded.adds (h : s.Grounded) (ha : s.Adds s' n)
    (hb : ∀ base, n.base = some base → base < s.size) : s'.Grounded := by
  intro id hid
  rw [ha.size] at hid
  rcases Nat.lt_succ_iff_lt_or_eq.1 hid with hlt | rfl
  · obtain ⟨row, hrow⟩ := h id hlt
    exact ⟨row, ha.keeps.descends hrow⟩
  · cases hbase : n.base with
    | none => exact ⟨_, .root ha.node hbase⟩
    | some base =>
      obtain ⟨row, hrow⟩ := h base (hb base hbase)
      exact ⟨_, .step ha.node hbase (ha.keeps.descends hrow)⟩

/-- A way down stays one whatever is changed of a type but its base. -/
theorem Descends.modify_base (h : s.Descends i row) (id : TypeId) {f : TypeNode → TypeNode}
    (hf : ∀ n, (f n).base = n.base) : (s.modify id f).Descends i row := by
  apply h.congr
  intro j _ n hn
  rw [get?_modify]
  split
  · exact ⟨f n, by rw [hn, Option.map_some], hf n⟩
  · exact ⟨n, hn, rfl⟩

theorem Grounded.modify (h : s.Grounded) (id : TypeId) {f : TypeNode → TypeNode}
    (hf : ∀ n, (f n).base = n.base) : (s.modify id f).Grounded := by
  intro i hi
  rw [size_modify] at hi
  obtain ⟨row, hrow⟩ := h i hi
  exact ⟨row, hrow.modify_base id hf⟩

/-- The way down from what a type is put on, which may be nothing. -/
def DescendsFrom (s : TypeStore) : Option TypeId → List TypeId → Prop
  | none, row => row = []
  | some base, row => s.Descends base row

theorem DescendsFrom.cons (h : s.DescendsFrom n.base row) (hn : s.get? id = some n) :
    s.Descends id (id :: row) := by
  cases hb : n.base with
  | none =>
    rw [hb] at h
    obtain rfl : row = [] := h
    exact .root hn hb
  | some base =>
    rw [hb] at h
    exact .step hn hb h

theorem DescendsFrom.lt_size_of_mem {base? : Option TypeId} (h : s.DescendsFrom base? row)
    (hi : i ∈ row) : i < s.size := by
  cases base? with
  | none =>
    obtain rfl : row = [] := h
    exact absurd hi List.not_mem_nil
  | some base => exact Descends.lt_size_of_mem h hi

theorem Keeps.descendsFrom {base? : Option TypeId} (h : Keeps s s')
    (hd : s.DescendsFrom base? row) : s'.DescendsFrom base? row := by
  cases base? with
  | none => exact hd
  | some base => exact h.descends hd

theorem Grounded.exists_descendsFrom {base? : Option TypeId} (h : s.Grounded)
    (hb : ∀ base, base? = some base → base < s.size) : ∃ row, s.DescendsFrom base? row := by
  cases base? with
  | none => exact ⟨[], rfl⟩
  | some base => exact h base (hb base rfl)

/-- What the check before a change of base looks at is the way down from the new base. -/
theorem DescendsFrom.contains {base? : Option TypeId} (h : s.DescendsFrom base? row) (id : TypeId) :
    (base?.map s.chain).any (·.contains id) = decide (id ∈ row) := by
  cases base? with
  | none =>
    obtain rfl : row = [] := h
    rfl
  | some base => simp [Descends.chain h]

/-- A way down that does not pass a type stays one when this type is changed. -/
theorem Descends.modify (h : s.Descends i row) (hid : id ∉ row) (f : TypeNode → TypeNode) :
    (s.modify id f).Descends i row := by
  refine h.congr fun k hk n hn => ⟨n, ?_, rfl⟩
  have hne : id ≠ k := by
    rintro rfl
    exact hid hk
  rw [get?_modify, if_neg hne, hn]

/-- A type that is put on a base which does not derive from it stands above the way down from it. -/
theorem DescendsFrom.rebase {base? : Option TypeId} (h : s.DescendsFrom base? row) (hid : id ∉ row)
    (hlt : id < s.size) :
    (s.modify id fun n => { n with base := base? }).Descends id (id :: row) := by
  obtain ⟨n, hn⟩ := exists_get?_of_lt hlt
  refine DescendsFrom.cons (n := { n with base := base? }) ?_
    (by rw [get?_modify, if_pos rfl, hn, Option.map_some])
  cases base? with
  | none => exact h
  | some base => exact Descends.modify h hid _

/-- A type that is put on a base which does not derive from it takes what derives from it along. -/
theorem Grounded.setBase {base? : Option TypeId} (h : s.Grounded)
    (hb : ∀ base, base? = some base → base < s.size) (hs : s.setBase id base? = .ok s') :
    s'.Grounded := by
  obtain ⟨below, hbelow⟩ := h.exists_descendsFrom hb
  rw [TypeStore.setBase, hbelow.contains] at hs
  split at hs
  · cases hs
  next hnot =>
  cases hs
  rw [decide_eq_true_iff] at hnot
  intro i hi
  rw [size_modify] at hi
  obtain ⟨row, hrow⟩ := h i hi
  clear hi
  induction hrow with
  | root hn hbase =>
    next j n =>
    by_cases hid : id = j
    · subst hid
      exact ⟨_, hbelow.rebase hnot (lt_size_of_get? hn)⟩
    · exact ⟨_, (Descends.root hn hbase).modify (by simpa using hid) _⟩
  | step hn hbase hrest ih =>
    next j base n row =>
    by_cases hid : id = j
    · subst hid
      exact ⟨_, hbelow.rebase hnot (lt_size_of_get? hn)⟩
    · obtain ⟨row', hrow'⟩ := ih
      exact ⟨_, .step (by rw [get?_modify, if_neg hid, hn]) hbase hrow'⟩

/-- The stores that come from the built-in types by adding types on those that are there and by
changing what is there. Only a decimal64 is given fraction digits. -/
inductive Reachable : TypeStore → Prop
  | initial : Reachable .initial
  | add {s : TypeStore} {n : TypeNode} (h : Reachable s)
    (hb : ∀ base, n.base = some base → base < s.size) : Reachable (s.add n)
  | setBase {s s' : TypeStore} {id : TypeId} {base? : Option TypeId} (h : Reachable s)
    (hb : ∀ base, base? = some base → base < s.size) (hs : s.setBase id base? = .ok s') :
    Reachable s'
  | addRestriction {s : TypeStore} (h : Reachable s) (id : TypeId) (r : Restriction) :
    Reachable (s.addRestriction id r)
  | configure {s s' : TypeStore} {id : TypeId} {digits : Int} (h : Reachable s)
    (hd : (s.get id).isDecimal64) (hs : s.configure id digits = .ok s') : Reachable s'
  | setProperty {s : TypeStore} (h : Reachable s) (id : TypeId) (p : Property) (v : Value) :
    Reachable (s.setProperty id p v)
  | clearProperty {s : TypeStore} (h : Reachable s) (id : TypeId) (p : Property) :
    Reachable (s.clearProperty id p)

@[simp]
theorem base_primitiveNode (p : Primitive) : (primitiveNode p).base = none := rfl

theorem get?_initial {i : TypeId} (h : i < Primitive.shared.length) :
    initial.get? i = some (primitiveNode Primitive.shared[i]) := by
  simp [initial, get?, h]

theorem grounded_initial : Grounded initial := by
  intro id hid
  have hlt : id < Primitive.shared.length := by
    simpa [size, initial] using hid
  exact ⟨_, .root (get?_initial hlt) rfl⟩

theorem configure_eq_ok {digits : Int} (h : s.configure id digits = .ok s') :
    (1 ≤ digits ∧ digits ≤ 18) ∧
      s' = s.modify id fun n => { n with nature := .decimal64 (some ⟨digits.toNat⟩) } := by
  unfold TypeStore.configure at h
  split at h
  · next hd =>
    cases h
    exact ⟨hd, rfl⟩
  · cases h

/-- No type that is shared is a decimal64. -/
theorem isDecimal64_shared : ∀ p ∈ Primitive.shared, (primitiveNode p).isDecimal64 = false := by
  decide

/-- However a store was made, all its chains end. -/
theorem Reachable.grounded (h : s.Reachable) : s.Grounded := by
  induction h with
  | initial => exact grounded_initial
  | add h hb ih => exact ih.adds (adds_add _ _) hb
  | setBase h hb hs ih => exact ih.setBase hb hs
  | addRestriction h id r ih => exact ih.modify id fun _ => rfl
  | configure h hd hs ih =>
    obtain ⟨-, rfl⟩ := configure_eq_ok hs
    exact ih.modify _ fun _ => rfl
  | setProperty h id p v ih => exact ih.modify id fun _ => rfl
  | clearProperty h id p ih => exact ih.modify id fun _ => rfl

/-- The built-in types are where they were, and read and write as they did. -/
theorem Reachable.shared (h : s.Reachable) {i : TypeId} (hi : i < Primitive.shared.length) :
    ∃ n, s.get? i = some n ∧ n.nature = (primitiveNode Primitive.shared[i]).nature := by
  have hmodify {s : TypeStore} {id : TypeId} {f : TypeNode → TypeNode}
      (hf : ∀ n, (f n).nature = n.nature)
      (ih : ∃ n, s.get? i = some n ∧ n.nature = (primitiveNode Primitive.shared[i]).nature) :
      ∃ n, (s.modify id f).get? i = some n ∧
        n.nature = (primitiveNode Primitive.shared[i]).nature := by
    obtain ⟨n, hn, hnature⟩ := ih
    rw [get?_modify]
    split
    · exact ⟨f n, by rw [hn, Option.map_some], (hf n).trans hnature⟩
    · exact ⟨n, hn, hnature⟩
  induction h with
  | initial => exact ⟨_, get?_initial hi, rfl⟩
  | add h hb ih =>
    obtain ⟨n, hn, hnature⟩ := ih
    exact ⟨n, (adds_add _ _).keeps hn, hnature⟩
  | setBase h hb hs ih =>
    unfold TypeStore.setBase at hs
    split at hs
    · cases hs
    · cases hs
      exact hmodify (fun _ => rfl) ih
  | addRestriction h id r ih => exact hmodify (fun _ => rfl) ih
  | @configure s s' id digits h hd hs ih =>
    obtain ⟨-, rfl⟩ := configure_eq_ok hs
    obtain ⟨n, hn, hnature⟩ := ih
    have hne : id ≠ i := by
      rintro rfl
      have hshared := isDecimal64_shared _ (List.getElem_mem hi)
      rw [TypeNode.isDecimal64, ← hnature] at hshared
      rw [get_eq hn, TypeNode.isDecimal64, hshared] at hd
      cases hd
    exact ⟨n, by rw [get?_modify, if_neg hne, hn], hnature⟩
  | setProperty h id p v ih => exact hmodify (fun _ => rfl) ih
  | clearProperty h id p ih => exact hmodify (fun _ => rfl) ih

end TypeStore
end YangSchema
