import YangSchema.Types.Validation

/-!
# Types that read and write

A type reads by a codec if it has one by itself, or if it derives from a type that was added before
it and reads. Such a type stays so when the store grows. What a new type takes from its base is
told by the store that the base is in.
-/
namespace YangSchema

namespace TypeNode

def codec? (n : TypeNode) : Option Codec :=
  match n.nature with
  | .primitive c => some c
  | .decimal64 (some k) => some (.decimal k)
  | .decimal64 none | .derived => none

variable {n : TypeNode} {p q : Property} {v : Value}

theorem lookup_filter (overrides : Overrides) :
    (overrides.filter (·.1 ≠ p)).lookup q = if q = p then none else overrides.lookup q := by
  induction overrides with
  | nil => simp
  | cons o overrides ih =>
    obtain ⟨k, v⟩ := o
    by_cases hk : k = p
    · subst hk
      rw [List.filter_cons_of_neg (by simp), ih, List.lookup_cons]
      by_cases hq : q = k
      · rw [if_pos hq, if_pos hq]
      · rw [if_neg hq, if_neg hq, beq_false_of_ne hq]
    · rw [List.filter_cons_of_pos (by simpa using hk), List.lookup_cons, List.lookup_cons, ih]
      by_cases hq : q = k
      · simp [hq, hk]
      · rw [beq_false_of_ne hq]

theorem override?_set : (n.set p v).override? q = if q = p then some v else n.override? q := by
  rw [override?, set, List.lookup_cons]
  by_cases hq : q = p
  · simp [hq]
  · rw [beq_false_of_ne hq, lookup_filter, if_neg hq, if_neg hq, override?]

theorem override?_clear : (n.clear p).override? q = if q = p then none else n.override? q :=
  lookup_filter n.overrides

/-- What is set of a property that was not set can be taken away again. -/
theorem clear_set (h : n.override? p = none) : (n.set p v).clear p = n := by
  have hkept : n.overrides.filter (·.1 ≠ p) = n.overrides := by
    rw [List.filter_eq_self]
    intro o ho
    have hne := List.lookup_eq_none_iff.1 h o ho
    rw [bne_iff_ne] at hne
    simpa using hne.symm
  have hrow : (n.set p v).overrides.filter (·.1 ≠ p) = n.overrides := by
    rw [set, hkept, List.filter_cons_of_neg (by simp), hkept]
  exact congrArg (fun overrides => ({ n with overrides } : TypeNode)) hrow

end TypeNode

namespace TypeStore

variable {s s' s'' : TypeStore} {id base : TypeId} {n : TypeNode} {c : Codec}

theorem get_eq (h : s.get? id = some n) : s.get id = n := by
  rw [get, h, Option.getD_some]

theorem lt_size_of_get? (h : s.get? id = some n) : id < s.size :=
  (Array.getElem?_eq_some_iff.1 h).1

theorem get?_add (n : TypeNode) :
    (s.add n).get? id = if id = s.size then some n else s.get? id := by
  simp only [add, get?, size, Array.getElem?_push]
  rfl

theorem get?_add_lt (n : TypeNode) (h : id < s.size) : (s.add n).get? id = s.get? id := by
  rw [get?_add, if_neg (Nat.ne_of_lt h)]

theorem get?_modify (f : TypeNode → TypeNode) (i : TypeId) :
    (s.modify id f).get? i = if id = i then (s.get? i).map f else s.get? i := by
  simp only [modify, get?, Array.getElem?_modify]

theorem get_modify (f : TypeNode → TypeNode) {i : TypeId} (hi : i < s.size) :
    (s.modify id f).get i = if id = i then f (s.get i) else s.get i := by
  obtain ⟨n, hn⟩ : ∃ n, s.get? i = some n := ⟨_, Array.getElem?_eq_getElem hi⟩
  rw [get, get?_modify, hn, get_eq hn]
  split <;> rfl

@[simp]
theorem size_add (n : TypeNode) : (s.add n).size = s.size + 1 := by
  simp [add, size]

@[simp]
theorem size_modify (f : TypeNode → TypeNode) : (s.modify id f).size = s.size := by
  simp [modify, size]

/-! ### Growing -/

/-- Every type stays where it is, as it is. Only a decimal64 that had no fraction digits may have
been given some. -/
def Grows (s s' : TypeStore) : Prop :=
  ∀ ⦃id n⦄, s.get? id = some n → ∃ nature, s'.get? id = some { n with nature } ∧
    (nature = n.nature ∨ n.nature = .decimal64 none)

theorem Grows.refl (s : TypeStore) : Grows s s := by
  intro id n h
  exact ⟨n.nature, h, .inl rfl⟩

theorem Grows.trans (h : Grows s s') (h' : Grows s' s'') : Grows s s'' := by
  intro id n hn
  obtain ⟨nature, hn', hnature⟩ := h hn
  obtain ⟨nature', hn'', hnature'⟩ := h' hn'
  refine ⟨nature', hn'', ?_⟩
  obtain rfl | hnature := hnature
  · exact hnature'
  · exact .inr hnature

theorem grows_add (n : TypeNode) : Grows s (s.add n) := by
  intro id m hm
  refine ⟨m.nature, ?_, .inl rfl⟩
  rwa [get?_add_lt n (lt_size_of_get? hm)]

/-- A decimal64 that has no fraction digits is given some. -/
theorem grows_modify {nature : Nature}
    (hf : ∀ n, s.get? id = some n → n.nature = .decimal64 none) :
    Grows s (s.modify id fun n => { n with nature }) := by
  intro i n hn
  by_cases hi : id = i
  · subst hi
    exact ⟨nature, by rw [get?_modify, if_pos rfl, hn, Option.map_some], .inr (hf n hn)⟩
  · exact ⟨n.nature, by rw [get?_modify, if_neg hi, hn], .inl rfl⟩

/-! ### Reading -/

inductive Reads (s : TypeStore) : TypeId → Codec → Prop
  | own {id : TypeId} {n : TypeNode} {c : Codec} (hn : s.get? id = some n) (hb : n.base = none)
      (hc : n.codec? = some c) : Reads s id c
  | derived {id base : TypeId} {n : TypeNode} {c : Codec} (hn : s.get? id = some n)
      (hd : n.nature = .derived) (hb : n.base = some base) (hlt : base < id)
      (h : Reads s base c) : Reads s id c

theorem Reads.lt_size (h : s.Reads id c) : id < s.size := by
  cases h with
  | own hn => exact lt_size_of_get? hn
  | derived hn => exact lt_size_of_get? hn

theorem Reads.grows (h : s.Reads id c) (hg : Grows s s') : s'.Reads id c := by
  induction h with
  | own hn hb hc =>
    obtain ⟨nature, hn', rfl | hnature⟩ := hg hn
    · exact .own hn' hb hc
    · rw [TypeNode.codec?, hnature] at hc
      cases hc
  | derived hn hd hb hlt h ih =>
    obtain ⟨nature, hn', rfl | hnature⟩ := hg hn
    · exact .derived hn' hd hb hlt ih
    · rw [hd] at hnature
      cases hnature

theorem firstCodec_chainTo (h : s.Reads id c) (name : QualifiedName) {levels : Nat}
    (hl : id < levels) : s.firstCodec name (s.chainTo levels id) = .ok c := by
  induction h generalizing levels with
  | own hn hb hc =>
    obtain ⟨levels, rfl⟩ := Nat.exists_eq_succ_of_ne_zero (Nat.ne_of_gt (Nat.zero_lt_of_lt hl))
    rw [chainTo, firstCodec, ownCodec, get_eq hn]
    unfold TypeNode.codec? at hc
    split at hc
    · next hnature =>
      cases hc
      simp [hnature]
    · next hnature =>
      cases hc
      simp [hnature]
    · cases hc
    · cases hc
  | derived hn hd hb hlt h ih =>
    obtain ⟨levels, rfl⟩ := Nat.exists_eq_succ_of_ne_zero (Nat.ne_of_gt (Nat.zero_lt_of_lt hl))
    have hrest := ih (Nat.lt_of_lt_of_le hlt (Nat.le_of_lt_succ hl))
    rw [chainTo, firstCodec, ownCodec, get_eq hn]
    simpa [hd, hb] using hrest

theorem codec_of_reads (h : s.Reads id c) : s.codec id = .ok c :=
  firstCodec_chainTo h _ h.lt_size

/-- A decimal64 that has no fraction digits yet, below no other type. -/
def IsBare (s : TypeStore) (id : TypeId) : Prop :=
  s.get? id = some (primitiveNode .decimal64)

theorem not_isBare_of_reads (h : s.Reads id c) : ¬ s.IsBare id := by
  intro hbare
  cases h with
  | own hn hb hc =>
    cases Option.some.inj (hn.symm.trans hbare)
    cases hc
  | derived hn hd =>
    cases Option.some.inj (hn.symm.trans hbare)
    cases hd

/-- Fraction digits let a bare decimal64 read. -/
theorem reads_configure (h : s.IsBare id) {digits : Nat} (hd : 1 ≤ digits ∧ digits ≤ 18) :
    ∃ s', s.configure id digits = .ok s' ∧ Grows s s' ∧ s'.Reads id (.decimal ⟨digits⟩) := by
  have hint : (1 : Int) ≤ digits ∧ (digits : Int) ≤ 18 := by omega
  refine ⟨_, if_pos hint, grows_modify ?_, ?_⟩
  · intro n hn
    obtain rfl : n = primitiveNode .decimal64 := Option.some.inj (hn.symm.trans h)
    rfl
  · refine .own (n := { primitiveNode .decimal64 with nature := .decimal64 (some ⟨digits⟩) })
      ?_ rfl rfl
    rw [get?_modify, if_pos rfl, h]
    rfl

/-! ### Chains -/

theorem le_of_mem_chainTo (h : s.Reads id c) {levels : Nat} {i : TypeId}
    (hi : i ∈ s.chainTo levels id) : i ≤ id := by
  induction h generalizing levels with
  | own hn hb hc =>
    cases levels with
    | zero => simp [chainTo] at hi
    | succ levels =>
      rw [chainTo, get_eq hn, hb] at hi
      exact Nat.le_of_eq (List.mem_singleton.1 hi)
  | derived hn hd hb hlt h ih =>
    cases levels with
    | zero => simp [chainTo] at hi
    | succ levels =>
      rw [chainTo, get_eq hn, hb] at hi
      obtain rfl | hi := List.mem_cons.1 hi
      · exact Nat.le_refl _
      · exact Nat.le_trans (ih hi) (Nat.le_of_lt hlt)

/-- A chain is read with no fewer levels than there are types up to it, and does not change when the
store grows. -/
theorem Grows.chainTo (hg : Grows s s') (h : s.Reads id c) {levels levels' : Nat}
    (hl : id < levels) (hl' : id < levels') : s'.chainTo levels' id = s.chainTo levels id := by
  induction h generalizing levels levels' with
  | own hn hb hc =>
    obtain ⟨nature, hn', -⟩ := hg hn
    obtain ⟨levels, rfl⟩ := Nat.exists_eq_succ_of_ne_zero (Nat.ne_of_gt (Nat.zero_lt_of_lt hl))
    obtain ⟨levels', rfl⟩ := Nat.exists_eq_succ_of_ne_zero (Nat.ne_of_gt (Nat.zero_lt_of_lt hl'))
    rw [TypeStore.chainTo, TypeStore.chainTo, get_eq hn, get_eq hn', hb]
  | derived hn hd hb hlt h ih =>
    obtain ⟨nature, hn', -⟩ := hg hn
    obtain ⟨levels, rfl⟩ := Nat.exists_eq_succ_of_ne_zero (Nat.ne_of_gt (Nat.zero_lt_of_lt hl))
    obtain ⟨levels', rfl⟩ := Nat.exists_eq_succ_of_ne_zero (Nat.ne_of_gt (Nat.zero_lt_of_lt hl'))
    rw [TypeStore.chainTo, TypeStore.chainTo, get_eq hn, get_eq hn', hb]
    simp only
    rw [ih (Nat.lt_of_lt_of_le hlt (Nat.le_of_lt_succ hl))
      (Nat.lt_of_lt_of_le hlt (Nat.le_of_lt_succ hl'))]

theorem Grows.chain (hg : Grows s s') (h : s.Reads id c) : s'.chain id = s.chain id :=
  hg.chainTo h h.lt_size (h.grows hg).lt_size

/-- A type of a chain is kept, but for its nature. -/
theorem Grows.get (hg : Grows s s') (h : s.Reads id c) {i : TypeId} (hi : i ∈ s.chain id) :
    ∃ nature, s'.get i = { s.get i with nature } := by
  have hlt := Nat.lt_of_le_of_lt (le_of_mem_chainTo h hi) h.lt_size
  obtain ⟨n, hn⟩ : ∃ n, s.get? i = some n := ⟨_, Array.getElem?_eq_getElem hlt⟩
  obtain ⟨nature, hn', -⟩ := hg hn
  exact ⟨nature, by rw [get_eq hn', get_eq hn]⟩

theorem findSome?_override? {row : List TypeId} {p : Property}
    (h : ∀ i ∈ row, (s'.get i).override? p = (s.get i).override? p) :
    row.findSome? (fun i => (s'.get i).override? p) =
      row.findSome? (fun i => (s.get i).override? p) := by
  have hmap := List.map_congr_left h
  simpa [List.findSome?_map, Function.comp_def] using congrArg (List.findSome? id) hmap

theorem Grows.property (hg : Grows s s') (h : s.Reads id c) (p : Property) :
    s'.property id p = s.property id p := by
  rw [TypeStore.property, TypeStore.property, hg.chain h, findSome?_override? fun i hi => ?_]
  obtain ⟨nature, hi'⟩ := hg.get h hi
  rw [hi']
  rfl

/-- The second store has one more type than the first, and otherwise the same ones. -/
structure Adds (s s' : TypeStore) (n : TypeNode) : Prop where
  size : s'.size = s.size + 1
  below : ∀ i < s.size, s'.get? i = s.get? i
  node : s'.get? s.size = some n

theorem Adds.grows (h : s.Adds s' n) : Grows s s' := by
  intro i m hm
  exact ⟨m.nature, by rw [h.below i (lt_size_of_get? hm), hm], .inl rfl⟩

theorem adds_add (s : TypeStore) (n : TypeNode) : s.Adds (s.add n) n where
  size := size_add n
  below _ hi := get?_add_lt n hi
  node := by rw [get?_add, if_pos rfl]

theorem Adds.modify (h : s.Adds s' n) (f : TypeNode → TypeNode) :
    s.Adds (s'.modify s.size f) (f n) where
  size := by rw [size_modify, h.size]
  below i hi := by rw [get?_modify, if_neg (Nat.ne_of_gt hi), h.below i hi]
  node := by rw [get?_modify, if_pos rfl, h.node, Option.map_some]

theorem Adds.chainTo (h : s.Adds s' n) (hr : s.Reads id c) (levels : Nat) :
    s'.chainTo levels id = s.chainTo levels id := by
  induction hr generalizing levels with
  | own hn hb hc =>
    cases levels with
    | zero => rfl
    | succ levels =>
      rw [TypeStore.chainTo, TypeStore.chainTo, get_eq hn,
        get_eq ((h.below _ (lt_size_of_get? hn)).trans hn), hb]
  | derived hn hd hb hlt hr ih =>
    cases levels with
    | zero => rfl
    | succ levels =>
      rw [TypeStore.chainTo, TypeStore.chainTo, get_eq hn,
        get_eq ((h.below _ (lt_size_of_get? hn)).trans hn), hb]
      simp only [ih]

/-- A type with the types that it takes from. -/
theorem Adds.chain (h : s.Adds s' n) (hb : n.base = some base) (hr : s.Reads base c) :
    s'.chain s.size = s.size :: s.chain base := by
  rw [TypeStore.chain, h.size, TypeStore.chainTo, get_eq h.node, hb]
  simp only [h.chainTo hr, TypeStore.chain]

theorem Adds.get (h : s.Adds s' n) (hr : s.Reads base c) {i : TypeId} (hi : i ∈ s.chain base) :
    s'.get i = s.get i := by
  have hlt := Nat.lt_of_le_of_lt (le_of_mem_chainTo hr hi) hr.lt_size
  rw [TypeStore.get, TypeStore.get, h.below i hlt]

theorem Adds.reads (h : s.Adds s' n) (hd : n.nature = .derived) (hb : n.base = some base)
    (hr : s.Reads base c) : s'.Reads s.size c :=
  .derived h.node hd hb hr.lt_size (hr.grows h.grows)

/-- A type sets a property or takes it from its base. -/
theorem Adds.property (h : s.Adds s' n) (hb : n.base = some base) (hr : s.Reads base c)
    (p : Property) : s'.property s.size p = (n.override? p).getD (s.property base p) := by
  have hkept (i : TypeId) (hi : i ∈ s.chain base) :
      (s'.get i).override? p = (s.get i).override? p := by rw [h.get hr hi]
  have hrest := findSome?_override? hkept
  rw [TypeStore.property, h.chain hb hr, List.findSome?_cons, get_eq h.node, hrest,
    TypeStore.property]
  cases n.override? p <;> rfl

theorem chain_ne_nil (h : s.Reads id c) : s.chain id ≠ [] := by
  rw [TypeStore.chain]
  obtain ⟨levels, hl⟩ := Nat.exists_eq_succ_of_ne_zero (Nat.ne_of_gt (Nat.zero_lt_of_lt h.lt_size))
  rw [hl, TypeStore.chainTo]
  exact List.cons_ne_nil _ _

theorem Adds.rootName (h : s.Adds s' n) (hb : n.base = some base) (hr : s.Reads base c) :
    s'.rootName s.size = s.rootName base := by
  have hne := chain_ne_nil hr
  have hroot : s'.root s.size = s.root base := by
    rw [root, root, h.chain hb hr, List.getLastD_cons]
    rw [List.getLastD_eq_getLast?, List.getLastD_eq_getLast?, List.getLast?_eq_some_getLast hne,
      Option.getD_some, Option.getD_some]
  have hmem : s.root base ∈ s.chain base := by
    rw [root, List.getLastD_eq_getLast?, List.getLast?_eq_some_getLast hne, Option.getD_some]
    exact List.getLast_mem hne
  rw [TypeStore.rootName, TypeStore.rootName, rootNode, rootNode, hroot, h.get hr hmem]

/-! ### Restrictions -/

def allRestrictions (s : TypeStore) (id : TypeId) : List Restriction :=
  (s.chain id).flatMap fun i => (s.get i).restrictions

theorem Grows.allRestrictions (hg : Grows s s') (h : s.Reads id c) :
    s'.allRestrictions id = s.allRestrictions id := by
  rw [TypeStore.allRestrictions, TypeStore.allRestrictions, hg.chain h]
  simp only [List.flatMap_def]
  congr 1
  refine List.map_congr_left fun i hi => ?_
  obtain ⟨nature, hi'⟩ := hg.get h hi
  rw [hi']

theorem Adds.allRestrictions (h : s.Adds s' n) (hb : n.base = some base) (hr : s.Reads base c) :
    s'.allRestrictions s.size = n.restrictions ++ s.allRestrictions base := by
  have hrest : (s.chain base).flatMap (fun i => (s'.get i).restrictions) =
      (s.chain base).flatMap (fun i => (s.get i).restrictions) := by
    simp only [List.flatMap_def]
    congr 1
    refine List.map_congr_left fun i hi => ?_
    rw [h.get hr hi]
  rw [TypeStore.allRestrictions, h.chain hb hr, List.flatMap_cons, get_eq h.node, hrest,
    TypeStore.allRestrictions]

variable {v : Value}

theorem refusal?_append (a b : List Restriction) :
    refusal? v (a ++ b) = match refusal? v a with
      | .ok none => refusal? v b
      | x => x := by
  induction a with
  | nil => rfl
  | cons r a ih =>
    rw [List.cons_append, refusal?, refusal?]
    cases r.allows v with
    | error f => rfl
    | ok b => cases b with
      | false => rfl
      | true => exact ih

theorem map_firstViolation? (levels : List TypeId) :
    (s.firstViolation? v levels).map (Option.map Violation.restriction) =
      refusal? v (levels.flatMap fun i => (s.get i).restrictions) := by
  induction levels with
  | nil => rfl
  | cons i levels ih =>
    rw [firstViolation?, List.flatMap_cons, refusal?_append]
    cases refusal? v (s.get i).restrictions with
    | error f => rfl
    | ok r => cases r with
      | none => exact ih
      | some r => rfl

theorem refusal?_eq_none {row : List Restriction} :
    refusal? v row = .ok none ↔ ∀ q ∈ row, q.allows v = .ok true := by
  induction row with
  | nil => simp [refusal?]
  | cons q row ih =>
    rw [refusal?, List.forall_mem_cons, ← ih]
    cases q.allows v with
    | error f => simp
    | ok b => cases b <;> simp

/-- The restriction of a row that is asked last: all before it admit the value. -/
def ReachedBy (v : Value) (row : List Restriction) (r : Restriction) : Prop :=
  ∃ before after, row = before ++ r :: after ∧ ∀ q ∈ before, q.allows v = .ok true

theorem reachedBy_cons {r q : Restriction} {row : List Restriction} :
    ReachedBy v (q :: row) r ↔ q = r ∨ q.allows v = .ok true ∧ ReachedBy v row r := by
  constructor
  · rintro ⟨before, after, hrow, hall⟩
    cases before with
    | nil => exact .inl (List.cons.inj hrow).1
    | cons p before =>
      obtain ⟨rfl, rfl⟩ := List.cons.inj hrow
      obtain ⟨hp, hall⟩ := List.forall_mem_cons.1 hall
      exact .inr ⟨hp, before, after, rfl, hall⟩
  · rintro (rfl | ⟨hq, before, after, rfl, hall⟩)
    · exact ⟨[], row, rfl, by simp⟩
    · exact ⟨q :: before, after, rfl, List.forall_mem_cons.2 ⟨hq, hall⟩⟩

/-- Unless something holds throughout a row, there is a first item of which it does not. -/
theorem exists_first {α : Type} {P : α → Prop} {l : List α} (h : ¬ ∀ a ∈ l, P a) :
    ∃ before a after, l = before ++ a :: after ∧ (∀ b ∈ before, P b) ∧ ¬ P a := by
  induction l with
  | nil => simp at h
  | cons a l ih =>
    by_cases ha : P a
    · obtain ⟨before, b, after, rfl, hbefore, hb⟩ := ih (by simpa [ha] using h)
      exact ⟨a :: before, b, after, rfl, List.forall_mem_cons.2 ⟨ha, hbefore⟩, hb⟩
    · exact ⟨[], a, l, rfl, by simp, ha⟩

def refusedBy (v : Value) (r : Restriction) : Except TypeFault (Option Restriction) :=
  match r.allows v with
  | .ok true => .ok none
  | .ok false => .ok (some r)
  | .error f => .error (.inverted f)

theorem refusal?_of_reachedBy {r : Restriction} {row : List Restriction}
    (hr : ReachedBy v row r) (hnot : r.allows v ≠ .ok true) : refusal? v row = refusedBy v r := by
  induction row with
  | nil =>
    obtain ⟨before, after, h, -⟩ := hr
    simp at h
  | cons q row ih =>
    rw [refusal?]
    rcases reachedBy_cons.1 hr with rfl | ⟨hq, hr⟩
    · rw [refusedBy]
      cases hv : q.allows v with
      | error f => rfl
      | ok b =>
        cases b with
        | false => rfl
        | true => exact absurd hv hnot
    · rw [hq]
      exact ih hr

theorem refusal?_eq_some {r : Restriction} {row : List Restriction} (hr : ReachedBy v row r)
    (hv : r.allows v = .ok false) : refusal? v row = .ok (some r) := by
  rw [refusal?_of_reachedBy hr (by simp [hv]), refusedBy, hv]

theorem refusal?_eq_error {row : List Restriction} :
    (∃ e, refusal? v row = .error e) ↔ ∃ r f, ReachedBy v row r ∧ r.allows v = .error f := by
  constructor
  · rintro ⟨e, he⟩
    have hnot : ¬ ∀ q ∈ row, q.allows v = .ok true := by
      rw [← refusal?_eq_none, he]
      nofun
    obtain ⟨before, r, after, hrow, hbefore, hr⟩ := exists_first hnot
    have hreached : ReachedBy v row r := ⟨before, after, hrow, hbefore⟩
    rw [refusal?_of_reachedBy hreached hr, refusedBy] at he
    split at he
    · cases he
    · cases he
    · next f hf => exact ⟨r, f, hreached, hf⟩
  · rintro ⟨r, f, hr, hf⟩
    exact ⟨.inverted f, by rw [refusal?_of_reachedBy hr (by simp [hf]), refusedBy, hf]⟩

end TypeStore
end YangSchema
