import YangSchema.Proofs.Types.Chain

/-!
# Bases put below types

A type is put on a base after following the bases from this one, for as long as it takes. Whatever
types are created and put on others, these loops end, no type comes to derive from itself, and a
change of base moves only what derives from the type.
-/
namespace YangSchema
namespace TypeStore

variable {s s' : TypeStore} {id i : TypeId} {base? node : Option TypeId} {row : List TypeId}

/-- What comes of looking for a type on the way down from another, for as long as it takes. Nothing
does on a way without end that the type is not on. -/
inductive Finds (s : TypeStore) (goal : TypeId) : Option TypeId → Bool → Prop
  | missed : Finds s goal none false
  | met : Finds s goal (some goal) true
  | passed {id : TypeId} {found : Bool} (hne : id ≠ goal)
    (h : Finds s goal (s.get id).base found) : Finds s goal (some id) found

theorem finds_none {goal : TypeId} {found : Bool} : s.Finds goal none found ↔ found = false := by
  constructor
  · rintro ⟨⟩
    rfl
  · rintro rfl
    exact .missed

theorem finds_some {goal : TypeId} {found : Bool} : s.Finds goal (some id) found ↔
    if id = goal then found = true else s.Finds goal (s.get id).base found := by
  constructor
  · intro h
    cases h with
    | met => rw [if_pos rfl]
    | passed hne h => rwa [if_neg hne]
  · intro h
    split at h
    · next heq =>
      subst heq h
      exact .met
    · next hne => exact .passed hne h

/-- The search on a way down that ends comes to an end, and to one only. -/
theorem Descends.finds_iff (h : s.Descends i row) {goal : TypeId} {found : Bool} :
    s.Finds goal (some i) found ↔ found = decide (goal ∈ row) := by
  induction h with
  | @root i n hn hb =>
    rw [finds_some, get_eq hn, hb, finds_none]
    by_cases hi : goal = i <;> simp [hi, Ne.symm]
  | @step i base n row hn hb h ih =>
    rw [finds_some, get_eq hn, hb, ih]
    by_cases hi : goal = i <;> simp [hi, Ne.symm]

theorem DescendsFrom.finds_iff (h : s.DescendsFrom node row) {goal : TypeId} {found : Bool} :
    s.Finds goal node found ↔ found = decide (goal ∈ row) := by
  cases node with
  | none =>
    obtain rfl : row = [] := h
    exact finds_none
  | some i => exact Descends.finds_iff h

/-- What comes of putting a type on another base, which is done if the type is not found on the way
down from there. -/
inductive Rebases (s : TypeStore) (id : TypeId) (base? : Option TypeId) :
    EStateM.Result TypeFault TypeStore Unit → Prop
  | refused (h : s.Finds id base? true) : Rebases s id base? (.error (.ownBase (s.get id).name) s)
  | done (h : s.Finds id base? false) :
    Rebases s id base? (.ok () (s.modify id fun n => { n with base := base? }))

/-- What comes of creating a type, first without a base and then put on its own. -/
def Creates (s : TypeStore) (n : TypeNode) (out : EStateM.Result TypeFault TypeStore Unit) : Prop :=
  (s.add { n with base := none }).Rebases s.size n.base out

theorem rebases_iff (h : s.DescendsFrom base? row) (id : TypeId)
    {out : EStateM.Result TypeFault TypeStore Unit} :
    s.Rebases id base? out ↔ out = if id ∈ row then .error (.ownBase (s.get id).name) s
      else .ok () (s.modify id fun n => { n with base := base? }) := by
  constructor
  · rintro (hfound | hfound)
    · rw [if_pos (by simpa using h.finds_iff.1 hfound)]
    · rw [if_neg (by simpa using h.finds_iff.1 hfound)]
  · rintro rfl
    split
    · next hid => exact .refused (h.finds_iff.2 (by simpa using hid))
    · next hid => exact .done (h.finds_iff.2 (by simpa using hid))

theorem setBase_eq (h : s.DescendsFrom base? row) (id : TypeId) :
    s.setBase id base? = if id ∈ row then .error (.ownBase (s.get id).name)
      else .ok (s.modify id fun n => { n with base := base? }) := by
  rw [setBase, h.contains]
  by_cases hid : id ∈ row <;> simp [hid]

theorem modify_add (s : TypeStore) (n : TypeNode) (f : TypeNode → TypeNode) :
    (s.add n).modify s.size f = s.add (f n) := by
  have hnodes : (s.nodes.push n).modify s.nodes.size f = s.nodes.push (f n) := by
    refine Array.ext_getElem? fun i => ?_
    rw [Array.getElem?_modify, Array.getElem?_push, Array.getElem?_push]
    by_cases hi : i = s.nodes.size <;> simp [hi, Ne.symm]
  exact congrArg TypeStore.mk hnodes

/-- A creation is never refused, since nothing derives from a new type. -/
theorem creates_iff (h : s.Grounded) {n : TypeNode} (hb : ∀ b, n.base = some b → b < s.size)
    {out : EStateM.Result TypeFault TypeStore Unit} :
    s.Creates n out ↔ out = .ok () (s.add n) := by
  obtain ⟨row, hrow⟩ := h.exists_descendsFrom hb
  have hnew : s.size ∉ row := fun hmem => Nat.lt_irrefl _ (hrow.lt_size_of_mem hmem)
  rw [Creates, rebases_iff ((adds_add s _).keeps.descendsFrom hrow), if_neg hnew, modify_add]

theorem DescendsFrom.eq_chain (h : s.DescendsFrom base? row) :
    (base?.map s.chain).getD [] = row := by
  cases base? with
  | none => exact h.symm
  | some b => exact Descends.chain h

theorem DescendsFrom.mem_iff (h : s.DescendsFrom base? row) :
    id ∈ row ↔ ∃ b, base? = some b ∧ id ∈ s.chain b := by
  rw [← h.eq_chain]
  cases base? <;> simp

/-- What a change of base comes to: it is refused, with nothing changed, if the type is in the chain
of the base, and otherwise gives the type this chain and leaves every chain without the type. -/
structure Assigns (s : TypeStore) (id : TypeId) (base? : Option TypeId)
    (out : EStateM.Result TypeFault TypeStore Unit) : Prop where
  /-- Looking no further down than the store has types makes no difference. -/
  set : ∀ r, s.setBase id base? = r → out = match r with
    | .ok s' => .ok () s'
    | .error f => .error f s
  refused_iff : (∃ f s', out = .error f s') ↔ ∃ b, base? = some b ∧ id ∈ s.chain b
  refused : ∀ f s', out = .error f s' → f = .ownBase (s.get id).name ∧ s' = s
  rebased : ∀ s', out = .ok () s' → s'.chain id = id :: (base?.map s.chain).getD []
  others : ∀ s', out = .ok () s' → ∀ i < s.size, id ∉ s.chain i → s'.chain i = s.chain i

theorem Grounded.assigns (h : s.Grounded) (hid : id < s.size)
    (hb : ∀ b, base? = some b → b < s.size) :
    ∃ out, (∀ out', s.Rebases id base? out' ↔ out' = out) ∧ s.Assigns id base? out := by
  obtain ⟨row, hrow⟩ := h.exists_descendsFrom hb
  refine ⟨_, fun _ => rebases_iff hrow id, ?_⟩
  have hset := setBase_eq hrow id
  by_cases hmem : id ∈ row
  · rw [if_pos hmem] at hset ⊢
    exact {
      set := by rintro r rfl; rw [hset]
      refused_iff := by simpa using hrow.mem_iff.1 hmem
      refused := by
        rintro f s' ⟨⟩
        exact ⟨rfl, rfl⟩
      rebased := by rintro s' ⟨⟩
      others := by rintro s' ⟨⟩ }
  · rw [if_neg hmem] at hset ⊢
    exact {
      set := by rintro r rfl; rw [hset]
      refused_iff := by simpa [← hrow.mem_iff] using hmem
      refused := by rintro f s' ⟨⟩
      rebased := by
        rintro s' ⟨⟩
        rw [(hrow.rebase hmem hid).chain, hrow.eq_chain]
      others := by
        rintro s' ⟨⟩ i hi hnot
        obtain ⟨row', hrow'⟩ := h i hi
        rw [hrow'.chain] at hnot ⊢
        exact (hrow'.modify hnot _).chain }

/-- The stores that come from the built-in types by creating types and by putting types on others or
on none, where this is refused too. -/
inductive Assembled : TypeStore → Prop
  | initial : Assembled .initial
  | created {s s' : TypeStore} {n : TypeNode} (h : Assembled s)
    (hb : ∀ b, n.base = some b → b < s.size) (hs : s.Creates n (.ok () s')) : Assembled s'
  | assigned {s s' : TypeStore} {id : TypeId} {base? : Option TypeId} (h : Assembled s)
    (hid : id < s.size) (hb : ∀ b, base? = some b → b < s.size)
    (hs : s.Rebases id base? (.ok () s')) : Assembled s'
  | refused {s s' : TypeStore} {id : TypeId} {base? : Option TypeId} {f : TypeFault}
    (h : Assembled s) (hid : id < s.size) (hb : ∀ b, base? = some b → b < s.size)
    (hs : s.Rebases id base? (.error f s')) : Assembled s'

theorem Assembled.reachable (h : Assembled s) : s.Reachable := by
  induction h with
  | initial => exact .initial
  | created _ hb hs ih =>
    cases (creates_iff ih.grounded hb).1 hs
    exact ih.add hb
  | @assigned s s' id base? _ hid hb hs ih =>
    obtain ⟨row, hrow⟩ := ih.grounded.exists_descendsFrom hb
    cases hs with
    | done hfound =>
      have hset := setBase_eq hrow id
      rw [if_neg (by simpa using hrow.finds_iff.1 hfound)] at hset
      exact ih.setBase hb hset
  | refused _ hid hb hs ih =>
    cases hs with
    | refused => exact ih

/-- However types were created and put on others: following the bases from a type ends, a creation
is not refused, and putting a type on another comes to an end, and is refused exactly if the type is
in the chain of the other. -/
theorem Assembled.chains (h : Assembled s) :
    (∀ i < s.size, s.Descends i (s.chain i)) ∧
      (∀ n : TypeNode, (∀ b, n.base = some b → b < s.size) →
        ∀ out, s.Creates n out ↔ out = .ok () (s.add n)) ∧
      ∀ id base?, id < s.size → (∀ b, base? = some b → b < s.size) →
        ∃ out, (∀ out', s.Rebases id base? out' ↔ out' = out) ∧ s.Assigns id base? out := by
  have hgrounded := h.reachable.grounded
  refine ⟨fun i hi => ?_, fun n hb _ => creates_iff hgrounded hb,
    fun id base? hid hb => hgrounded.assigns hid hb⟩
  obtain ⟨row, hrow⟩ := hgrounded i hi
  rwa [hrow.chain]

def twoLevels : TypeStore :=
  (initial.add { name := .builtIn "a", base := some 0 }).add
    { name := .builtIn "b", base := some initial.size }

theorem assembled_twoLevels : Assembled twoLevels := by
  have hfirst : ∀ b, some 0 = some b → b < initial.size := by
    rintro b ⟨⟩
    decide
  have ha : Assembled (initial.add { name := .builtIn "a", base := some 0 }) :=
    .created .initial hfirst ((creates_iff grounded_initial hfirst).2 rfl)
  have hsecond : ∀ b, some initial.size = some b →
      b < (initial.add { name := .builtIn "a", base := some 0 }).size := by
    rintro b ⟨⟩
    rw [size_add]
    exact Nat.lt_succ_self _
  exact .created ha hsecond ((creates_iff ha.reachable.grounded hsecond).2 rfl)

theorem twoLevels_chains :
    Assembled twoLevels ∧
      (∀ i < twoLevels.size, twoLevels.Descends i (twoLevels.chain i)) ∧
      (∀ n : TypeNode, (∀ b, n.base = some b → b < twoLevels.size) →
        ∀ out, twoLevels.Creates n out ↔ out = .ok () (twoLevels.add n)) ∧
      ∀ id base?, id < twoLevels.size → (∀ b, base? = some b → b < twoLevels.size) →
        ∃ out, (∀ out', twoLevels.Rebases id base? out' ↔ out' = out) ∧
          twoLevels.Assigns id base? out :=
  ⟨assembled_twoLevels, assembled_twoLevels.chains⟩

end TypeStore
end YangSchema
