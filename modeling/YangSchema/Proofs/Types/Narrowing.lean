import YangSchema.Proofs.Types.Chain

/-!
# Derived types only narrow

A value is asked of the restrictions of a type, in their order, and then of those of its base, until
one does not allow it. So a type admits what all restrictions of its chain allow, a type admits
nothing that one which it derives from refuses, and a further restriction, whichever type it is put
on, lets in nothing that was refused.
-/
namespace YangSchema
namespace TypeStore

variable {s : TypeStore} {id level : TypeId} {row row' : List TypeId} {v : Value} {x : Violation}
  {r : Restriction} {rs : List Restriction}

def Allows (s : TypeStore) (v : Value) (level : TypeId) : Prop :=
  ∀ r ∈ (s.get level).restrictions, r.allows v = .ok true

/-- A restriction of a type in a row that is asked last. The types before it allow the value, and so
do the restrictions of the type that stand before it. -/
def Reaches (s : TypeStore) (v : Value) (row : List TypeId) (x : Violation) : Prop :=
  ∃ above below, row = above ++ x.level :: below ∧ (∀ level ∈ above, s.Allows v level) ∧
    ReachedBy v (s.get x.level).restrictions x.restriction

def told (v : Value) (x : Violation) : Except TypeFault (Option Violation) :=
  (refusedBy v x.restriction).map (Option.map (⟨·, x.level⟩))

theorem told_eq_some {y : Violation} :
    told v y = .ok (some x) ↔ y = x ∧ x.restriction.allows v = .ok false := by
  constructor
  · intro h
    unfold told refusedBy at h
    split at h
    · cases h
    · next hv =>
      cases h
      exact ⟨rfl, hv⟩
    · cases h
  · rintro ⟨rfl, hv⟩
    rw [told, refusedBy, hv]
    rfl

theorem told_eq_error {e : TypeFault} :
    told v x = .error e ↔ ∃ f, x.restriction.allows v = .error f ∧ e = .inverted f := by
  unfold told refusedBy
  split <;> grind [Except.map]

theorem firstViolation?_of_reaches (h : s.Reaches v row x)
    (hnot : x.restriction.allows v ≠ .ok true) : s.firstViolation? v row = told v x := by
  obtain ⟨above, below, rfl, habove, hr⟩ := h
  induction above with
  | nil =>
    rw [List.nil_append, firstViolation?, refusal?_of_reachedBy hr hnot, told, refusedBy]
    cases hv : x.restriction.allows v with
    | error f => rfl
    | ok b =>
      cases b with
      | false => rfl
      | true => exact absurd hv hnot
  | cons level above ih =>
    rw [List.forall_mem_cons] at habove
    rw [List.cons_append, firstViolation?, refusal?_eq_none.2 habove.1]
    exact ih habove.2

theorem firstViolation?_eq_none :
    s.firstViolation? v row = .ok none ↔ ∀ level ∈ row, s.Allows v level := by
  induction row with
  | nil => simp [firstViolation?]
  | cons level row ih =>
    rw [firstViolation?, List.forall_mem_cons, ← ih, Allows, ← refusal?_eq_none]
    cases refusal? v (s.get level).restrictions with
    | error f => simp
    | ok r? => cases r? <;> simp

/-- Unless all restrictions allow the value, there is a first that does not. -/
theorem exists_reaches (h : ¬ ∀ level ∈ row, s.Allows v level) :
    ∃ x, s.Reaches v row x ∧ x.restriction.allows v ≠ .ok true := by
  obtain ⟨above, level, below, hrow, habove, hlevel⟩ := exists_first h
  obtain ⟨before, r, after, hrs, hbefore, hr⟩ := exists_first hlevel
  exact ⟨⟨r, level⟩, ⟨above, below, hrow, habove, before, after, hrs, hbefore⟩, hr⟩

theorem allows_addRestriction (level : TypeId) (r : Restriction) (hid : id < s.size) :
    (s.addRestriction level r).Allows v id ↔
      s.Allows v id ∧ (level = id → r.allows v = .ok true) := by
  rw [Allows, addRestriction, get_modify _ hid]
  split
  · next heq => simp [Allows, heq, or_imp, forall_and]
  · next hne => simp [Allows, hne]

structure Validated (s : TypeStore) (id : TypeId) (row : List TypeId) : Prop where
  accepted : ∀ v, s.violation? id v = .ok none ↔
    ∀ level ∈ row, ∀ r ∈ (s.get level).restrictions, r.allows v = .ok true
  /-- The first restriction that does not allow the value is told, with the type that has it. -/
  violated : ∀ v x, s.violation? id v = .ok (some x) ↔
    s.Reaches v row x ∧ x.restriction.allows v = .ok false
  /-- Only of a pattern it may not be told whether it matches. -/
  fault : ∀ v e, s.violation? id v = .error e ↔
    ∃ x f, s.Reaches v row x ∧ x.restriction.allows v = .error f ∧ e = .inverted f
  narrows : ∀ v, ∀ base ∈ row, s.violation? id v = .ok none → s.violation? base v = .ok none
  appended : ∀ v level r, (s.addRestriction level r).violation? id v = .ok none ↔
    s.violation? id v = .ok none ∧ (level ∈ row → r.allows v = .ok true)

theorem Descends.violation?_eq_none (h : s.Descends id row) :
    s.violation? id v = .ok none ↔ ∀ level ∈ row, s.Allows v level := by
  rw [violation?, h.chain, firstViolation?_eq_none]

/-- A value that is not accepted is decided by the first restriction that does not allow it. -/
theorem Descends.violation?_eq_iff (h : s.Descends id row)
    {out : Except TypeFault (Option Violation)} (hout : out ≠ .ok none) :
    s.violation? id v = out ↔ ∃ x, s.Reaches v row x ∧ told v x = out := by
  constructor
  · intro hv
    have hnot : ¬ ∀ level ∈ row, s.Allows v level := by
      rwa [← h.violation?_eq_none, hv]
    obtain ⟨x, hx, hne⟩ := exists_reaches hnot
    rw [violation?, h.chain, firstViolation?_of_reaches hx hne] at hv
    exact ⟨x, hx, hv⟩
  · rintro ⟨x, hx, htold⟩
    have hne : x.restriction.allows v ≠ .ok true := by
      intro hv
      rw [told, refusedBy, hv] at htold
      exact hout htold.symm
    rw [violation?, h.chain, firstViolation?_of_reaches hx hne, htold]

theorem Descends.validated (h : s.Descends id row) : s.Validated id row where
  accepted v := h.violation?_eq_none
  violated v x := by
    rw [h.violation?_eq_iff (by simp)]
    simp [told_eq_some, and_left_comm]
  fault v e := by
    rw [h.violation?_eq_iff (by simp)]
    simp [told_eq_error]
  narrows v base hbase := by
    obtain ⟨rest, hrest, hsuffix⟩ := h.exists_suffix hbase
    rw [h.violation?_eq_none, hrest.violation?_eq_none]
    intro hall level hlevel
    exact hall level (hsuffix.mem hlevel)
  appended v level r := by
    have hadded : (s.addRestriction level r).Descends id row := h.modify_base level fun _ => rfl
    rw [hadded.violation?_eq_none, h.violation?_eq_none]
    have hlevel : ∀ i ∈ row, (s.addRestriction level r).Allows v i ↔
        s.Allows v i ∧ (level = i → r.allows v = .ok true) := fun i hi =>
      allows_addRestriction level r (h.lt_size_of_mem hi)
    grind

def atMost (n : Nat) : Restriction where
  condition := .length [⟨0, n, by simp [Bound.lt]⟩]

def shortTexts : TypeStore :=
  (initial.add { name := .builtIn "a", base := some 10, restrictions := [atMost 3] }).add
    { name := .builtIn "b", base := some 12, restrictions := [atMost 2] }

theorem descends_shortTexts : shortTexts.Descends 13 [13, 12, 10] :=
  .step rfl rfl (.step rfl rfl (.root rfl rfl))

/-- The derived type is the first to refuse. -/
theorem validated_shortTexts :
    shortTexts.Descends 13 [13, 12, 10] ∧ shortTexts.Validated 13 [13, 12, 10] ∧
      shortTexts.violation? 13 (.string "abcd") = .ok (some ⟨atMost 2, 13⟩) := by
  have h := descends_shortTexts.validated
  refine ⟨descends_shortTexts, h, (h.violated _ _).2 ⟨?_, rfl⟩⟩
  exact ⟨[], [12, 10], rfl, by simp, [], [], rfl, by simp⟩

end TypeStore
end YangSchema
