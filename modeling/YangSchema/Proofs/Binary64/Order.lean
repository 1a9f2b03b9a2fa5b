import YangSchema.Binary64.Basic

/-!
# The order of binary numbers

All numbers but a NaN stand in one row, with the infinities at its ends and both zeros at one place.
A NaN is not even at most itself.
-/
namespace YangSchema.Binary64

variable {x y z : Binary64}

/-- The place of a number in the row, by its side and its units; only the infinities are not in the
middle. A NaN has none. -/
def place? : Binary64 → Option (Int × Int)
  | nan => none
  | infinity true => some (-1, 0)
  | infinity false => some (1, 0)
  | finite s m => some (0, signedUnits s m)

theorem le_iff : x.le y = true ↔ ∃ a b, place? x = some a ∧ place? y = some b ∧
    (a.1 < b.1 ∨ a.1 = b.1 ∧ a.2 ≤ b.2) := by
  cases x with
  | nan => simp [le, place?]
  | infinity s =>
    cases y with
    | nan => cases s <;> simp [le, place?]
    | infinity t => cases s <;> cases t <;> simp [le, place?]
    | finite t n => cases s <;> simp [le, place?]
  | finite s m =>
    cases y with
    | nan => simp [le, place?]
    | infinity t => cases t <;> simp [le, place?]
    | finite t n => simp [le, place?]

theorem le_trans (h₁ : x.le y = true) (h₂ : y.le z = true) : x.le z = true := by
  obtain ⟨a, b, ha, hb, hab⟩ := le_iff.1 h₁
  obtain ⟨b', c, hb', hc, hbc⟩ := le_iff.1 h₂
  obtain rfl : b = b' := Option.some.inj (hb.symm.trans hb')
  exact le_iff.2 ⟨a, c, ha, hc, by omega⟩

theorem le_self_left (h : x.le y = true) : x.le x = true := by
  obtain ⟨a, _, ha, -, -⟩ := le_iff.1 h
  exact le_iff.2 ⟨a, a, ha, ha, by omega⟩

theorem le_self_right (h : x.le y = true) : y.le y = true := by
  obtain ⟨_, b, -, hb, -⟩ := le_iff.1 h
  exact le_iff.2 ⟨b, b, hb, hb, by omega⟩

/-- Of two numbers one is at most the other. -/
theorem le_of_not_le (hx : x.le x = true) (hy : y.le y = true) (h : x.le y = false) :
    y.le x = true := by
  obtain ⟨a, _, ha, -, -⟩ := le_iff.1 hx
  obtain ⟨b, _, hb, -, -⟩ := le_iff.1 hy
  have hab : ¬ (a.1 < b.1 ∨ a.1 = b.1 ∧ a.2 ≤ b.2) := fun hab => by
    rw [le_iff.2 ⟨a, b, ha, hb, hab⟩] at h
    cases h
  exact le_iff.2 ⟨b, a, hb, ha, by omega⟩

theorem lt_iff : x.lt y = true ↔ x.le y = true ∧ y.le x = false := by
  simp [lt]

theorem lt_of_not_le (hx : x.le x = true) (hy : y.le y = true) (h : x.le y = false) :
    y.lt x = true :=
  lt_iff.2 ⟨le_of_not_le hx hy h, h⟩

theorem le_of_not_lt (hx : x.le x = true) (hy : y.le y = true) (h : x.lt y = false) :
    y.le x = true := by
  cases hyx : y.le x with
  | true => rfl
  | false =>
    rw [lt_of_not_le hy hx hyx] at h
    cases h

theorem lt_of_lt_of_le (h₁ : x.lt y = true) (h₂ : y.le z = true) : x.lt z = true := by
  obtain ⟨hxy, hyx⟩ := lt_iff.1 h₁
  refine lt_iff.2 ⟨le_trans hxy h₂, ?_⟩
  cases hzx : z.le x with
  | false => rfl
  | true =>
    rw [le_trans h₂ hzx] at hyx
    cases hyx

theorem lt_trans (h₁ : x.lt y = true) (h₂ : y.lt z = true) : x.lt z = true :=
  lt_of_lt_of_le h₁ (lt_iff.1 h₂).1

end YangSchema.Binary64
