/-!
# Outcomes of steps

What a composed step with a state and errors gives, as equations: the first part that fails ends it,
with the state where that part left it.
-/
namespace YangSchema

variable {ε σ α β : Type}

@[simp]
theorem bind_apply (m : EStateM ε σ α) (f : α → EStateM ε σ β) (c : σ) :
    (m >>= f) c = match m c with
      | .ok a d => f a d
      | .error e d => .error e d := by
  change EStateM.bind m f c = _
  unfold EStateM.bind
  cases m c <;> rfl

@[simp]
theorem pure_apply (a : α) (c : σ) : (pure a : EStateM ε σ α) c = .ok a c := rfl

@[simp]
theorem map_apply (g : α → β) (m : EStateM ε σ α) (c : σ) :
    (g <$> m) c = match m c with
      | .ok a d => .ok (g a) d
      | .error e d => .error e d := by
  change EStateM.map g m c = _
  unfold EStateM.map
  cases m c <;> rfl

@[simp]
theorem ite_apply (p : Prop) [Decidable p] (m₁ m₂ : EStateM ε σ α) (c : σ) :
    (if p then m₁ else m₂) c = if p then m₁ c else m₂ c := by
  split <;> rfl

@[simp]
theorem get_apply (c : σ) : (get : EStateM ε σ σ) c = .ok c c := rfl

theorem bind_eq_ok {m : EStateM ε σ α} {f : α → EStateM ε σ β} {c e : σ} {b : β} :
    (m >>= f) c = .ok b e ↔ ∃ a d, m c = .ok a d ∧ f a d = .ok b e := by
  rw [bind_apply]
  cases m c <;> simp [and_assoc]

theorem pure_eq_ok {a b : α} {c d : σ} :
    (pure a : EStateM ε σ α) c = .ok b d ↔ a = b ∧ c = d := by
  rw [pure_apply]
  simp

theorem get_eq_ok {a c d : σ} : (get : EStateM ε σ σ) c = .ok a d ↔ c = a ∧ c = d := by
  rw [get_apply]
  simp

theorem except_bind_eq_ok {x : Except ε α} {f : α → Except ε β} {b : β} :
    (x >>= f) = .ok b ↔ ∃ a, x = .ok a ∧ f a = .ok b := by
  constructor
  · intro h
    cases x with
    | error e => cases h
    | ok a => exact ⟨a, rfl, h⟩
  · rintro ⟨a, rfl, h⟩
    exact h

theorem except_bind_eq_error {x : Except ε α} {f : α → Except ε β} {e : ε} :
    (x >>= f) = .error e ↔ x = .error e ∨ ∃ a, x = .ok a ∧ f a = .error e := by
  cases x with
  | error e' =>
    change Except.error e' = .error e ↔ _
    simp
  | ok a =>
    change f a = .error e ↔ _
    simp

theorem toOption_eq_some {x : Except ε α} {a : α} : x.toOption = some a ↔ x = .ok a := by
  cases x <;> simp [Except.toOption]

/-- A row of steps succeeds if each of them does. -/
theorem exists_mapM {row : List α} {f : α → Except ε β} (h : ∀ a ∈ row, ∃ b, f a = .ok b) :
    ∃ bs, row.mapM f = .ok bs := by
  induction row with
  | nil => exact ⟨[], rfl⟩
  | cons a row ih =>
    rcases List.forall_mem_cons.1 h with ⟨⟨b, hb⟩, hrow⟩
    rcases ih hrow with ⟨bs, hbs⟩
    refine ⟨b :: bs, ?_⟩
    rw [List.mapM_cons, hb, hbs]
    rfl

end YangSchema
