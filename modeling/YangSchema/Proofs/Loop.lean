import Mathlib.Logic.Relation

/-!
# Loops

A loop sets out from a state and goes on turn by turn, for as long as it takes. It is done when
there is no further turn, and then tells something of its last state, or when a turn is refused. A
loop that is never done comes to nothing, and no loop comes to two ends.
-/
namespace YangSchema

structure Loop (ε σ α : Type) where
  start : Except ε σ
  /-- The state after a turn, if there is a further turn. -/
  turn : σ → Except ε (Option σ)
  result : σ → α

namespace Loop

variable {ε σ α : Type} {l : Loop ε σ α} {s s' : σ} {r r' : Except ε α}

inductive Ends (l : Loop ε σ α) : σ → Except ε α → Prop
  | done {s : σ} (h : l.turn s = .ok none) : Ends l s (.ok (l.result s))
  | refused {s : σ} {e : ε} (h : l.turn s = .error e) : Ends l s (.error e)
  | turn {s s' : σ} {r : Except ε α} (h : l.turn s = .ok (some s')) (hr : Ends l s' r) : Ends l s r

/-- What a loop comes to. -/
inductive Gives (l : Loop ε σ α) : Except ε α → Prop
  | refused {e : ε} (h : l.start = .error e) : Gives l (.error e)
  | ran {s : σ} {r : Except ε α} (h : l.start = .ok s) (hr : l.Ends s r) : Gives l r

theorem Ends.unique (h : l.Ends s r) (h' : l.Ends s r') : r = r' := by
  induction h with
  | done h => cases h' <;> simp_all
  | refused h => cases h' <;> simp_all
  | turn h _ ih =>
    apply ih
    cases h' <;> simp_all

theorem Gives.unique (h : l.Gives r) (h' : l.Gives r') : r = r' := by
  cases h with
  | refused h => cases h' <;> simp_all
  | ran h hr =>
    cases h' with
    | refused h' => simp_all
    | ran h' hr' =>
      rw [h] at h'
      cases h'
      exact hr.unique hr'

theorem Gives.iff (h : l.Gives r) : l.Gives r' ↔ r' = r :=
  ⟨fun h' => h'.unique h, fun heq => heq ▸ h⟩

/-- From one state the loop gets to another, in any number of turns. -/
abbrev Leads (l : Loop ε σ α) : σ → σ → Prop :=
  Relation.ReflTransGen fun s s' => l.turn s = .ok (some s')

theorem Leads.ends (h : l.Leads s s') (hr : l.Ends s' r) : l.Ends s r := by
  induction h using Relation.ReflTransGen.head_induction_on with
  | refl => exact hr
  | head hturn _ ih => exact .turn hturn ih

end Loop
end YangSchema
