import YangSchema.Proofs.Argument.LongNumeral
import YangSchema.Proofs.Typedef.Outcome

/-!
# Flawed arguments

An argument can be wrong in two ways: it is told by an error and the building goes on, or it ends
the building. The outcome of a step tells its flaws if it is a fault exactly for a fatal one, and
otherwise a state that holds the errors of all the others.
-/
namespace YangSchema

inductive Flaw where
  | told (e : SchemaError)
  | fatal

/-- The argument of a statement cannot be read, which is fatal under a condition. -/
inductive Refused {α : Type} (s : Statement) (x : Argument α) (long : Prop) : Flaw → Prop
  | told {f : ArgumentFault} (h : x = .error (.fault f)) :
    Refused s x long (.told (.argumentParserError s (.fault f)))
  | fatal (h : long) : Refused s x long .fatal

theorem not_refused_fatal {α : Type} {s : Statement} {x : Argument α} :
    ¬ Refused s x False .fatal := by
  intro h
  cases h with
  | fatal h => exact h

namespace Build

variable {α β : Type} {b b' : TypeBuilder} {F F' G : Flaw → Prop}

def Tells (r : EStateM.Result BuildFault TypeBuilder α) (b : TypeBuilder) (F : Flaw → Prop) :
    Prop :=
  match r with
  | .error _ _ => F .fatal
  | .ok _ b' => ¬ F .fatal ∧ b.errors <+: b'.errors ∧ ∀ e, F (.told e) → e ∈ b'.errors

def Flawless (_ : Flaw) : Prop :=
  False

theorem not_flawless (x : Flaw) : ¬ Flawless x := id

theorem tells_error {f : BuildFault} :
    Tells (.error f b' : EStateM.Result _ _ α) b F ↔ F .fatal := Iff.rfl

theorem tells_ok {a : α} :
    Tells (.ok a b') b F ↔
      ¬ F .fatal ∧ b.errors <+: b'.errors ∧ ∀ e, F (.told e) → e ∈ b'.errors := Iff.rfl

/-- A result without anything to tell. -/
theorem tells_nothing {a : α} (h : b.errors <+: b'.errors) (hF : ∀ x, ¬ F x) :
    Tells (.ok a b') b F :=
  tells_ok.2 ⟨hF _, h, fun _ he => absurd he (hF _)⟩

theorem errors_prefix_reporting (b : TypeBuilder) (es : List SchemaError) :
    b.errors <+: (b.reporting es).errors :=
  List.prefix_append _ _

theorem mem_errors_reporting (b : TypeBuilder) (e : SchemaError) :
    e ∈ (b.reporting [e]).errors :=
  List.mem_append_right _ (List.mem_singleton.2 rfl)

/-- A result that tells the one flaw there is. -/
theorem tells_one {a : α} {e : SchemaError} (hF : ∀ x, F x → x = .told e) :
    Tells (.ok a (b.reporting [e])) b F := by
  refine tells_ok.2 ⟨fun h => ?_, errors_prefix_reporting b _, fun e' he => ?_⟩
  · cases hF _ h
  · cases hF _ he
    exact mem_errors_reporting b e

theorem Tells.mono {r : EStateM.Result BuildFault TypeBuilder α} (h : Tells r b' F)
    (hb : b.errors <+: b'.errors) : Tells r b F := by
  cases r with
  | error f d => exact h
  | ok a d =>
    obtain ⟨hfatal, hd, htold⟩ := tells_ok.1 h
    exact tells_ok.2 ⟨hfatal, hb.trans hd, htold⟩

theorem Tells.congr {r : EStateM.Result BuildFault TypeBuilder α} (h : Tells r b F)
    (hF : ∀ x, F x ↔ F' x) : Tells r b F' := by
  obtain rfl : F = F' := funext fun x => propext (hF x)
  exact h

theorem Tells.of_onlyReports {m : Build α} (hm : OnlyReports m) (b : TypeBuilder)
    (hF : ∀ x, ¬ F x) : Tells (m b) b F := by
  obtain ⟨a, es, h⟩ := hm b
  rw [h]
  exact tells_nothing (errors_prefix_reporting b es) hF

/-- The flaws of two steps are those of the first, and if it goes on those of the second. -/
theorem Tells.bind {m : Build α} {f : α → Build β} (hm : Tells (m b) b F)
    (hfatal : F .fatal → F' .fatal)
    (hf : ∀ a b', m b = .ok a b' →
      ∃ G, Tells (f a b') b' G ∧ (G .fatal → F' .fatal) ∧ ∀ x, F' x → F x ∨ G x) :
    Tells ((m >>= f) b) b F' := by
  rw [bind_apply]
  cases h : m b with
  | error e d =>
    rw [h] at hm
    exact hfatal (tells_error.1 hm)
  | ok a d =>
    rw [h] at hm
    obtain ⟨hnot, hd, htold⟩ := tells_ok.1 hm
    obtain ⟨G, hG, hGfatal, hsplit⟩ := hf a d h
    simp only
    cases h' : f a d with
    | error e d' =>
      rw [h'] at hG
      exact hGfatal (tells_error.1 hG)
    | ok c d' =>
      rw [h'] at hG
      obtain ⟨hnot', hd', htold'⟩ := tells_ok.1 hG
      refine tells_ok.2 ⟨fun hx => (hsplit _ hx).elim hnot hnot', hd.trans hd', fun e he => ?_⟩
      obtain he | he := hsplit _ he
      · exact hd'.subset (htold e he)
      · exact htold' e he

theorem Tells.bind_right {m : Build α} {f : α → Build β} (hm : Tells (m b) b Flawless)
    (hf : ∀ a b', m b = .ok a b' → Tells (f a b') b' F) : Tells ((m >>= f) b) b F :=
  hm.bind (fun h => absurd h (not_flawless _)) fun a b' h => ⟨F, hf a b' h, id, fun _ => .inr⟩

theorem Tells.bind_left {m : Build α} {f : α → Build β} (hm : Tells (m b) b F)
    (hf : ∀ a b', m b = .ok a b' → Tells (f a b') b' Flawless) : Tells ((m >>= f) b) b F :=
  hm.bind id fun a b' h =>
    ⟨Flawless, hf a b' h, fun hx => absurd hx (not_flawless _), fun _ => .inl⟩

theorem tells_read {s : Statement} {x : Argument α} {long : Prop}
    (hlong : x.IsTooLong ↔ long) (b : TypeBuilder) :
    Tells (read s x b) b (Refused s x long) := by
  cases x with
  | error e =>
    cases e with
    | fault f =>
      refine tells_one ?_
      rintro x (⟨h⟩ | ⟨h⟩)
      · cases h
        rfl
      · obtain ⟨g, hg⟩ := hlong.2 h
        cases hg
    | numeral f => exact .fatal (hlong.1 ⟨f, rfl⟩)
  | ok a =>
    refine tells_nothing (List.prefix_refl _) ?_
    rintro x (⟨h⟩ | ⟨h⟩)
    · cases h
    · exact Argument.not_isTooLong_ok a (hlong.2 h)

end Build
end YangSchema
