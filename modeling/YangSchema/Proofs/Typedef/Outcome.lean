import YangSchema.Outcome
import YangSchema.Typedef.Builder

/-!
# Outcomes of building steps

What the parts of the builder give from a state, as equations. Reports are added to the state and
end no step.
-/
namespace YangSchema

def TypeBuilder.reporting (b : TypeBuilder) (es : List SchemaError) : TypeBuilder :=
  { b with errors := b.errors ++ es }

namespace TypeBuilder

variable (b : TypeBuilder) (es : List SchemaError)

@[simp]
theorem reporting_nil : b.reporting [] = b := by
  simp [reporting]

@[simp]
theorem reporting_reporting (fs : List SchemaError) :
    (b.reporting es).reporting fs = b.reporting (es ++ fs) := by
  simp [reporting]

/-- A state with more reports is another one. -/
@[simp]
theorem reporting_eq_self : b.reporting es = b ↔ es = [] := by
  constructor
  · intro h
    exact List.append_right_eq_self.1 (congrArg TypeBuilder.errors h)
  · rintro rfl
    exact reporting_nil b

end TypeBuilder

namespace Build

variable {α : Type} (b : TypeBuilder)

@[simp]
theorem addErrors_apply (es : List SchemaError) : addErrors es b = .ok () (b.reporting es) := rfl

@[simp]
theorem addError_apply (e : SchemaError) : addError e b = .ok () (b.reporting [e]) := rfl

@[simp]
theorem reject_apply (e : SchemaError) :
    (reject e : Build (Option α)) b = .ok none (b.reporting [e]) := rfl

@[simp]
theorem setStore_apply (store : TypeStore) : setStore store b = .ok () { b with store } := rfl

@[simp]
theorem ofType_ok (a : α) : ofType (.ok a) b = .ok a b := rfl

@[simp]
theorem ofType_error (f : TypeFault) :
    ofType (.error f : Except TypeFault α) b = .error (.type f) b := rfl

@[simp]
theorem ofTree_ok (a : α) : ofTree (.ok a) b = .ok a b := rfl

@[simp]
theorem ofTree_error (f : TreeFault) :
    ofTree (.error f : Except TreeFault α) b = .error (.tree f) b := rfl

@[simp]
theorem addType_apply (n : TypeNode) :
    addType n b = .ok b.store.size { b with store := b.store.add n } := rfl

@[simp]
theorem substatements_apply (tree : StatementTree) (allowed : List Allowed) (s : Statement) :
    substatements tree allowed s b =
      .ok (.of allowed (tree.childStatements s))
        (b.reporting (Substatements.of allowed (tree.childStatements s)).errors) := rfl

theorem argument_apply (s : Statement) :
    argument s b =
      match s.argument with
      | some a => .ok (some a) b
      | none => .ok none (b.reporting [.argumentExpected s]) := by
  unfold argument
  cases s.argument <;> rfl

@[simp]
theorem read_ok (s : Statement) (a : α) : read s (.ok a) b = .ok (some a) b := rfl

@[simp]
theorem read_fault (s : Statement) (f : ArgumentFault) :
    (read s (.error (.fault f)) : Build (Option α)) b =
      .ok none (b.reporting [.argumentParserError s (.fault f)]) := rfl

@[simp]
theorem read_numeral (s : Statement) (f : Text.Numeral.Fault) :
    (read s (.error (.numeral f)) : Build (Option α)) b = .error (.numeral f) b := rfl

@[simp]
theorem restrictionOf_ok (s : Statement) (notes : Notes) (c : Condition) :
    restrictionOf s notes (.ok c) b = .ok (some ⟨c, notes⟩) b := rfl

theorem restrictionOf_error (s : Statement) (notes : Notes) (f : RestrictionFault) :
    restrictionOf s notes (.error f) b =
      if f.isLimit then .error (.restriction f) b
      else .ok none (b.reporting [.argumentParserError s (.restriction f)]) := by
  simp only [restrictionOf]
  split <;> rfl

/-- The step succeeds from every state and adds nothing to it but reports. -/
def OnlyReports (m : Build α) : Prop :=
  ∀ b, ∃ a es, m b = .ok a (b.reporting es)

theorem onlyReports_pure (a : α) : OnlyReports (pure a : Build α) := by
  intro b
  exact ⟨a, [], by simp⟩

theorem onlyReports_bind {β : Type} {m : Build α} {f : α → Build β} (hm : OnlyReports m)
    (hf : ∀ a, OnlyReports (f a)) : OnlyReports (m >>= f) := by
  intro b
  obtain ⟨a, es, ha⟩ := hm b
  obtain ⟨c, fs, hc⟩ := hf a (b.reporting es)
  refine ⟨c, es ++ fs, ?_⟩
  rw [bind_apply, ha]
  simpa using hc

theorem onlyReports_argument (s : Statement) : OnlyReports (argument s) := by
  intro b
  rw [argument_apply]
  cases s.argument with
  | none => exact ⟨none, _, rfl⟩
  | some a => exact ⟨some a, [], by simp⟩

theorem onlyReports_argumentNamed (found : Substatements) (keyword : String) :
    OnlyReports (argumentNamed found keyword) := by
  unfold argumentNamed
  split
  · exact onlyReports_pure none
  · exact onlyReports_argument _

theorem onlyReports_notes (tree : StatementTree) (s : Statement) : OnlyReports (notes tree s) := by
  refine onlyReports_bind (fun b => ⟨_, _, substatements_apply b tree _ s⟩) fun found => ?_
  refine onlyReports_bind (onlyReports_argumentNamed found _) fun _ => ?_
  refine onlyReports_bind (onlyReports_argumentNamed found _) fun _ => ?_
  refine onlyReports_bind (onlyReports_argumentNamed found _) fun _ => ?_
  refine onlyReports_bind (onlyReports_argumentNamed found _) fun _ => ?_
  exact onlyReports_pure _

end Build
end YangSchema
