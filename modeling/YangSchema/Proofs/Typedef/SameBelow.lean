import YangSchema.Proofs.Typedef.Report

/-!
# Building reads what is below

What is built of a statement depends on that statement and on those below it. In another tree with
the same statements there, each step of building is the same step.
-/
namespace YangSchema

namespace StatementTree

def SameBelow (tree tree' : StatementTree) (s : Statement) : Prop :=
  ∀ q, tree.Within s q → tree'.childStatements q = tree.childStatements q

variable {tree tree' : StatementTree} {s c : Statement}

theorem SameBelow.children (h : tree.SameBelow tree' s) :
    tree'.childStatements s = tree.childStatements s :=
  h s .self

theorem SameBelow.child (h : tree.SameBelow tree' s) (hc : c ∈ tree.childStatements s) :
    tree.SameBelow tree' c :=
  fun q hq => h q ((Within.child .self hc).trans hq)

end StatementTree

namespace Build
open StatementTree

variable {α β : Type} {tree tree' : StatementTree} {s : Statement}

theorem substatements_congr (h : tree.SameBelow tree' s) (allowed : List Allowed) :
    substatements tree' allowed s = substatements tree allowed s := by
  rw [substatements, h.children, substatements]

theorem notes_congr (h : tree.SameBelow tree' s) : notes tree' s = notes tree s := by
  rw [notes, substatements_congr h, notes]

theorem restriction_congr (h : tree.SameBelow tree' s) (base : TypeId) :
    restriction tree' base s = restriction tree base s := by
  simp only [restriction, range, length, pattern, notes_congr h]

theorem restrictions_congr {row : List Statement} (h : ∀ q ∈ row, tree.SameBelow tree' q)
    (base : TypeId) : restrictions tree' base row = restrictions tree base row := by
  induction row with
  | nil => rfl
  | cons q row ih =>
    obtain ⟨hq, hrow⟩ := List.forall_mem_cons.1 h
    simp only [restrictions, restriction_congr hq, ih hrow]

/-- Two steps are one if what follows the first part of them is, wherever that part leads. -/
theorem bind_congr_of_ok {m : Build α} {f g : α → Build β}
    (h : ∀ b a d, m b = .ok a d → f a = g a) : m >>= f = m >>= g := by
  funext b
  rw [bind_apply, bind_apply]
  cases hm : m b with
  | ok a d => exact congrFun (h b a d hm) d
  | error e d => rfl

theorem resolve_congr (h : tree.SameBelow tree' s) : resolve tree' s = resolve tree s := by
  unfold resolve
  rw [substatements_congr h]
  refine bind_congr_of_ok fun _ text _ _ => ?_
  cases text with
  | none => rfl
  | some text =>
    refine bind_congr_of_ok fun _ base _ _ => ?_
    cases base with
    | none => rfl
    | some base =>
      refine bind_congr_of_ok fun _ found _ hfound => ?_
      cases hfound
      refine bind_congr_of_ok fun _ usable _ _ => ?_
      cases usable with
      | none => rfl
      | some _ =>
        have hrow := restrictions_congr
          (fun q hq => h.child (mem_childStatements_of_restricting hq)) base
        exact congrArg (· >>= _) hrow

theorem defineType_congr (h : tree.SameBelow tree' s) (name : QualifiedName) :
    defineType tree' s name = defineType tree s name := by
  unfold defineType
  rw [substatements_congr h]
  refine bind_congr_of_ok fun _ found _ hfound => ?_
  cases hfound
  cases ht : (below tree Allowed.inTypedef s).named "type" with
  | nil => rfl
  | cons t row =>
    have htype : t ∈ tree.childStatements s := mem_childStatements (ht ▸ List.mem_cons_self)
    simp only [resolve_congr (h.child htype)]

theorem addTypedef_congr {i : StatementId} (h : tree.SameBelow tree' s) (hs : tree.get i = .ok s)
    (hs' : tree'.get i = .ok s) : addTypedef tree' i = addTypedef tree i := by
  unfold addTypedef
  rw [hs, hs']
  refine bind_congr_of_ok fun _ q _ hq => ?_
  cases hq
  simp only [defineType_congr h]

/-- The statements of a row are in both trees. -/
theorem addEach_congr {row : List Statement} (h : ∀ c ∈ row, tree.SameBelow tree' c)
    (hrow : ∀ c ∈ row, tree.get c.id = .ok c) (hrow' : ∀ c ∈ row, tree'.get c.id = .ok c) :
    addEach tree' row = addEach tree row := by
  induction row with
  | nil => rfl
  | cons c row ih =>
    rw [List.forall_mem_cons] at h hrow hrow'
    simp only [addEach, addTypedef_congr h.1 hrow.1 hrow'.1, ih h.2 hrow.2 hrow'.2]

end Build
end YangSchema
