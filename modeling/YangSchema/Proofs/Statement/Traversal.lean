import YangSchema.Proofs.Statement.Nesting
import YangSchema.Proofs.Statement.Reachable
import YangSchema.Statement.Printer

/-!
# Traversals by loops

Trees are as deep as their texts want, and so they are walked through, printed and turned into data
by loops that keep what is still to do on a stack. Each loop comes to what the recursion over a
statement and its children gives: a walk puts the children on the stack so that the first is on top,
printing puts the closing brace below them, and nested data is filled from the last child on. The
loop that goes up from a statement comes to those that it is walked through from.
-/
namespace YangSchema

/-- A row is put on a stack, the last item on top. A stack is told from its top on. -/
def stacked {ι : Type} (row stack : List ι) : List ι :=
  row.reverse ++ stack

theorem stacked_reverse {ι : Type} (row stack : List ι) :
    stacked row.reverse stack = row ++ stack := by
  simp [stacked]

/-- What is still to do and what was given out. -/
structure Traversal (ι ω : Type) where
  stack : List ι
  out : List ω

/-- Items that are done with one after the other. -/
theorem Loop.leads_row {ε ι ω α β : Type} {l : Loop ε (Traversal ι ω) α} {item : β → ι}
    {given : β → List ω} {row : List β}
    (h : ∀ b ∈ row, ∀ stack out, l.Leads ⟨item b :: stack, out⟩ ⟨stack, out ++ given b⟩)
    (stack : List ι) (out : List ω) :
    l.Leads ⟨row.map item ++ stack, out⟩ ⟨stack, out ++ row.flatMap given⟩ := by
  induction row generalizing out with
  | nil =>
    rw [List.flatMap_nil, List.append_nil]
    exact .refl
  | cons b row ih =>
    rw [List.forall_mem_cons] at h
    have hrest := ih h.2 (out ++ given b)
    rw [List.append_assoc, ← List.flatMap_cons] at hrest
    exact (h.1 (row.map item ++ stack) out).trans hrest

namespace StatementText

theorem linesAll_eq_flatMap (depth : Nat) (row : List StatementView) :
    linesAll depth row = row.flatMap (lines depth) := by
  induction row with
  | nil => rfl
  | cons v row ih => rw [linesAll, ih, List.flatMap_cons]

end StatementText

namespace StatementTree
open StatementView StatementText

variable {t : StatementTree} {s c : Statement} {id : StatementId} {id? : Option StatementId}
  {e : TreeFault} {n : Nat}

def walkTurn (t : StatementTree) (w : Traversal StatementId Statement) :
    Except TreeFault (Option (Traversal StatementId Statement)) :=
  match w.stack with
  | [] => .ok none
  | id :: stack => do
    let s ← t.get id
    return some ⟨stacked s.children.reverse stack, w.out ++ [s]⟩

def walkLoop (t : StatementTree) (id? : Option StatementId) :
    Loop TreeFault (Traversal StatementId Statement) (List Statement) where
  start := (t.startId id?).map fun id => ⟨[id], []⟩
  turn := t.walkTurn
  result := (·.out)

theorem Wired.walkLoop_leads (h : t.Wired) (hs : t.get? s.id = some s) (stack : List StatementId)
    (out : List Statement) :
    (t.walkLoop id?).Leads ⟨s.id :: stack, out⟩ ⟨stack, out ++ (t.view s).preorder⟩ := by
  induction h.descends hs generalizing stack out with
  | @step s hs _ ih =>
    have hturn : (t.walkLoop id?).turn ⟨s.id :: stack, out⟩ =
        .ok (some ⟨(t.childStatements s).map (·.id) ++ stack, out ++ [s]⟩) := by
      simp [walkLoop, walkTurn, get_eq_ok.2 hs, stacked_reverse, h.ids_childStatements hs]
    have hrow := Loop.leads_row (l := t.walkLoop id?)
      (fun c hc => ih c hc (h.numbered.get?_child hc)) stack (out ++ [s])
    rw [List.append_assoc, List.singleton_append, ← h.preorder_view hs] at hrow
    exact .head hturn hrow

theorem Wired.walkLoop_gives (h : t.Wired) : (t.walkLoop id?).Gives (t.walk id?) := by
  apply h.gives_start rfl
  · intro s hs
    exact Loop.Leads.ends (h.walkLoop_leads hs [] []) (.done rfl)
  · intro id e he
    exact .refused (by simp [walkLoop, walkTurn, he, bind, Except.bind])

def climbLoop (t : StatementTree) (id : StatementId) :
    Loop TreeFault (Option Statement × List Statement) (List Statement) where
  start := (t.parentOf id).map (·, [])
  turn w :=
    match w.1 with
    | none => .ok none
    | some p => do return some (← t.parentOf p.id, w.2 ++ [p])
  result := (·.2)

theorem Wired.parentOf_eq (h : t.Wired) (hs : t.get? id = some s) :
    t.parentOf id = .ok (s.parent.bind t.get?) := by
  rw [parentOf, get_eq_ok.2 hs]
  cases hp : s.parent with
  | none => simp [bind, Except.bind, hp]; rfl
  | some p =>
    obtain ⟨q, hq, -⟩ := h.exists_parent (by rw [links_parent hs, hp])
    simp [bind, Except.bind, hp, get_eq_ok.2 hq, hq]
    rfl

theorem Wired.climbLoop_leads (h : t.Wired) (hs : t.get? s.id = some s)
    (hn : t.links.climb (n + 1) s.id = none) (out : List Statement) :
    (t.climbLoop id).Leads (s.parent.bind t.get?, out) (none, out ++ t.above n s) := by
  induction n generalizing s out with
  | zero =>
    have hnone : s.parent = none := by
      simpa [Links.climb, links_parent hs] using hn
    simp only [hnone, Option.bind_none, above, List.append_nil]
    exact .refl
  | succ n ih =>
    rw [above]
    cases hp : s.parent.bind t.get? with
    | none =>
      rw [List.append_nil]
    | some p =>
      obtain ⟨j, hj, hget⟩ := Option.bind_eq_some_iff.1 hp
      obtain rfl := h.numbered hget
      have hup : t.links.climb (n + 1) p.id = none := by
        rwa [Links.climb, links_parent hs, hj, Option.bind_some] at hn
      have hturn : (t.climbLoop id).turn (some p, out) =
          .ok (some (p.parent.bind t.get?, out ++ [p])) := by
        simp [climbLoop, h.parentOf_eq hget, bind, Except.bind]
        rfl
      have hrest := ih hget hup (out ++ [p])
      rw [List.append_assoc, List.singleton_append] at hrest
      exact .head hturn hrest

theorem Wired.climbLoop_gives (h : t.Wired) (id : StatementId) :
    (t.climbLoop id).Gives (t.ancestors id) := by
  unfold ancestors
  cases hs : t.get id with
  | ok s =>
    have hget := get_eq_ok.1 hs
    obtain rfl := h.numbered hget
    refine .ran (s := (s.parent.bind t.get?, [])) (by rw [climbLoop, h.parentOf_eq hget]; rfl) ?_
    exact Loop.Leads.ends (h.climbLoop_leads hget (h.climb_size s.id) []) (.done rfl)
  | error e =>
    refine .refused ?_
    rw [climbLoop, parentOf, hs]
    rfl

def printTurn (t : StatementTree) (w : Traversal (StatementId × Nat × Bool) (List Char)) :
    Except TreeFault (Option (Traversal (StatementId × Nat × Bool) (List Char))) :=
  match w.stack with
  | [] => .ok none
  | (_, depth, true) :: stack => .ok (some ⟨stack, w.out ++ [indent depth ++ ['\x7d']]⟩)
  | (id, depth, false) :: stack => do
    let s ← t.get id
    if s.children.isEmpty then return some ⟨stack, w.out ++ [head depth s ++ [';']]⟩
    return some
      ⟨stacked (s.children.reverse.map (·, depth + 1, false)) ((id, depth, true) :: stack),
        w.out ++ [head depth s ++ [' ', '\x7b']]⟩

/-- The lines are joined by line feeds, and one more ends the last. -/
def printLoop (t : StatementTree) (id? : Option StatementId) :
    Loop TreeFault (Traversal (StatementId × Nat × Bool) (List Char)) String where
  start := (t.startId id?).map fun id => ⟨[(id, 0, false)], []⟩
  turn := t.printTurn
  result w := String.ofList (['\n'].intercalate w.out ++ ['\n'])

theorem Wired.printLoop_leads (h : t.Wired) (hs : t.get? s.id = some s) (depth : Nat)
    (stack : List (StatementId × Nat × Bool)) (out : List (List Char)) :
    (t.printLoop id?).Leads ⟨(s.id, depth, false) :: stack, out⟩
      ⟨stack, out ++ lines depth (t.view s)⟩ := by
  induction h.descends hs generalizing depth stack out with
  | @step s hs _ ih =>
    have hids := h.ids_childStatements hs
    rw [h.view_eq hs]
    cases hrow : t.childStatements s with
    | nil =>
      rw [hrow] at hids
      have hturn : (t.printLoop id?).turn ⟨(s.id, depth, false) :: stack, out⟩ =
          .ok (some ⟨stack, out ++ [head depth s ++ [';']]⟩) := by
        simp [printLoop, printTurn, get_eq_ok.2 hs, ← hids, bind, Except.bind]
        rfl
      exact .single hturn
    | cons c row =>
      rw [hrow] at hids
      let opened := out ++ [head depth s ++ [' ', '\x7b']]
      have hturn : (t.printLoop id?).turn ⟨(s.id, depth, false) :: stack, out⟩ =
          .ok (some ⟨(c :: row).map (fun c => (c.id, depth + 1, false)) ++
            (s.id, depth, true) :: stack, opened⟩) := by
        simp [printLoop, printTurn, get_eq_ok.2 hs, ← hids, bind, Except.bind, stacked]
        rfl
      have hchildren : ∀ d ∈ c :: row, ∀ stack out, (t.printLoop id?).Leads
          ⟨(d.id, depth + 1, false) :: stack, out⟩
          ⟨stack, out ++ lines (depth + 1) (t.view d)⟩ := by
        intro d hd
        rw [← hrow] at hd
        exact ih d hd (h.numbered.get?_child hd) (depth + 1)
      have hbelow := Loop.leads_row hchildren ((s.id, depth, true) :: stack) opened
      have hlines : out ++ lines depth (.mk s ((c :: row).map t.view)) =
          opened ++ ((c :: row).flatMap fun c => lines (depth + 1) (t.view c)) ++
            [indent depth ++ ['\x7d']] := by
        rw [List.map_cons, lines, ← List.map_cons, linesAll_eq_flatMap, List.flatMap_map]
        simp [opened]
      rw [hlines]
      exact .head hturn (hbelow.tail rfl)

theorem intercalate_feed {rows : List (List Char)} (h : rows ≠ []) :
    ['\n'].intercalate rows ++ ['\n'] = rows.flatMap (· ++ ['\n']) := by
  induction rows with
  | nil => exact absurd rfl h
  | cons row rows ih =>
    cases rows with
    | nil => simp
    | cons r rows =>
      rw [List.flatMap_cons, ← ih (List.cons_ne_nil r rows), List.intercalate_cons_cons]
      simp

theorem Wired.printLoop_gives (h : t.Wired) : (t.printLoop id?).Gives (t.render id?) := by
  apply h.gives_start rfl
  · intro s hs
    have hne : lines 0 (t.view s) ≠ [] := by
      rw [h.view_eq hs]
      cases (t.childStatements s).map t.view <;> simp [lines]
    have htext : (t.printLoop id?).result ⟨[], lines 0 (t.view s)⟩ = (t.view s).render :=
      congrArg String.ofList (intercalate_feed hne)
    rw [← htext]
    exact Loop.Leads.ends (h.printLoop_leads hs 0 [] []) (.done rfl)
  · intro id e he
    exact .refused (by simp [printLoop, printTurn, he, bind, Except.bind])

structure Traversed (t : StatementTree) : Prop where
  /-- There is no bound on how deep a statement is seen, and no child is left out. -/
  view : ∀ s, t.get? s.id = some s →
    t.view s = .mk s ((t.childStatements s).map t.view) ∧
      (t.childStatements s).map (·.id) = s.children
  walk : ∀ id? r, (t.walkLoop id?).Gives r ↔ r = t.walk id?
  ancestors : ∀ id r, (t.climbLoop id).Gives r ↔ r = t.ancestors id
  /-- A walk comes to each statement once, and to those that it sets out below. -/
  mem_walk : ∀ a x, t.get? a.id = some a → t.get? x.id = some x →
    ∃ row above, t.walk (some a.id) = .ok row ∧ t.ancestors x.id = .ok above ∧
      (row.map (·.id)).Nodup ∧ (x ∈ row ↔ x = a ∨ a ∈ above)
  data : ∀ id? positions v, (∃ heap, (t.dataLoop id? positions).Gives (.ok heap) ∧ Shows heap 0 v) ↔
    t.toData id? positions = .ok v
  data_error : ∀ id? positions e, (t.dataLoop id? positions).Gives (.error e) ↔
    t.toData id? positions = .error e
  /-- The objects in nested data, each before those below it, are those of a walk. -/
  objects : ∀ id? positions, (t.toData id? positions).map JsonValue.objects =
    (t.walk id?).map (List.map (ownMembers positions))
  render : ∀ id? r, (t.printLoop id?).Gives r ↔ r = t.render id?

/-- On every tree that there can be, the loops come to what recursion over it gives. -/
theorem Reachable.traversed (h : Reachable t) : t.Traversed where
  view _ hs := ⟨h.wired.view_eq hs, h.wired.ids_childStatements hs⟩
  walk _ _ := h.wired.walkLoop_gives.iff
  ancestors _ _ := (h.wired.climbLoop_gives _).iff
  mem_walk a x ha hx := by
    refine ⟨(t.view a).preorder, t.ancestorsOf x, walk_some ha, ?_, h.wired.nodup_below ha,
      h.wired.mem_preorder_iff ha hx⟩
    rw [StatementTree.ancestors, get_eq_ok.2 hx]
    rfl
  data _ _ := h.wired.dataLoop_gives.1
  data_error _ _ := h.wired.dataLoop_gives.2
  objects id? positions := by
    rw [toData, StatementTree.walk]
    cases t.start id? with
    | ok s => exact congrArg Except.ok ((t.view s).objects_toData positions)
    | error e => rfl
  render _ _ := h.wired.printLoop_gives.iff

def nestedThree : StatementTree where
  statements := #[
    { id := 0, name := "a", position := ⟨1, 1⟩, children := [1] },
    { id := 1, name := "b", position := ⟨1, 1⟩, parent := some 0, children := [2] },
    { id := 2, name := "c", position := ⟨1, 1⟩, parent := some 1 }]
  root := some 0

theorem reachable_nestedThree : Reachable nestedThree :=
  .setRoot (.performed (c := .insertChild 1 0 2) (.performed (c := .insertChild 0 0 1)
    (.performed (c := .add "c" ⟨1, 1⟩ none none) reachable_unlinkedPair rfl) rfl) rfl) (some 0)

theorem traversed_nestedThree :
    nestedThree.Traversed ∧
      (nestedThree.printLoop none).Gives (.ok "a \x7b\n  b \x7b\n    c;\n  \x7d\n\x7d\n") :=
  have h := reachable_nestedThree.traversed
  ⟨h, (h.render none _).2 rfl⟩

end StatementTree
end YangSchema
