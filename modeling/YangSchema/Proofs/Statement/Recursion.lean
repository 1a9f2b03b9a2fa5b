import Mathlib.Data.List.Nodup
import YangSchema.Proofs.Loop
import YangSchema.Proofs.Statement.Subtree

/-!
# Recursion over trees

On a tree with sound links no way down is longer than the tree has statements. So the view of a
statement is that of its children below it, to any depth, and what holds of a statement as soon as
it holds of its children holds of every statement. A walk comes to each statement once, and to those
that the statement it starts from is above.
-/
namespace YangSchema

namespace StatementView

theorem preorderAll_eq_flatMap (row : List StatementView) :
    preorderAll row = row.flatMap preorder := by
  induction row with
  | nil => rfl
  | cons v row ih => rw [preorderAll, ih, List.flatMap_cons]

end StatementView

namespace StatementTree
open StatementView

variable {t : StatementTree} {s c d q x : Statement} {id i : StatementId} {m n k : Nat}
  {id? : Option StatementId} {e : TreeFault}

/-- No number among the children is passed over. -/
theorem Wired.ids_childStatements (h : t.Wired) (hs : t.get? id = some s) :
    (t.childStatements s).map (·.id) = s.children := by
  have hall : ∀ row : List StatementId, (∀ j ∈ row, j ∈ s.children) →
      (row.filterMap t.get?).map (·.id) = row := by
    intro row hrow
    induction row with
    | nil => rfl
    | cons j row ih =>
      rw [List.forall_mem_cons] at hrow
      obtain ⟨c, hc, -⟩ := h.exists_child hs hrow.1
      rw [List.filterMap_cons_some hc, List.map_cons, ih hrow.2, h.numbered hc]
  exact hall s.children fun _ hj => hj

theorem Wired.climb_child (h : t.Wired) (hs : t.get? s.id = some s) (hc : c ∈ t.childStatements s)
    (hup : t.links.climb k i = some c.id) : t.links.climb (k + 1) i = some s.id :=
  (h.climb_succ_iff hs).2 ⟨c, hc, hup⟩

/-- A statement of a tree from which every way down ends. -/
inductive Descends (t : StatementTree) : Statement → Prop
  | step {s : Statement} (hs : t.get? s.id = some s)
    (hc : ∀ c ∈ t.childStatements s, Descends t c) : Descends t s

/-- Every way down ends, since none is longer than the ways up. -/
theorem Wired.descends (h : t.Wired) (hs : t.get? s.id = some s) : t.Descends s := by
  have hdown : ∀ n s, t.get? s.id = some s → (∀ i, t.links.climb n i ≠ some s.id) →
      t.Descends s := by
    intro n
    induction n with
    | zero =>
      intro s _ hn
      exact absurd rfl (hn s.id)
    | succ n ih =>
      intro s hs hn
      apply Descends.step hs
      intro c hc
      apply ih c (h.numbered.get?_child hc)
      intro i hup
      exact hn i (h.climb_child hs hc hup)
  apply hdown (t.size + 1) s hs
  intro i
  simp [h.climb_size i]

/-- Nothing more is seen of a statement further down than there is something below it. -/
theorem Wired.viewTo_eq (h : t.Wired) (hs : t.get? s.id = some s)
    (hn : ∀ i, t.links.climb (n + 1) i ≠ some s.id) (hm : n ≤ m) :
    t.viewTo m s = t.viewTo n s := by
  induction n generalizing m s with
  | zero =>
    have hnone : t.childStatements s = [] := by
      rw [List.eq_nil_iff_forall_not_mem]
      intro c hc
      exact hn c.id (h.climb_child hs hc rfl)
    cases m with
    | zero => rfl
    | succ m => simp [viewTo, hnone]
  | succ n ih =>
    obtain ⟨m, rfl⟩ := Nat.exists_eq_add_of_le' (Nat.le_trans (Nat.succ_pos n) hm)
    rw [viewTo, viewTo]
    congr 1
    apply List.map_congr_left
    intro c hc
    apply ih (h.numbered.get?_child hc) _ (by omega)
    intro i hup
    exact hn i (h.climb_child hs hc hup)

/-- A statement is seen with its children, and each of these as it is seen by itself. -/
theorem Wired.view_eq (h : t.Wired) (hs : t.get? s.id = some s) :
    t.view s = .mk s ((t.childStatements s).map t.view) := by
  obtain ⟨n, hsize⟩ : ∃ n, t.size = n + 1 :=
    Nat.exists_eq_add_of_le' (Nat.zero_lt_of_lt (lt_size_of_get? hs))
  rw [view, hsize, viewTo]
  congr 1
  apply List.map_congr_left
  intro c hc
  have hn : ∀ i, t.links.climb (n + 1) i ≠ some c.id := by
    intro i hup
    have hnone := h.climb_size i
    rw [hsize, h.climb_child hs hc hup] at hnone
    cases hnone
  exact (h.viewTo_eq (h.numbered.get?_child hc) hn (by omega)).symm

theorem Wired.preorder_view (h : t.Wired) (hs : t.get? s.id = some s) :
    (t.view s).preorder = s :: (t.childStatements s).flatMap fun c => (t.view c).preorder := by
  rw [h.view_eq hs, preorder, preorderAll_eq_flatMap, List.flatMap_map]

/-- Everything that is walked through is a statement of the tree. -/
theorem Wired.get?_of_mem_preorder (h : t.Wired) (hs : t.get? s.id = some s)
    (hq : q ∈ (t.view s).preorder) : t.get? q.id = some q := by
  induction h.descends hs with
  | step hs _ ih =>
    rw [h.preorder_view hs, List.mem_cons, List.mem_flatMap] at hq
    rcases hq with rfl | ⟨c, hc, hq⟩
    · exact hs
    · exact ih c hc (h.numbered.get?_child hc) hq

/-- Of two statements above one, neither is above the other if both have the same parent. -/
theorem Wired.eq_of_siblings (h : t.Wired) (hs : t.get? s.id = some s)
    (hc : c ∈ t.childStatements s) (hd : d ∈ t.childStatements s)
    (hup : t.links.climb k i = some c.id) (hup' : t.links.climb (k + n) i = some d.id) :
    c.id = d.id := by
  rw [Links.climb_add, hup, Option.bind_some] at hup'
  cases n with
  | zero => exact Option.some.inj hup'
  | succ n =>
    have hparent := h.climb_child (k := 0) hs hc rfl
    have hcycle := h.climb_child hs hd hup'
    rw [Nat.add_comm, Links.climb_add, hparent, Option.bind_some] at hcycle
    exact absurd hcycle (h.sound.acyclic s.id n)

/-- No statement is walked through twice. -/
theorem Wired.nodup_below (h : t.Wired) (hs : t.get? s.id = some s) : (t.below s).Nodup := by
  induction h.descends hs with
  | @step s hs _ ih =>
    have hrow : t.below s = s.id :: (t.childStatements s).flatMap t.below := by
      rw [below, h.preorder_view hs, List.map_cons, List.map_flatMap]
      rfl
    rw [hrow, List.nodup_cons, List.nodup_flatMap]
    refine ⟨?_, fun c hc => ih c hc (h.numbered.get?_child hc), ?_⟩
    · intro hmem
      obtain ⟨c, hc, hbelow⟩ := List.mem_flatMap.1 hmem
      obtain ⟨k, hup⟩ := (h.mem_below (h.numbered.get?_child hc)).1 hbelow
      exact h.sound.acyclic s.id k (h.climb_child hs hc hup)
    · have hnodup := h.sound.nodup s.id
      rw [links_children hs, ← h.ids_childStatements hs, List.Nodup, List.pairwise_map] at hnodup
      apply hnodup.imp_of_mem
      intro c d hc hd hne i hci hdi
      obtain ⟨k, hk⟩ := (h.mem_below (h.numbered.get?_child hc)).1 hci
      obtain ⟨l, hl⟩ := (h.mem_below (h.numbered.get?_child hd)).1 hdi
      rcases Nat.le_total k l with hle | hle
      · obtain ⟨n, rfl⟩ := Nat.exists_eq_add_of_le hle
        exact hne (h.eq_of_siblings hs hc hd hk hl)
      · obtain ⟨n, rfl⟩ := Nat.exists_eq_add_of_le hle
        exact hne (h.eq_of_siblings hs hd hc hl hk).symm

theorem Wired.get?_of_mem_above (h : t.Wired) (hq : q ∈ t.above n s) : t.get? q.id = some q := by
  induction n generalizing s with
  | zero => simp [above] at hq
  | succ n ih =>
    rw [above] at hq
    split at hq
    · next p hp =>
      obtain ⟨j, -, hget⟩ := Option.bind_eq_some_iff.1 hp
      rcases List.mem_cons.1 hq with rfl | hq
      · rwa [h.numbered hget]
      · exact ih hq
    · simp at hq

/-- A statement is walked through from another exactly if it is this one or has it above. -/
theorem Wired.mem_preorder_iff (h : t.Wired) (hs : t.get? s.id = some s)
    (hx : t.get? x.id = some x) : x ∈ (t.view s).preorder ↔ x = s ∨ s ∈ t.ancestorsOf x := by
  have hmem : x ∈ (t.view s).preorder ↔ x.id ∈ t.below s := by
    constructor
    · exact List.mem_map_of_mem
    · intro hid
      obtain ⟨q, hq, heq⟩ := List.mem_map.1 hid
      have hget := h.get?_of_mem_preorder hs hq
      rw [heq, hx] at hget
      rwa [Option.some.inj hget]
  rw [hmem, h.mem_below hs]
  constructor
  · rintro ⟨k, hup⟩
    cases k with
    | zero =>
      rw [← Option.some.inj hup, hx] at hs
      exact .inl (Option.some.inj hs)
    | succ k =>
      obtain ⟨a, ha, heq⟩ := h.mem_ancestorsOf hx hup
      have hget := h.get?_of_mem_above ha
      rw [heq, hs] at hget
      exact .inr (Option.some.inj hget ▸ ha)
  · rintro (rfl | hup)
    · exact ⟨0, rfl⟩
    · obtain ⟨k, hk⟩ := h.climb_of_mem_above hx hup
      exact ⟨k + 1, hk⟩

/-- The number that a traversal sets out from. One that is given is not looked up yet. -/
def startId (t : StatementTree) (id? : Option StatementId) : Except TreeFault StatementId :=
  match id? with
  | some id => .ok id
  | none => t.rootStatement.map (·.id)

theorem startId_of_start (h : t.Numbered) (hs : t.start id? = .ok s) :
    t.startId id? = .ok s.id ∧ t.get? s.id = some s := by
  cases id? with
  | some id =>
    have hget := get_eq_ok.1 hs
    obtain rfl := h hget
    exact ⟨rfl, hget⟩
  | none =>
    have hroot : t.rootStatement = .ok s := hs
    refine ⟨by rw [startId, hroot]; rfl, ?_⟩
    unfold rootStatement at hroot
    split at hroot
    · have hget := get_eq_ok.1 hroot
      rwa [h hget]
    · cases hroot
    · cases hroot

theorem startId_of_error (hs : t.start id? = .error e) :
    t.startId id? = .error e ∨ ∃ id, t.startId id? = .ok id ∧ t.get id = .error e := by
  cases id? with
  | some id => exact .inr ⟨id, rfl, hs⟩
  | none =>
    have hroot : t.rootStatement = .error e := hs
    exact .inl (by rw [startId, hroot]; rfl)

/-- A loop that sets out from a number, and looks the statement up in its first turn. -/
theorem Wired.gives_start (h : t.Wired) {σ α : Type} {l : Loop TreeFault σ α}
    {first : StatementId → σ} {f : Statement → α} (hstart : l.start = (t.startId id?).map first)
    (hok : ∀ s, t.get? s.id = some s → l.Ends (first s.id) (.ok (f s)))
    (herror : ∀ id e, t.get id = .error e → l.Ends (first id) (.error e)) :
    l.Gives ((t.start id?).map f) := by
  cases hs : t.start id? with
  | ok s =>
    obtain ⟨hid, hget⟩ := startId_of_start h.numbered hs
    exact .ran (by rw [hstart, hid]; rfl) (hok s hget)
  | error e =>
    rcases startId_of_error hs with hid | ⟨id, hid, hget⟩
    · exact .refused (by rw [hstart, hid]; rfl)
    · exact .ran (by rw [hstart, hid]; rfl) (herror id e hget)

end StatementTree
end YangSchema
