import YangSchema.Proofs.Statement.Linked
import YangSchema.Statement.View

/-!
# Below and above

A statement is among those that are walked through from another exactly if following the parents
from it leads to the other. So what the check before an insertion finds by looking upwards is what a
walk finds by looking downwards.
-/
namespace YangSchema

namespace StatementView

theorem mem_preorderAll {s : Statement} {row : List StatementView} :
    s ∈ preorderAll row ↔ ∃ v ∈ row, s ∈ v.preorder := by
  induction row with
  | nil => simp [preorderAll]
  | cons v row ih => simp [preorderAll, ih]

end StatementView

namespace StatementTree
open StatementView

variable {t : StatementTree} {s p a : Statement} {id i parent child : StatementId} {n k : Nat}

def below (t : StatementTree) (s : Statement) : List StatementId :=
  (t.view s).preorder.map (·.id)

theorem walk_some (hs : t.get? id = some s) : t.walk (some id) = .ok (t.view s).preorder := by
  rw [walk, start, get_eq_ok.2 hs]
  rfl

theorem Wired.climb_succ_iff (h : t.Wired) (hs : t.get? s.id = some s) :
    t.links.climb (k + 1) i = some s.id ↔
      ∃ c ∈ t.childStatements s, t.links.climb k i = some c.id := by
  rw [Links.climb_add, Option.bind_eq_some_iff]
  constructor
  · rintro ⟨c, hc, hup⟩
    have hparent : t.links.parent c = some s.id := by simpa [Links.climb] using hup
    have hmem := (h.sound.parent_iff c s.id).1 hparent
    rw [links_children hs] at hmem
    obtain ⟨q, hq, -⟩ := exists_of_parent hparent
    refine ⟨q, List.mem_filterMap.2 ⟨c, hmem, hq⟩, ?_⟩
    rw [hc, h.numbered hq]
  · rintro ⟨c, hc, hup⟩
    obtain ⟨j, hj, hget⟩ := List.mem_filterMap.1 hc
    obtain rfl := h.numbered hget
    refine ⟨c.id, hup, ?_⟩
    have hparent : t.links.parent c.id = some s.id := by
      rw [h.sound.parent_iff, links_children hs]
      exact hj
    simp [Links.climb, hparent]

theorem Wired.mem_viewTo (h : t.Wired) (hs : t.get? s.id = some s) :
    i ∈ (t.viewTo n s).preorder.map (·.id) ↔ ∃ k ≤ n, t.links.climb k i = some s.id := by
  induction n generalizing s with
  | zero => simp [viewTo, preorder, preorderAll, Links.climb]
  | succ n ih =>
    have hlower : i ∈ (preorderAll ((t.childStatements s).map (t.viewTo n))).map (·.id) ↔
        ∃ c ∈ t.childStatements s, i ∈ (t.viewTo n c).preorder.map (·.id) := by
      simp only [List.mem_map, mem_preorderAll, exists_exists_and_eq_and]
      grind
    rw [viewTo, preorder, List.map_cons, List.mem_cons, hlower]
    constructor
    · rintro (rfl | ⟨c, hc, hi⟩)
      · exact ⟨0, Nat.zero_le _, rfl⟩
      · obtain ⟨k, hk, hup⟩ := (ih (h.numbered.get?_child hc)).1 hi
        exact ⟨k + 1, Nat.succ_le_succ hk, (h.climb_succ_iff hs).2 ⟨c, hc, hup⟩⟩
    · rintro ⟨k, hk, hup⟩
      cases k with
      | zero => exact .inl (Option.some.inj hup)
      | succ k =>
        obtain ⟨c, hc, hup⟩ := (h.climb_succ_iff hs).1 hup
        exact .inr ⟨c, hc, (ih (h.numbered.get?_child hc)).2 ⟨k, Nat.le_of_succ_le_succ hk, hup⟩⟩

/-- A walk goes through a statement exactly if some way up from this leads to where it starts. -/
theorem Wired.mem_below (h : t.Wired) (hs : t.get? s.id = some s) :
    i ∈ t.below s ↔ ∃ k, t.links.climb k i = some s.id := by
  rw [below, view, h.mem_viewTo hs]
  constructor
  · rintro ⟨k, -, hup⟩
    exact ⟨k, hup⟩
  · rintro ⟨k, hup⟩
    exact ⟨k, h.sound.climb_le (fun _ _ => lt_size_of_parent) hup, hup⟩

theorem Wired.climb_of_mem_above (h : t.Wired) (hs : t.get? s.id = some s) (ha : a ∈ t.above n s) :
    ∃ k, t.links.climb (k + 1) s.id = some a.id := by
  induction n generalizing s with
  | zero => simp [above] at ha
  | succ n ih =>
    rw [above] at ha
    split at ha
    · next p hp =>
      obtain ⟨j, hj, hget⟩ := Option.bind_eq_some_iff.1 hp
      obtain rfl := h.numbered hget
      have hparent : t.links.parent s.id = some p.id := by rw [links_parent hs, hj]
      obtain rfl | ha := List.mem_cons.1 ha
      · exact ⟨0, by simp [Links.climb, hparent]⟩
      · obtain ⟨k, hk⟩ := ih hget ha
        exact ⟨k + 1, by rw [Links.climb, hparent, Option.bind_some, hk]⟩
    · simp at ha

theorem insertable_of_not_above (hs : t.get? id = some s) (hnone : s.parent = none)
    (hne : id ≠ p.id) (hnot : ∀ a ∈ t.ancestorsOf p, a.id ≠ id) : t.insertable p id = .ok s := by
  have hany : (t.ancestorsOf p).any (·.id = id) = false := by simpa using hnot
  rw [insertable, get_eq_ok.2 hs]
  simp [bind, Except.bind, hnone, hne, hany]
  rfl

/-- A statement can be put below another if it has no parent, and a walk from it does not go through
the other. -/
theorem Wired.insertable_iff (h : t.Wired) (hp : t.get? p.id = some p) (hs : t.get? id = some s) :
    t.insertable p id = .ok s ↔ s.parent = none ∧ p.id ∉ t.below s := by
  obtain rfl := h.numbered hs
  rw [h.mem_below hs, not_exists]
  constructor
  · intro hi
    exact ⟨(insertable_eq_ok hi).2.1, h.climb_ne_of_insertable hp hi⟩
  · rintro ⟨hnone, hup⟩
    apply insertable_of_not_above hs hnone
    · exact fun he => hup 0 (by rw [Links.climb, he])
    · rintro a ha he
      obtain ⟨k, hk⟩ := h.climb_of_mem_above hp ha
      exact hup (k + 1) (by rw [hk, he])

theorem Wired.insertChild_ok_iff (h : t.Wired) {index : Int} :
    (∃ t', t.insertChild parent index child = .ok t') ↔
      t.contains parent ∧ (∃ s, t.get? child = some s ∧ s.parent = none ∧ parent ∉ t.below s) ∧
        Index.isWord index := by
  constructor
  · rintro ⟨t', hok⟩
    obtain ⟨p, hp, hok⟩ := except_bind_eq_ok.1 hok
    obtain ⟨s, hs, hok⟩ := except_bind_eq_ok.1 hok
    rw [get_eq_ok] at hp
    obtain rfl := h.numbered hp
    have hget := (insertable_eq_ok hs).1
    refine ⟨decide_eq_true (lt_size_of_get? hp),
      ⟨s, hget, (h.insertable_iff hp hget).1 hs⟩, ?_⟩
    by_contra hindex
    rw [Bool.not_eq_true] at hindex
    simp only [hindex] at hok
    cases hok
  · rintro ⟨hparent, ⟨s, hs, hfree⟩, hindex⟩
    obtain ⟨p, hp⟩ : ∃ p, t.get? parent = some p :=
      ⟨_, Array.getElem?_eq_getElem (of_decide_eq_true hparent)⟩
    obtain rfl := h.numbered hp
    have hchecked := (h.insertable_iff hp hs).2 hfree
    rw [StatementTree.insertChild, get_eq_ok.2 hp]
    simp only [bind, Except.bind, hchecked, hindex, if_true]
    exact ⟨_, rfl⟩

end StatementTree
end YangSchema
