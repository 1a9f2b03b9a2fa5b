import Mathlib.Data.List.InsertIdx
import YangSchema.Proofs.Statement.Reachable

/-!
# Edits that undo one another

A child that is taken out, by its index or as what it is, and put back where it was leaves the tree
as it was. To put another statement in the place of a child is to take the child out and to put the
other in. A child stands once among the children of its parent, and no statement is below itself, so
what is taken out is free to be put back, and what was free to be put in still is.
-/
namespace YangSchema
namespace StatementTree

variable {t t' : StatementTree} {s q : Statement} {p x c : StatementId} {i n : Nat}
  {index : Int}

theorem ext_get? (hroot : t.root = t'.root) (h : ∀ j, t.get? j = t'.get? j) : t = t' := by
  have hstatements : t.statements = t'.statements := Array.ext_getElem? h
  cases t
  cases t'
  simp_all

/-- The tree without the child at a place of a statement, which has become detached. -/
def without (t : StatementTree) (p : StatementId) (q : Statement) (i : Nat) (x : StatementId) :
    StatementTree :=
  (t.setChildren p (q.children.eraseIdx i)).setParent x none

theorem insertChild_place (hp : t.get? p = some q) (hc : t.insertable q c = .ok s)
    (hword : Index.isWord index) (hi : Index.insertPlace q.children.length index = i) :
    t.insertChild p index c =
      .ok ((t.setChildren p (q.children.insertIdx i c)).setParent c (some p)) := by
  rw [StatementTree.insertChild, get_eq_ok.2 hp]
  simp [bind, Except.bind, hc, hword, hi]
  rfl

theorem removeChild_place (hp : t.get? p = some q) (hx : q.children[i]? = some x)
    (hword : Index.isWord index) (hi : Index.place? q.children.length index = some i) :
    t.removeChild p index = .ok (t.without p q i x, x) := by
  rw [StatementTree.removeChild, get_eq_ok.2 hp]
  simp [bind, Except.bind, hword, hi, hx]
  rfl

theorem replaceChild_place (hp : t.get? p = some q) (hc : t.insertable q c = .ok s)
    (hx : q.children[i]? = some x) (hi : Index.place q.children.length index = .ok i) :
    t.replaceChild p index c =
      .ok (((t.setParent x none).setChildren p (q.children.set i c)).setParent c (some p), x) := by
  rw [StatementTree.replaceChild, get_eq_ok.2 hp]
  simp [bind, Except.bind, hc, hi, hx]
  rfl

theorem removeChild_not_isWord (hp : t.get? p = some q) (hword : ¬ Index.isWord index) :
    t.removeChild p index = .error .indexTooLarge := by
  rw [StatementTree.removeChild, get_eq_ok.2 hp]
  simp [bind, Except.bind, hword]
  rfl

theorem replaceChild_not_isWord (hp : t.get? p = some q) (hc : t.insertable q c = .ok s)
    (hword : ¬ Index.isWord index) :
    t.replaceChild p index c = .error (.replacement .tooLarge) := by
  rw [StatementTree.replaceChild, get_eq_ok.2 hp]
  simp [bind, Except.bind, hc, Index.place, hword]
  rfl

theorem get?_without (j : StatementId) :
    (t.without p q i x).get? j =
      let s? := if p = j then (t.get? j).map fun s => { s with children := q.children.eraseIdx i }
        else t.get? j
      if x = j then s?.map fun s => { s with parent := none } else s? := by
  rw [without, setParent, get?_modify, setChildren, get?_modify]

theorem Wired.parent_child (h : t.Wired) (hp : t.get? p = some q) (hx : q.children[i]? = some x) :
    t.links.parent x = some p := by
  rw [h.sound.parent_iff, links_children hp]
  exact List.mem_of_getElem? hx

theorem Wired.child_ne (h : t.Wired) (hp : t.get? p = some q) (hx : q.children[i]? = some x) :
    x ≠ p := by
  rintro rfl
  apply h.sound.acyclic x 0
  simp [Links.climb, h.parent_child hp hx]

theorem Wired.get?_without_parent (h : t.Wired) (hp : t.get? p = some q)
    (hx : q.children[i]? = some x) :
    (t.without p q i x).get? p = some { q with children := q.children.eraseIdx i } := by
  simp [get?_without, hp, h.child_ne hp hx]

theorem Wired.without (h : t.Wired) (hp : t.get? p = some q) (hx : q.children[i]? = some x) :
    (t.without p q i x).Wired := by
  have hparent := h.parent_child hp hx
  apply h.setParent_setChildren (lt_size_of_get? hp) (lt_size_of_parent hparent)
  apply h.sound.release hparent
  obtain ⟨hi, rfl⟩ := List.getElem?_eq_some_iff.1 hx
  rw [links_children hp]
  exact (List.getElem_cons_eraseIdx_perm hi).symm

theorem Wired.links_without (h : t.Wired) (hp : t.get? p = some q)
    (hx : q.children[i]? = some x) :
    (t.without p q i x).links =
      (t.links.setChildren p (q.children.eraseIdx i)).setParent x none := by
  have hlt := lt_size_of_parent (h.parent_child hp hx)
  rw [StatementTree.without, links_setParent (by simpa using hlt),
    links_setChildren (lt_size_of_get? hp)]

/-- What was not above a statement can be put below it when one of its children was taken out. -/
theorem Wired.insertable_without (h : t.Wired) (hp : t.get? p = some q)
    (hx : q.children[i]? = some x) (hc : (t.without p q i x).get? c = some s)
    (hnone : s.parent = none) (hup : ∀ k, t.links.climb k p ≠ some c) :
    (t.without p q i x).insertable { q with children := q.children.eraseIdx i } c = .ok s := by
  have hp' := h.get?_without_parent hp hx
  obtain rfl := h.numbered hp
  have hwired := h.without hp hx
  rw [hwired.insertable_iff hp' hc]
  refine ⟨hnone, fun hmem => ?_⟩
  obtain rfl := hwired.numbered hc
  obtain ⟨k, hk⟩ := (hwired.mem_below hc).1 hmem
  apply hup k
  apply Links.climb_mono _ hk
  intro j r hj
  rw [h.links_without hp hx, Links.parent_setParent] at hj
  split at hj
  · cases hj
  · exact hj

/-- To put a statement where a child was taken out is to put it in its place. -/
theorem Wired.set_without (h : t.Wired) (hp : t.get? p = some q) (hx : q.children[i]? = some x)
    (c : StatementId) :
    ((t.without p q i x).setChildren p ((q.children.eraseIdx i).insertIdx i c)).setParent c
        (some p) =
      ((t.setParent x none).setChildren p (q.children.set i c)).setParent c (some p) := by
  have hi : i < q.children.length := (List.getElem?_eq_some_iff.1 hx).1
  rw [List.insertIdx_eraseIdx_self hi.ne]
  refine ext_get? rfl fun j => ?_
  simp only [setParent, setChildren, get?_modify, get?_without]
  by_cases hj : p = j
  · subst hj
    simp [hp, h.child_ne hp hx]
  · by_cases hx : x = j <;> simp [hj, hx]

/-- What is put in its own place leaves the tree as it was. -/
theorem Wired.restore (h : t.Wired) (hp : t.get? p = some q) (hx : q.children[i]? = some x) :
    ((t.setParent x none).setChildren p (q.children.set i x)).setParent x (some p) = t := by
  obtain ⟨s, hs, hparent⟩ := exists_of_parent (h.parent_child hp hx)
  obtain ⟨hi, hget⟩ := List.getElem?_eq_some_iff.1 hx
  rw [← hget, List.set_getElem_self]
  refine ext_get? rfl fun j => ?_
  simp only [setParent, setChildren, get?_modify, hget]
  by_cases hj : p = j
  · subst hj
    simp [hp, h.child_ne hp hx]
  · by_cases hxj : x = j
    · subst hxj
      simp [hs, hj, ← hparent]
    · simp [hj, hxj]

structure Exchangeable (t : StatementTree) (p : StatementId) (q : Statement) (i : Nat)
    (x : StatementId) : Prop where
  undone : ∃ t', t.detach x = .ok t' ∧ t.removeChild p i = .ok (t', x) ∧
    t'.insertChild p i x = .ok t
  replaced : ∀ c s, t.get? c = some s → s.parent = none → c ≠ p →
    (∀ a ∈ t.ancestorsOf q, a.id ≠ c) →
      ∃ t₁ t₂, t.removeChild p i = .ok (t₁, x) ∧ t₁.insertChild p i c = .ok t₂ ∧
        t.replaceChild p i c = .ok (t₂, x)

/-- A child is found where it stands, since it stands nowhere else. -/
theorem Wired.detach_place (h : t.Wired) (hp : t.get? p = some q) (hx : q.children[i]? = some x) :
    t.detach x = (t.removeChild p i).map Prod.fst := by
  obtain ⟨s, hs, hparent⟩ := exists_of_parent (h.parent_child hp hx)
  obtain ⟨hi, hget⟩ := List.getElem?_eq_some_iff.1 hx
  have hnodup := h.sound.nodup p
  rw [links_children hp] at hnodup
  have hplace : q.children.idxOf x = i := hget ▸ hnodup.idxOf_getElem i hi
  rw [StatementTree.detach, get_eq_ok.2 hs]
  simp only [bind, Except.bind, hparent, get_eq_ok.2 hp, hplace]
  cases t.removeChild p i <;> rfl

/-- What has no parent and is not above can be put where a child was taken out. -/
theorem Wired.insertChild_without (h : t.Wired) (hp : t.get? p = some q)
    (hx : q.children[i]? = some x) (hword : Index.isWord i)
    (hc : (t.without p q i x).get? c = some s) (hnone : s.parent = none)
    (hup : ∀ k, t.links.climb k p ≠ some c) :
    (t.without p q i x).insertChild p i c =
      .ok (((t.setParent x none).setChildren p (q.children.set i c)).setParent c (some p)) := by
  have hi : i < q.children.length := (List.getElem?_eq_some_iff.1 hx).1
  have hplace : Index.insertPlace (q.children.eraseIdx i).length i = i := by
    apply insertPlace_natCast
    rw [List.length_eraseIdx_of_lt hi]
    omega
  have hfree := h.insertable_without hp hx hc hnone hup
  rw [insertChild_place (h.get?_without_parent hp hx) hfree hword hplace]
  exact congrArg Except.ok (h.set_without hp hx c)

theorem Wired.exchangeable (h : t.Wired) (hp : t.get? p = some q) (hx : q.children[i]? = some x)
    (hword : Index.isWord i) : t.Exchangeable p q i x := by
  obtain rfl := h.numbered hp
  have hi : i < q.children.length := (List.getElem?_eq_some_iff.1 hx).1
  have hparent := h.parent_child hp hx
  have hne := h.child_ne hp hx
  have hremove := removeChild_place hp hx hword (place?_natCast hi)
  constructor
  · refine ⟨t.without q.id q i x, ?_, hremove, ?_⟩
    · rw [h.detach_place hp hx, hremove]
      rfl
    · obtain ⟨s, hs, -⟩ := exists_of_parent hparent
      have hx' : (t.without q.id q i x).get? x = some { s with parent := none } := by
        simp [get?_without, hs, hne.symm]
      have hup : ∀ k, t.links.climb k q.id ≠ some x := by
        intro k hk
        apply h.sound.acyclic x k
        rw [Links.climb, hparent, Option.bind_some, hk]
      rw [h.insertChild_without hp hx hword hx' rfl hup, h.restore hp hx]
  · intro c s hc hnone hcq hnot
    have hcx : x ≠ c := by
      rintro rfl
      rw [links_parent hc, hnone] at hparent
      cases hparent
    have hins := insertable_of_not_above hc hnone hcq hnot
    have hc' : (t.without q.id q i x).get? c = some s := by
      simp [get?_without, hc, hcx, hcq.symm]
    have hplace : Index.place q.children.length i = .ok i := by
      simp [Index.place, hword, place?_natCast hi]
    exact ⟨_, _, hremove,
      h.insertChild_without hp hx hword hc' hnone (h.climb_ne_of_insertable hp hins),
      replaceChild_place hp hins hx hplace⟩

/-- A child beyond the words is not reached by its index, and nothing is done with it. -/
structure BeyondWords (t : StatementTree) (p : StatementId) (q : Statement) (i : Nat)
    (x : StatementId) : Prop where
  index : Nat.pow 2 63 ≤ i
  detach : t.detach x = .error .indexTooLarge
  remove : t.removeChild p i = .error .indexTooLarge
  replace : ∀ c s, t.insertable q c = .ok s →
    t.replaceChild p i c = .error (.replacement .tooLarge)

theorem Wired.beyondWords (h : t.Wired) (hp : t.get? p = some q) (hx : q.children[i]? = some x)
    (hword : ¬ Index.isWord i) : t.BeyondWords p q i x := by
  have hremove := removeChild_not_isWord hp hword
  refine ⟨?_, ?_, hremove, fun c s hc => replaceChild_not_isWord hp hc hword⟩
  · rwa [isWord_natCast, Nat.not_lt] at hword
  · rw [h.detach_place hp hx, hremove]
    rfl

/-- A statement with a parent stands at one place among the children of this. From there it can be
taken out and put back, which leaves the tree as it was, and to put another in its place is to take
it out and to put the other in. Only a child beyond the words is not reached. -/
theorem Reachable.edits_undone (h : Reachable t) :
    (∀ x s p, t.get? x = some s → s.parent = some p →
        ∃ (q : Statement) (i : Nat), t.get? p = some q ∧ q.children[i]? = some x) ∧
      ∀ p q i x, t.get? p = some q → q.children[i]? = some x →
        (∀ j, q.children[j]? = some x → j = i) ∧
          (t.Exchangeable p q i x ∨ t.BeyondWords p q i x) := by
  constructor
  · intro x s p hs hparent
    obtain ⟨q, hq, hmem⟩ := h.wired.exists_parent (by rw [links_parent hs, hparent])
    obtain ⟨i, hi⟩ := List.mem_iff_getElem?.1 hmem
    exact ⟨q, i, hq, hi⟩
  · intro p q i x hp hx
    constructor
    · intro j hj
      have hnodup := h.wired.sound.nodup p
      rw [links_children hp] at hnodup
      have hlt : i < q.children.length := (List.getElem?_eq_some_iff.1 hx).1
      exact ((List.getElem?_inj hlt hnodup).1 (hx.trans hj.symm)).symm
    · by_cases hword : Index.isWord i
      · exact .inl (h.wired.exchangeable hp hx hword)
      · exact .inr (h.wired.beyondWords hp hx hword)

def parentAndSpare : StatementTree where
  statements := #[
    { id := 0, name := "a", position := ⟨1, 1⟩, children := [1] },
    { id := 1, name := "b", position := ⟨1, 1⟩, parent := some 0 },
    { id := 2, name := "c", position := ⟨1, 1⟩ }]

theorem reachable_parentAndSpare : Reachable parentAndSpare :=
  .performed (c := .insertChild 0 0 1)
    (.performed (c := .add "c" ⟨1, 1⟩ none none) reachable_unlinkedPair rfl) rfl

theorem parentAndSpare_undone :
    Reachable parentAndSpare ∧
      (∃ t', parentAndSpare.detach 1 = .ok t' ∧ parentAndSpare.removeChild 0 0 = .ok (t', 1) ∧
        t'.insertChild 0 0 1 = .ok parentAndSpare) ∧
      ∃ t₁ t₂, parentAndSpare.removeChild 0 0 = .ok (t₁, 1) ∧ t₁.insertChild 0 0 2 = .ok t₂ ∧
        parentAndSpare.replaceChild 0 0 2 = .ok (t₂, 1) := by
  refine ⟨reachable_parentAndSpare, ?_⟩
  rcases (reachable_parentAndSpare.edits_undone.2 0 _ 0 1 rfl rfl).2 with h | h
  · exact ⟨h.undone, h.replaced 2 _ rfl rfl (by decide) (by decide)⟩
  · exact absurd h.index (by decide)

end StatementTree
end YangSchema
