import Mathlib.Data.Fintype.Card
import Mathlib.Data.List.Basic
import YangSchema.Statement.Tree

/-!
# Links between statements

A statement names its parent, and this its children. Whatever is done to a tree, the two directions
agree, and following the parents from a statement ends. The check that a statement is not put below
itself looks at all statements above, though it looks for no more than the tree has.
-/
namespace YangSchema

@[ext]
structure Links where
  parent : StatementId → Option StatementId
  children : StatementId → List StatementId

namespace Links

def climb (l : Links) : Nat → StatementId → Option StatementId
  | 0, id => some id
  | n + 1, id => (l.parent id).bind (l.climb n)

/-- Both directions agree, and there is no way up from a statement to itself. -/
structure Sound (l : Links) : Prop where
  parent_iff : ∀ id p, l.parent id = some p ↔ id ∈ l.children p
  nodup : ∀ p, (l.children p).Nodup
  acyclic : ∀ id n, l.climb (n + 1) id ≠ some id

def setParent (l : Links) (id : StatementId) (parent : Option StatementId) : Links :=
  { l with parent := Function.update l.parent id parent }

def setChildren (l : Links) (id : StatementId) (children : List StatementId) : Links :=
  { l with children := Function.update l.children id children }

variable {l l' : Links} {c p id : StatementId} {cs : List StatementId} {n : Nat}

theorem parent_setParent (l : Links) (id i : StatementId) (p : Option StatementId) :
    (l.setParent id p).parent i = if i = id then p else l.parent i :=
  Function.update_apply ..

theorem children_setChildren (l : Links) (id i : StatementId) (cs : List StatementId) :
    (l.setChildren id cs).children i = if i = id then cs else l.children i :=
  Function.update_apply ..

@[simp]
theorem children_setParent (l : Links) (id : StatementId) (p : Option StatementId) :
    (l.setParent id p).children = l.children := rfl

@[simp]
theorem parent_setChildren (l : Links) (id : StatementId) (cs : List StatementId) :
    (l.setChildren id cs).parent = l.parent := rfl

theorem climb_add (m n : Nat) (id : StatementId) :
    l.climb (m + n) id = (l.climb m id).bind (l.climb n) := by
  induction m generalizing id with
  | zero => simp [climb]
  | succ m ih =>
    rw [Nat.add_right_comm, climb, climb, Option.bind_assoc]
    congr 1
    funext q
    exact ih q

theorem climb_children (l : Links) (id : StatementId) (cs : List StatementId) (n : Nat) :
    (l.setChildren id cs).climb n = l.climb n := by
  induction n with
  | zero => rfl
  | succ n ih =>
    funext i
    rw [climb, climb, ih]
    rfl

/-- With fewer links there are fewer ways up. -/
theorem climb_mono (h : ∀ id q, l'.parent id = some q → l.parent id = some q) {q : StatementId}
    (hc : l'.climb n id = some q) : l.climb n id = some q := by
  induction n generalizing id with
  | zero => exact hc
  | succ n ih =>
    obtain ⟨r, hr, hq⟩ := Option.bind_eq_some_iff.1 hc
    rw [climb, h id r hr, Option.bind_some]
    exact ih hq

/-- A way up that a new link opens goes through it. -/
theorem climb_setParent {q : StatementId} (h : (l.setParent c (some p)).climb n id = some q) :
    l.climb n id = some q ∨ ∃ a b, l.climb a id = some c ∧ l.climb b p = some q := by
  induction n generalizing id with
  | zero => exact .inl h
  | succ n ih =>
    rw [climb, parent_setParent] at h
    split at h
    · next hid =>
      subst hid
      obtain hq | ⟨a, b, -, hq⟩ := ih h
      · exact .inr ⟨0, n, rfl, hq⟩
      · exact .inr ⟨0, b, rfl, hq⟩
    · obtain ⟨r, hr, hq⟩ := Option.bind_eq_some_iff.1 h
      obtain hq | ⟨a, b, ha, hb⟩ := ih hq
      · exact .inl (by rw [climb, hr, Option.bind_some, hq])
      · exact .inr ⟨a + 1, b, by rw [climb, hr, Option.bind_some, ha], hb⟩

/-- A way up has no more links than there are statements with a parent. -/
theorem Sound.climb_le (h : l.Sound) {size : Nat} (hsize : ∀ i q, l.parent i = some q → i < size)
    {k : Nat} {q : StatementId} (hk : l.climb k id = some q) : k ≤ size := by
  have hsource : ∀ i : Fin k, ∃ z : Fin size, l.climb i id = some z.val := by
    intro i
    have hsplit : l.climb (i + (k - i)) id = some q := by rwa [Nat.add_sub_cancel' i.isLt.le]
    rw [climb_add] at hsplit
    obtain ⟨z, hz, hup⟩ := Option.bind_eq_some_iff.1 hsplit
    obtain ⟨m, hm⟩ := Nat.exists_eq_add_one_of_ne_zero (Nat.sub_ne_zero_of_lt i.isLt)
    rw [hm] at hup
    obtain ⟨r, hr, -⟩ := Option.bind_eq_some_iff.1 hup
    exact ⟨⟨z, hsize z r hr⟩, hz⟩
  choose f hf using hsource
  have hlt : ∀ i j : Fin k, i < j → f i ≠ f j := by
    intro i j hij he
    have hloop : l.climb (i + (j - i)) id = some (f i).val := by
      rw [Nat.add_sub_cancel' (Fin.le_def.1 hij.le), he]
      exact hf j
    rw [climb_add, hf i, Option.bind_some] at hloop
    obtain ⟨m, hm⟩ := Nat.exists_eq_add_one_of_ne_zero (Nat.sub_ne_zero_of_lt (Fin.lt_def.1 hij))
    rw [hm] at hloop
    exact h.acyclic _ m hloop
  have hinjective : Function.Injective f := by
    intro i j he
    obtain hij | rfl | hij := lt_trichotomy i j
    · exact absurd he (hlt i j hij)
    · rfl
    · exact absurd he.symm (hlt j i hij)
  simpa using Fintype.card_le_of_injective f hinjective

/-- A statement without a parent is put below one that it is not above. -/
theorem Sound.attach (h : l.Sound) (hc : l.parent c = none) (hup : ∀ n, l.climb n p ≠ some c)
    (hcs : cs.Perm (c :: l.children p)) : ((l.setChildren p cs).setParent c (some p)).Sound where
  parent_iff i q := by
    have hnot : ∀ q, c ∉ l.children q := by
      intro q hq
      rw [(h.parent_iff c q).2 hq] at hc
      cases hc
    have hmem := h.parent_iff i q
    have hperm : i ∈ cs ↔ i = c ∨ i ∈ l.children p := by rw [hcs.mem_iff, List.mem_cons]
    rw [parent_setParent, children_setParent, children_setChildren, parent_setChildren]
    by_cases hi : i = c <;> by_cases hq : q = p <;> grind
  nodup q := by
    rw [children_setParent, children_setChildren]
    split
    · refine (hcs.nodup_iff).2 (List.nodup_cons.2 ⟨fun hm => ?_, h.nodup p⟩)
      rw [(h.parent_iff c p).2 hm] at hc
      cases hc
    · exact h.nodup q
  acyclic i n := by
    intro hcycle
    obtain hcycle | ⟨a, b, ha, hb⟩ := climb_setParent hcycle
    · rw [climb_children] at hcycle
      exact h.acyclic i n hcycle
    · rw [climb_children] at ha hb
      refine hup (b + a) ?_
      rw [climb_add, hb, Option.bind_some, ha]

/-- A statement is taken from its parent. -/
theorem Sound.release (h : l.Sound) (hc : l.parent c = some p)
    (hcs : (l.children p).Perm (c :: cs)) : ((l.setChildren p cs).setParent c none).Sound where
  parent_iff i q := by
    have hnodup : c ∉ cs := (List.nodup_cons.1 (hcs.nodup_iff.1 (h.nodup p))).1
    have hmem := h.parent_iff i q
    have hperm : i ∈ l.children p ↔ i = c ∨ i ∈ cs := by rw [hcs.mem_iff, List.mem_cons]
    rw [parent_setParent, children_setParent, children_setChildren, parent_setChildren]
    by_cases hi : i = c <;> by_cases hq : q = p <;> grind
  nodup q := by
    rw [children_setParent, children_setChildren]
    split
    · exact (List.nodup_cons.1 (hcs.nodup_iff.1 (h.nodup p))).2
    · exact h.nodup q
  acyclic i n := by
    refine fun hcycle => h.acyclic i n (climb_mono (fun j q hj => ?_) hcycle)
    rw [parent_setParent] at hj
    split at hj
    · cases hj
    · exact hj

/-- A statement takes the place of another. -/
theorem Sound.replace (h : l.Sound) {old : StatementId} {rest : List StatementId}
    (ho : l.parent old = some p) (hc : l.parent c = none) (hup : ∀ n, l.climb n p ≠ some c)
    (hrest : (l.children p).Perm (old :: rest)) (hcs : cs.Perm (c :: rest)) :
    (((l.setParent old none).setChildren p cs).setParent c (some p)).Sound := by
  let released := (l.setChildren p rest).setParent old none
  have hparent {i q : StatementId} (hi : released.parent i = some q) : l.parent i = some q := by
    rw [parent_setParent] at hi
    split at hi
    · cases hi
    · exact hi
  have hnone : released.parent c = none := by
    rw [parent_setParent]
    split
    · rfl
    · exact hc
  have hrelease : cs.Perm (c :: released.children p) := by
    rwa [children_setParent, children_setChildren, if_pos rfl]
  have hattached := (h.release ho hrest).attach hnone
    (fun n hn => hup n (climb_mono (fun _ _ => hparent) hn)) hrelease
  rwa [setChildren, children_setParent, setChildren, Function.update_idem] at hattached

theorem parent_foldl (l : Links) (cs : List StatementId) (i : StatementId) :
    (cs.foldl (fun l c => l.setParent c none) l).parent i =
      if i ∈ cs then none else l.parent i := by
  induction cs generalizing l with
  | nil => simp
  | cons c cs ih =>
    rw [List.foldl_cons, ih, parent_setParent]
    simp only [List.mem_cons]
    by_cases hi : i = c <;> simp [hi]

theorem children_foldl (l : Links) (cs : List StatementId) :
    (cs.foldl (fun l c => l.setParent c none) l).children = l.children := by
  induction cs generalizing l with
  | nil => rfl
  | cons c cs ih => rw [List.foldl_cons, ih, children_setParent]

/-- All children are taken from a statement. -/
theorem Sound.clear (h : l.Sound) (p : StatementId) :
    (((l.children p).foldl (fun l c => l.setParent c none) l).setChildren p []).Sound where
  parent_iff i q := by
    have hi := h.parent_iff i
    rw [parent_setChildren, parent_foldl, children_setChildren, children_foldl]
    by_cases hp : i ∈ l.children p <;> by_cases hq : q = p <;> grind
  nodup q := by
    rw [children_setChildren, children_foldl]
    split
    · exact List.nodup_nil
    · exact h.nodup q
  acyclic i n := by
    refine fun hcycle => h.acyclic i n (climb_mono (fun j q hj => ?_) hcycle)
    rw [parent_setChildren, parent_foldl] at hj
    split at hj
    · cases hj
    · exact hj

end Links
end YangSchema
