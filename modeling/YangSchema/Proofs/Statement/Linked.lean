import Mathlib.Data.List.Perm.Basic
import YangSchema.Outcome
import YangSchema.Proofs.Statement.Links

/-!
# Trees keep their links

Every call on a tree, whatever numbers and places it is given, leaves the links of the tree sound. A
call that is refused changes nothing.
-/
namespace YangSchema
namespace StatementTree

def Numbered (t : StatementTree) : Prop :=
  ∀ ⦃id s⦄, t.get? id = some s → s.id = id

def links (t : StatementTree) : Links where
  parent id := (t.get? id).bind (·.parent)
  children id := ((t.get? id).map (·.children)).getD []

variable {t t' : StatementTree} {s p q : Statement} {id parent child : StatementId} {index : Int}

theorem get_eq_ok : t.get id = .ok s ↔ t.get? id = some s := by
  rw [StatementTree.get]
  cases t.get? id <;> simp

theorem lt_size_of_get? (h : t.get? id = some s) : id < t.size :=
  (Array.getElem?_eq_some_iff.1 h).1

theorem get?_modify (t : StatementTree) (id : StatementId) (f : Statement → Statement)
    (i : StatementId) :
    (t.modify id f).get? i = if id = i then (t.get? i).map f else t.get? i := by
  simp only [modify, get?, Array.getElem?_modify]

theorem get?_add (t : StatementTree) (name : String) (position : Position)
    (qualifier argument : Option String) (i : StatementId) :
    (t.add name position qualifier argument).get? i =
      if i = t.size then some { id := t.size, name, position, qualifier, argument }
      else t.get? i := by
  simp only [add, get?, size, Array.getElem?_push]
  rfl

theorem get?_add_size (t : StatementTree) (name : String) (position : Position)
    (qualifier argument : Option String) :
    (t.add name position qualifier argument).get? t.size =
      some { id := t.size, name, position, qualifier, argument } := by
  rw [get?_add, if_pos rfl]

theorem get?_add_of_get? (hs : t.get? id = some s) (name : String) (position : Position)
    (qualifier argument : Option String) :
    (t.add name position qualifier argument).get? id = some s := by
  rw [get?_add, if_neg (lt_size_of_get? hs).ne, hs]

theorem Numbered.modify (h : t.Numbered) (id : StatementId) {f : Statement → Statement}
    (hf : ∀ s, (f s).id = s.id) : (t.modify id f).Numbered := by
  intro i s hs
  rw [get?_modify] at hs
  split at hs
  · obtain ⟨q, hq, rfl⟩ := Option.map_eq_some_iff.1 hs
    rw [hf, h hq]
  · exact h hs

theorem Numbered.get?_child (h : t.Numbered) {c : Statement} (hc : c ∈ t.childStatements s) :
    t.get? c.id = some c := by
  obtain ⟨j, -, hget⟩ := List.mem_filterMap.1 hc
  rwa [h hget]

/-! ### Links of a changed tree -/

theorem links_parent (h : t.get? id = some s) : t.links.parent id = s.parent := by
  simp [links, h]

theorem links_children (h : t.get? id = some s) : t.links.children id = s.children := by
  simp [links, h]

theorem exists_of_mem_children (h : id ∈ t.links.children parent) :
    ∃ p, t.get? parent = some p ∧ id ∈ p.children := by
  cases hp : t.get? parent with
  | none => simp [links, hp] at h
  | some p => exact ⟨p, rfl, by rwa [links_children hp] at h⟩

theorem exists_of_parent (h : t.links.parent id = some parent) :
    ∃ s, t.get? id = some s ∧ s.parent = some parent := by
  obtain ⟨s, hs, hp⟩ := Option.bind_eq_some_iff.1 h
  exact ⟨s, hs, hp⟩

theorem links_setParent (h : id < t.size) (parent : Option StatementId) :
    (t.setParent id parent).links = t.links.setParent id parent := by
  obtain ⟨s, hs⟩ : ∃ s, t.get? id = some s := ⟨_, Array.getElem?_eq_getElem h⟩
  ext i : 2
  · rw [Links.parent_setParent]
    simp only [links, setParent, get?_modify]
    by_cases hi : i = id
    · subst hi
      simp [hs]
    · simp [hi, Ne.symm hi]
  · simp only [links, setParent, get?_modify, Links.children_setParent]
    split <;> cases t.get? i <;> rfl

theorem links_setChildren (h : id < t.size) (children : List StatementId) :
    (t.setChildren id children).links = t.links.setChildren id children := by
  obtain ⟨s, hs⟩ : ∃ s, t.get? id = some s := ⟨_, Array.getElem?_eq_getElem h⟩
  ext i : 2
  · simp only [links, setChildren, get?_modify, Links.parent_setChildren]
    split <;> cases t.get? i <;> rfl
  · rw [Links.children_setChildren]
    simp only [links, setChildren, get?_modify]
    by_cases hi : i = id
    · subst hi
      simp [hs]
    · simp [hi, Ne.symm hi]

@[simp]
theorem size_setParent (t : StatementTree) (id : StatementId) (parent : Option StatementId) :
    (t.setParent id parent).size = t.size := by
  simp [setParent, modify, size]

@[simp]
theorem size_setChildren (t : StatementTree) (id : StatementId) (children : List StatementId) :
    (t.setChildren id children).size = t.size := by
  simp [setChildren, modify, size]

@[simp]
theorem size_add (t : StatementTree) (name : String) (position : Position)
    (qualifier argument : Option String) :
    (t.add name position qualifier argument).size = t.size + 1 := by
  simp [add, size]

/-- A new statement has no links. -/
theorem links_add (t : StatementTree) (name : String) (position : Position)
    (qualifier argument : Option String) :
    (t.add name position qualifier argument).links = t.links := by
  have hnone : t.get? t.size = none := Array.getElem?_eq_none (Nat.le_refl t.size)
  ext i : 2
  · simp only [links, get?_add]
    split
    · next hi => simp [hi, hnone]
    · rfl
  · simp only [links, get?_add]
    split
    · next hi => simp [hi, hnone]
    · rfl

/-! ### Statements above -/

/-- The links of a tree are sound, and found by the numbers of its statements. -/
structure Wired (t : StatementTree) : Prop where
  numbered : t.Numbered
  sound : t.links.Sound

theorem Wired.exists_parent (h : t.Wired) (hp : t.links.parent id = some parent) :
    ∃ p, t.get? parent = some p ∧ id ∈ p.children :=
  exists_of_mem_children ((h.sound.parent_iff id parent).1 hp)

theorem Wired.exists_child (h : t.Wired) (hp : t.get? parent = some p) (hc : id ∈ p.children) :
    ∃ s, t.get? id = some s ∧ s.parent = some parent := by
  rw [← links_children hp] at hc
  exact exists_of_parent ((h.sound.parent_iff id parent).2 hc)

theorem Wired.exists_above (h : t.Wired) {n k : Nat} (hs : t.get? s.id = some s) (hk : k < n)
    (hc : t.links.climb (k + 1) s.id = some id) : ∃ a ∈ t.above n s, a.id = id := by
  induction n generalizing k s with
  | zero => exact absurd hk (Nat.not_lt_zero k)
  | succ n ih =>
    obtain ⟨parent, hp, hup⟩ := Option.bind_eq_some_iff.1 hc
    obtain ⟨q, hq, -⟩ := h.exists_parent hp
    rw [links_parent hs] at hp
    have habove : t.above (n + 1) s = q :: t.above n q := by
      rw [above, hp, Option.bind_some, hq]
    rw [habove]
    obtain rfl : q.id = parent := h.numbered hq
    cases k with
    | zero => exact ⟨q, List.mem_cons_self, Option.some.inj hup⟩
    | succ k =>
      obtain ⟨a, ha, hid⟩ := ih hq (Nat.lt_of_succ_lt_succ hk) hup
      exact ⟨a, List.mem_cons_of_mem q ha, hid⟩

theorem lt_size_of_parent (h : t.links.parent id = some parent) : id < t.size := by
  obtain ⟨s, hs, -⟩ := exists_of_parent h
  exact lt_size_of_get? hs

/-- Every way up ends, with no more links than the tree has statements. -/
theorem Wired.climb_size (h : t.Wired) (id : StatementId) :
    t.links.climb (t.size + 1) id = none := by
  cases hc : t.links.climb (t.size + 1) id with
  | none => rfl
  | some q => exact absurd (h.sound.climb_le (fun _ _ => lt_size_of_parent) hc) (by omega)

/-- Looking for no more statements than the tree has misses none that is above. -/
theorem Wired.mem_ancestorsOf (h : t.Wired) (hs : t.get? s.id = some s) {k : Nat}
    (hc : t.links.climb (k + 1) s.id = some id) : ∃ a ∈ t.ancestorsOf s, a.id = id :=
  h.exists_above hs (h.sound.climb_le (fun _ _ => lt_size_of_parent) hc) hc

theorem insertable_eq_ok (h : t.insertable p child = .ok s) :
    t.get? child = some s ∧ s.parent = none ∧ child ≠ p.id ∧
      ∀ a ∈ t.ancestorsOf p, a.id ≠ child := by
  unfold insertable at h
  obtain ⟨c, hc, h⟩ := except_bind_eq_ok.1 h
  rw [get_eq_ok] at hc
  dsimp only at h
  split at h
  · cases h
  · next hparent =>
    split at h
    · cases h
    · next hbelow =>
      cases h
      simp only [Bool.or_eq_true, decide_eq_true_eq, List.any_eq_true, not_or, not_exists,
        not_and] at hbelow
      exact ⟨hc, by simpa using hparent, hbelow.1, fun a ha => hbelow.2 a ha⟩

/-- A statement that can be put below another is not above it. -/
theorem Wired.climb_ne_of_insertable (h : t.Wired) (hp : t.get? p.id = some p)
    (hi : t.insertable p child = .ok s) (n : Nat) : t.links.climb n p.id ≠ some child := by
  obtain ⟨-, -, hne, hnot⟩ := insertable_eq_ok hi
  intro hc
  cases n with
  | zero => exact hne (Option.some.inj hc).symm
  | succ n =>
    obtain ⟨a, ha, hid⟩ := h.mem_ancestorsOf hp hc
    exact hnot a ha hid

/-! ### Changes -/

theorem Wired.setParent_setChildren (h : t.Wired) (hp : parent < t.size) (hc : child < t.size)
    {children : List StatementId} {above : Option StatementId}
    (hl : ((t.links.setChildren parent children).setParent child above).Sound) :
    ((t.setChildren parent children).setParent child above).Wired where
  numbered := by
    refine Numbered.modify (Numbered.modify h.numbered parent ?_) child ?_
    · exact fun _ => rfl
    · exact fun _ => rfl
  sound := by rwa [links_setParent (by simpa), links_setChildren hp]

theorem Wired.add (h : t.Wired) (name : String) (position : Position)
    (qualifier argument : Option String) : (t.add name position qualifier argument).Wired where
  numbered i s hs := by
    rw [get?_add] at hs
    split at hs
    · next hi =>
      cases hs
      exact hi.symm
    · exact h.numbered hs
  sound := by
    rw [links_add]
    exact h.sound

theorem Wired.insertChild (h : t.Wired) (hok : t.insertChild parent index child = .ok t') :
    t'.Wired := by
  unfold StatementTree.insertChild at hok
  obtain ⟨p, hp, hok⟩ := except_bind_eq_ok.1 hok
  obtain ⟨c, hc, hok⟩ := except_bind_eq_ok.1 hok
  rw [get_eq_ok] at hp
  obtain rfl := h.numbered hp
  have hup := h.climb_ne_of_insertable hp hc
  obtain ⟨hchild, hnone, -, -⟩ := insertable_eq_ok hc
  split at hok
  · cases hok
    refine h.setParent_setChildren (lt_size_of_get? hp) (lt_size_of_get? hchild)
      (h.sound.attach ?_ hup ?_)
    · rw [links_parent hchild, hnone]
    · rw [links_children hp]
      exact List.perm_insertIdx _ _ (Nat.min_le_left _ _)
  · cases hok

theorem Wired.appendChild (h : t.Wired) (hok : t.appendChild parent child = .ok t') :
    t'.Wired := by
  obtain ⟨p, -, hok⟩ := except_bind_eq_ok.1 hok
  exact h.insertChild hok

theorem place?_lt {length place : Nat} (h : Index.place? length index = some place) :
    place < length := by
  simp only [Index.place?] at h
  generalize (if index < 0 then (length : Int) + index else index) = at' at h
  split at h
  · next hat =>
    simp only [Bool.and_eq_true, decide_eq_true_eq] at hat
    obtain rfl := Option.some.inj h
    omega
  · cases h

theorem place_lt {length place : Nat} (h : Index.place length index = .ok place) :
    place < length := by
  unfold Index.place at h
  split at h
  · cases hi : Index.place? length index with
    | none => simp [hi] at h
    | some i =>
      rw [hi] at h
      obtain rfl := Except.ok.inj h
      exact place?_lt hi
  · cases h

theorem isWord_natCast {n : Nat} : Index.isWord n = true ↔ n < Nat.pow 2 63 := by
  simp only [Index.isWord, Bool.and_eq_true, decide_eq_true_eq]
  omega

theorem place?_natCast {length n : Nat} (h : n < length) : Index.place? length n = some n := by
  have hn : ¬ (n : Int) < 0 := by omega
  simp [Index.place?, hn, h]

theorem insertPlace_natCast {length n : Nat} (h : n ≤ length) :
    Index.insertPlace length n = n := by
  have hn : ¬ (n : Int) < 0 := by omega
  simp [Index.insertPlace, hn, h]

/-- A child of a statement is another one, and has it as its parent. -/
theorem Wired.child_spec (h : t.Wired) (hp : t.get? parent = some p) {i : Nat}
    (hi : i < p.children.length) :
    p.children.getD i 0 = p.children[i] ∧ p.children[i] < t.size ∧
      t.links.parent p.children[i] = some parent := by
  obtain ⟨s, hs, hup⟩ := h.exists_child hp (List.getElem_mem hi)
  exact ⟨by simp [List.getD, hi], lt_size_of_get? hs, by rw [links_parent hs, hup]⟩

theorem Wired.replaceChild (h : t.Wired) {old : StatementId}
    (hok : t.replaceChild parent index child = .ok (t', old)) : t'.Wired := by
  unfold StatementTree.replaceChild at hok
  obtain ⟨p, hp, hok⟩ := except_bind_eq_ok.1 hok
  obtain ⟨c, hc, hok⟩ := except_bind_eq_ok.1 hok
  rw [get_eq_ok] at hp
  obtain rfl := h.numbered hp
  have hup := h.climb_ne_of_insertable hp hc
  obtain ⟨hchild, hnone, -, -⟩ := insertable_eq_ok hc
  split at hok
  · cases hok
  · next i hi =>
    cases hok
    have hplace := place_lt hi
    obtain ⟨hold, hlt, hparent⟩ := h.child_spec hp hplace
    rw [hold]
    refine ⟨?_, ?_⟩
    · refine Numbered.modify (Numbered.modify (Numbered.modify h.numbered _ ?_) p.id ?_) child ?_
      all_goals exact fun _ => rfl
    · have hps := lt_size_of_get? hp
      rw [links_setParent (by simpa using lt_size_of_get? hchild),
        links_setChildren (by simpa using hps), links_setParent hlt]
      have hrest : (t.links.children p.id).Perm (p.children[i] :: p.children.eraseIdx i) := by
        rw [links_children hp]
        exact (List.getElem_cons_eraseIdx_perm hplace).symm
      refine h.sound.replace hparent ?_ hup hrest ?_
      · rw [links_parent hchild, hnone]
      · exact List.set_perm_cons_eraseIdx hplace child

theorem Wired.removeChild (h : t.Wired) {old : StatementId}
    (hok : t.removeChild parent index = .ok (t', old)) : t'.Wired := by
  unfold StatementTree.removeChild at hok
  obtain ⟨p, hp, hok⟩ := except_bind_eq_ok.1 hok
  rw [get_eq_ok] at hp
  dsimp only at hok
  split at hok
  · split at hok
    · cases hok
    · next i hi =>
      cases hok
      obtain ⟨hold, hlt, hparent⟩ := h.child_spec hp (place?_lt hi)
      rw [hold]
      refine h.setParent_setChildren (lt_size_of_get? hp) hlt (h.sound.release hparent ?_)
      rw [links_children hp]
      exact (List.getElem_cons_eraseIdx_perm (place?_lt hi)).symm
  · cases hok

theorem Wired.detach (h : t.Wired) (hok : t.detach id = .ok t') : t'.Wired := by
  unfold StatementTree.detach at hok
  obtain ⟨s, -, hok⟩ := except_bind_eq_ok.1 hok
  split at hok
  · cases hok
    exact h
  · obtain ⟨p, -, hok⟩ := except_bind_eq_ok.1 hok
    obtain ⟨⟨t₁, old⟩, hremove, hok⟩ := except_bind_eq_ok.1 hok
    cases hok
    exact h.removeChild hremove

theorem links_foldl {cs : List StatementId} (h : ∀ c ∈ cs, c < t.size) :
    (cs.foldl (fun t c => t.setParent c none) t).size = t.size ∧
      (cs.foldl (fun t c => t.setParent c none) t).links =
        cs.foldl (fun l c => l.setParent c none) t.links := by
  induction cs generalizing t with
  | nil => exact ⟨rfl, rfl⟩
  | cons c cs ih =>
    obtain ⟨hc, hcs⟩ := List.forall_mem_cons.1 h
    obtain ⟨hsize, hlinks⟩ := ih (t := t.setParent c none) (by simpa using hcs)
    rw [List.foldl_cons, List.foldl_cons, hsize, hlinks, links_setParent hc]
    exact ⟨size_setParent t c none, rfl⟩

theorem numbered_foldl (h : t.Numbered) (cs : List StatementId) :
    (cs.foldl (fun t c => t.setParent c none) t).Numbered := by
  induction cs generalizing t with
  | nil => exact h
  | cons c cs ih => exact ih (h.modify c fun _ => rfl)

theorem Wired.clearChildren (h : t.Wired) (hok : t.clearChildren parent = .ok t') :
    t'.Wired := by
  obtain ⟨p, hp, hok⟩ := except_bind_eq_ok.1 hok
  rw [get_eq_ok] at hp
  cases hok
  have hchildren : ∀ c ∈ p.children, c < t.size := fun c hc =>
    have ⟨_, hs, _⟩ := h.exists_child hp hc
    lt_size_of_get? hs
  obtain ⟨hsize, hlinks⟩ := links_foldl hchildren
  refine ⟨(numbered_foldl h.numbered p.children).modify parent fun _ => rfl, ?_⟩
  rw [links_setChildren (by rw [hsize]; exact lt_size_of_get? hp), hlinks, ← links_children hp]
  exact h.sound.clear parent

/-! ### Calls -/

/-- A call that changes a tree. The numbers in it need not be those of statements. -/
inductive Call where
  | add (name : String) (position : Position) (qualifier argument : Option String)
  | insertChild (parent index child : Int)
  | appendChild (parent child : Int)
  | replaceChild (parent index child : Int)
  | removeChild (parent index : Int)
  | detach (id : Int)
  | clearChildren (parent : Int)

def number : Int → Except TreeFault StatementId
  | .ofNat id => .ok id
  | id => .error (.noStatement id)

def perform (t : StatementTree) : Call → Except TreeFault StatementTree
  | .add name position qualifier argument => .ok (t.add name position qualifier argument)
  | .insertChild parent index child => do t.insertChild (← number parent) index (← number child)
  | .appendChild parent child => do t.appendChild (← number parent) (← number child)
  | .replaceChild parent index child => do
    return (← t.replaceChild (← number parent) index (← number child)).1
  | .removeChild parent index => do return (← t.removeChild (← number parent) index).1
  | .detach id => do t.detach (← number id)
  | .clearChildren parent => do t.clearChildren (← number parent)

/-- The calls one after the other; one that is refused leaves the tree as it was. -/
def run (t : StatementTree) (calls : List Call) : StatementTree :=
  calls.foldl (fun t c => (t.perform c).toOption.getD t) t

theorem Wired.perform (h : t.Wired) {c : Call} (hok : t.perform c = .ok t') : t'.Wired := by
  cases c with
  | add name position qualifier argument =>
    cases hok
    exact h.add name position qualifier argument
  | insertChild parent index child =>
    obtain ⟨p, -, hok⟩ := except_bind_eq_ok.1 hok
    obtain ⟨c, -, hok⟩ := except_bind_eq_ok.1 hok
    exact h.insertChild hok
  | appendChild parent child =>
    obtain ⟨p, -, hok⟩ := except_bind_eq_ok.1 hok
    obtain ⟨c, -, hok⟩ := except_bind_eq_ok.1 hok
    exact h.appendChild hok
  | replaceChild parent index child =>
    obtain ⟨p, -, hok⟩ := except_bind_eq_ok.1 hok
    obtain ⟨c, -, hok⟩ := except_bind_eq_ok.1 hok
    obtain ⟨⟨t₁, old⟩, hreplace, hok⟩ := except_bind_eq_ok.1 hok
    cases hok
    exact h.replaceChild hreplace
  | removeChild parent index =>
    obtain ⟨p, -, hok⟩ := except_bind_eq_ok.1 hok
    obtain ⟨⟨t₁, old⟩, hremove, hok⟩ := except_bind_eq_ok.1 hok
    cases hok
    exact h.removeChild hremove
  | detach id =>
    obtain ⟨i, -, hok⟩ := except_bind_eq_ok.1 hok
    exact h.detach hok
  | clearChildren parent =>
    obtain ⟨p, -, hok⟩ := except_bind_eq_ok.1 hok
    exact h.clearChildren hok

theorem Wired.run (h : t.Wired) (calls : List Call) : (t.run calls).Wired := by
  induction calls generalizing t with
  | nil => exact h
  | cons c calls ih =>
    have hnext : ((t.perform c).toOption.getD t).Wired := by
      cases hok : t.perform c with
      | error f => exact h
      | ok t' => exact h.perform hok
    exact ih hnext

theorem wired_empty (root : Option Int) : ({ root } : StatementTree).Wired where
  numbered i s hs := by simp [get?] at hs
  sound := by
    have hparent (i : StatementId) : (links { root }).parent i = none := by simp [links, get?]
    have hchildren (i : StatementId) : (links { root }).children i = [] := by simp [links, get?]
    refine ⟨by simp [hparent, hchildren], by simp [hchildren], fun i n => ?_⟩
    simp [Links.climb, hparent]

structure Linked (t : StatementTree) : Prop where
  /-- A statement has a parent exactly if it is among the children of this one. -/
  parent_iff : ∀ id s p, t.get? id = some s →
    (s.parent = some p ↔ ∃ q, t.get? p = some q ∧ id ∈ q.children)
  /-- It is there once. -/
  once : ∀ p q id, t.get? p = some q → id ∈ q.children → q.children.count id = 1
  /-- It is among the children of no other statement. -/
  alone : ∀ p q p' q' id, t.get? p = some q → t.get? p' = some q' → id ∈ q.children →
    id ∈ q'.children → p = p'
  /-- Every number among the children is that of a statement. -/
  exists_child : ∀ p q id, t.get? p = some q → id ∈ q.children → ∃ s, t.get? id = some s
  /-- No way up leads from a statement to itself. -/
  acyclic : ∀ id n, t.links.climb (n + 1) id ≠ some id
  /-- Every way up ends. -/
  ends : ∀ id, ∃ n, t.links.climb n id = none

theorem Wired.linked (h : t.Wired) : t.Linked where
  parent_iff id s p hs := by
    rw [← links_parent hs, h.sound.parent_iff]
    exact ⟨exists_of_mem_children, fun ⟨q, hq, hid⟩ => by rwa [links_children hq]⟩
  once p q id hq hid := by
    refine List.count_eq_one_of_mem ?_ hid
    rw [← links_children hq]
    exact h.sound.nodup p
  alone p q p' q' id hq hq' hid hid' := by
    rw [← links_children hq, ← h.sound.parent_iff] at hid
    rw [← links_children hq', ← h.sound.parent_iff, hid] at hid'
    exact Option.some.inj hid'
  exists_child p q id hq hid :=
    have ⟨s, hs, _⟩ := h.exists_child hq hid
    ⟨s, hs⟩
  acyclic := h.sound.acyclic
  ends id := ⟨_, h.climb_size id⟩

/-- Whatever calls are made on a new tree, refused ones among them, its links are sound: both
directions agree, and following the parents ends. -/
theorem linked_run (root : Option Int) (calls : List Call) :
    (({ root } : StatementTree).run calls).Linked :=
  ((wired_empty root).run calls).linked

end StatementTree
end YangSchema
