import YangSchema.Proofs.Statement.Subtree

/-!
# Edits in place

The calls on a tree as they are carried out, with each look-up, check and write in its turn and on
one tree, in which what was written stays. On a tree with sound links nothing is refused after
something was written, so a call that is refused has changed nothing, and one that is not makes of
the tree what the function of its name gives.
-/
namespace YangSchema

/-- A step on a tree. What it has written stays where it fails later. -/
abbrev Edit := EStateM TreeFault StatementTree

namespace Edit
open StatementTree

variable {α : Type} {t t' : StatementTree} {s p : Statement} {id parent child : StatementId}
  {index : Int}

def ask (f : StatementTree → Except TreeFault α) : Edit α := fun t =>
  match f t with
  | .ok a => .ok a t
  | .error e => .error e t

def write (f : StatementTree → StatementTree) : Edit Unit := fun t =>
  .ok () (f t)

def find (id : Int) : Edit Statement :=
  ask fun t => do t.get (← number id)

def insertable (p : Statement) (child : Int) : Edit Statement :=
  ask fun t => do t.insertable p (← number child)

def insertChild (parent index child : Int) : Edit Unit := do
  let p ← find parent
  let c ← insertable p child
  unless Index.isWord index do throw .indexTooLarge
  write (·.setChildren p.id
    (p.children.insertIdx (Index.insertPlace p.children.length index) c.id))
  write (·.setParent c.id (some p.id))

def appendChild (parent child : Int) : Edit Unit := do
  let p ← find parent
  insertChild parent p.children.length child

def replaceChild (parent index child : Int) : Edit StatementId := do
  let p ← find parent
  let c ← insertable p child
  let i ← ask fun _ => (Index.place p.children.length index).mapError .replacement
  let old ← find (p.children.getD i 0)
  write (·.setParent old.id none)
  write (·.setChildren p.id (p.children.set i c.id))
  write (·.setParent c.id (some p.id))
  return old.id

/-- The number of the child is taken from the row before the child is looked up. -/
def removeChild (parent index : Int) : Edit StatementId := do
  let p ← find parent
  unless Index.isWord index do throw .indexTooLarge
  match Index.place? p.children.length index with
  | none => throw (if p.children.isEmpty then .noChildren else .noChildToRemove)
  | some i =>
    write (·.setChildren p.id (p.children.eraseIdx i))
    let old ← find (p.children.getD i 0)
    write (·.setParent old.id none)
    return old.id

def detach (id : Int) : Edit Unit := do
  let s ← find id
  match s.parent with
  | none => return
  | some parent =>
    let p ← find parent
    let _ ← removeChild parent (p.children.idxOf s.id)

/-- Each child is looked up after the links of those before it were taken. -/
def release : List StatementId → Edit Unit
  | [] => pure ()
  | c :: cs => do
    let s ← find c
    write (·.setParent s.id none)
    release cs

def clearChildren (parent : Int) : Edit Unit := do
  let p ← find parent
  release p.children
  write (·.setChildren p.id [])

def enact : Call → Edit Unit
  | .add name position qualifier argument => write (·.add name position qualifier argument)
  | .insertChild parent index child => insertChild parent index child
  | .appendChild parent child => appendChild parent child
  | .replaceChild parent index child => do let _ ← replaceChild parent index child
  | .removeChild parent index => do let _ ← removeChild parent index
  | .detach id => detach id
  | .clearChildren parent => clearChildren parent

/-- What a step comes to that puts a tree in the place of the one there is, or keeps this. -/
def settleWith {β : Type} (t : StatementTree) (tree : β → StatementTree) (value : β → α) :
    Except TreeFault β → EStateM.Result TreeFault StatementTree α
  | .ok b => .ok (value b) (tree b)
  | .error e => .error e t

abbrev settle (t : StatementTree) (r : Except TreeFault StatementTree) :
    EStateM.Result TreeFault StatementTree Unit :=
  settleWith t (fun t' => t') (fun _ => ()) r

@[simp]
theorem write_apply (f : StatementTree → StatementTree) (t : StatementTree) :
    write f t = .ok () (f t) := rfl

theorem bind_ask {β γ : Type} {f : StatementTree → Except TreeFault γ} {m : γ → Edit α}
    {r : Except TreeFault γ} {k : γ → Except TreeFault β} {tree : β → StatementTree}
    {value : β → α} (hr : f t = r) (h : ∀ c, r = .ok c → m c t = settleWith t tree value (k c)) :
    (ask f >>= m) t = settleWith t tree value (r >>= k) := by
  subst hr
  rw [bind_apply, ask]
  cases hf : f t with
  | error e => rfl
  | ok c => exact h c hf

theorem exists_find (h : t.Numbered) (hid : id < t.size) :
    ∃ s, find id t = .ok s t ∧ s.id = id := by
  obtain ⟨s, hs⟩ : ∃ s, t.get? id = some s := ⟨_, Array.getElem?_eq_getElem hid⟩
  have hget : t.get id = .ok s := StatementTree.get_eq_ok.2 hs
  refine ⟨s, ?_, h hs⟩
  simp [find, ask, number, bind, Except.bind, hget]

theorem insertChild_eq (h : t.Numbered) (parent : StatementId) (index : Int) (child : StatementId) :
    insertChild parent index child t = settle t (t.insertChild parent index child) := by
  refine bind_ask rfl fun p hp => bind_ask rfl fun c hc => ?_
  obtain rfl := h (StatementTree.get_eq_ok.1 hp)
  obtain rfl := h (insertable_eq_ok hc).1
  by_cases hindex : Index.isWord index = true
  · simp [hindex]
    rfl
  · simp [hindex]
    rfl

theorem appendChild_eq (h : t.Numbered) (parent child : StatementId) :
    appendChild parent child t = settle t (t.appendChild parent child) :=
  bind_ask rfl fun p _ => insertChild_eq h parent p.children.length child

theorem replaceChild_eq (h : t.Wired) (parent : StatementId) (index : Int) (child : StatementId) :
    replaceChild parent index child t =
      settleWith t Prod.fst Prod.snd (t.replaceChild parent index child) := by
  refine bind_ask rfl fun p hp => bind_ask rfl fun c hc => ?_
  rw [StatementTree.get_eq_ok] at hp
  obtain rfl := h.numbered hp
  obtain rfl := h.numbered (insertable_eq_ok hc).1
  cases hi : Index.place p.children.length index with
  | error f =>
    simp [ask, Except.mapError]
    rfl
  | ok i =>
    obtain ⟨hplace, hlt, -⟩ := h.child_spec hp (place_lt hi)
    obtain ⟨old, hold, hid⟩ := exists_find h.numbered (hplace ▸ hlt)
    change (find (p.children.getD i 0) >>= _) t = _
    rw [bind_apply, hold]
    simp [hid]
    rfl

theorem removeChild_eq (h : t.Wired) (parent : StatementId) (index : Int) :
    removeChild parent index t = settleWith t Prod.fst Prod.snd (t.removeChild parent index) := by
  refine bind_ask rfl fun p hp => ?_
  rw [StatementTree.get_eq_ok] at hp
  obtain rfl := h.numbered hp
  by_cases hindex : Index.isWord index = true
  · cases hi : Index.place? p.children.length index with
    | none =>
      simp [hindex]
      rfl
    | some i =>
      obtain ⟨hplace, hlt, -⟩ := h.child_spec hp (place?_lt hi)
      -- The child is looked up in the tree without the link to it.
      let t₁ := t.setChildren p.id (p.children.eraseIdx i)
      have hlt₁ : p.children.getD i 0 < t₁.size := by
        rw [size_setChildren, hplace]
        exact hlt
      have hnumbered : t₁.Numbered := h.numbered.modify p.id fun _ => rfl
      obtain ⟨old, hold, hid⟩ := exists_find hnumbered hlt₁
      simp only [hindex, if_true]
      change (find (p.children.getD i 0) >>= _) t₁ = _
      rw [bind_apply, hold]
      simp [hid]
      rfl
  · simp [hindex]
    rfl

theorem detach_eq (h : t.Wired) (id : StatementId) :
    detach id t = settle t (t.detach id) := by
  refine bind_ask rfl fun s hs => ?_
  rw [StatementTree.get_eq_ok] at hs
  obtain rfl := h.numbered hs
  cases hparent : s.parent with
  | none => rfl
  | some parent =>
    refine bind_ask rfl fun p hp => ?_
    rw [bind_apply, removeChild_eq h]
    cases t.removeChild parent (p.children.idxOf s.id) <;> rfl

theorem release_apply {cs : List StatementId} (h : t.Numbered) (hcs : ∀ c ∈ cs, c < t.size) :
    release cs t = .ok () (cs.foldl (fun t c => t.setParent c none) t) := by
  induction cs generalizing t with
  | nil => rfl
  | cons c cs ih =>
    obtain ⟨hc, hcs⟩ := List.forall_mem_cons.1 hcs
    obtain ⟨s, hs, hid⟩ := exists_find h hc
    rw [release, bind_apply, hs]
    simp only [bind_apply, write_apply, hid, List.foldl_cons]
    exact ih (h.modify c fun _ => rfl) (by simpa using hcs)

theorem clearChildren_eq (h : t.Wired) (parent : StatementId) :
    clearChildren parent t = settle t (t.clearChildren parent) := by
  refine bind_ask rfl fun p hp => ?_
  rw [StatementTree.get_eq_ok] at hp
  obtain rfl := h.numbered hp
  have hchildren : ∀ c ∈ p.children, c < t.size := fun c hc =>
    have ⟨_, hs, _⟩ := h.exists_child hp hc
    lt_size_of_get? hs
  rw [bind_apply, release_apply h.numbered hchildren]
  rfl

/-- A call that is carried out gives the tree of the call, or is refused as this is and leaves the
tree that there was. -/
def Settles (t : StatementTree) (out : EStateM.Result TreeFault StatementTree Unit) :
    Except TreeFault StatementTree → Prop
  | .ok t' => out = .ok () t'
  | .error _ => ∃ f, out = .error f t

theorem settles_settle (t : StatementTree) (r : Except TreeFault StatementTree) :
    Settles t (settle t r) r := by
  cases r with
  | ok t' => rfl
  | error f => exact ⟨f, rfl⟩

theorem settles_of_settleWith {m : Edit StatementId}
    {r : Except TreeFault (StatementTree × StatementId)}
    (h : m t = settleWith t Prod.fst Prod.snd r) :
    Settles t ((do let _ ← m : Edit Unit) t) (do return (← r).1) := by
  rw [bind_apply, h]
  cases r with
  | ok x => rfl
  | error e => exact ⟨e, rfl⟩

theorem exists_error_of_ask {β : Type} {f : StatementTree → Except TreeFault β} {m : β → Edit α}
    (h : ∀ b, ∃ e, m b t = .error e t) : ∃ e, (ask f >>= m) t = .error e t := by
  rw [bind_apply, ask]
  cases f t with
  | error e => exact ⟨e, rfl⟩
  | ok b => exact h b

/-- No number below zero is that of a statement, and nothing is written before this is seen. -/
theorem exists_error_of_negSucc (parent index : Int) (n : Nat) :
    (∃ e, insertChild parent index (.negSucc n) t = .error e t) ∧
      ∃ e, replaceChild parent index (.negSucc n) t = .error e t :=
  ⟨exists_error_of_ask fun _ => ⟨_, rfl⟩, exists_error_of_ask fun _ => ⟨_, rfl⟩⟩

/-- On a tree with sound links a call that is carried out step by step either gives the tree of the
call or, where this is refused, has written nothing. -/
theorem settles_enact (h : t.Wired) (c : Call) : Settles t (enact c t) (t.perform c) := by
  cases c with
  | add name position qualifier argument => rfl
  | insertChild parent index child =>
    cases parent with
    | negSucc n => exact ⟨_, rfl⟩
    | ofNat parent =>
      cases child with
      | negSucc n => exact (exists_error_of_negSucc parent index n).1
      | ofNat child =>
        have hsettle := settles_settle t (t.insertChild parent index child)
        rwa [← insertChild_eq h.numbered] at hsettle
  | appendChild parent child =>
    cases parent with
    | negSucc n => exact ⟨_, rfl⟩
    | ofNat parent =>
      cases child with
      | negSucc n => exact exists_error_of_ask fun p => (exists_error_of_negSucc parent _ n).1
      | ofNat child =>
        have hsettle := settles_settle t (t.appendChild parent child)
        rwa [← appendChild_eq h.numbered] at hsettle
  | replaceChild parent index child =>
    cases parent with
    | negSucc n => exact ⟨_, rfl⟩
    | ofNat parent =>
      cases child with
      | negSucc n =>
        obtain ⟨e, he⟩ := (exists_error_of_negSucc (t := t) (.ofNat parent) index n).2
        exact ⟨e, by rw [enact, bind_apply, he]⟩
      | ofNat child => exact settles_of_settleWith (replaceChild_eq h parent index child)
  | removeChild parent index =>
    cases parent with
    | negSucc n => exact ⟨_, rfl⟩
    | ofNat parent => exact settles_of_settleWith (removeChild_eq h parent index)
  | detach id =>
    cases id with
    | negSucc n => exact ⟨_, rfl⟩
    | ofNat id =>
      have hsettle := settles_settle t (t.detach id)
      rwa [← detach_eq h] at hsettle
  | clearChildren parent =>
    cases parent with
    | negSucc n => exact ⟨_, rfl⟩
    | ofNat parent =>
      have hsettle := settles_settle t (t.clearChildren parent)
      rwa [← clearChildren_eq h] at hsettle

theorem eq_of_enact_eq_error {c : Call} {f : TreeFault} (h : t.Wired)
    (hc : enact c t = .error f t') : t' = t := by
  have hsettles := settles_enact h c
  cases hp : t.perform c with
  | ok t₁ =>
    rw [hp, Settles, hc] at hsettles
    cases hsettles
  | error f' =>
    rw [hp] at hsettles
    obtain ⟨e, he⟩ := hsettles
    rw [hc] at he
    cases he
    rfl

theorem enact_eq_ok {c : Call} (h : t.Wired) : enact c t = .ok () t' ↔ t.perform c = .ok t' := by
  have hsettles := settles_enact h c
  cases hp : t.perform c with
  | error f =>
    rw [hp] at hsettles
    obtain ⟨e, he⟩ := hsettles
    simp [he]
  | ok t₁ =>
    rw [hp, Settles] at hsettles
    simp [hsettles]

end Edit

end YangSchema
