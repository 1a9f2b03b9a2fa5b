import YangSchema.Proofs.Statement.Recursion
import YangSchema.Statement.Data

/-!
# Nested data by a loop

The loop that turns a statement into nested data makes an object for every child of a statement,
puts it into the object of the statement while that is still being filled, and keeps it on a stack
to be filled in its turn, the last child first. So objects are kept at places, and an object names
those below it by their places. What was filled is not touched again, and in the end the first
object reads as the data that the recursion over the statement gives.
-/
namespace YangSchema
open StatementView

def ownMembers (positions : Bool) (s : Statement) : List (String × JsonValue) :=
  [("name", .string s.name), ("prefix", .ofOption s.qualifier),
    ("argument", .ofOption s.argument)] ++
  if positions then positionMembers s.position else []

/-- An object that children can still be added to, each by its place. -/
structure DataObject where
  members : List (String × JsonValue)
  children : List Nat := []

def DataObject.ofStatement (positions : Bool) (s : Statement) : DataObject :=
  ⟨ownMembers positions s, []⟩

def DataObject.addChildren (o : DataObject) (places : List Nat) : DataObject :=
  { o with children := o.children ++ places }

theorem StatementView.toDataAll_eq_map (positions : Bool) (row : List StatementView) :
    toDataAll positions row = row.map (toData positions) := by
  induction row with
  | nil => rfl
  | cons v row ih => rw [toDataAll, ih, List.map_cons]

mutual

inductive Shows (heap : Array DataObject) : Nat → JsonValue → Prop
  | object {place : Nat} {o : DataObject} {items : List JsonValue} (ho : heap[place]? = some o)
    (hitems : ShowsAll heap o.children items) :
    Shows heap place (.object (o.members ++ [("children", .array items)]))

inductive ShowsAll (heap : Array DataObject) : List Nat → List JsonValue → Prop
  | nil : ShowsAll heap [] []
  | cons {place : Nat} {places : List Nat} {v : JsonValue} {items : List JsonValue}
    (hv : Shows heap place v) (hitems : ShowsAll heap places items) :
    ShowsAll heap (place :: places) (v :: items)

end

mutual

theorem Shows.unique {heap : Array DataObject} {place : Nat} {v v' : JsonValue} :
    Shows heap place v → Shows heap place v' → v = v'
  | .object ho hitems, .object ho' hitems' => by
    rw [ho] at ho'
    cases ho'
    rw [hitems.unique hitems']

theorem ShowsAll.unique {heap : Array DataObject} {places : List Nat}
    {items items' : List JsonValue} :
    ShowsAll heap places items → ShowsAll heap places items' → items = items'
  | .nil, .nil => rfl
  | .cons hv hitems, .cons hv' hitems' => by
    rw [hv.unique hv', hitems.unique hitems']

end

variable {heap heap' heap₁ heap₂ : Array DataObject} {place n : Nat} {v : JsonValue}
  {row : List (Nat × JsonValue)} {b : Nat × JsonValue}

/-- Objects of a row have been filled with others that were put behind the end. Everything else is
as it was, and whatever is done later to others, these read as the values of the row. -/
structure Fills (heap heap' : Array DataObject) (row : List (Nat × JsonValue)) : Prop where
  size_le : heap.size ≤ heap'.size
  frame : ∀ i < heap.size, i ∉ row.map (·.1) → heap'[i]? = heap[i]?
  shows : ∀ later : Array DataObject,
    (∀ i < heap'.size, heap.size ≤ i ∨ i ∈ row.map (·.1) → later[i]? = heap'[i]?) →
      ∀ b ∈ row, Shows later b.1 b.2

theorem Fills.nil (heap : Array DataObject) : Fills heap heap [] :=
  ⟨Nat.le_refl _, fun _ _ _ => rfl, fun _ _ _ hb => absurd hb List.not_mem_nil⟩

theorem Fills.cons (h₁ : Fills heap heap₁ [b]) (h₂ : Fills heap₁ heap₂ row)
    (hrow : ∀ p ∈ row.map (·.1), p < heap.size) (hne : b.1 ∉ row.map (·.1)) :
    Fills heap heap₂ (b :: row) := by
  refine ⟨h₁.size_le.trans h₂.size_le, ?_, ?_⟩
  · intro i hi hmem
    rw [List.map_cons, List.mem_cons, not_or] at hmem
    rw [h₂.frame i (hi.trans_le h₁.size_le) hmem.2]
    exact h₁.frame i hi (by simpa using hmem.1)
  · intro later hlater
    rw [List.forall_mem_cons]
    constructor
    · apply h₁.shows later _ b List.mem_cons_self
      intro i hi hold
      have hnot : i ∉ row.map (·.1) := by
        intro hmem
        rcases hold with hnew | hsame
        · exact absurd (hrow i hmem) hnew.not_gt
        · rw [List.map_singleton, List.mem_singleton] at hsame
          exact hne (hsame ▸ hmem)
      rw [← h₂.frame i hi hnot]
      apply hlater i (hi.trans_le h₂.size_le)
      exact hold.imp_right fun hsame => by simp_all
    · apply h₂.shows later
      intro i hi hold
      apply hlater i hi
      rcases hold with hnew | hmem
      · exact .inl (h₁.size_le.trans hnew)
      · exact .inr (List.mem_cons_of_mem _ hmem)

def addObject (heap : Array DataObject) (place : Nat) (o : DataObject) : Array DataObject :=
  (heap.push o).modify place (·.addChildren [heap.size])

theorem size_addObject (heap : Array DataObject) (place : Nat) (o : DataObject) :
    (addObject heap place o).size = heap.size + 1 := by
  simp [addObject]

theorem getElem?_addObject (hplace : place < heap.size) (o : DataObject) (i : Nat) :
    (addObject heap place o)[i]? =
      if i = heap.size then some o
      else if i = place then heap[i]?.map (·.addChildren [heap.size]) else heap[i]? := by
  rw [addObject, Array.getElem?_modify, Array.getElem?_push]
  by_cases hsize : i = heap.size
  · simp [hsize, hplace.ne]
  · simp [hsize, eq_comm]

/-- Objects for a row of statements are put behind the end, and into the object at a place. -/
structure Opens (positions : Bool) (heap heap' : Array DataObject) (place : Nat)
    (cs : List Statement) : Prop where
  size : heap'.size = heap.size + cs.length
  frame : ∀ i < heap.size, i ≠ place → heap'[i]? = heap[i]?
  parent : heap'[place]? = heap[place]?.map (·.addChildren (List.range' heap.size cs.length))
  new : ∀ b ∈ cs.zipIdx heap.size, heap'[b.2]? = some (.ofStatement positions b.1)

theorem showsAll_of_zipIdx {cs : List Statement} {value : Statement → JsonValue}
    (h : ∀ b ∈ cs.zipIdx n, Shows heap b.2 (value b.1)) :
    ShowsAll heap (List.range' n cs.length) (cs.map value) := by
  induction cs generalizing n with
  | nil => exact .nil
  | cons c cs ih =>
    rw [List.zipIdx_cons, List.forall_mem_cons] at h
    exact .cons h.1 (ih h.2)

theorem Opens.fills {positions : Bool} {s : Statement} {cs : List Statement}
    {value : Statement → JsonValue} (h : Opens positions heap heap₁ place cs)
    (hplace : heap[place]? = some (.ofStatement positions s))
    (hfills : Fills heap₁ heap' ((cs.zipIdx heap.size).reverse.map fun b => (b.2, value b.1))) :
    Fills heap heap' [(place, .object (ownMembers positions s ++
      [("children", .array (cs.map value))]))] := by
  have hlt : place < heap.size := (Array.getElem?_eq_some_iff.1 hplace).1
  have hsize : heap.size ≤ heap₁.size := by
    rw [h.size]
    exact Nat.le_add_right ..
  have hnew : ∀ i ∈ ((cs.zipIdx heap.size).reverse.map fun b => (b.2, value b.1)).map (·.1),
      heap.size ≤ i := by
    intro i hi
    rw [List.map_map] at hi
    obtain ⟨b, hb, rfl⟩ := List.mem_map.1 hi
    exact List.le_snd_of_mem_zipIdx (List.mem_reverse.1 hb)
  refine ⟨hsize.trans hfills.size_le, ?_, ?_⟩
  · intro i hi hne
    rw [hfills.frame i (hi.trans_le hsize) fun hmem => absurd (hnew i hmem) hi.not_ge]
    exact h.frame i hi (by simpa using hne)
  · intro later hlater
    have hobject : later[place]? =
        some ((DataObject.ofStatement positions s).addChildren
          (List.range' heap.size cs.length)) := by
      rw [hlater place (by have := hfills.size_le; omega) (.inr (by simp)),
        hfills.frame place (hlt.trans_le hsize) fun hmem => absurd (hnew place hmem) hlt.not_ge,
        h.parent, hplace, Option.map_some]
    have hbelow : ∀ b ∈ cs.zipIdx heap.size, Shows later b.2 (value b.1) := by
      intro b hb
      refine hfills.shows later ?_ (b.2, value b.1) (List.mem_map_of_mem (List.mem_reverse.2 hb))
      intro i hi hold
      apply hlater i hi (.inl _)
      rcases hold with hle | hmem
      · exact hsize.trans hle
      · exact hnew i hmem
    rw [List.forall_mem_singleton]
    exact .object hobject (showsAll_of_zipIdx hbelow)

structure Filling where
  heap : Array DataObject
  stack : List (Statement × Nat)

namespace StatementTree

variable {t : StatementTree} {s : Statement} {id? : Option StatementId} {e : TreeFault}
  {positions : Bool} {stack : List (Statement × Nat)} {cs : List Statement}
  {pairs : List (Statement × Nat)}

def fill (t : StatementTree) (positions : Bool) (place : Nat) :
    List StatementId → Filling → Except TreeFault Filling
  | [], w => .ok w
  | id :: ids, w => do
    let c ← t.get id
    t.fill positions place ids
      ⟨addObject w.heap place (.ofStatement positions c), (c, w.heap.size) :: w.stack⟩

def dataTurn (t : StatementTree) (positions : Bool) (w : Filling) :
    Except TreeFault (Option Filling) :=
  match w.stack with
  | [] => .ok none
  | (s, place) :: stack => (t.fill positions place s.children ⟨w.heap, stack⟩).map some

/-- Comes to the objects, the first of which is that of the statement it sets out from. -/
def dataLoop (t : StatementTree) (id? : Option StatementId) (positions : Bool) :
    Loop TreeFault Filling (Array DataObject) where
  start := do
    let s ← t.get (← t.startId id?)
    return ⟨#[.ofStatement positions s], [(s, 0)]⟩
  turn := t.dataTurn positions
  result := (·.heap)

theorem exists_fill (positions : Bool) (stack : List (Statement × Nat))
    (hcs : ∀ c ∈ cs, t.get? c.id = some c) (hplace : place < heap.size) :
    ∃ heap', t.fill positions place (cs.map (·.id)) ⟨heap, stack⟩ =
        .ok ⟨heap', (cs.zipIdx heap.size).reverse ++ stack⟩ ∧
      Opens positions heap heap' place cs := by
  induction cs generalizing heap stack with
  | nil =>
    refine ⟨heap, rfl, rfl, fun _ _ _ => rfl, ?_, by simp⟩
    simp [DataObject.addChildren]
  | cons c cs ih =>
    rw [List.forall_mem_cons] at hcs
    have hsize := size_addObject heap place (.ofStatement positions c)
    have hget := getElem?_addObject hplace (.ofStatement positions c)
    have hlt : place < (addObject heap place (.ofStatement positions c)).size := by omega
    obtain ⟨heap', hfill, hsize', hold', hplace', hnew'⟩ := ih ((c, heap.size) :: stack) hcs.2 hlt
    rw [hsize] at hfill hsize' hold' hplace' hnew'
    refine ⟨heap', ?_, ?_, ?_, ?_, ?_⟩
    · rw [List.map_cons, fill, get_eq_ok.2 hcs.1]
      simpa [bind, Except.bind] using hfill
    · rw [hsize', List.length_cons]
      omega
    · intro i hi hne
      rw [hold' i (by omega) hne, hget, if_neg hi.ne, if_neg hne]
    · rw [hplace', hget, if_neg hplace.ne, if_pos rfl, Option.map_map, List.length_cons,
        List.range'_succ]
      simp [DataObject.addChildren, Function.comp_def]
    · rw [List.zipIdx_cons, List.forall_mem_cons]
      constructor
      · rw [hold' heap.size (by omega) hplace.ne', hget, if_pos rfl]
      · exact hnew'

/-- The objects of a row of statements are filled one after the other. -/
theorem dataLoop_leads_row (value : Statement → JsonValue) (stack : List (Statement × Nat))
    (hstep : ∀ b ∈ pairs, ∀ heap stack, heap[b.2]? = some (.ofStatement positions b.1) →
      ∃ heap', (t.dataLoop id? positions).Leads ⟨heap, b :: stack⟩ ⟨heap', stack⟩ ∧
        Fills heap heap' [(b.2, value b.1)])
    (hempty : ∀ b ∈ pairs, heap[b.2]? = some (.ofStatement positions b.1))
    (hplaces : (pairs.map (·.2)).Nodup) :
    ∃ heap', (t.dataLoop id? positions).Leads ⟨heap, pairs ++ stack⟩ ⟨heap', stack⟩ ∧
      Fills heap heap' (pairs.map fun b => (b.2, value b.1)) := by
  induction pairs generalizing heap with
  | nil => exact ⟨heap, .refl, .nil heap⟩
  | cons b pairs ih =>
    rw [List.forall_mem_cons] at hstep hempty
    rw [List.map_cons, List.nodup_cons] at hplaces
    have hlt : ∀ d ∈ pairs, d.2 < heap.size := by
      intro d hd
      exact (Array.getElem?_eq_some_iff.1 (hempty.2 d hd)).1
    have hrow : (pairs.map fun b => (b.2, value b.1)).map (·.1) = pairs.map (·.2) := by
      rw [List.map_map]
      rfl
    obtain ⟨heap₁, hleads, hfills⟩ := hstep.1 heap (pairs ++ stack) hempty.1
    have hempty₁ : ∀ d ∈ pairs, heap₁[d.2]? = some (.ofStatement positions d.1) := by
      intro d hd
      rw [hfills.frame d.2 (hlt d hd), hempty.2 d hd]
      intro hmem
      have heq : d.2 = b.2 := by simpa using hmem
      exact hplaces.1 (heq ▸ List.mem_map_of_mem hd)
    obtain ⟨heap', hleads', hfills'⟩ := ih hstep.2 hempty₁ hplaces.2
    refine ⟨heap', hleads.trans hleads', hfills.cons hfills' ?_ ?_⟩
    · rw [hrow]
      intro p hp
      obtain ⟨d, hd, rfl⟩ := List.mem_map.1 hp
      exact hlt d hd
    · rw [hrow]
      exact hplaces.1

theorem Wired.toData_view (h : t.Wired) (hs : t.get? s.id = some s) :
    (t.view s).toData positions = .object (ownMembers positions s ++
      [("children", .array ((t.childStatements s).map fun c => (t.view c).toData positions))]) := by
  rw [h.view_eq hs, StatementView.toData, toDataAll_eq_map, List.map_map]
  rfl

/-- The object of a statement and all those below it are filled, and the stack is as it was. -/
theorem Wired.dataLoop_leads (h : t.Wired) (stack : List (Statement × Nat))
    (hs : t.get? s.id = some s) (hplace : heap[place]? = some (.ofStatement positions s)) :
    ∃ heap', (t.dataLoop id? positions).Leads ⟨heap, (s, place) :: stack⟩ ⟨heap', stack⟩ ∧
      Fills heap heap' [(place, (t.view s).toData positions)] := by
  induction h.descends hs generalizing heap place stack with
  | @step s hs _ ih =>
    let cs := t.childStatements s
    have hcs : ∀ c ∈ cs, t.get? c.id = some c := fun c hc => h.numbered.get?_child hc
    obtain ⟨heap₁, hfill, hopens⟩ :=
      exists_fill positions stack hcs (Array.getElem?_eq_some_iff.1 hplace).1
    rw [h.ids_childStatements hs] at hfill
    have hturn : (t.dataLoop id? positions).turn ⟨heap, (s, place) :: stack⟩ =
        .ok (some ⟨heap₁, (cs.zipIdx heap.size).reverse ++ stack⟩) := by
      change (t.fill positions place s.children ⟨heap, stack⟩).map some = _
      rw [hfill]
      rfl
    have hplaces : ((cs.zipIdx heap.size).reverse.map (·.2)).Nodup := by
      rw [List.map_reverse, List.zipIdx_map_snd, List.nodup_reverse]
      exact List.nodup_range'
    have hstep : ∀ b ∈ (cs.zipIdx heap.size).reverse, ∀ heap stack,
        heap[b.2]? = some (.ofStatement positions b.1) →
          ∃ heap', (t.dataLoop id? positions).Leads ⟨heap, b :: stack⟩ ⟨heap', stack⟩ ∧
            Fills heap heap' [(b.2, (t.view b.1).toData positions)] := by
      intro b hb heap stack hempty
      have hc : b.1 ∈ cs := List.fst_mem_of_mem_zipIdx (List.mem_reverse.1 hb)
      exact ih b.1 hc stack (hcs b.1 hc) hempty
    obtain ⟨heap', hleads, hfills⟩ := dataLoop_leads_row (fun c => (t.view c).toData positions)
      stack hstep (fun b hb => hopens.new b (List.mem_reverse.1 hb)) hplaces
    refine ⟨heap', .head hturn hleads, ?_⟩
    rw [h.toData_view hs]
    exact hopens.fills hplace hfills

/-- The loop comes to objects the first of which reads as the nested data, and is refused as the
lookup of the statement is. -/
theorem Wired.dataLoop_gives (h : t.Wired) :
    (∀ v, (∃ heap, (t.dataLoop id? positions).Gives (.ok heap) ∧ Shows heap 0 v) ↔
        t.toData id? positions = .ok v) ∧
      ∀ e, (t.dataLoop id? positions).Gives (.error e) ↔ t.toData id? positions = .error e := by
  unfold toData
  cases hs : t.start id? with
  | ok s =>
    obtain ⟨hstart, hget⟩ := startId_of_start h.numbered hs
    have hfirst : (t.dataLoop id? positions).start =
        .ok ⟨#[.ofStatement positions s], [(s, 0)]⟩ := by
      simp [dataLoop, hstart, get_eq_ok.2 hget, bind, Except.bind, pure, Except.pure]
    have hplace : (#[DataObject.ofStatement positions s])[0]? = some (.ofStatement positions s) :=
      rfl
    obtain ⟨heap, hleads, hfills⟩ := h.dataLoop_leads [] hget hplace
    have hgives : (t.dataLoop id? positions).Gives (.ok heap) :=
      .ran hfirst (hleads.ends (.done rfl))
    have hshows : Shows heap 0 ((t.view s).toData positions) :=
      hfills.shows heap (fun _ _ _ => rfl) _ (List.mem_singleton.2 rfl)
    constructor
    · intro v
      constructor
      · rintro ⟨heap', hgives', hshows'⟩
        cases hgives.unique hgives'
        exact congrArg Except.ok (hshows.unique hshows')
      · intro hv
        cases hv
        exact ⟨heap, hgives, hshows⟩
    · intro e
      rw [hgives.iff]
      exact ⟨nofun, nofun⟩
  | error e =>
    have hgives : (t.dataLoop id? positions).Gives (.error e) := by
      apply Loop.Gives.refused
      rcases startId_of_error hs with hstart | ⟨id, hstart, hget⟩
      · simp [dataLoop, hstart, bind, Except.bind]
      · simp [dataLoop, hstart, hget, bind, Except.bind]
    constructor
    · intro v
      constructor
      · rintro ⟨heap, hgives', -⟩
        cases hgives.unique hgives'
      · nofun
    · intro e'
      simp [hgives.iff, Except.map, eq_comm]

end StatementTree

mutual

def JsonValue.objects : JsonValue → List (List (String × JsonValue))
  | .array items => JsonValue.objectsOfAll items
  | .object members =>
    members.filter (·.1 ≠ "children") :: JsonValue.objectsOfMembers members
  | _ => []

def JsonValue.objectsOfAll : List JsonValue → List (List (String × JsonValue))
  | [] => []
  | v :: vs => v.objects ++ JsonValue.objectsOfAll vs

def JsonValue.objectsOfMembers : List (String × JsonValue) → List (List (String × JsonValue))
  | [] => []
  | (_, v) :: members => v.objects ++ JsonValue.objectsOfMembers members

end

theorem objectsOfMembers_append (ms ms' : List (String × JsonValue)) :
    JsonValue.objectsOfMembers (ms ++ ms') =
      JsonValue.objectsOfMembers ms ++ JsonValue.objectsOfMembers ms' := by
  induction ms with
  | nil => rfl
  | cons m ms ih =>
    rw [List.cons_append, JsonValue.objectsOfMembers, JsonValue.objectsOfMembers, ih,
      List.append_assoc]

theorem objects_ofOption (o : Option String) : (JsonValue.ofOption o).objects = [] := by
  cases o <;> rfl

/-- There are no objects among the members of a statement but for its children. -/
theorem ownMembers_flat (positions : Bool) (s : Statement) :
    (ownMembers positions s).filter (·.1 ≠ "children") = ownMembers positions s ∧
      JsonValue.objectsOfMembers (ownMembers positions s) = [] := by
  cases positions <;>
    simp [ownMembers, positionMembers, objects_ofOption, JsonValue.objectsOfMembers,
      JsonValue.objects]

mutual

theorem StatementView.objects_toData (positions : Bool) : (v : StatementView) →
    (v.toData positions).objects = v.preorder.map (ownMembers positions)
  | .mk s cs => by
    have hrow := objectsOfAll_toDataAll positions cs
    have hdata : (StatementView.mk s cs).toData positions = .object (ownMembers positions s ++
        [("children", .array (toDataAll positions cs))]) := by
      rw [toData]
      rfl
    rw [hdata, JsonValue.objects, objectsOfMembers_append, List.filter_append,
      (ownMembers_flat positions s).1, (ownMembers_flat positions s).2, preorder, List.map_cons,
      ← hrow]
    simp [JsonValue.objectsOfMembers, JsonValue.objects]

theorem StatementView.objectsOfAll_toDataAll (positions : Bool) : (row : List StatementView) →
    JsonValue.objectsOfAll (toDataAll positions row) =
      (preorderAll row).map (ownMembers positions)
  | [] => rfl
  | v :: row => by
    rw [toDataAll, JsonValue.objectsOfAll, preorderAll, List.map_append, v.objects_toData positions,
      objectsOfAll_toDataAll positions row]

end

end YangSchema
