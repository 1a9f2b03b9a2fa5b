import YangSchema.Proofs.Statement.Edit
import YangSchema.Statement.Parser

/-!
# Trees that there can be

A tree that was read has sound links, and so has whatever calls leave of it, refused ones among
them. So on every tree a call that is refused changes nothing, and a statement can be put below
another exactly if this is not walked through from it.
-/
namespace YangSchema
namespace StatementTree

variable {t t' : StatementTree} {s : Statement} {id parent : StatementId}
  {f g : Statement → Statement}

theorem Wired.setRoot (h : t.Wired) (root : Option Int) : (t.setRoot root).Wired :=
  ⟨h.numbered, h.sound⟩

theorem modify_congr (hs : t.get? id = some s) (hf : f s = g s) :
    t.modify id f = t.modify id g := by
  have hstatements : t.statements.modify id f = t.statements.modify id g := by
    refine Array.ext_getElem? fun i => ?_
    rw [Array.getElem?_modify, Array.getElem?_modify]
    split
    · next hi =>
      have hget : t.statements[i]? = some s := hi ▸ hs
      rw [hget, Option.map_some, Option.map_some, hf]
    · rfl
  rw [modify, modify, hstatements]

theorem Wired.climb_lt (h : t.Wired) {n : Nat} {i j : StatementId} (hi : i < t.size)
    (hup : t.links.climb n i = some j) : j < t.size := by
  induction n generalizing i with
  | zero => exact Option.some.inj hup ▸ hi
  | succ n ih =>
    obtain ⟨q, hq, hup⟩ := Option.bind_eq_some_iff.1 hup
    obtain ⟨p, hp, -⟩ := h.exists_parent hq
    exact ih (lt_size_of_get? hp) hup

/-- A statement that is added below another is a new one that is put behind the children. -/
theorem addBelow_eq (hs : t.get? parent = some s) (name : String) (position : Position)
    (qualifier argument : Option String) :
    t.addBelow parent name position qualifier argument =
      ((t.add name position qualifier argument).setChildren parent
        (s.children ++ [t.size])).setParent t.size (some parent) := by
  have hget := get?_add_of_get? hs name position qualifier argument
  have hrow : (t.add name position qualifier argument).modify parent
      (fun s => { s with children := s.children ++ [t.size] }) =
      (t.add name position qualifier argument).setChildren parent (s.children ++ [t.size]) :=
    modify_congr hget rfl
  exact congrArg (·.setParent t.size (some parent)) hrow

theorem Wired.addBelow (h : t.Wired) (hp : parent < t.size) (name : String) (position : Position)
    (qualifier argument : Option String) :
    (t.addBelow parent name position qualifier argument).Wired := by
  obtain ⟨p, hget⟩ : ∃ p, t.get? parent = some p := ⟨_, Array.getElem?_eq_getElem hp⟩
  have hnone : t.get? t.size = none := Array.getElem?_eq_none (Nat.le_refl _)
  have hlt : ∀ i ≤ t.size, i < (t.add name position qualifier argument).size := fun i hi => by
    rw [size_add]
    exact Nat.lt_succ_of_le hi
  rw [addBelow_eq hget]
  refine (h.add name position qualifier argument).setParent_setChildren (hlt _ hp.le)
    (hlt _ (Nat.le_refl _)) ?_
  rw [links_add]
  refine h.sound.attach (by simp [links, hnone]) (fun n hup => ?_) ?_
  · exact absurd (h.climb_lt hp hup) (Nat.lt_irrefl _)
  · rw [links_children hget]
    exact List.perm_append_singleton ..

theorem size_addBelow (t : StatementTree) (parent : StatementId) (name : String)
    (position : Position) (qualifier argument : Option String) :
    (t.addBelow parent name position qualifier argument).size = t.size + 1 := by
  simp [StatementTree.addBelow, add, modify, size, setParent]

theorem wired_of_readBlocks {settings : ParserSettings} {blocks : List Scan.OpenBlock}
    {c d : Cursor} (h : t.Wired) (hblocks : ∀ b ∈ blocks, b.id < t.size)
    (hread : Scan.readBlocks settings t blocks c = .ok t' d) : t'.Wired := by
  fun_induction Scan.readBlocks settings t blocks c with
  | case1 =>
    cases hread
    exact h
  | case2 => cases hread
  | case3 t c block outer hc u d hclose ih =>
    exact ih h (List.forall_mem_cons.1 hblocks).2 hread
  | case4 => cases hread
  | case5 t c block outer hc header opens d hchild child tree ih =>
    have hmem : ∀ b ∈ block :: outer, b.id < tree.size := fun b hb => by
      rw [size_addBelow]
      exact Nat.lt_succ_of_lt (hblocks b hb)
    refine ih (h.addBelow (List.forall_mem_cons.1 hblocks).1 ..) ?_ hread
    split
    · refine List.forall_mem_cons.2 ⟨?_, hmem⟩
      rw [size_addBelow]
      exact Nat.lt_succ_self _
    · exact hmem

theorem wired_of_parseStatement {text : String} {settings : ParserSettings} {p : Parsed}
    (h : parseStatement text settings = .ok p) : p.tree.Wired := by
  simp only [parseStatement] at h
  split at h
  · next tree stop hread =>
    cases h
    obtain ⟨_, c, -, hread⟩ := bind_eq_ok.1 hread
    obtain ⟨header, d, -, hread⟩ := bind_eq_ok.1 hread
    obtain ⟨opens, e, -, hread⟩ := bind_eq_ok.1 hread
    refine wired_of_readBlocks ?_ ?_ hread
    · exact ((wired_empty none).add ..).setRoot (some 0)
    · cases opens <;> simp [add, size]
  · cases h

/-- The trees that there can be: an empty one, one that was read, one whose root was set, and what
is left of a tree by a call that was carried out or refused. -/
inductive Reachable : StatementTree → Prop
  | empty : Reachable {}
  | parsed {text : String} {settings : ParserSettings} {p : Parsed}
      (h : parseStatement text settings = .ok p) : Reachable p.tree
  | setRoot {t : StatementTree} (h : Reachable t) (root : Option Int) : Reachable (t.setRoot root)
  | performed {t t' : StatementTree} {c : Call} (h : Reachable t)
      (hc : Edit.enact c t = .ok () t') : Reachable t'
  | refused {t t' : StatementTree} {c : Call} {f : TreeFault} (h : Reachable t)
      (hc : Edit.enact c t = .error f t') : Reachable t'

theorem Reachable.wired (h : Reachable t) : t.Wired := by
  induction h with
  | empty => exact wired_empty none
  | parsed h => exact wired_of_parseStatement h
  | setRoot _ root ih => exact ih.setRoot root
  | performed _ hc ih => exact ih.perform ((Edit.enact_eq_ok ih).1 hc)
  | refused _ hc ih => rwa [Edit.eq_of_enact_eq_error ih hc]

/-- A call that is carried out makes of a tree what its function gives, and whatever call is
refused, the tree is as it was. A statement is put below another exactly if both are there, it has
no parent, the other is not among the statements that are walked through from it, and the index is a
word. -/
theorem Reachable.refused_unchanged (h : Reachable t) :
    (∀ c t', Edit.enact c t = .ok () t' ↔ t.perform c = .ok t') ∧
      (∀ c f t', Edit.enact c t = .error f t' → t' = t) ∧
      ∀ parent index child : Int, (∃ t', Edit.insertChild parent index child t = .ok () t') ↔
        ∃ p c : StatementId, parent = p ∧ child = c ∧ t.contains p ∧
          (∃ s, t.get? c = some s ∧ s.parent = none) ∧
          (∀ row, t.walk (some c) = .ok row → ∀ s ∈ row, s.id ≠ p) ∧ Index.isWord index := by
  have hwired := h.wired
  refine ⟨fun c t' => Edit.enact_eq_ok hwired,
    fun c f t' hc => Edit.eq_of_enact_eq_error hwired hc, fun parent index child => ?_⟩
  constructor
  · rintro ⟨t', hok⟩
    cases parent with
    | negSucc n => cases hok
    | ofNat p =>
      cases child with
      | negSucc n =>
        obtain ⟨e, he⟩ := (Edit.exists_error_of_negSucc (t := t) (.ofNat p) index n).1
        rw [hok] at he
        cases he
      | ofNat c =>
        have hok := (Edit.enact_eq_ok (c := .insertChild p index c) hwired).1 hok
        obtain ⟨hp, ⟨s, hs, hnone, hbelow⟩, hindex⟩ := hwired.insertChild_ok_iff.1 ⟨t', hok⟩
        refine ⟨p, c, rfl, rfl, hp, ⟨s, hs, hnone⟩, fun row hrow r hr he => hbelow ?_, hindex⟩
        rw [walk_some hs] at hrow
        cases hrow
        exact he ▸ List.mem_map_of_mem hr
  · rintro ⟨p, c, rfl, rfl, hp, ⟨s, hs, hnone⟩, hbelow, hindex⟩
    have hnot : p ∉ t.below s := fun hmem => by
      obtain ⟨r, hr, he⟩ := List.mem_map.1 hmem
      exact hbelow _ (walk_some hs) r hr he
    obtain ⟨t', hok⟩ := hwired.insertChild_ok_iff.2 ⟨hp, ⟨s, hs, hnone, hnot⟩, hindex⟩
    exact ⟨t', by rw [Edit.insertChild_eq hwired.numbered, hok]; rfl⟩

def unlinkedPair : StatementTree :=
  (({} : StatementTree).add "a" ⟨1, 1⟩ none none).add "b" ⟨1, 1⟩ none none

theorem reachable_unlinkedPair : Reachable unlinkedPair :=
  .performed (c := .add "b" ⟨1, 1⟩ none none)
    (.performed (c := .add "a" ⟨1, 1⟩ none none) .empty rfl) rfl

theorem unlinkedPair_unchanged :
    Reachable unlinkedPair ∧
      (∀ c t', Edit.enact c unlinkedPair = .ok () t' ↔ unlinkedPair.perform c = .ok t') ∧
      (∀ c f t', Edit.enact c unlinkedPair = .error f t' → t' = unlinkedPair) ∧
      ∀ parent index child : Int,
        (∃ t', Edit.insertChild parent index child unlinkedPair = .ok () t') ↔
          ∃ p c : StatementId, parent = p ∧ child = c ∧ unlinkedPair.contains p ∧
            (∃ s, unlinkedPair.get? c = some s ∧ s.parent = none) ∧
            (∀ row, unlinkedPair.walk (some c) = .ok row → ∀ s ∈ row, s.id ≠ p) ∧
            Index.isWord index :=
  ⟨reachable_unlinkedPair, reachable_unlinkedPair.refused_unchanged⟩

/-- At an index that is no word nothing is inserted, though nothing else is in the way. -/
theorem not_inserted_beyond_words :
    Reachable unlinkedPair ∧
      (unlinkedPair.contains 0 ∧ (∃ s, unlinkedPair.get? 1 = some s ∧ s.parent = none) ∧
        ∀ row, unlinkedPair.walk (some 1) = .ok row → ∀ s ∈ row, s.id ≠ 0) ∧
      ¬ ∃ t', Edit.insertChild 0 9223372036854775808 1 unlinkedPair = .ok () t' := by
  refine ⟨reachable_unlinkedPair, ⟨by decide, ⟨_, rfl, rfl⟩, ?_⟩, ?_⟩
  · intro row hrow
    cases hrow
    decide
  · rintro ⟨t', hok⟩
    cases hok

end StatementTree
end YangSchema
