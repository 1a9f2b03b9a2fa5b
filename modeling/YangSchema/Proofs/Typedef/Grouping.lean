import Mathlib.Data.List.Induction
import YangSchema.Typedef.Substatement

/-!
# Accepted sub-statements

What becomes of the children of a statement: of a keyword that may stand once the first one is
kept, of one that may be repeated all are, and of an unknown one none. If nothing is reported, then
nothing was left out that has no qualifier.
-/
namespace YangSchema

namespace StatementTree

/-- What the children with a keyword say: there is none, or there is one with this argument. -/
def Writes (tree : StatementTree) (s : Statement) (keyword : String) (text? : Option String) :
    Prop :=
  (tree.childrenNamed s keyword).map (·.argument) = text?.toList.map some

end StatementTree

namespace Substatements

variable {allowed : List Allowed} {children : List Statement} {s : Substatements}
  {c q : Statement} {k : String} {a : Allowed}

inductive Taken (allowed : List Allowed) (s : Substatements) (c : Statement) : Substatements → Prop
  | passedOver (hq : c.qualifier.isSome) : Taken allowed s c s
  | unknown (hq : c.qualifier = none) (hk : allowed.find? (·.keyword = c.name) = none) :
    Taken allowed s c { s with errors := s.errors ++ [.unexpectedStatement c] }
  | repeated {a : Allowed} (hq : c.qualifier = none)
    (hk : allowed.find? (·.keyword = c.name) = some a) (hmany : a.many = false)
    (hs : s.named c.name ≠ []) :
    Taken allowed s c { s with errors := s.errors ++ [.tooManyInstances c] }
  | accepted {a : Allowed} (hq : c.qualifier = none)
    (hk : allowed.find? (·.keyword = c.name) = some a)
    (hs : a.many = false → s.named c.name = []) :
    Taken allowed s c { s with accepted := s.accepted ++ [c] }

theorem taken (allowed : List Allowed) (s : Substatements) (c : Statement) :
    Taken allowed s c (take allowed s c) := by
  unfold take
  split
  · next hq => exact .passedOver hq
  next hq =>
  have hq : c.qualifier = none := by simpa using hq
  split
  · next hk => exact .unknown hq hk
  next a hk =>
  split
  · next hrepeated =>
    obtain ⟨hmany, hs⟩ : a.many = false ∧ s.named c.name ≠ [] := by simpa using hrepeated
    exact .repeated hq hk hmany hs
  · next hfirst =>
    refine .accepted hq hk fun hmany => ?_
    simpa [hmany] using hfirst

theorem of_concat (allowed : List Allowed) (children : List Statement) (c : Statement) :
    of allowed (children ++ [c]) = take allowed (of allowed children) c := by
  rw [of, of, List.foldl_append, List.foldl_cons, List.foldl_nil]

theorem taken_concat (allowed : List Allowed) (children : List Statement) (c : Statement) :
    Taken allowed (of allowed children) c (of allowed (children ++ [c])) := by
  rw [of_concat]
  exact taken allowed _ c

def row (children : List Statement) (k : String) : List Statement :=
  children.filter fun c => c.name = k && c.qualifier = none

def kept (allowed : List Allowed) (children : List Statement) (k : String) : List Statement :=
  match allowed.find? (·.keyword = k) with
  | none => []
  | some a => if a.many then row children k else (row children k).take 1

theorem mem_row : q ∈ row children k ↔ q ∈ children ∧ q.name = k ∧ q.qualifier = none := by
  simp [row]

theorem row_concat (children : List Statement) (c : Statement) (k : String) :
    row (children ++ [c]) k =
      row children k ++ if c.name = k ∧ c.qualifier = none then [c] else [] := by
  rw [row, row, List.filter_append]
  congr 1
  by_cases h : c.name = k ∧ c.qualifier = none <;> simp [h]

theorem row_concat_of_qualified (h : c.qualifier.isSome) (k : String) :
    row (children ++ [c]) k = row children k := by
  obtain ⟨_, hq⟩ := Option.isSome_iff_exists.1 h
  rw [row_concat, if_neg (by simp [hq]), List.append_nil]

theorem row_concat_self (h : c.qualifier = none) :
    row (children ++ [c]) c.name = row children c.name ++ [c] := by
  rw [row_concat, if_pos ⟨rfl, h⟩]

theorem row_concat_ne (h : c.name ≠ k) : row (children ++ [c]) k = row children k := by
  rw [row_concat, if_neg fun hk => h hk.1, List.append_nil]

theorem kept_congr (h : row children k = row (children ++ [c]) k) :
    kept allowed children k = kept allowed (children ++ [c]) k := by
  rw [kept, kept, h]

theorem named_accept (s : Substatements) (c : Statement) (k : String) :
    named { s with accepted := s.accepted ++ [c] } k =
      s.named k ++ if c.name = k then [c] else [] := by
  rw [named, named, List.filter_append]
  congr 1
  by_cases hk : c.name = k <;> simp [hk]

/-- The accepted statements of a keyword. -/
theorem named_of (allowed : List Allowed) (children : List Statement) (k : String) :
    (of allowed children).named k = kept allowed children k := by
  induction children using List.reverseRecOn generalizing k with
  | nil =>
    unfold kept
    split
    · rfl
    · split <;> rfl
  | append_singleton children c ih =>
    have htaken := taken_concat allowed children c
    generalize of allowed (children ++ [c]) = after at htaken
    cases htaken with
    | passedOver hq => rw [ih, kept_congr (row_concat_of_qualified hq k).symm]
    | unknown hq hk =>
      change (of allowed children).named k = _
      by_cases hc : c.name = k
      · subst hc
        rw [ih, kept, kept, hk]
      · rw [ih, kept_congr (row_concat_ne hc).symm]
    | repeated hq hk hmany hs =>
      change (of allowed children).named k = _
      by_cases hc : c.name = k
      · subst hc
        simp only [ih, kept, hk, hmany, row_concat_self hq] at hs ⊢
        cases hrow : row children c.name with
        | nil => simp [hrow] at hs
        | cons d rest => rfl
      · rw [ih, kept_congr (row_concat_ne hc).symm]
    | @accepted a hq hk hs =>
      rw [named_accept, ih]
      by_cases hc : c.name = k
      · subst hc
        simp only [ih, kept, hk, row_concat_self hq, if_true] at hs ⊢
        cases hmany : a.many with
        | true => rfl
        | false =>
          have hrow : row children c.name = [] := by simpa [hmany] using hs hmany
          simp [hrow]
      · rw [if_neg hc, List.append_nil, kept_congr (row_concat_ne hc).symm]

theorem mem_of_named (h : q ∈ (of allowed children).named k) : q ∈ row children k := by
  rw [named_of, kept] at h
  split at h
  · cases h
  · split at h
    · exact h
    · exact List.mem_of_mem_take h

/-- What is reported are children that are unknown or repeated. -/
theorem exists_of_mem_errors {e : SchemaError} (h : e ∈ (of allowed children).errors) :
    ∃ c ∈ children, e = .unexpectedStatement c ∨ e = .tooManyInstances c := by
  induction children using List.reverseRecOn with
  | nil => cases h
  | append_singleton children c ih =>
    have hbefore (h : e ∈ (of allowed children).errors) : ∃ c' ∈ children ++ [c],
        e = .unexpectedStatement c' ∨ e = .tooManyInstances c' := by
      obtain ⟨c', hc', he⟩ := ih h
      exact ⟨c', List.mem_append_left _ hc', he⟩
    have hlast : c ∈ children ++ [c] := by simp
    have htaken := taken_concat allowed children c
    generalize of allowed (children ++ [c]) = after at htaken h
    cases htaken with
    | passedOver => exact hbefore h
    | unknown =>
      rcases List.mem_append.1 h with h | h
      · exact hbefore h
      · exact ⟨c, hlast, .inl (List.mem_singleton.1 h)⟩
    | repeated =>
      rcases List.mem_append.1 h with h | h
      · exact hbefore h
      · exact ⟨c, hlast, .inr (List.mem_singleton.1 h)⟩
    | accepted => exact hbefore h

/-- If nothing is reported, every child is known or belongs to an extension, and what may stand once
does not stand twice. -/
theorem complete_of (h : (of allowed children).errors = []) :
    (∀ c ∈ children, c.qualifier = none → (allowed.find? (·.keyword = c.name)).isSome) ∧
      ∀ k a, allowed.find? (·.keyword = k) = some a → a.many = false →
        (row children k).length ≤ 1 := by
  induction children using List.reverseRecOn with
  | nil => exact ⟨by simp, by simp [row]⟩
  | append_singleton children c ih =>
    have htaken := taken_concat allowed children c
    generalize of allowed (children ++ [c]) = after at htaken h
    cases htaken with
    | passedOver hq =>
      obtain ⟨hknown, honce⟩ := ih h
      constructor
      · intro d hd hnone
        rcases List.mem_append.1 hd with hd | hd
        · exact hknown d hd hnone
        · rw [List.mem_singleton.1 hd] at hnone
          simp [hnone] at hq
      · intro k a hk ha
        rw [row_concat_of_qualified hq]
        exact honce k a hk ha
    | unknown => simp at h
    | repeated => simp at h
    | accepted hq hk hs =>
      obtain ⟨hknown, honce⟩ := ih h
      constructor
      · intro d hd hnone
        rcases List.mem_append.1 hd with hd | hd
        · exact hknown d hd hnone
        · rw [List.mem_singleton.1 hd, hk]
          rfl
      · intro k a' hk' ha'
        by_cases hc : c.name = k
        · subst hc
          rw [hk] at hk'
          cases hk'
          have hnil := hs ha'
          simp only [named_of, kept, hk, ha'] at hnil
          have hrow : row children c.name = [] := by simpa using hnil
          simp [row_concat_self hq, hrow]
        · rw [row_concat_ne hc]
          exact honce k a' hk' ha'

/-- If nothing is reported, all children with a known keyword are accepted. -/
theorem named_eq_row (h : (of allowed children).errors = [])
    (ha : allowed.find? (·.keyword = k) = some a) :
    (of allowed children).named k = row children k := by
  rw [named_of, kept, ha]
  dsimp only
  split
  · rfl
  · next hmany =>
    exact List.take_of_length_le ((complete_of h).2 k a ha (by simpa using hmany))

end Substatements
end YangSchema
