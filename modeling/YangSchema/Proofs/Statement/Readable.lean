import YangSchema.Proofs.Lexer.Recognition
import YangSchema.Proofs.Statement.Stack

/-!
# What the grammar reads

The names in a syntax tree that was read are names of the policy, and its arguments are settled.
-/
namespace YangSchema

structure Header.Readable (policy : IdentifierPolicy) (h : Header) : Prop where
  name : Scan.IsName policy h.name.toList
  qualifier : ∀ q, h.qualifier = some q → Scan.IsName policy q.toList
  argument : ∀ a, h.argument = some a → Dedent.Settled a.toList

namespace SyntaxTree

mutual

def Readable (policy : IdentifierPolicy) : SyntaxTree → Prop
  | node h block => h.Readable policy ∧ AllReadable policy block

def AllReadable (policy : IdentifierPolicy) : List SyntaxTree → Prop
  | [] => True
  | s :: r => Readable policy s ∧ AllReadable policy r

end

end SyntaxTree

namespace Grammar
open SyntaxTree

variable {settings : ParserSettings}

theorem isName_of_readKeyword {policy : IdentifierPolicy} {c d : Cursor} {q : Option String}
    {name : String} (h : Scan.readKeyword policy c = .ok (q, name) d) :
    Scan.IsName policy name.toList ∧ ∀ p, q = some p → Scan.IsName policy p.toList := by
  unfold Scan.readKeyword at h
  simp only [bind_eq_ok, Scan.current?_eq_ok] at h
  obtain ⟨first, _, h₁, _, _, ⟨rfl, rfl⟩, h⟩ := h
  have hfirst := Scan.isName_of_readIdentifier h₁
  split at h
  · simp only [bind_eq_ok, pure_eq_ok] at h
    obtain ⟨_, _, _, second, _, h₂, he, _⟩ := h
    cases he
    refine ⟨Scan.isName_of_readIdentifier h₂, ?_⟩
    intro p hp
    cases hp
    exact hfirst
  · rw [pure_eq_ok] at h
    cases h.1
    exact ⟨hfirst, by simp⟩

theorem settled_of_readArgument? {c d : Cursor} {a : Option String}
    (h : Scan.readArgument? settings c = .ok a d) (value : String) (hv : a = some value) :
    Dedent.Settled value.toList := by
  subst hv
  unfold Scan.readArgument? at h
  split at h
  · simp at h
  · simp at h
  · split at h
    · simp at h
    · simp at h
    · next hr =>
      cases h
      exact Scan.settled_of_readString? hr

theorem readable_of_header {c d : Cursor} {h : Header} (hh : header settings c = .ok h d) :
    h.Readable settings.identifierPolicy := by
  rw [header_eq_readHeader] at hh
  unfold Scan.readHeader at hh
  simp only [bind_eq_ok, get_eq_ok, pure_eq_ok] at hh
  obtain ⟨_, _, ⟨rfl, rfl⟩, ⟨q, name⟩, _, hk, a, _, ha, _, _, _, rfl, _⟩ := hh
  obtain ⟨hn, hq⟩ := isName_of_readKeyword hk
  exact ⟨hn, hq, settled_of_readArgument? ha⟩

mutual

theorem readable_of_statement {c d : Cursor} {s : SyntaxTree}
    (hs : (statement settings c).outcome = .ok s d) : s.Readable settings.identifierPolicy := by
  cases hh : header settings c with
  | error e f =>
    rw [statement_of_header_error hh] at hs
    simp at hs
  | ok h f =>
    have hf : f.rest.length < c.rest.length := (leading settings c).forward hh
    have hr := readable_of_header hh
    by_cases hm : f.current? = some ';'
    · obtain ⟨_, hrest⟩ := Scan.exists_rest_of_current? hm
      rw [statement_of_semicolon hh hrest, map_apply] at hs
      split at hs
      · cases hs
        exact ⟨hr, trivial⟩
      · simp at hs
    · by_cases hb : f.current? = some '\x7b'
      · obtain ⟨_, hrest⟩ := Scan.exists_rest_of_current? hb
        rw [statement_of_brace hh hrest] at hs
        split at hs
        · next g hp =>
          have hg := Scan.length_lt_of_pass (by simp [hrest]) hp
          obtain ⟨row, hrow, rfl⟩ := exists_of_map_ok hs
          exact ⟨hr, readable_of_block hrow⟩
        · simp at hs
      · rw [statement_of_no_mark hh hm hb] at hs
        simp at hs
termination_by (c.rest.length, 0)

theorem readable_of_block {keyword : String} {c d : Cursor} {row : List SyntaxTree}
    (hs : (block settings keyword c).outcome = .ok row d) :
    AllReadable settings.identifierPolicy row := by
  cases hc : c.current?.any (Shape.mayStart settings.identifierPolicy) with
  | true =>
    rw [block_of_statement hc] at hs
    split at hs
    · next s f hs₁ =>
      have hf := (statement settings c).forward hs₁
      obtain ⟨r, hr, rfl⟩ := exists_of_map_ok hs
      exact ⟨readable_of_statement hs₁, readable_of_block hr⟩
    · simp at hs
  | false =>
    by_cases hb : c.current? = some '\x7d'
    · obtain ⟨_, hrest⟩ := Scan.exists_rest_of_current? hb
      rw [block_of_brace hc hrest, map_apply] at hs
      split at hs
      · cases hs
        trivial
      · simp at hs
    · rw [block_of_neither hc hb] at hs
      simp at hs
termination_by (c.rest.length, 1)

end

end Grammar
end YangSchema
