import YangSchema.Proofs.Lexer.Room
import YangSchema.Proofs.Text.Lines

/-!
# Moving a string with its lines

A string that is moved to the right together with its lines keeps its value: so many spaces behind
each line end, whichever kind it is, are what so many more columns before the string strip.
-/
namespace YangSchema
open Text

namespace Text.Line
open Dedent

variable {c : Char} {r s first : List Char} {others : List (List Char)}

/-- A text with so many spaces behind each of its line ends, which are a line feed, a carriage
return, and the two together. -/
def indent (k : Nat) : List Char → List Char
  | [] => []
  | c :: r =>
    if Cursor.endsLine c r then c :: (List.replicate k ' ' ++ indent k r) else c :: indent k r

theorem indent_cons_of_endsLine (h : Cursor.endsLine c r = true) (k : Nat) :
    indent k (c :: r) = c :: (List.replicate k ' ' ++ indent k r) := by
  rw [indent, if_pos h]

theorem indent_cons_of_not_endsLine (h : ¬ Cursor.endsLine c r = true) (k : Nat) :
    indent k (c :: r) = c :: indent k r := by
  rw [indent, if_neg h]

theorem head?_indent (k : Nat) (s : List Char) : (indent k s).head? = s.head? := by
  fun_cases indent k s <;> rfl

/-- A line end before spaces is a line end. -/
theorem endsLine_spaces_append (h : Cursor.endsLine c s = true) (k : Nat) :
    Cursor.endsLine c (List.replicate k ' ' ++ s) = true := by
  cases k with
  | zero => exact h
  | succ k =>
    have hc : c = '\n' ∨ c = '\r' ∧ s.head? ≠ some '\n' := by simpa [Cursor.endsLine] using h
    obtain rfl | ⟨rfl, -⟩ := hc <;> rfl

theorem cut_return_of_feed (h : r.head? = some '\n') : cut ('\r' :: r) = cut r := by
  obtain ⟨t, rfl⟩ : ∃ t, r = '\n' :: t := ⟨r.tail, (List.cons_head?_tail h).symm⟩
  rw [cut_return_feed, cut_of_endsLine rfl]

theorem cut_spaces_append (h : cut s = first :: others) (k : Nat) :
    cut (List.replicate k ' ' ++ s) = (List.replicate k ' ' ++ first) :: others := by
  induction k with
  | zero => exact h
  | succ k ih =>
    rw [List.replicate_succ, List.cons_append, cut_cons (by decide) (by decide), ih]
    rfl

/-- The spaces stand before each line but the first. -/
theorem cut_indent (h : cut s = first :: others) (k : Nat) :
    cut (indent k s) = first :: others.map (List.replicate k ' ' ++ ·) := by
  induction s generalizing first others with
  | nil =>
    cases h
    rfl
  | cons c r ih =>
    obtain ⟨l, tail, hcut⟩ := List.exists_cons_of_ne_nil (cut_ne_nil r)
    by_cases hend : Cursor.endsLine c r = true
    · rw [cut_of_endsLine hend, hcut, List.cons.injEq] at h
      obtain ⟨rfl, rfl⟩ := h
      have hends : Cursor.endsLine c (indent k r) = true := by
        rwa [Cursor.endsLine, head?_indent]
      rw [indent_cons_of_endsLine hend, cut_of_endsLine (endsLine_spaces_append hends k),
        cut_spaces_append (ih hcut), List.map_cons]
    · rw [indent_cons_of_not_endsLine hend]
      by_cases hreturn : c = '\r'
      · -- The line feed behind the carriage return ends the line.
        subst hreturn
        have hfeed : r.head? = some '\n' := by simpa [Cursor.endsLine] using hend
        rw [cut_return_of_feed hfeed] at h
        rw [cut_return_of_feed (by rw [head?_indent, hfeed]), ih h]
      · have hfeed : c ≠ '\n' := by
          rintro rfl
          exact hend rfl
        rw [cut_cons hfeed hreturn, hcut, List.modifyHead_cons, List.cons.injEq] at h
        obtain ⟨rfl, rfl⟩ := h
        rw [cut_cons hfeed hreturn, ih hcut, List.modifyHead_cons]

/-- A text that is one line has no line end to indent behind. -/
theorem indent_eq_self (h : (cut s).length = 1) (k : Nat) : indent k s = s := by
  induction s with
  | nil => rfl
  | cons c r ih =>
    have hne := List.length_pos_iff.2 (cut_ne_nil r)
    by_cases hend : Cursor.endsLine c r = true
    · rw [cut_of_endsLine hend, List.length_cons] at h
      omega
    · rw [indent_cons_of_not_endsLine hend, ih]
      by_cases hreturn : c = '\r'
      · subst hreturn
        rwa [cut_return_of_feed (by simpa [Cursor.endsLine] using hend)] at h
      · have hfeed : c ≠ '\n' := by
          rintro rfl
          exact hend rfl
        rwa [cut_cons hfeed hreturn, List.length_modifyHead] at h

end Text.Line

namespace Dedent
open Unicode

theorem indentWidth_spaces_append (tabWidth : Int) (k : Nat) (lead : List Char) :
    indentWidth tabWidth (List.replicate k ' ' ++ lead) = k + indentWidth tabWidth lead := by
  have hcount : (List.replicate k ' ').count '\t' = 0 := by simp [List.count_replicate]
  rw [indentWidth, indentWidth, List.count_append, hcount, List.length_append,
    List.length_replicate]
  push_cast
  rw [Int.zero_add, Int.add_assoc]

theorem trimStart_eq_self {line : List Char} (h : line.takeWhile isBlank = []) :
    trimStart line = line := by
  rw [← List.nil_append (trimStart line), ← h]
  exact List.takeWhile_append_dropWhile

/-- So many more spaces are stripped at so many more columns. A line that had no lead has one now,
which is no wider than the column. -/
theorem stripLead_spaces_append (column k : Nat) (tabWidth : Int) (line : List Char) :
    stripLead (column + k) tabWidth (List.replicate k ' ' ++ line) =
      stripLead column tabWidth line := by
  cases k with
  | zero => simp
  | succ k =>
    have hlead : (List.replicate (k + 1) ' ' ++ line).takeWhile isBlank =
        List.replicate (k + 1) ' ' ++ line.takeWhile isBlank :=
      List.takeWhile_append_of_pos (by simp [isBlank_space])
    have hrest : trimStart (List.replicate (k + 1) ' ' ++ line) = trimStart line :=
      List.dropWhile_append_of_pos (by simp [isBlank_space])
    rw [stripLead_of_blank (by rw [hlead]; simp), hlead, hrest, indentWidth_spaces_append]
    by_cases hblank : line.takeWhile isBlank = []
    · have hnone :
          ((k + 1 : Nat) + indentWidth tabWidth [] - (column + (k + 1 : Nat))).toNat = 0 := by
        simp only [indentWidth, List.length_nil, List.count_nil]
        omega
      rw [stripLead_of_not_blank hblank, trimStart_eq_self hblank, hblank, hnone]
      rfl
    · rw [stripLead_of_blank hblank, Int.add_comm column, Int.add_sub_add_left]

/-- Trimming takes the spaces of a blank line with it. -/
theorem trimEnd_spaces_append (k : Nat) (line : List Char) :
    trimEnd (List.replicate k ' ' ++ line) =
      if trimEnd line = [] then [] else List.replicate k ' ' ++ trimEnd line := by
  have hspaces : (List.replicate k ' ').dropWhile isBlank = [] :=
    List.dropWhile_eq_nil_iff.2 (by simp [isBlank_space])
  rw [trimEnd, trimEnd, List.reverse_append, List.reverse_replicate, List.dropWhile_append, hspaces]
  cases line.reverse.dropWhile isBlank with
  | nil => rfl
  | cons c r => simp

theorem stripLead_trimEnd_spaces_append (column k : Nat) (tabWidth : Int) (line : List Char) :
    stripLead (column + k) tabWidth (trimEnd (List.replicate k ' ' ++ line)) =
      stripLead column tabWidth (trimEnd line) := by
  rw [trimEnd_spaces_append]
  split
  · next h =>
    rw [h]
    rfl
  · exact stripLead_spaces_append column k tabWidth _

/-- So many more spaces fit at so many more columns. -/
theorem fits_spaces_append (column k : Nat) (tabWidth : Int) (line : List Char) :
    fits (column + k) tabWidth (List.replicate k ' ' ++ line) = fits column tabWidth line := by
  have hlead : (List.replicate k ' ' ++ line).takeWhile isBlank =
      List.replicate k ' ' ++ line.takeWhile isBlank :=
    List.takeWhile_append_of_pos (by simp [isBlank_space])
  rw [Bool.eq_iff_iff, fits_iff, fits_iff, hlead, indentWidth_spaces_append, List.length_append,
    List.length_replicate, List.append_eq_nil_iff, List.replicate_eq_nil_iff]
  by_cases hblank : line.takeWhile isBlank = []
  · simp only [hblank, indentWidth, List.length_nil, List.count_nil]
    omega
  · simp only [hblank, and_false, false_or]
    omega

theorem fits_trimEnd_spaces_append (column k : Nat) (tabWidth : Int) (line : List Char) :
    fits (column + k) tabWidth (trimEnd (List.replicate k ' ' ++ line)) =
      fits column tabWidth (trimEnd line) := by
  rw [trimEnd_spaces_append]
  split
  · next h =>
    rw [h, fits_of_not_blank rfl, fits_of_not_blank rfl]
  · exact fits_spaces_append column k tabWidth _

/-- A string that is moved so many columns to the right, and its lines with it, keeps its value, or
there is no room for what stays of its leads before and after. -/
theorem strip_indent (value : List Char) (column k : Nat) (tabWidth : Int) :
    strip? (Line.indent k value) (column + k) tabWidth = strip? value column tabWidth := by
  by_cases hone : (Line.cut value).length = 1
  · rw [Line.indent_eq_self hone, strip?_of_allFit (allFit_of_one_line hone _ _),
      strip?_of_allFit (allFit_of_one_line hone _ _), strip, strip, if_pos hone, if_pos hone]
  · obtain ⟨first, between, last, hcut⟩ := exists_of_cut_length_ne_one hone
    have hindented : Line.cut (Line.indent k value) =
        first :: (between.map (List.replicate k ' ' ++ ·) ++ [List.replicate k ' ' ++ last]) := by
      rw [Line.cut_indent hcut, List.map_append, List.map_singleton]
    have hfit : allFit (Line.indent k value) (column + k) tabWidth =
        allFit value column tabWidth := by
      rw [allFit_of_lines hindented, allFit_of_lines hcut, fits_spaces_append, List.all_map]
      congr 2
      exact funext fun line => fits_trimEnd_spaces_append column k tabWidth line
    have hvalue : strip (Line.indent k value) (column + k) tabWidth =
        strip value column tabWidth := by
      rw [strip_of_lines hindented, strip_of_lines hcut, List.map_map, stripLead_spaces_append]
      congr 3
      refine List.map_congr_left fun line _ => ?_
      exact stripLead_trimEnd_spaces_append column k tabWidth line
    rw [strip?, strip?, hfit, hvalue]

end Dedent
end YangSchema
