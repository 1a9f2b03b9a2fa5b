import YangSchema.Proofs.Lexer.Layout

/-!
# Room for what stripping leaves

What stays of the lead of a line are spaces, and there are strings with so many only if a tab counts
for few enough columns. A lead of spaces alone always fits, and so does any lead of a text that is
short beside the width of a tab. Which leads a text has does not depend on its empty lines.
-/
namespace YangSchema.Dedent
open Text Unicode

variable {column tabWidth : Int} {line value stripped : List Char}

theorem fits_iff : fits column tabWidth line = true ↔ line.takeWhile isBlank = [] ∨
    indentWidth tabWidth (line.takeWhile isBlank) - column < lengthLimit ∨
      0 ≤ column ∧ indentWidth tabWidth (line.takeWhile isBlank) ≤
        (line.takeWhile isBlank).length := by
  simp [fits, lead_eq_takeWhile, or_assoc]

theorem fits_of_not_blank (h : line.takeWhile isBlank = []) : fits column tabWidth line = true :=
  fits_iff.2 (.inl h)

theorem fits_of_spaces (hc : 0 ≤ column) (h : ∀ c ∈ line.takeWhile isBlank, c = ' ') :
    fits column tabWidth line = true := by
  refine fits_iff.2 (.inr (.inr ⟨hc, Int.le_of_eq ?_⟩))
  rw [takeWhile_eq_replicate h, indentWidth_replicate, List.length_replicate]

/-- A lead is no wider than it has characters, or than so many tabs. -/
theorem indentWidth_le (tabWidth : Int) (lead : List Char) :
    indentWidth tabWidth lead ≤ lead.length ∨
      indentWidth tabWidth lead ≤ tabWidth * lead.length := by
  have hcount : (lead.count '\t' : Int) ≤ lead.length := by exact_mod_cast List.count_le_length
  unfold indentWidth
  by_cases htab : tabWidth ≤ 1
  · left
    have := Int.mul_nonpos_of_nonpos_of_nonneg (show tabWidth - 1 ≤ 0 by omega)
      (Int.natCast_nonneg (lead.count '\t'))
    omega
  · right
    have := Int.mul_le_mul_of_nonneg_left hcount (show 0 ≤ tabWidth - 1 by omega)
    rw [Int.sub_mul tabWidth 1 lead.length] at this
    omega

theorem mul_lt_of_le {m n : Nat} (hmn : m ≤ n) (h : tabWidth * n < lengthLimit) :
    tabWidth * m < lengthLimit := by
  obtain htab | htab := Int.le_total 0 tabWidth
  · exact Int.lt_of_le_of_lt (Int.mul_le_mul_of_nonneg_left (by exact_mod_cast hmn) htab) h
  · have := Int.mul_nonpos_of_nonpos_of_nonneg htab (Int.natCast_nonneg m)
    have : 0 < lengthLimit := by decide
    omega

def inLead (c : Char) : Bool :=
  isBlank c && c ≠ '\n' && c ≠ '\r'

theorem inLead_iff {c : Char} : inLead c = true ↔ isBlank c = true ∧ c ≠ '\n' ∧ c ≠ '\r' := by
  simp [inLead, and_assoc]

theorem sublist_of_mem_cut {s : List Char} (h : line ∈ Line.cut s) : line.Sublist s := by
  fun_induction Line.cut s generalizing line with
  | case1 => simp_all
  | case2 r ih =>
    obtain rfl | h := List.mem_cons.1 h
    · exact List.nil_sublist _
    · exact ((ih h).cons _).cons _
  | case3 c r _ _ ih =>
    obtain rfl | h := List.mem_cons.1 h
    · exact List.nil_sublist _
    · exact (ih h).cons _
  | case4 c r _ _ ih =>
    cases hr : Line.cut r with
    | nil => exact absurd hr (cut_ne_nil r)
    | cons l ls =>
      rw [hr] at ih h
      obtain rfl | h := List.mem_cons.1 h
      · exact (ih (List.mem_cons_self ..)).cons_cons _
      · exact (ih (List.mem_cons_of_mem l h)).cons _

theorem strip?_eq_some : strip? value column tabWidth = some stripped ↔
    allFit value column tabWidth = true ∧ strip value column tabWidth = stripped := by
  simp [strip?]

theorem strip?_of_allFit (h : allFit value column tabWidth = true) :
    strip? value column tabWidth = some (strip value column tabWidth) :=
  if_pos h

theorem settled_of_strip? (h : strip? value column tabWidth = some stripped) : Settled stripped :=
  (strip?_eq_some.1 h).2 ▸ settled_strip value column tabWidth

theorem allFit_of_one_line (h : (Line.cut value).length = 1) (column tabWidth : Int) :
    allFit value column tabWidth = true := by
  obtain ⟨line, hline⟩ := List.length_eq_one_iff.1 h
  rw [allFit, hline]
  rfl

theorem allFit_of_lines {first last : List Char} {between : List (List Char)}
    (h : Line.cut value = first :: (between ++ [last])) (column tabWidth : Int) :
    allFit value column tabWidth =
      (between.all (fits column tabWidth ∘ trimEnd) && fits column tabWidth last) := by
  rw [allFit, h, ← List.cons_append, trimEnds_append_singleton]
  simp

/-- Trimming leaves each line as it was or without its blank end. -/
theorem exists_of_mem_tail_trimEnds {lines : List (List Char)} (h : line ∈ (trimEnds lines).tail) :
    ∃ l ∈ lines.tail, line <+: l := by
  cases lines using List.reverseRecOn with
  | nil => cases h
  | append_singleton first last =>
    rw [trimEnds_append_singleton] at h
    cases first with
    | nil => cases h
    | cons l between =>
      obtain h | h := List.mem_append.1 h
      · obtain ⟨m, hm, rfl⟩ := List.mem_map.1 h
        exact ⟨m, List.mem_append_left _ hm, List.rdropWhile_prefix isBlank m⟩
      · exact ⟨line, List.mem_append_right _ h, List.prefix_rfl⟩

theorem isPrefix_takeWhile {l : List Char} (p : Char → Bool) (h : line <+: l) :
    line.takeWhile p <+: l.takeWhile p := by
  obtain ⟨t, rfl⟩ := h
  rw [List.takeWhile_append]
  split
  · exact (List.takeWhile_prefix p).trans (List.prefix_append line _)
  · exact List.prefix_rfl

/-- A settled text fits behind any column of spaces. -/
theorem allFit_pad (n : Nat) (tabWidth : Int) (h : Settled value) :
    allFit (pad n value) n tabWidth = true := by
  refine List.all_eq_true.2 fun line hline => fits_of_spaces (by omega) fun c hc => ?_
  obtain ⟨l, hl, hprefix⟩ := exists_of_mem_tail_trimEnds hline
  have htake : (value.splitOn '\n').take 1 ≠ [] := by simp [List.splitOn_ne_nil]
  rw [cut_eq_splitOn_unify, unify_eq_self (return_notMem_pad n h.noReturn), splitOn_pad,
    List.tail_append_of_ne_nil htake] at hl
  have hempty : ((value.splitOn '\n').take 1).tail = [] := by
    cases value.splitOn '\n' <;> rfl
  rw [hempty, List.nil_append] at hl
  obtain ⟨m, hm, rfl⟩ := List.mem_map.1 hl
  have hmem := (isPrefix_takeWhile isBlank hprefix).subset hc
  rw [List.takeWhile_append_of_pos (by simp [isBlank_space]), List.mem_append] at hmem
  obtain hspace | hlead := hmem
  · exact List.eq_of_mem_replicate hspace
  · exact h.indented m hm c hlead

/-- A text has room for its leads if a tab for each of their characters has. -/
theorem allFit_of_countP (hc : 0 ≤ column)
    (h : tabWidth * value.countP inLead < lengthLimit) : allFit value column tabWidth = true := by
  refine List.all_eq_true.2 fun line hline => fits_iff.2 (.inr ?_)
  obtain ⟨l, hl, hprefix⟩ := exists_of_mem_tail_trimEnds hline
  have hcut : l ∈ Line.cut value := List.mem_of_mem_tail hl
  have hlead : line.takeWhile isBlank <+: l := (List.takeWhile_prefix isBlank).trans hprefix
  have hall : (line.takeWhile isBlank).countP inLead = (line.takeWhile isBlank).length := by
    refine List.countP_eq_length.2 fun c hmem => inLead_iff.2 ⟨List.mem_takeWhile_imp hmem, ?_⟩
    obtain ⟨hfeed, hreturn⟩ := notMem_of_mem_cut hcut
    exact ⟨fun he => hfeed (he ▸ hlead.subset hmem), fun he => hreturn (he ▸ hlead.subset hmem)⟩
  have hcount : (line.takeWhile isBlank).length ≤ value.countP inLead :=
    hall ▸ (hlead.sublist.trans (sublist_of_mem_cut hcut)).countP_le
  obtain hw | hw := indentWidth_le tabWidth (line.takeWhile isBlank)
  · exact .inr ⟨hc, hw⟩
  · left
    have hmul : tabWidth * (line.takeWhile isBlank).length < lengthLimit :=
      mul_lt_of_le hcount h
    omega

theorem strip?_pad (n : Nat) (tabWidth : Int) (h : Settled value) :
    strip? (pad n value) n tabWidth = some value := by
  rw [strip?_of_allFit (allFit_pad n tabWidth h), strip_pad n tabWidth h]

end YangSchema.Dedent
