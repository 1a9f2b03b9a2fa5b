import Mathlib.Data.List.DropRight
import YangSchema.Lexer.Dedent

/-!
# What stripping layout leaves

A settled text has no carriage return, nothing blank before a line feed, and only spaces behind one.
Stripping the layout of any text gives a settled one, and a settled text that is written with a
column of spaces behind each line feed is got back by stripping at that column.
-/
namespace YangSchema.Dedent
open Text Unicode

theorem unify_cons {c : Char} {r : List Char} (h : ∀ t, c = '\r' → r ≠ '\n' :: t) :
    Line.unify (c :: r) = (if c = '\r' then '\n' else c) :: Line.unify r := by
  rw [Line.unify]
  rintro t rfl
  exact h t rfl

theorem cut_ne_nil (s : List Char) : Line.cut s ≠ [] := by
  fun_induction Line.cut s with
  | case4 c r _ _ ih => cases h : Line.cut r <;> simp_all [Line.consHead]
  | _ => simp

theorem consHead_eq_modifyHead {c : Char} {lines : List (List Char)} (h : lines ≠ []) :
    Line.consHead c lines = lines.modifyHead (c :: ·) := by
  cases lines with
  | nil => exact absurd rfl h
  | cons l ls => rfl

theorem cut_eq_splitOn_unify (s : List Char) : Line.cut s = (Line.unify s).splitOn '\n' := by
  fun_induction Line.cut s with
  | case1 => rfl
  | case2 r ih => simp [Line.unify, List.splitOn_cons_eq_if_modifyHead, ih]
  | case3 c r h hc ih =>
    have hc : c = '\r' ∨ c = '\n' := by simpa using hc
    rw [unify_cons (fun t hc => h t hc), List.splitOn_cons_eq_if_modifyHead, ih, if_pos]
    obtain rfl | rfl := hc <;> rfl
  | case4 c r h hc ih =>
    have hc : c ≠ '\r' ∧ c ≠ '\n' := by simpa using hc
    rw [unify_cons (fun t hc => h t hc), if_neg hc.1, List.splitOn_cons_eq_if_modifyHead,
      if_neg (by simpa using hc.2), consHead_eq_modifyHead (cut_ne_nil r), ih]

/-- Without carriage returns there is nothing to unify. -/
theorem unify_eq_self {s : List Char} (h : '\r' ∉ s) : Line.unify s = s := by
  induction s with
  | nil => rfl
  | cons c r ih =>
    have hc : c ≠ '\r' := by rintro rfl; simp at h
    rw [unify_cons (fun _ he => absurd he hc), if_neg hc, ih (by simp_all)]

/-- Where unifying leaves no line feed, there was no line end of any kind. -/
theorem eq_of_unify_eq {s t : List Char} (h : Line.unify s = t) (ht : '\n' ∉ t) : s = t := by
  fun_induction Line.unify s generalizing t with
  | case1 => exact h
  | case2 r ih => simp [← h] at ht
  | case3 c r _ ih =>
    by_cases hc : c = '\r'
    · simp [← h, hc] at ht
    · rw [if_neg hc] at h
      subst h
      have hr : '\n' ∉ Line.unify r := fun hm => ht (List.mem_cons_of_mem c hm)
      exact congrArg (c :: ·) (ih rfl hr)

theorem trimEnd_eq_rdropWhile (s : List Char) : trimEnd s = s.rdropWhile isBlank := rfl

theorem trimEnd_eq_self_iff {s : List Char} :
    trimEnd s = s ↔ ∀ h : s ≠ [], isBlank (s.getLast h) = false := by
  simp [trimEnd_eq_rdropWhile, List.rdropWhile_eq_self_iff]

theorem trimEnd_trimEnd (s : List Char) : trimEnd (trimEnd s) = trimEnd s :=
  List.rdropWhile_idempotent isBlank s

theorem isBlank_space : isBlank ' ' = true := by decide

theorem lead_eq_takeWhile (line : List Char) : lead line = line.takeWhile isBlank := by
  have h : line = line.takeWhile isBlank ++ trimStart line :=
    List.takeWhile_append_dropWhile.symm
  have hl := congrArg List.length h
  rw [List.length_append] at hl
  have hk : line.length - (trimStart line).length = (line.takeWhile isBlank).length := by omega
  rw [lead, hk]
  exact (List.prefix_iff_eq_take.1 (List.takeWhile_prefix isBlank)).symm

theorem stripLead_of_blank {line : List Char} (h : line.takeWhile isBlank ≠ [])
    (column tabWidth : Int) :
    stripLead column tabWidth line =
      List.replicate (indentWidth tabWidth (line.takeWhile isBlank) - column).toNat ' ' ++
        trimStart line := by
  simp only [stripLead, lead_eq_takeWhile]
  rw [if_neg (by simpa using h)]

theorem stripLead_of_not_blank {line : List Char} (h : line.takeWhile isBlank = [])
    (column tabWidth : Int) : stripLead column tabWidth line = line := by
  simp only [stripLead, lead_eq_takeWhile, h]
  rfl

/-- A text behind a row of spaces, if it does not start with a blank. -/
theorem takeWhile_spaces_append (n : Nat) {text : List Char}
    (h : text.takeWhile isBlank = []) :
    (List.replicate n ' ' ++ text).takeWhile isBlank = List.replicate n ' ' := by
  rw [List.takeWhile_append_of_pos (by simp [isBlank_space]), h, List.append_nil]

theorem takeWhile_trimStart (line : List Char) : (trimStart line).takeWhile isBlank = [] := by
  induction line with
  | nil => rfl
  | cons c r ih => cases hc : isBlank c <;> simp_all [trimStart]

/-- The start of a line that consists of spaces is as long as it is wide. -/
theorem indentWidth_replicate (tabWidth : Int) (n : Nat) :
    indentWidth tabWidth (List.replicate n ' ') = n := by
  have : (List.replicate n ' ').count '\t' = 0 := by simp [List.count_replicate]
  simp [indentWidth, this]

theorem takeWhile_eq_replicate {line : List Char} (h : ∀ c ∈ line.takeWhile isBlank, c = ' ') :
    line.takeWhile isBlank = List.replicate (line.takeWhile isBlank).length ' ' :=
  List.eq_replicate_of_mem h

/-- Stripping leaves nothing but spaces at the start of a line. -/
theorem stripLead_indented (column tabWidth : Int) (line : List Char) :
    ∀ c ∈ (stripLead column tabWidth line).takeWhile isBlank, c = ' ' := by
  by_cases h : line.takeWhile isBlank = []
  · rw [stripLead_of_not_blank h, h]
    simp
  · rw [stripLead_of_blank h, takeWhile_spaces_append _ (takeWhile_trimStart line)]
    exact fun c hc => List.eq_of_mem_replicate hc

/-- Stripping the start of a line leaves its end alone. -/
theorem trimEnd_stripLead {line : List Char} (h : trimEnd line = line) (column tabWidth : Int) :
    trimEnd (stripLead column tabWidth line) = stripLead column tabWidth line := by
  by_cases hb : line.takeWhile isBlank = []
  · rw [stripLead_of_not_blank hb, h]
  · rw [stripLead_of_blank hb, trimEnd_eq_self_iff]
    have hne : trimStart line ≠ [] := by
      intro he
      have hall := List.dropWhile_eq_nil_iff.1 he
      have hnil : trimEnd line = [] := List.rdropWhile_eq_nil_iff.2 hall
      rw [h] at hnil
      simp [hnil] at hb
    intro hn
    have hsuffix : trimStart line <:+ line := List.dropWhile_suffix isBlank
    rw [List.getLast_append_of_ne_nil hn hne, hsuffix.getLast hne]
    exact trimEnd_eq_self_iff.1 h _

/-- A line that starts with nothing but spaces comes back from behind a column of spaces. -/
theorem stripLead_replicate_append (n : Nat) (tabWidth : Int) {line : List Char}
    (h : ∀ c ∈ line.takeWhile isBlank, c = ' ') :
    stripLead n tabWidth (List.replicate n ' ' ++ line) = line := by
  obtain ⟨k, hk⟩ : ∃ k, line.takeWhile isBlank = List.replicate k ' ' :=
    ⟨_, takeWhile_eq_replicate h⟩
  have hline : line = List.replicate k ' ' ++ trimStart line := by
    rw [← hk]
    exact List.takeWhile_append_dropWhile.symm
  have htake : (List.replicate n ' ' ++ line).takeWhile isBlank = List.replicate (n + k) ' ' := by
    rw [List.takeWhile_append_of_pos (by simp [isBlank_space]), hk, List.replicate_append_replicate]
  by_cases hb : n + k = 0
  · obtain ⟨rfl, rfl⟩ : n = 0 ∧ k = 0 := by omega
    exact stripLead_of_not_blank htake _ _
  · have hdrop : trimStart (List.replicate n ' ' ++ line) = trimStart line :=
      List.dropWhile_append_of_pos (by simp [isBlank_space])
    have hcount : ((n + k : Nat) - (n : Int)).toNat = k := by omega
    rw [stripLead_of_blank (by rw [htake]; simpa using hb), htake, indentWidth_replicate, hdrop,
      hcount, ← hline]

theorem trimEnd_replicate_append (n : Nat) {line : List Char} (hne : line ≠ [])
    (h : trimEnd line = line) :
    trimEnd (List.replicate n ' ' ++ line) = List.replicate n ' ' ++ line := by
  rw [trimEnd_eq_self_iff]
  intro hn
  rw [List.getLast_append_of_ne_nil hn hne]
  exact trimEnd_eq_self_iff.1 h hne

/-- Also a line whose end was trimmed comes back, though trimming takes the column of an empty
one. -/
theorem stripLead_trimEnd_replicate_append (n : Nat) (tabWidth : Int) {line : List Char}
    (ht : trimEnd line = line) (hi : ∀ c ∈ line.takeWhile isBlank, c = ' ') :
    stripLead n tabWidth (trimEnd (List.replicate n ' ' ++ line)) = line := by
  by_cases hne : line = []
  · subst hne
    have hnil : trimEnd (List.replicate n ' ' ++ []) = [] :=
      List.rdropWhile_eq_nil_iff.2 (by simp [isBlank_space])
    rw [hnil]
    exact stripLead_of_not_blank rfl _ _
  · rw [trimEnd_replicate_append n hne ht, stripLead_replicate_append n tabWidth hi]

/-- What stripping leaves of a text, whatever it was. -/
structure Settled (value : List Char) : Prop where
  noReturn : '\r' ∉ value
  trimmed : ∀ line ∈ (value.splitOn '\n').dropLast, trimEnd line = line
  indented : ∀ line ∈ (value.splitOn '\n').tail, ∀ c ∈ line.takeWhile isBlank, c = ' '

theorem trimEnds_append_singleton (lines : List (List Char)) (last : List Char) :
    trimEnds (lines ++ [last]) = lines.map trimEnd ++ [last] := by
  induction lines with
  | nil => rfl
  | cons l ls ih =>
    cases ls with
    | nil => rfl
    | cons m r => simpa [trimEnds] using ih

theorem stripLines_append_singleton (column tabWidth : Int) (first : List Char)
    (between : List (List Char)) (last : List Char) :
    stripLines column tabWidth (first :: (between ++ [last])) =
      trimEnd first :: (between.map (stripLead column tabWidth ∘ trimEnd) ++
        [stripLead column tabWidth last]) := by
  rw [stripLines, ← List.cons_append, trimEnds_append_singleton]
  simp

theorem notMem_of_mem_cut {s line : List Char} (h : line ∈ Line.cut s) :
    '\n' ∉ line ∧ '\r' ∉ line := by
  fun_induction Line.cut s generalizing line with
  | case1 => simp_all
  | case2 r ih =>
    obtain rfl | h := List.mem_cons.1 h
    · simp
    · exact ih h
  | case3 c r _ _ ih =>
    obtain rfl | h := List.mem_cons.1 h
    · simp
    · exact ih h
  | case4 c r _ hc ih =>
    have hc : c ≠ '\r' ∧ c ≠ '\n' := by simpa using hc
    cases hr : Line.cut r with
    | nil => exact absurd hr (cut_ne_nil r)
    | cons l ls =>
      rw [hr] at ih h
      obtain rfl | h := List.mem_cons.1 h
      · have := ih (List.mem_cons_self ..)
        simp_all [eq_comm]
      · exact ih (List.mem_cons_of_mem l h)

theorem notMem_trimEnd {c : Char} {s : List Char} (h : c ∉ s) : c ∉ trimEnd s :=
  fun hm => h ((List.rdropWhile_prefix isBlank s).subset hm)

theorem notMem_stripLead {c : Char} (hc : c ≠ ' ') {line : List Char} (h : c ∉ line)
    (column tabWidth : Int) : c ∉ stripLead column tabWidth line := by
  by_cases hb : line.takeWhile isBlank = []
  · rwa [stripLead_of_not_blank hb]
  · rw [stripLead_of_blank hb, List.mem_append]
    rintro (hm | hm)
    · exact hc (List.eq_of_mem_replicate hm)
    · exact h ((List.dropWhile_suffix isBlank).subset hm)

/-- A text of several lines, cut into the first, those between and the last. -/
theorem exists_of_cut_length_ne_one {s : List Char} (h : (Line.cut s).length ≠ 1) :
    ∃ first between last, Line.cut s = first :: (between ++ [last]) := by
  cases hc : Line.cut s with
  | nil => exact absurd hc (cut_ne_nil s)
  | cons first others =>
    rw [hc] at h
    have hne : others ≠ [] := by
      rintro rfl
      simp at h
    exact ⟨first, others.dropLast, others.getLast hne, by rw [List.dropLast_concat_getLast]⟩

theorem settled_of_one_line {s : List Char} (h : (Line.cut s).length = 1) : Settled s := by
  obtain ⟨line, hl⟩ := List.length_eq_one_iff.1 h
  have hmem := notMem_of_mem_cut (hl ▸ List.mem_singleton_self line)
  have hunify : Line.unify s = line := by
    have hj : ['\n'].intercalate ((Line.unify s).splitOn '\n') = Line.unify s :=
      List.intercalate_splitOn '\n'
    rw [← cut_eq_splitOn_unify, hl] at hj
    simpa using hj.symm
  obtain rfl := eq_of_unify_eq hunify hmem.1
  have hsplit : s.splitOn '\n' = [s] := List.splitOn_eq_singleton hmem.1
  exact ⟨hmem.2, by simp [hsplit], by simp [hsplit]⟩

theorem strip_of_lines {value first last : List Char} {between : List (List Char)}
    (h : Line.cut value = first :: (between ++ [last])) (column tabWidth : Int) :
    strip value column tabWidth =
      ['\n'].intercalate (trimEnd first :: (between.map (stripLead column tabWidth ∘ trimEnd) ++
        [stripLead column tabWidth last])) := by
  simp only [strip, h]
  rw [if_neg (by simp), stripLines_append_singleton, Line.join]

theorem notMem_intercalate {c : Char} {lines : List (List Char)} (hc : c ≠ '\n')
    (h : ∀ line ∈ lines, c ∉ line) : c ∉ ['\n'].intercalate lines := by
  induction lines with
  | nil => simp
  | cons l ls ih =>
    cases ls with
    | nil => simpa using h
    | cons m r =>
      have hl := h l (List.mem_cons_self ..)
      have hr := ih fun line hm => h line (List.mem_cons_of_mem l hm)
      simp only [List.intercalate_cons_cons, List.mem_append, List.mem_singleton]
      tauto

/-- Stripping settles a text. -/
theorem settled_strip (value : List Char) (column tabWidth : Int) :
    Settled (strip value column tabWidth) := by
  by_cases hl : (Line.cut value).length = 1
  · simp only [strip, if_pos hl]
    exact settled_of_one_line hl
  · obtain ⟨first, between, last, hcut⟩ := exists_of_cut_length_ne_one hl
    have hmem : ∀ line ∈ first :: (between ++ [last]), '\n' ∉ line ∧ '\r' ∉ line :=
      fun line h => notMem_of_mem_cut (hcut ▸ h)
    rw [strip_of_lines hcut]
    set lines := trimEnd first :: (between.map (stripLead column tabWidth ∘ trimEnd) ++
      [stripLead column tabWidth last]) with hlines
    have hclean : ∀ line ∈ lines, '\n' ∉ line ∧ '\r' ∉ line := by
      intro line hm
      simp only [hlines, List.mem_cons, List.mem_append, List.mem_map, List.not_mem_nil,
        or_false] at hm
      obtain rfl | ⟨l, hb, rfl⟩ | rfl := hm
      · obtain ⟨hf, hr⟩ := hmem first (by simp)
        exact ⟨notMem_trimEnd hf, notMem_trimEnd hr⟩
      · obtain ⟨hf, hr⟩ := hmem l (by simp [hb])
        exact ⟨notMem_stripLead (by decide) (notMem_trimEnd hf) column tabWidth,
          notMem_stripLead (by decide) (notMem_trimEnd hr) column tabWidth⟩
      · obtain ⟨hf, hr⟩ := hmem last (by simp)
        exact ⟨notMem_stripLead (by decide) hf column tabWidth,
          notMem_stripLead (by decide) hr column tabWidth⟩
    have hsplit : (['\n'].intercalate lines).splitOn '\n' = lines :=
      List.splitOn_intercalate _ (fun line h => (hclean line h).1) (by simp [hlines])
    refine ⟨notMem_intercalate (by decide) fun line h => (hclean line h).2, ?_, ?_⟩
    · rw [hsplit, hlines, ← List.cons_append, List.dropLast_concat]
      intro line hm
      simp only [List.mem_cons, List.mem_map] at hm
      obtain rfl | ⟨l, -, rfl⟩ := hm
      · exact trimEnd_trimEnd first
      · exact trimEnd_stripLead (trimEnd_trimEnd l) column tabWidth
    · rw [hsplit]
      intro line hm
      simp only [hlines, List.tail_cons, List.mem_append, List.mem_map, List.mem_singleton] at hm
      obtain ⟨l, -, rfl⟩ | rfl := hm <;> exact stripLead_indented column tabWidth _

def pad (n : Nat) (value : List Char) : List Char :=
  value.flatMap fun c => if c = '\n' then '\n' :: List.replicate n ' ' else [c]

theorem pad_cons (n : Nat) (c : Char) (r : List Char) :
    pad n (c :: r) = (if c = '\n' then '\n' :: List.replicate n ' ' else [c]) ++ pad n r := rfl

theorem splitOn_append_of_notMem {c : Char} {s : List Char} (h : c ∉ s) (r : List Char) :
    (s ++ r).splitOn c = (r.splitOn c).modifyHead (s ++ ·) := by
  induction s with
  | nil =>
    rw [List.nil_append]
    cases r.splitOn c <;> rfl
  | cons d s ih =>
    obtain ⟨hd, hs⟩ : c ≠ d ∧ c ∉ s := by simpa using h
    rw [List.cons_append, List.splitOn_cons_eq_if_modifyHead, if_neg (by simpa using hd.symm),
      ih hs, List.modifyHead_modifyHead]
    rfl

/-- Padding is done to each line but the first. -/
theorem splitOn_pad (n : Nat) (value : List Char) :
    (pad n value).splitOn '\n' =
      (value.splitOn '\n').take 1 ++
        (value.splitOn '\n').tail.map (List.replicate n ' ' ++ ·) := by
  induction value with
  | nil => rfl
  | cons c r ih =>
    rw [pad_cons, List.splitOn_cons_eq_if_modifyHead]
    have hne := List.splitOn_ne_nil '\n' r
    obtain ⟨first, others, hr⟩ := List.exists_cons_of_ne_nil hne
    rw [hr] at ih
    by_cases hc : c = '\n'
    · subst hc
      have hspace : '\n' ∉ List.replicate n ' ' := by simp
      rw [if_pos rfl, if_pos (by simp), List.cons_append, List.splitOn_cons_eq_if_modifyHead,
        if_pos (by simp), splitOn_append_of_notMem hspace, ih, hr]
      rfl
    · rw [if_neg hc, if_neg (by simpa using hc), List.singleton_append,
        List.splitOn_cons_eq_if_modifyHead, if_neg (by simpa using hc), ih, hr]
      rfl

theorem return_notMem_pad (n : Nat) {value : List Char} (h : '\r' ∉ value) :
    '\r' ∉ pad n value := by
  intro hm
  obtain ⟨c, hc, hm⟩ := List.mem_flatMap.1 hm
  split at hm
  · simp at hm
  · obtain rfl := List.mem_singleton.1 hm
    exact h hc

/-- A settled text comes back from its padded form by stripping at the column of the padding. -/
theorem strip_pad (n : Nat) (tabWidth : Int) {value : List Char} (h : Settled value) :
    strip (pad n value) n tabWidth = value := by
  have hcut : Line.cut (pad n value) = (value.splitOn '\n').take 1 ++
      (value.splitOn '\n').tail.map (List.replicate n ' ' ++ ·) := by
    rw [cut_eq_splitOn_unify, unify_eq_self (return_notMem_pad n h.noReturn), splitOn_pad]
  have hjoin : ['\n'].intercalate (value.splitOn '\n') = value := List.intercalate_splitOn '\n'
  obtain ⟨first, others, hlines⟩ := List.exists_cons_of_ne_nil (List.splitOn_ne_nil '\n' value)
  rw [hlines] at hcut hjoin
  cases others using List.reverseRecOn with
  | nil =>
    have hone : (Line.cut (pad n value)).length = 1 := by rw [hcut]; rfl
    have hpad : ['\n'].intercalate ((pad n value).splitOn '\n') = pad n value :=
      List.intercalate_splitOn '\n'
    rw [splitOn_pad, hlines] at hpad
    simp only [strip, if_pos hone]
    exact hpad.symm.trans hjoin
  | append_singleton between last =>
    have htrim := h.trimmed
    have hindent := h.indented
    rw [hlines, ← List.cons_append, List.dropLast_concat] at htrim
    rw [hlines, List.tail_cons] at hindent
    have hbetween : (between.map (List.replicate n ' ' ++ ·)).map
        (stripLead n tabWidth ∘ trimEnd) = between := by
      rw [List.map_map]
      refine (List.map_congr_left fun line hm => ?_).trans (List.map_id between)
      exact stripLead_trimEnd_replicate_append n tabWidth
        (htrim line (List.mem_cons_of_mem first hm))
        (hindent line (List.mem_append_left [last] hm))
    rw [List.take_one, List.head?_cons, List.tail_cons, List.map_append] at hcut
    rw [strip_of_lines hcut, htrim first (List.mem_cons_self ..), hbetween,
      stripLead_replicate_append n tabWidth (hindent last (by simp)), hjoin]

end YangSchema.Dedent
