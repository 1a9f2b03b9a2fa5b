import YangSchema.Console.Escape
import YangSchema.Console.Table
import YangSchema.Outcome

/-!
# What a console shows

Markup that closes a style which is not open cannot be shown. Escaped text has no tags, so that the
cells of a table can hold any text, whereas its title is read as markup. Text that is written
without markup is shown as it is but for the escape sequences in it.
-/
namespace YangSchema.Console

namespace Markup

variable {s tag t : List Char} {run m n : Nat}

theorem tagEnd?_backslashes (n : Nat) : tagEnd? (backslashes n ++ s) = none ↔ tagEnd? s = none := by
  induction n with
  | zero => rfl
  | succ n ih => simpa [backslashes, List.replicate_succ, tagEnd?] using ih

theorem tagEnd?_cons_eq_none {c : Char} (hc : c ≠ '[') :
    tagEnd? (c :: s) = none ↔ c ≠ ']' ∧ tagEnd? s = none := by
  by_cases h : c = ']'
  · simp [tagEnd?, h]
  · simp [tagEnd?, h, hc]

theorem tagEnd?_eq_some (h : tagEnd? s = some (tag, t)) (x : List Char) :
    tagEnd? (tag ++ ']' :: x) = some (tag, x) := by
  induction s generalizing tag with
  | nil => cases h
  | cons c s ih =>
    by_cases hclose : c = ']'
    · simp only [tagEnd?, if_pos hclose] at h
      cases h
      simp [tagEnd?]
    · by_cases hopen : c = '['
      · simp only [tagEnd?, if_neg hclose, if_pos hopen] at h
        cases h
      · simp only [tagEnd?, if_neg hclose, if_neg hopen, Option.map_eq_some_iff] at h
        rcases h with ⟨⟨tag', t'⟩, h', heq⟩
        cases heq
        simp [tagEnd?, hclose, hopen, ih h']

theorem tag?_eq_some (h : tag? s = some (tag, t)) (x : List Char) :
    tag? (tag ++ ']' :: x) = some (tag, x) := by
  cases s with
  | nil => cases h
  | cons c s =>
    by_cases hc : isTagStart c = true
    · simp only [tag?, if_pos hc, Option.map_eq_some_iff] at h
      rcases h with ⟨⟨tag', t'⟩, h', heq⟩
      cases heq
      simp [tag?, hc, tagEnd?_eq_some h']
    · simp only [tag?, if_neg hc] at h
      cases h

/-- Where no tag ends in a text, none ends in the escaped text: a bracket of a tag is an opening
one. -/
theorem tagEnd?_escapeFrom (h : tagEnd? s = none) :
    tagEnd? (escapeFrom run s ++ backslashes m) = none := by
  fun_induction escapeFrom run s with
  | case1 run =>
    rw [tagEnd?_backslashes, ← List.append_nil (backslashes m), tagEnd?_backslashes]
    rfl
  | case2 run r ih => exact ih ((tagEnd?_cons_eq_none (by decide)).1 h).2
  | case3 run r tag t htag _ ih =>
    rw [List.append_assoc, List.append_assoc, tagEnd?_backslashes]
    simp [bracketed, tagEnd?]
  | case4 run r htag ih =>
    rw [List.append_assoc, tagEnd?_backslashes]
    simp [tagEnd?]
  | case5 run c r _ hopen ih =>
    have hr := (tagEnd?_cons_eq_none hopen).1 h
    rw [List.append_assoc, tagEnd?_backslashes, List.cons_append, tagEnd?_cons_eq_none hopen]
    exact ⟨hr.1, ih hr.2⟩

theorem tag?_backslashes (hn : n ≠ 0) : tag? (backslashes n ++ s) = none := by
  cases n with
  | zero => exact absurd rfl hn
  | succ n => simp [backslashes, List.replicate_succ, tag?, isTagStart]

theorem exists_escapeFrom (run : Nat) (s : List Char) :
    ∃ n e, run ≤ n ∧ escapeFrom run s = backslashes n ++ e := by
  fun_induction escapeFrom run s with
  | case1 run => exact ⟨run, [], Nat.le_refl _, (List.append_nil _).symm⟩
  | case2 run r ih =>
    rcases ih with ⟨n, e, hn, he⟩
    exact ⟨n, e, by omega, he⟩
  | case3 run r tag t htag _ ih => exact ⟨2 * run + 1, _, by omega, List.append_assoc _ _ _⟩
  | case4 run r htag ih => exact ⟨run, _, Nat.le_refl _, rfl⟩
  | case5 run c r _ hopen ih => exact ⟨run, _, Nat.le_refl _, rfl⟩

theorem tag?_escapeFrom (h : tag? s = none) : tag? (escapeFrom 0 s ++ backslashes m) = none := by
  unfold escapeFrom
  split
  · cases m with
    | zero => rfl
    | succ m => simp [backslashes, List.replicate_succ, tag?, isTagStart]
  · next r =>
    rcases exists_escapeFrom 1 r with ⟨n, e, hn, he⟩
    rw [he, List.append_assoc]
    exact tag?_backslashes (by omega)
  · split
    · rw [List.append_assoc, List.append_assoc]
      exact tag?_backslashes (by omega)
    · rfl
  · next c r hback hopen =>
    change tag? (c :: (escapeFrom 0 r ++ backslashes m)) = none
    by_cases hc : isTagStart c = true
    · rw [tag?, if_pos hc, Option.map_eq_none_iff] at h ⊢
      exact tagEnd?_escapeFrom h
    · rw [tag?, if_neg hc]

variable {begun : List Char}

theorem piecesFrom_backslashes (begun : List Char) (run n : Nat) (s : List Char) :
    piecesFrom begun run (backslashes n ++ s) = piecesFrom begun (run + n) s := by
  induction n generalizing run with
  | zero => rfl
  | succ n ih =>
    rw [backslashes, List.replicate_succ, List.cons_append, piecesFrom]
    rw [← backslashes, ih]
    congr 1
    omega

theorem piecesFrom_tag (h : tag? s = some (tag, t)) :
    piecesFrom begun run ('[' :: s) = .plain (begun ++ backslashes (run / 2)) ::
      (if run % 2 = 1 then .plain (bracketed tag) else .tag tag) :: piecesFrom [] 0 t := by
  rw [piecesFrom]
  split <;> simp_all

theorem piecesFrom_bracket (h : tag? s = none) : piecesFrom begun run ('[' :: s) =
    piecesFrom (begun ++ backslashes (run - 1) ++ ['[']) 0 s := by
  rw [piecesFrom]
  split <;> simp_all

def Piece.IsPlain : Piece → Prop
  | .plain _ => True
  | .tag _ => False

/-- An odd number of backslashes stands in front of every tag of an escaped text. -/
theorem isPlain_of_escapeFrom (begun : List Char) (run m : Nat) (s : List Char) :
    ∀ p ∈ piecesFrom begun 0 (escapeFrom run s ++ backslashes m), p.IsPlain := by
  fun_induction escapeFrom run s generalizing begun with
  | case1 run =>
    rw [piecesFrom_backslashes, ← List.append_nil (backslashes m), piecesFrom_backslashes,
      piecesFrom]
    simp [Piece.IsPlain]
  | case2 run r ih => exact ih begun
  | case3 run r tag t htag _ ih =>
    have hodd : (0 + (2 * run + 1)) % 2 = 1 := by omega
    rw [List.append_assoc, List.append_assoc, piecesFrom_backslashes, bracketed,
      List.append_assoc, List.cons_append, List.singleton_append,
      piecesFrom_tag (tag?_eq_some htag _), if_pos hodd]
    simpa [Piece.IsPlain] using ih []
  | case4 run r htag ih =>
    rw [List.append_assoc, piecesFrom_backslashes, List.cons_append,
      piecesFrom_bracket (tag?_escapeFrom htag)]
    exact ih _
  | case5 run c r hback hopen ih =>
    rw [List.append_assoc, piecesFrom_backslashes, List.cons_append, piecesFrom]
    · exact ih _
    · exact hback
    · exact hopen

theorem exists_shownFrom {pieces : List Piece} (h : ∀ p ∈ pieces, p.IsPlain)
    (styles : List (List Char)) : ∃ t, shownFrom styles pieces = .ok t := by
  induction pieces with
  | nil => exact ⟨[], rfl⟩
  | cons p pieces ih =>
    rcases List.forall_mem_cons.1 h with ⟨hp, hpieces⟩
    cases p with
    | tag text => exact absurd hp id
    | plain text =>
      rcases ih hpieces with ⟨t, ht⟩
      exact ⟨Emoji.replace text ++ t, by rw [shownFrom, ht]; rfl⟩

/-- Without an opening bracket there is no tag. -/
theorem exists_shown_of_notMem (h : '[' ∉ s) : ∃ t, shown s = .ok t := by
  suffices hplain : ∀ begun run, ∀ p ∈ piecesFrom begun run s, p.IsPlain from
    exists_shownFrom (hplain [] 0) []
  intro begun run
  fun_induction piecesFrom begun run s with
  | case1 begun run => simp [Piece.IsPlain]
  | case2 begun run r ih => exact ih (mt (List.mem_cons_of_mem _) h)
  | case3 begun run r tag t htag _ piece ih => simp at h
  | case4 begun run r htag ih => simp at h
  | case5 begun run c r hback hopen ih => exact ih (mt (List.mem_cons_of_mem _) h)

/-- Every text can be shown once it is escaped. -/
theorem exists_shown_escape (s : List Char) : ∃ t, shown (escape s) = .ok t := by
  have hescape : ∃ m, escape s = escapeFrom 0 s ++ backslashes m := by
    unfold escape
    dsimp only
    split
    · exact ⟨1, rfl⟩
    · exact ⟨0, (List.append_nil _).symm⟩
  rcases hescape with ⟨m, hm⟩
  rw [hm]
  exact exists_shownFrom (isPlain_of_escapeFrom [] 0 m s) []

end Markup

def IsShown (s : String) : Prop :=
  ∃ t, Markup.shown s.toList = .ok t

theorem isShown_empty : IsShown "" :=
  Markup.exists_shown_of_notMem (by simp)

theorem forall_of_mapM {α β ε : Type} {row : List α} {f : α → Except ε β} {bs : List β}
    (h : row.mapM f = .ok bs) : ∀ a ∈ row, ∃ b, f a = .ok b := by
  induction row generalizing bs with
  | nil => simp
  | cons a row ih =>
    rw [List.mapM_cons] at h
    rcases except_bind_eq_ok.1 h with ⟨b, hb, h⟩
    rcases except_bind_eq_ok.1 h with ⟨bs, hbs, -⟩
    exact List.forall_mem_cons.2 ⟨⟨b, hb⟩, ih hbs⟩

namespace Table

variable {limit : Nat} {cell title : String} {t : CommandLine.Table}

theorem exists_cellText_iff : (∃ text, cellText cell = .ok text) ↔ IsShown cell := by
  unfold cellText IsShown
  cases Markup.shown cell.toList <;> simp [Except.map]

theorem exists_titleLines_iff (limit : Nat) :
    (∃ lines, titleLines limit title = .ok lines) ↔ IsShown title := by
  unfold titleLines
  split
  · next hempty =>
    rw [String.isEmpty_iff] at hempty
    subst hempty
    exact iff_of_true ⟨[], rfl⟩ isShown_empty
  · unfold IsShown
    cases Markup.shown title.toList with
    | ok text => exact iff_of_true ⟨_, rfl⟩ ⟨_, rfl⟩
    | error f =>
      refine iff_of_false ?_ ?_ <;> rintro ⟨_, h⟩ <;> cases h

theorem titleLines_of_unshown {f : MarkupFault} (h : Markup.shown title.toList = .error f)
    (limit : Nat) : titleLines limit title = .error f := by
  have hempty : title.isEmpty = false := by
    rw [Bool.eq_false_iff, ne_eq, String.isEmpty_iff]
    rintro rfl
    rcases isShown_empty with ⟨text, htext⟩
    cases h.symm.trans htext
  unfold titleLines
  rw [hempty, h]
  rfl

theorem exists_mapM_cellText {cells : List String} (h : ∀ s ∈ cells, IsShown s) :
    ∃ texts, cells.mapM cellText = .ok texts :=
  exists_mapM fun s hs => exists_cellText_iff.2 (h s hs)

/-- A table can be shown exactly if all its texts can. -/
theorem exists_lines_iff (limit : Nat) : (∃ text, lines limit t = .ok text) ↔
    IsShown t.title ∧ (∀ s ∈ t.columns, IsShown s) ∧ ∀ cells ∈ t.rows, ∀ s ∈ cells, IsShown s := by
  unfold lines
  constructor
  · rintro ⟨text, h⟩
    rcases except_bind_eq_ok.1 h with ⟨header, hcolumns, h⟩
    rcases except_bind_eq_ok.1 h with ⟨rows, hrows, h⟩
    rcases except_bind_eq_ok.1 h with ⟨title, htitle, -⟩
    refine ⟨(exists_titleLines_iff _).1 ⟨title, htitle⟩, fun s hs => ?_, fun cells hcells => ?_⟩
    · exact exists_cellText_iff.1 (forall_of_mapM hcolumns s hs)
    · rcases forall_of_mapM hrows cells hcells with ⟨texts, htexts⟩
      exact fun s hs => exists_cellText_iff.1 (forall_of_mapM htexts s hs)
  · rintro ⟨htitle, hcolumns, hrows⟩
    rcases exists_mapM_cellText hcolumns with ⟨header, hheader⟩
    rcases exists_mapM fun cells hcells => exists_mapM_cellText (hrows cells hcells) with
      ⟨rows, hall⟩
    rw [hheader, hall]
    simp only [bind, Except.bind]
    generalize total _ + _ = width
    rcases (exists_titleLines_iff width).2 htitle with ⟨lines, hlines⟩
    rw [hlines]
    exact ⟨_, rfl⟩

/-- The fault of a title is that of its table, if there is no other. -/
theorem lines_of_unshown {f : MarkupFault} (htitle : Markup.shown t.title.toList = .error f)
    (hcolumns : ∀ s ∈ t.columns, IsShown s) (hrows : ∀ cells ∈ t.rows, ∀ s ∈ cells, IsShown s)
    (limit : Nat) : lines limit t = .error f := by
  rcases exists_mapM_cellText hcolumns with ⟨header, hheader⟩
  rcases exists_mapM fun cells hcells => exists_mapM_cellText (hrows cells hcells) with
    ⟨rows, hall⟩
  unfold lines
  rw [hheader, hall]
  simp only [bind, Except.bind, titleLines_of_unshown htitle]

end Table

theorem withoutSequencesFrom_cons {c : Char} (hc : c ≠ '\x1b') (s : List Char) :
    withoutSequencesFrom 0 (c :: s) = c :: withoutSequencesFrom 0 s := by
  have hnone : sequenceLength? (c :: s) = none := by
    unfold sequenceLength?
    split
    · next heq => exact absurd (List.cons.inj heq).1 hc
    · rfl
  rw [withoutSequencesFrom, hnone]

/-- What stands in front of the first escape character stays. -/
theorem withoutSequencesFrom_append {s : List Char} (hs : '\x1b' ∉ s) (t : List Char) :
    withoutSequencesFrom 0 (s ++ t) = s ++ withoutSequencesFrom 0 t := by
  induction s with
  | nil => rfl
  | cons c s ih =>
    rw [List.mem_cons, not_or] at hs
    rw [List.cons_append, withoutSequencesFrom_cons (Ne.symm hs.1), ih hs.2, List.cons_append]

theorem withoutSequences_append {s : String} (hs : '\x1b' ∉ s.toList) (t : String) :
    withoutSequences (s ++ t) = s ++ withoutSequences t := by
  rw [withoutSequences, String.toList_append, withoutSequencesFrom_append hs, String.ofList_append,
    String.ofList_toList]
  rfl

end YangSchema.Console
