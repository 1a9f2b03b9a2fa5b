import YangSchema.Proofs.Statement.ViablePrefix
import YangSchema.Proofs.Text.Lines
import YangSchema.Source.SyntaxError

/-!
# What a report shows

The report of an error is its place, the lines around it with their numbers and a mark, and its
message. The lines are those of a listing. Where this cuts as the text does, each of them is the
line with its number, and the mark stands below the character that the error is at. An error on an
empty last line has no line of its own in the report, and no mark.
-/
namespace YangSchema
open Text

namespace Text.Line

theorem join_cons {lines : List (List Char)} (l : List Char) (h : lines ≠ []) :
    join (l :: lines) = l ++ '\n' :: join lines := by
  obtain ⟨m, ms, rfl⟩ := List.exists_cons_of_ne_nil h
  rw [join, join, List.intercalate_cons_cons, List.append_assoc, List.singleton_append]

theorem join_append_singleton {lines : List (List Char)} (l : List Char) (h : lines ≠ []) :
    join (lines ++ [l]) = join lines ++ '\n' :: l := by
  induction lines with
  | nil => exact absurd rfl h
  | cons m ms ih =>
    cases ms with
    | nil => simp [join]
    | cons m' ms =>
      rw [List.cons_append, join_cons m (by simp), ih (by simp), join_cons m (by simp)]
      simp

theorem join_eq_nil {lines : List (List Char)} (h : join lines = []) :
    lines = [] ∨ lines = [[]] := by
  cases lines with
  | nil => exact .inl rfl
  | cons l lines =>
    cases lines with
    | nil => exact .inr (by simpa [join] using h)
    | cons m lines =>
      rw [join_cons l (by simp)] at h
      simp at h

end Text.Line

namespace Excerpt

variable {text : String} {line column : Nat}

def window (text : String) (line : Nat) : List (List Char) :=
  ((Line.listing text.toList).take (line + 2)).drop (line - 3)

def rows (text : String) (line : Nat) : List (List Char × Nat) :=
  if Line.join (window text line) = [] then [] else (window text line).zipIdx (line - 3 + 1)

/-- A line as it is shown, with the mark below it if it is the line of the place. -/
def drawn (place : Position) (row : List Char × Nat) : List (List Char) :=
  numbered place.line place.column row.2 row.1

theorem toList_around (text : String) (line : Nat) :
    (around text line 2).toList = Line.join (window text line) := by
  have hstart : ((line : Int) - 1 - 2).toNat = line - 3 := by omega
  have hstop : ¬ min ((Line.listing text.toList).length : Int) (line + 2) < 0 := by omega
  have hcount : (min ((Line.listing text.toList).length : Int) (line + 2)).toNat =
      min (line + 2) (Line.listing text.toList).length := by omega
  rw [around, String.toList_ofList, slice, hstart, if_neg hstop, hcount, ← List.take_eq_take_min]
  rfl

theorem getElem?_window (text : String) (line i : Nat) : (window text line)[i]? =
    if line - 3 + i < line + 2 then (Line.listing text.toList)[line - 3 + i]? else none := by
  rw [window, List.getElem?_drop, List.getElem?_take]

theorem mem_rows {l : List Char} {n : Nat} : (l, n + 1) ∈ rows text line ↔
    Line.join (window text line) ≠ [] ∧ line ≤ n + 3 ∧ n < line + 2 ∧
      (Line.listing text.toList)[n]? = some l := by
  rw [rows]
  by_cases h : Line.join (window text line) = []
  · simp [h]
  · rw [if_neg h, List.mk_mem_zipIdx_iff_le_and_getElem?_sub, getElem?_window]
    by_cases hn : line ≤ n + 3
    · have hle : line - 3 + 1 ≤ n + 1 := by omega
      simp [hn, hle, h]
    · have hle : ¬ line - 3 + 1 ≤ n + 1 := by omega
      simp [hn, hle]

theorem drawn_ne_nil (place : Position) (row : List Char × Nat) : drawn place row ≠ [] := by
  rw [drawn, numbered]
  split <;> simp

theorem rows_eq_nil : rows text line = [] ↔ Line.join (window text line) = [] := by
  rw [rows]
  split
  · simp [*]
  · next h =>
    have hwindow : window text line ≠ [] := by
      rintro hnil
      exact h (by rw [hnil]; rfl)
    simp [hwindow, h]

theorem toList_render (hline : 0 < line) (h : Line.join (window text line) ≠ []) :
    (render (around text line 2) line column).toList =
      Line.join ((rows text line).flatMap (drawn ⟨line, column⟩)) := by
  have hfirst : max 1 ((line : Int) - 2) = (line - 3 + 1 : Nat) := by omega
  have hempty : (around text line 2).isEmpty = false := by
    rwa [String.isEmpty_eq_false_iff, ne_eq, ← String.toList_eq_nil_iff, toList_around]
  have hwindow : window text line ≠ [] := by
    rintro hnil
    rw [hnil] at h
    exact h rfl
  have hsplit : (around text line 2).toList.splitOn '\n' = window text line := by
    rw [toList_around]
    refine List.splitOn_intercalate '\n' (fun l hl => ?_) hwindow
    exact Line.feed_notMem_of_mem_listing (List.mem_of_mem_take (List.mem_of_mem_drop hl))
  rw [render, hempty, if_neg (by simp), hfirst, hsplit, rows, if_neg h, List.zipIdx_eq_map_add,
    List.flatMap_map, String.toList_ofList]
  rfl

theorem toList_located (file : Option String) (hline : 0 < line) :
    (located file line column (some (around text line 2))).toList =
      Line.join ((location file line column).toList ::
        (rows text line).flatMap (drawn ⟨line, column⟩)) := by
  have hempty : around text line 2 = "" ↔ Line.join (window text line) = [] := by
    rw [← toList_around, String.toList_eq_nil_iff]
  by_cases h : Line.join (window text line) = []
  · rw [hempty.2 h, rows_eq_nil.2 h]
    simp [located, Line.join]
  · have hdrawn : (rows text line).flatMap (drawn ⟨line, column⟩) ≠ [] := by
      obtain ⟨row, others, hrows⟩ := List.exists_cons_of_ne_nil (mt rows_eq_nil.1 h)
      simp [hrows, drawn_ne_nil]
    rw [located, Line.join_cons _ hdrawn, ← toList_render hline h]
    · simp
    · exact fun he => h (hempty.1 he)

end Excerpt

theorem SyntaxError.toList_report {e : SyntaxError} {line column : Nat}
    (h : e.position = ⟨line, column⟩) (hline : 0 < line) (file : Option String) (text : String) :
    (e.report file text).toList =
      Line.join ((Excerpt.location file line column).toList ::
        ((Excerpt.rows text line).flatMap (Excerpt.drawn e.position) ++
          [e.fault.message.toList])) := by
  rw [report, h, String.toList_append, String.toList_append, Excerpt.toList_located file hline,
    ← List.cons_append, Line.join_append_singleton _ (by simp)]
  simp

/-- In a text of nothing but white space, the end of the text is the place of the error. -/
theorem position_of_spaces {text : String} {settings : ParserSettings} {e : SyntaxError}
    (hspace : ∀ ch ∈ text.toList, Shape.isSpace ch = true)
    (h : parseDocument text settings = .error e) :
    e.position = .ofOffset text.toList text.toList.length := by
  let c := (Cursor.ofText text).advanceBy text.toList.length
  have hskip : Scan.skipSpace (Cursor.ofText text) = .ok _ c :=
    Scan.skipSpace_of_spaces (List.append_nil _).symm hspace rfl
  have hend : c.current? = none := by
    rw [Cursor.current?, Cursor.advanceBy_rest, Cursor.ofText, List.drop_length, List.head?_nil]
  have hread : Scan.readIdentifier settings.identifierPolicy c = .error _ c :=
    Grammar.readIdentifier_of_not_mayStart (by rw [hend]; rfl)
  rw [parseDocument, parseStatement] at h
  simp only [bind_apply, get_apply, hskip, Scan.readStatement, Scan.readHeader, Scan.readKeyword,
    hread, Except.bind, Except.error.injEq] at h
  rw [← h]
  exact Position.ofOffset_eq (Nat.le_refl _)

/-- A window that shows no more than an empty line is on the first line of a text of one line. -/
theorem Excerpt.listing_of_join_window {text : String} {line : Nat} {l : List Char}
    (h : Line.join (window text (line + 1)) = [])
    (hl : (Line.listing text.toList)[line]? = some l) :
    line = 0 ∧ Line.listing text.toList = [[]] := by
  have hlength : (Line.listing text.toList).length - (line - 2) ≤ 1 := by
    have hwindow : (window text (line + 1)).length ≤ 1 := by
      rcases Line.join_eq_nil h with hw | hw <;> simp [hw]
    have hline := (List.getElem?_eq_some_iff.1 hl).1
    rw [window, List.length_drop, List.length_take] at hwindow
    omega
  have hline := (List.getElem?_eq_some_iff.1 hl).1
  obtain rfl : line = 0 := by omega
  obtain ⟨m, hm⟩ := List.length_eq_one_iff.1 (show (Line.listing text.toList).length = 1 by omega)
  refine ⟨rfl, ?_⟩
  rw [window, hm] at h
  rw [hm, show m = [] by simpa [Line.join] using h]

/-- A text whose listing is an empty line is a line end, and has its error below this. -/
theorem line_ne_one_of_listing {text : String} {settings : ParserSettings} {e : SyntaxError}
    (h : parseDocument text settings = .error e) (hunbroken : Line.Unbroken text.toList 1)
    (hlisting : Line.listing text.toList = [[]]) : e.position.line ≠ 1 := by
  have hcut : Line.cut text.toList = [[], []] := by
    have hlisted : (Line.listing text.toList)[0]? = some [] := by rw [hlisting]; rfl
    obtain ⟨hfirst, hlast⟩ := (Line.getElem?_listing_eq_some hunbroken).1 hlisted
    have hsecond := Line.getElem?_listing (i := 1) hunbroken
    rw [hlisting] at hsecond
    generalize Line.cut text.toList = lines at hfirst hlast hsecond
    match lines with
    | [] => simp at hfirst
    | [m] => simp_all
    | m :: m' :: ms =>
      rw [Line.filled?_succ, Line.filled?] at hsecond
      split at hsecond <;> simp_all
  have hspace : ∀ ch ∈ text.toList, Shape.isSpace ch = true := by
    intro ch hch
    by_cases hn : ch = '\n'
    · rw [hn]; rfl
    · by_cases hr : ch = '\r'
      · rw [hr]; rfl
      · obtain ⟨l, hl, hmem⟩ := Line.exists_mem_cut hch hn hr
        rw [hcut] at hl
        simp_all
  obtain ⟨line, column, l, tail, hplace, hline, hbelow⟩ :=
    Line.drop_cut_of_offset (Nat.le_refl text.toList.length)
  rw [position_of_spaces hspace h, hplace]
  rw [List.drop_length, Line.cut, List.cons.injEq] at hbelow
  rw [hcut, ← hbelow.2] at hline
  intro hone
  obtain rfl : line = 0 := by
    simp only at hone
    omega
  simp at hline

/-- What the rows of a report tell of the error at an offset, on a line and at a column. -/
structure Excerpt.Tells (text : List Char) (p line column : Nat)
    (rows : List (List Char × Nat)) : Prop where
  /-- A row is the line with its number, if a listing cuts the text nowhere up to its end. -/
  content : ∀ l n, (l, n + 1) ∈ rows → Line.Unbroken text (n + 1) → (Line.cut text)[n]? = some l
  /-- The first line that a listing cuts is shown up to there. -/
  broken : ∀ l n, (l, n + 1) ∈ rows → Line.Unbroken text n →
    ∃ m, (Line.cut text)[n]? = some m ∧ l = Line.unbrokenPart m
  /-- The line of the error has a row unless it is empty and the last one. -/
  own : Line.Unbroken text line →
    ((∃ l, (l, line) ∈ rows) ↔ (Line.cut text).drop (line - 1) ≠ [[]])
  /-- The mark is directly below the row of the line, under what the text has at the offset. -/
  mark : ∀ l, (l, line) ∈ rows → Line.Unbroken text line → ∃ k,
    Excerpt.drawn ⟨line, column⟩ (l, line) =
        [Excerpt.gutter line ++ l, List.replicate k ' ' ++ ['^', '^', '^']] ∧
      (Excerpt.gutter line ++ l).drop k = (text.drop p).takeWhile fun c => c ≠ '\n' && c ≠ '\r'

/-- The report of an error is its place, the rows around it and its message. The error is at an
offset of the text, and the rows tell of it as far as a listing cuts the text where its lines
end. -/
theorem tells_of_error {text : String} {settings : ParserSettings} {e : SyntaxError}
    (h : parseDocument text settings = .error e) (file : Option String) :
    ∃ p ≤ text.length, ∃ line column : Nat, e.position = ⟨line, column⟩ ∧
      e.position = .counted text.toList p ∧
      (e.report file text).toList =
        Line.join ((Excerpt.location file line column).toList ::
          ((Excerpt.rows text line).flatMap (Excerpt.drawn e.position) ++
            [e.fault.message.toList])) ∧
      Excerpt.Tells text.toList p line column (Excerpt.rows text line) := by
  obtain ⟨p, hp, hposition⟩ := exists_offset_of_error h
  obtain ⟨line, column, l, tail, hplace, hcut, hbelow⟩ :=
    Line.drop_cut_of_offset (show p ≤ text.toList.length from hp)
  refine ⟨p, hp, line + 1, column + 1, by rw [hposition, hplace]; rfl,
    by rw [hposition, Position.counted_eq_ofOffset],
    SyntaxError.toList_report (by rw [hposition, hplace]; rfl) line.succ_pos file text, ?_⟩
  have hlisted {m : List Char} {n k : Nat} (hm : (m, n + 1) ∈ Excerpt.rows text k) :
      (Line.listing text.toList)[n]? = some m := (Excerpt.mem_rows.1 hm).2.2.2
  constructor
  case content =>
    intro m n hm hunbroken
    exact ((Line.getElem?_listing_eq_some hunbroken).1 (hlisted hm)).1
  case broken =>
    intro m n hm hunbroken
    have hm := hlisted hm
    rw [Line.getElem?_listing hunbroken, Option.map_eq_some_iff] at hm
    obtain ⟨whole, hwhole, rfl⟩ := hm
    exact ⟨whole, (Line.filled?_eq_some.1 hwhole).1, rfl⟩
  case own =>
    intro hunbroken
    refine ⟨fun ⟨m, hm⟩ => ((Line.getElem?_listing_eq_some hunbroken).1 (hlisted hm)).2,
      fun hlast => ⟨l, ?_⟩⟩
    have hl : (Line.listing text.toList)[line]? = some l :=
      (Line.getElem?_listing_eq_some hunbroken).2 ⟨by rw [← List.head?_drop, hcut]; rfl, hlast⟩
    refine Excerpt.mem_rows.2 ⟨fun hjoin => ?_, by omega, by omega, hl⟩
    obtain ⟨rfl, hlisting⟩ := Excerpt.listing_of_join_window hjoin hl
    exact line_ne_one_of_listing h hunbroken hlisting (by rw [hposition, hplace]; rfl)
  case mark =>
    intro m hm hunbroken
    have hm := ((Line.getElem?_listing_eq_some hunbroken).1 (hlisted hm)).1
    rw [← List.head?_drop, hcut, List.head?_cons, Option.some.injEq] at hm
    subst hm
    have hhead := Line.head?_cut (text.toList.drop p)
    rw [hbelow, List.head?_cons, Option.some.injEq] at hhead
    refine ⟨(Excerpt.gutter (line + 1)).length + column, ?_, ?_⟩
    · have hcount : (((Excerpt.gutter (line + 1)).length : Int) + (column + 1) - 1).toNat =
          (Excerpt.gutter (line + 1)).length + column := by omega
      simp [Excerpt.drawn, Excerpt.numbered, hcount]
    · simp [List.drop_append, hhead]

/-- On an empty last line an error has no row and no mark. -/
theorem tells_of_end_of_text :
    parseDocument "a\n" {} = .error ⟨.terminatorExpected "a" none, ⟨2, 1⟩⟩ ∧
      Excerpt.rows "a\n" 2 = [(['a'], 1)] ∧
      ∃ p ≤ "a\n".length, ∃ line column : Nat, (⟨2, 1⟩ : Position) = ⟨line, column⟩ ∧
        (⟨2, 1⟩ : Position) = .counted "a\n".toList p ∧
        (SyntaxError.report ⟨.terminatorExpected "a" none, ⟨2, 1⟩⟩ none "a\n").toList =
          Line.join ((Excerpt.location none line column).toList ::
            ((Excerpt.rows "a\n" line).flatMap (Excerpt.drawn ⟨2, 1⟩) ++
              [(SyntaxFault.terminatorExpected "a" none).message.toList])) ∧
        Excerpt.Tells "a\n".toList p line column (Excerpt.rows "a\n" line) := by
  have herror : parseDocument "a\n" {} = .error ⟨.terminatorExpected "a" none, ⟨2, 1⟩⟩ := by
    decide +kernel
  exact ⟨herror, by decide +kernel, tells_of_error herror none⟩

/-- A form feed ends a listed line but not a line, and the rows below it have the wrong numbers. -/
example : parseDocument "a \"\x0c\"\nb" {} = .error ⟨.terminatorExpected "a" (some 'b'), ⟨2, 1⟩⟩ ∧
    Excerpt.rows "a \"\x0c\"\nb" 2 = [("a \"".toList, 1), (['"'], 2), (['b'], 3)] := by
  decide +kernel

end YangSchema
