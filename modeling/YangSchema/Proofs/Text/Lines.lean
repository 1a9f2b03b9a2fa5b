import YangSchema.Proofs.Lexer.Layout
import YangSchema.Proofs.Lexer.Travel

/-!
# Lines of a text and of its listing

A cut text has its lines where positions count them: the line of an offset is the line with its
number, and its column is the place in it. A listing cuts at more characters and has no empty last
line. As far as none of these other characters stands, its lines are those of the text.
-/
namespace YangSchema.Text.Line
open Dedent

variable {c : Char} {r s line : List Char} {i n p : Nat}

theorem cut_return_feed (r : List Char) : cut ('\r' :: '\n' :: r) = [] :: cut r := by
  rw [cut]

theorem cut_of_endsLine (h : Cursor.endsLine c r = true) : cut (c :: r) = [] :: cut r := by
  have hc : c = '\n' ∨ c = '\r' ∧ r.head? ≠ some '\n' := by simpa [Cursor.endsLine] using h
  rw [cut, if_pos (by rcases hc with rfl | ⟨rfl, -⟩ <;> rfl)]
  rintro t rfl rfl
  obtain hc | ⟨-, hr⟩ := hc
  · exact absurd hc (by decide)
  · exact hr rfl

theorem cut_cons (hn : c ≠ '\n') (hr : c ≠ '\r') (r : List Char) :
    cut (c :: r) = (cut r).modifyHead (c :: ·) := by
  rw [cut, if_neg (by simp [hn, hr]), consHead_eq_modifyHead (cut_ne_nil r)]
  rintro t rfl
  exact absurd rfl hr

/-- The first line of a text is what comes before its first line end. -/
theorem head?_cut (s : List Char) :
    (cut s).head? = some (s.takeWhile fun c => c ≠ '\n' && c ≠ '\r') := by
  fun_induction cut s with
  | case1 => rfl
  | case2 r ih => rfl
  | case3 c r _ hc ih =>
    have hc : c = '\r' ∨ c = '\n' := by simpa using hc
    obtain rfl | rfl := hc <;> rfl
  | case4 c r _ hc ih =>
    have hc : c ≠ '\r' ∧ c ≠ '\n' := by simpa using hc
    rw [consHead_eq_modifyHead (cut_ne_nil r), List.head?_modifyHead, ih]
    simp [hc]

theorem exists_mem_cut (h : c ∈ s) (hn : c ≠ '\n') (hr : c ≠ '\r') : ∃ l ∈ cut s, c ∈ l := by
  fun_induction cut s with
  | case1 => exact absurd h List.not_mem_nil
  | case2 r ih =>
    obtain ⟨l, hl⟩ := ih (by simpa [hn, hr] using h)
    exact ⟨l, List.mem_cons_of_mem _ hl.1, hl.2⟩
  | case3 d r _ hd ih =>
    have hd : d = '\r' ∨ d = '\n' := by simpa using hd
    obtain ⟨l, hl⟩ := ih (by obtain rfl | rfl := hd <;> simpa [hn, hr] using h)
    exact ⟨l, List.mem_cons_of_mem _ hl.1, hl.2⟩
  | case4 d r _ _ ih =>
    obtain ⟨l, tail, hcut⟩ := List.exists_cons_of_ne_nil (cut_ne_nil r)
    rw [hcut] at ih
    rw [hcut, consHead]
    obtain rfl | h := List.mem_cons.1 h
    · exact ⟨c :: l, List.mem_cons_self .., List.mem_cons_self ..⟩
    · obtain ⟨m, hm, hcm⟩ := ih h
      obtain rfl | hm := List.mem_cons.1 hm
      · exact ⟨d :: m, List.mem_cons_self .., List.mem_cons_of_mem d hcm⟩
      · exact ⟨m, List.mem_cons_of_mem _ hm, hcm⟩

/-- What comes from an offset on is cut into the rest of its line and the lines below. -/
theorem drop_cut_of_offset {text : List Char} (hp : p ≤ text.length) :
    ∃ line column l tail, Position.ofOffset text p = ⟨(line : Nat) + 1, (column : Nat) + 1⟩ ∧
      (cut text).drop line = l :: tail ∧ cut (text.drop p) = l.drop column :: tail := by
  induction p with
  | zero =>
    obtain ⟨l, tail, hcut⟩ := List.exists_cons_of_ne_nil (cut_ne_nil text)
    exact ⟨0, 0, l, tail, rfl, hcut, hcut⟩
  | succ p ih =>
    obtain ⟨line, column, l, tail, hposition, hline, hrest⟩ := ih (Nat.le_of_succ_le hp)
    have hdrop := List.drop_eq_getElem_cons (Nat.lt_of_succ_le hp)
    rw [Position.ofOffset_succ hdrop, hposition, Cursor.positionAfter]
    generalize text[p] = c at hdrop
    generalize text.drop (p + 1) = r at hdrop
    rw [hdrop] at hrest
    by_cases hend : Cursor.endsLine c r = true
    · rw [cut_of_endsLine hend, List.cons.injEq] at hrest
      obtain ⟨l', tail', hcut⟩ := List.exists_cons_of_ne_nil (cut_ne_nil r)
      refine ⟨line + 1, 0, l', tail', by simp [hend], ?_, hcut⟩
      rw [← List.tail_drop, hline, List.tail_cons, ← hrest.2, hcut]
    · refine ⟨line, column + 1, l, tail, by simp [hend], hline, ?_⟩
      rw [← List.tail_drop]
      by_cases hreturn : c = '\r'
      · -- The line feed behind the carriage return ends the line.
        subst hreturn
        obtain ⟨t, rfl⟩ : ∃ t, r = '\n' :: t := by
          have hhead : r.head? = some '\n' := by simpa [Cursor.endsLine] using hend
          exact ⟨r.tail, (List.cons_head?_tail hhead).symm⟩
        rw [cut_return_feed, List.cons.injEq] at hrest
        rw [cut_of_endsLine rfl, ← hrest.1, hrest.2, List.tail_nil]
      · have hfeed : c ≠ '\n' := by
          rintro rfl
          exact hend rfl
        obtain ⟨l', tail', hcut⟩ := List.exists_cons_of_ne_nil (cut_ne_nil r)
        rw [cut_cons hfeed hreturn, hcut, List.modifyHead_cons, List.cons.injEq] at hrest
        rw [hcut, ← hrest.1, hrest.2, List.tail_cons]

/-- The first lines of a text, so many of them, hold no boundary at which only a listing cuts. -/
def Unbroken (s : List Char) (n : Nat) : Prop :=
  ∀ l ∈ (cut s).take n, ∀ c ∈ l, isBoundary c = false

instance (s : List Char) (n : Nat) : Decidable (Unbroken s n) :=
  inferInstanceAs (Decidable (∀ l ∈ (cut s).take n, ∀ c ∈ l, isBoundary c = false))

theorem Unbroken.mono (h : Unbroken s n) (hi : i ≤ n) : Unbroken s i :=
  fun l hl => h l (List.take_subset_take_left _ hi hl)

theorem Unbroken.tail (hcut : cut s = [] :: cut r) (h : Unbroken s (n + 1)) : Unbroken r n := by
  intro l hl
  refine h l ?_
  rw [hcut, List.take_succ_cons]
  exact List.mem_cons_of_mem _ hl

theorem isBoundary_eq_false (h : Unbroken (c :: r) (n + 1)) (hn : c ≠ '\n') (hr : c ≠ '\r') :
    isBoundary c = false := by
  obtain ⟨l, tail, hcut⟩ := List.exists_cons_of_ne_nil (cut_ne_nil r)
  refine h (c :: l) ?_ c (List.mem_cons_self ..)
  rw [cut_cons hn hr, hcut, List.modifyHead_cons, List.take_succ_cons]
  exact List.mem_cons_self ..

theorem Unbroken.of_cons (h : Unbroken (c :: r) n) (hn : c ≠ '\n') (hr : c ≠ '\r') :
    Unbroken r n := by
  obtain ⟨l, tail, hcut⟩ := List.exists_cons_of_ne_nil (cut_ne_nil r)
  cases n with
  | zero =>
    intro m hm
    simp at hm
  | succ n =>
    rw [Unbroken, cut_cons hn hr, hcut, List.modifyHead_cons, List.take_succ_cons,
      List.forall_mem_cons] at h
    rw [Unbroken, hcut, List.take_succ_cons, List.forall_mem_cons]
    exact ⟨fun d hd => h.1 d (List.mem_cons_of_mem _ hd), h.2⟩

/-- The part of a line that a listing shows as the line. -/
def unbrokenPart (l : List Char) : List Char :=
  l.takeWhile (!isBoundary ·)

theorem unbrokenPart_append (h : ∀ c ∈ line, isBoundary c = false) (l : List Char) :
    unbrokenPart (line ++ l) = line ++ unbrokenPart l :=
  List.takeWhile_append_of_pos fun c hc => by simp [h c hc]

theorem unbrokenPart_eq_self (h : ∀ c ∈ line, isBoundary c = false) : unbrokenPart line = line :=
  List.takeWhile_eq_self_iff.2 fun c hc => by simp [h c hc]

/-- The line with a number, unless it is an empty last one. -/
def filled? (lines : List (List Char)) (i : Nat) : Option (List Char) :=
  if lines.drop i = [[]] then none else lines[i]?

theorem filled?_zero (l : List Char) {lines : List (List Char)} (h : lines ≠ []) :
    filled? (l :: lines) 0 = some l := by
  rw [filled?, List.drop_zero, if_neg (by simp [h]), List.getElem?_cons_zero]

theorem filled?_eq_some {lines : List (List Char)} :
    filled? lines i = some line ↔ lines[i]? = some line ∧ lines.drop i ≠ [[]] := by
  rw [filled?]
  split <;> simp [*]

theorem filled?_succ (l : List Char) (lines : List (List Char)) (i : Nat) :
    filled? (l :: lines) (i + 1) = filled? lines i := rfl

/-- What a listing shows of the line with a number, behind the open line. -/
def shown? (line s : List Char) (i : Nat) : Option (List Char) :=
  (filled? ((cut s).modifyHead (line.reverse ++ ·)) i).map unbrokenPart

theorem shown?_nil (s : List Char) (i : Nat) :
    shown? [] s i = (filled? (cut s) i).map unbrokenPart := by
  rw [shown?]
  cases cut s <;> rfl

/-- A line end closes the open line. -/
theorem getElem?_of_end (hcut : cut s = [] :: cut r) (hline : ∀ c ∈ line, isBoundary c = false)
    (h : Unbroken s i) (ih : ∀ {i}, Unbroken r i → (listingFrom [] r)[i]? = shown? [] r i) :
    (line.reverse :: listingFrom [] r)[i]? = shown? line s i := by
  rw [shown?, hcut, List.modifyHead_cons, List.append_nil]
  cases i with
  | zero =>
    rw [filled?_zero _ (cut_ne_nil r), Option.map_some, unbrokenPart_eq_self (by simpa using hline),
      List.getElem?_cons_zero]
  | succ i => rw [List.getElem?_cons_succ, ih (h.tail hcut), shown?_nil, filled?_succ]

theorem getElem?_listingFrom (hline : ∀ c ∈ line, isBoundary c = false) (h : Unbroken s i) :
    (listingFrom line s)[i]? = shown? line s i := by
  fun_induction listingFrom line s generalizing i with
  | case1 line hempty =>
    obtain rfl := List.isEmpty_iff.1 hempty
    cases i <;> simp [shown?, filled?, cut]
  | case2 line hempty =>
    have hempty : line ≠ [] := by simpa using hempty
    have hshown : unbrokenPart line.reverse = line.reverse :=
      unbrokenPart_eq_self (by simpa using hline)
    cases i <;> simp [shown?, filled?, cut, hempty, hshown]
  | case3 line r ih => exact getElem?_of_end (cut_return_feed r) hline h (ih (by simp))
  | case4 line c r hrest hc ih =>
    by_cases hend : c = '\r' ∨ c = '\n'
    · have hcut : cut (c :: r) = [] :: cut r := by
        rw [cut, if_pos (by simpa using hend)]
        exact hrest
      exact getElem?_of_end hcut hline h (ih (by simp))
    · rw [not_or] at hend
      cases i with
      | zero =>
        obtain ⟨l, tail, hcut⟩ := List.exists_cons_of_ne_nil (cut_ne_nil r)
        have hpart : unbrokenPart (line.reverse ++ c :: l) = line.reverse := by
          rw [unbrokenPart_append (by simpa using hline)]
          simp [unbrokenPart, hc]
        rw [shown?, cut_cons hend.2 hend.1, hcut, filled?]
        simp [hpart]
      | succ i => exact absurd hc (by simp [isBoundary_eq_false h hend.2 hend.1])
  | case5 line c r _ hc ih =>
    have hend : c ≠ '\n' ∧ c ≠ '\r' := by
      constructor <;> rintro rfl <;> exact hc rfl
    rw [ih (by simpa [hc] using hline) (h.of_cons hend.1 hend.2), shown?, shown?,
      cut_cons hend.1 hend.2, List.modifyHead_modifyHead]
    simp [Function.comp_def]

/-- The first lines of a text are those of its listing. The first one in which a listing cuts ends
there. -/
theorem getElem?_listing (h : Unbroken s i) :
    (listing s)[i]? = (filled? (cut s) i).map unbrokenPart := by
  rw [listing, getElem?_listingFrom (by simp) h, shown?_nil]

theorem getElem?_listing_eq_some (h : Unbroken s (i + 1)) :
    (listing s)[i]? = some line ↔ (cut s)[i]? = some line ∧ (cut s).drop i ≠ [[]] := by
  rw [getElem?_listing (h.mono i.le_succ), ← filled?_eq_some, Option.map_eq_some_iff]
  have hpart : ∀ l, filled? (cut s) i = some l → unbrokenPart l = l := fun l hl => by
    have hget := (filled?_eq_some.1 hl).1
    exact unbrokenPart_eq_self (h l (List.mem_of_getElem? (i := i) (by simp [hget])))
  constructor
  · rintro ⟨l, hl, rfl⟩
    rw [hpart l hl, hl]
  · exact fun hl => ⟨line, hl, hpart line hl⟩

theorem not_isBoundary_of_mem_listingFrom {l : List Char}
    (hline : ∀ c ∈ line, isBoundary c = false) (hl : l ∈ listingFrom line s) :
    ∀ c ∈ l, isBoundary c = false := by
  fun_induction listingFrom line s with
  | case1 => simp at hl
  | case2 line => simpa [List.mem_singleton.1 hl] using hline
  | case3 line r ih =>
    obtain rfl | hl := List.mem_cons.1 hl
    · simpa using hline
    · exact ih (by simp) hl
  | case4 line c r _ _ ih =>
    obtain rfl | hl := List.mem_cons.1 hl
    · simpa using hline
    · exact ih (by simp) hl
  | case5 line c r _ hc ih => exact ih (by simpa [hc] using hline) hl

theorem feed_notMem_of_mem_listing {l : List Char} (h : l ∈ listing s) : '\n' ∉ l := fun hmem =>
  absurd (not_isBoundary_of_mem_listingFrom (by simp) h _ hmem) (by decide)

end YangSchema.Text.Line
