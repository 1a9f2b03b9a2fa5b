import YangSchema.Argument
import YangSchema.Proofs.Calendar
import YangSchema.Proofs.Lexer.Recognition

/-!
# Dates as they are written

Reading a date takes its digits and hyphens off a text, and nothing else. So the texts that are read
as dates are those that dates are written as, and all others are refused as arguments.
-/
namespace YangSchema
open Text Numeral

namespace Scan

variable {α β : Type} {m : Scan α} {f : α → Scan β} {p : List Char → α → Prop}

/-- A step reads the texts of a form off the rest, whatever follows them, and no others. -/
def Reads (m : Scan α) (form : List Char → α → Prop) : Prop :=
  ∀ c a d, m c = .ok a d ↔ ∃ s, form s a ∧ s <+: c.rest ∧ d = c.advanceBy s.length

theorem Reads.bind {q : α → List Char → β → Prop} (hm : Reads m p) (hf : ∀ a, Reads (f a) (q a)) :
    Reads (m >>= f) fun s b => ∃ a s₁ s₂, p s₁ a ∧ q a s₂ b ∧ s = s₁ ++ s₂ := by
  intro c b d
  rw [bind_eq_ok]
  constructor
  · rintro ⟨a, e, ha, hb⟩
    obtain ⟨s₁, hp, ⟨t, ht⟩, rfl⟩ := (hm c a e).1 ha
    obtain ⟨s₂, hq, hs₂, rfl⟩ := (hf a _ b d).1 hb
    rw [Cursor.rest_advanceBy_length ht.symm] at hs₂
    refine ⟨s₁ ++ s₂, ⟨a, s₁, s₂, hp, hq, rfl⟩, ?_, ?_⟩
    · rwa [← ht, List.prefix_append_right_inj]
    · rw [List.length_append, Cursor.advanceBy_add]
  · rintro ⟨_, ⟨a, s₁, s₂, hp, hq, rfl⟩, ⟨t, ht⟩, rfl⟩
    rw [List.append_assoc] at ht
    refine ⟨a, _, (hm c a _).2 ⟨s₁, hp, ⟨s₂ ++ t, ht⟩, rfl⟩, (hf a _ b _).2 ⟨s₂, hq, ?_, ?_⟩⟩
    · rw [Cursor.rest_advanceBy_length ht.symm]
      exact List.prefix_append s₂ t
    · rw [List.length_append, Cursor.advanceBy_add]

theorem Reads.congr {q : List Char → α → Prop} (h : Reads m p) (hpq : ∀ s a, p s a ↔ q s a) :
    Reads m q := by
  intro c a d
  rw [h c a d]
  simp only [hpq]

theorem reads_readDigits (width : Nat) :
    Reads (readDigits width) fun s digits => s = digits ∧ IsFixed width (value digits) digits := by
  intro c digits d
  simp only [readDigits, bind_apply, get_apply, forward_apply, ite_apply]
  constructor
  · intro h
    split at h
    · cases h
    · next hlength =>
      cases h
      have hprefix := List.takeWhile_prefix (l := c.rest.take width) Char.isDigit
      have hle := hprefix.length_le
      rw [List.length_take] at hle
      refine ⟨_, ⟨rfl, by omega, fun _ hc => List.mem_takeWhile_imp hc, rfl⟩, ?_, rfl⟩
      exact hprefix.trans (List.take_prefix ..)
  · rintro ⟨digits, ⟨rfl, hfixed⟩, ⟨t, ht⟩, rfl⟩
    have htake : (c.rest.take width).takeWhile Char.isDigit = digits := by
      rw [← ht, ← hfixed.length_eq, List.take_left, List.takeWhile_eq_self_iff]
      exact hfixed.isDigit
    rw [htake, hfixed.length_eq, if_neg (Nat.lt_irrefl width), pure_apply]

theorem reads_hyphen : Reads (expect "-") fun s _ => s = ['-'] := by
  intro c _ d
  have hsingle (x : Char) : some (String.singleton x) = some "-" ↔ '-' = x := by
    rw [Option.some_inj, ← String.toList_inj, eq_comm]
    simp
  simp only [expect, bind_apply, current?_apply, ite_apply, forward_apply, Cursor.current?,
    exists_eq_left]
  cases c.rest with
  | nil => simp
  | cons x r =>
    simp only [List.head?_cons, Option.map_some, hsingle, List.cons_prefix_cons]
    split
    · next hx =>
      subst hx
      simp [eq_comm]
    · next hx => simp [hx]

theorem Reads.digits (width : Nat) {g : List Char → Scan α} {q : List Char → List Char → α → Prop}
    (h : ∀ digits, Reads (g digits) (q digits)) :
    Reads (readDigits width >>= g) fun s a =>
      ∃ digits t, IsFixed width (value digits) digits ∧ s = digits ++ t ∧ q digits t a := by
  refine ((reads_readDigits width).bind h).congr fun s a => ?_
  constructor
  · rintro ⟨digits, _, t, ⟨rfl, hd⟩, ht, rfl⟩
    exact ⟨_, t, hd, rfl, ht⟩
  · rintro ⟨digits, t, hd, rfl, ht⟩
    exact ⟨digits, digits, t, ⟨rfl, hd⟩, ht, rfl⟩

theorem Reads.hyphen (h : Reads m p) :
    Reads (expect "-" >>= fun _ => m) fun s a => ∃ t, s = '-' :: t ∧ p t a := by
  refine (reads_hyphen.bind fun _ => h).congr fun s a => ?_
  constructor
  · rintro ⟨_, _, t, rfl, ht, rfl⟩
    exact ⟨t, rfl, ht⟩
  · rintro ⟨t, rfl, ht⟩
    exact ⟨(), _, t, rfl, ht, rfl⟩

theorem reads_dateOf (start : Position) (year month day : Nat) :
    Reads (match Date.of year month day with
      | .ok d => return d
      | .error fault => failAt (.notADate year month day fault) start) fun s d =>
        s = [] ∧ d.year = year ∧ d.month = month ∧ d.day = day := by
  intro c date d
  simp only [← Date.of_eq_ok_iff, and_assoc, exists_eq_left, List.nil_prefix, true_and,
    List.length_nil, Cursor.advanceBy]
  cases Date.of year month day with
  | ok date' => simp [eq_comm]
  | error fault => simp

theorem reads_readDate : Reads readDate fun s d => WritesDate s d.year d.month d.day := by
  intro c
  have hreads : Reads _ _ := Reads.digits 4 fun ys => Reads.hyphen <| Reads.digits 2 fun ms =>
    Reads.hyphen <| Reads.digits 2 fun ds =>
      reads_dateOf c.position (value ys) (value ms) (value ds)
  refine hreads.congr (fun s d => ?_) c
  constructor
  · rintro ⟨ys, _, hys, rfl, _, rfl, ms, _, hms, rfl, _, rfl, ds, _, hds, rfl, rfl, hy, hm, hd⟩
    rw [List.append_nil, hy, hm, hd]
    exact .intro hys hms hds
  · rintro ⟨hys, hms, hds⟩
    exact ⟨_, _, hys.valued, rfl, _, rfl, _, _, hms.valued, rfl, _, rfl, _, [], hds.valued,
      (List.append_nil _).symm, rfl, hys.value_eq.symm, hms.value_eq.symm, hds.value_eq.symm⟩

end Scan

namespace Argument

variable {text : String} {d : Date}

theorem date_eq_ok_iff :
    date text = .ok d ↔ WritesDate text.toList d.year d.month d.day := by
  unfold date
  constructor
  · intro h
    split at h
    · cases h
    · next hread =>
      split at h
      · next hend =>
        cases h
        obtain ⟨s, hw, hs, rfl⟩ := (Scan.reads_readDate _ _ _).1 hread
        change s <+: text.toList at hs
        have hall : text.toList.drop s.length = [] := by
          simpa [Cursor.atEnd, Cursor.ofText] using hend
        rwa [← hs.eq_of_length_le (List.drop_eq_nil_iff.1 hall)]
      · cases h
  · intro hw
    rw [(Scan.reads_readDate _ _ _).2 ⟨_, hw, List.prefix_rfl, rfl⟩]
    simp [Cursor.atEnd, Cursor.ofText]

/-- An argument that is no date is refused, with its text. -/
theorem date_cases (text : String) : (∃ d, date text = .ok d) ∨
    date text = refuse (.afterDate text) ∨ ∃ f, date text = refuse (.notADate text f) := by
  unfold date
  split
  · exact .inr (.inr ⟨_, rfl⟩)
  · split
    · exact .inl ⟨_, rfl⟩
    · exact .inr (.inl rfl)

/-- The dates are the days of the calendar in the years 1 to 9999. A text is read as a date exactly
if it is how this date is written, with four digits, two and two, and is refused as an argument if
it is none. -/
theorem date_as_written :
    (∀ year month day, (1 ≤ year ∧ year ≤ 9999) ∧ Calendar.IsDay year month day ↔
        ∃ d : Date, d.year = year ∧ d.month = month ∧ d.day = day) ∧
      ∀ text, (∀ d, date text = .ok d ↔ d.iso = text) ∧
        (∀ d : Date, d.iso = text ↔ WritesDate text.toList d.year d.month d.day) ∧
        ((∀ d : Date, d.iso ≠ text) ↔ date text = refuse (.afterDate text) ∨
          ∃ f, date text = refuse (.notADate text f)) := by
  have hiso (text : String) (d : Date) :
      d.iso = text ↔ WritesDate text.toList d.year d.month d.day := by
    rw [writesDate_iff_iso, String.toList_inj, eq_comm]
  have hok (text : String) (d : Date) : date text = .ok d ↔ d.iso = text := by
    rw [hiso, date_eq_ok_iff]
  refine ⟨fun year month day => ?_, fun text => ⟨hok text, hiso text, ?_⟩⟩
  · rw [← Calendar.dateFault?_eq_none_iff]
    constructor
    · intro h
      exact ⟨⟨year, month, day, h⟩, rfl, rfl, rfl⟩
    · rintro ⟨d, rfl, rfl, rfl⟩
      exact d.valid
  · constructor
    · intro hnone
      obtain ⟨d, hd⟩ | hrefused := date_cases text
      · exact absurd ((hok text d).1 hd) (hnone d)
      · exact hrefused
    · intro hrefused d hd
      have hread := (hok text d).2 hd
      obtain h | ⟨f, h⟩ := hrefused <;> cases h.symm.trans hread

/-- Of two years that end a century one has a leap day. -/
example : (date "2000-02-29").toOption.map (·.iso) = some "2000-02-29" ∧
    date "1900-02-29" = refuse (.notADate "1900-02-29" (.notADate 1900 2 29 .day)) := by
  decide +kernel

end Argument
end YangSchema
