import YangSchema.Argument
import YangSchema.Proofs.Text.Numeral
import YangSchema.Proofs.Text.Trim
import YangSchema.Types.Codec

/-!
# Ranges as they are written

What a range on an integer type says when its bounds are taken as integers: each part between bars
is one bound or two with dots between them, with white space around, and a bound is an integer or a
word for a limit of the type. Splitting an argument finds exactly these parts.
-/
namespace YangSchema

namespace Unicode

def AllBlank (s : List Char) : Prop :=
  ∀ c ∈ s, isBlank c = true

theorem allBlank_nil : AllBlank [] :=
  fun _ hc => absurd hc List.not_mem_nil

theorem AllBlank.append {a b : List Char} (ha : AllBlank a) (hb : AllBlank b) :
    AllBlank (a ++ b) :=
  fun c hc => (List.mem_append.1 hc).elim (ha c) (hb c)

/-- Trimming takes white space from both ends and nothing else. -/
theorem exists_eq_append_trim (s : List Char) :
    ∃ before after, AllBlank before ∧ AllBlank after ∧ s = before ++ trim s ++ after :=
  Text.exists_eq_append_trimBy isBlank s

/-- What neither starts nor ends with white space is found by trimming. -/
theorem trim_append {before s after : List Char} (hb : AllBlank before) (ha : AllBlank after)
    (hne : s ≠ []) (hfirst : isBlank (s.head hne) = false)
    (hlast : isBlank (s.getLast hne) = false) : trim (before ++ s ++ after) = s :=
  Text.trimBy_append hb ha hne hfirst hlast

end Unicode

namespace Argument
open Text Unicode

/-- What stands for a bound has no white space and no dots in it. -/
structure IsToken (token : List Char) : Prop where
  ne_nil : token ≠ []
  solid : ∀ c ∈ token, isBlank c = false
  noDot : '.' ∉ token

/-- The integer that a bound on a type of given limits is written as. -/
def exactBound? (limits : IntegerLimits) (token : List Char) : Option Int :=
  if token = minKeyword then some limits.low
  else if token = maxKeyword then some limits.high
  else
    let (negative, digits) := Numeral.splitSign token
    if Numeral.isNumeral digits then some (Numeral.signed negative (Numeral.value digits)) else none

theorem isBlank_of_isDigit {c : Char} (h : c.isDigit = true) : isBlank c = false := by
  have hdigits : ∀ n < 58, 48 ≤ n → inBounds blankBounds n = false := by decide
  have hc := Numeral.toNat_of_isDigit h
  exact hdigits c.toNat (by omega) hc.1

theorem isToken_of_numeral {digits : List Char} (h : Numeral.isNumeral digits = true) :
    IsToken digits := by
  obtain ⟨hne, hdigits⟩ := Numeral.isNumeral_iff.1 h
  refine ⟨hne, fun c hc => isBlank_of_isDigit (hdigits c hc), fun hd => ?_⟩
  exact absurd (hdigits '.' hd) (by decide)

theorem IsToken.trim_append {before token after : List Char} (h : IsToken token)
    (hb : AllBlank before) (ha : AllBlank after) : trim (before ++ token ++ after) = token :=
  Unicode.trim_append hb ha h.ne_nil (h.solid _ (List.head_mem _)) (h.solid _ (List.getLast_mem _))

theorem IsToken.cons {c : Char} {s : List Char} (hc : isBlank c = false) (hd : '.' ≠ c)
    (hs : IsToken s) : IsToken (c :: s) :=
  ⟨by simp, by simpa [hc] using hs.solid, by simpa [hd] using hs.noDot⟩

theorem solid_of_any {s : List Char} (h : s.any isBlank = false) : ∀ c ∈ s, isBlank c = false := by
  intro c hc
  simpa using List.any_eq_false.1 h c hc

theorem isToken_minKeyword : IsToken minKeyword :=
  ⟨by decide, solid_of_any (by decide), by decide⟩

theorem isToken_maxKeyword : IsToken maxKeyword :=
  ⟨by decide, solid_of_any (by decide), by decide⟩

theorem isToken_of_exactBound? {limits : IntegerLimits} {token : List Char} {n : Int}
    (h : exactBound? limits token = some n) : IsToken token := by
  unfold exactBound? at h
  split at h
  · next hmin => exact hmin ▸ isToken_minKeyword
  · split at h
    · next hmax => exact hmax ▸ isToken_maxKeyword
    · cases hs : Numeral.splitSign token with
      | mk negative digits =>
        simp only [hs] at h
        split at h
        · next hn =>
          have hdigits := isToken_of_numeral hn
          unfold Numeral.splitSign at hs
          split at hs <;> cases hs
          · exact hdigits.cons rfl (by decide)
          · exact hdigits.cons rfl (by decide)
          · exact hdigits
        · cases h

inductive IsPart : List Char → List Char → List Char → Prop where
  | bound {before token after : List Char} :
    AllBlank before → AllBlank after → IsPart (before ++ token ++ after) token token
  | pair {a low b c high d : List Char} :
    AllBlank a → AllBlank b → AllBlank c → AllBlank d →
      IsPart (a ++ low ++ b ++ '.' :: '.' :: (c ++ high ++ d)) low high

def Says (limits : IntegerLimits) (part : List Char) (low high : Int) : Prop :=
  ∃ a b, IsPart part a b ∧ exactBound? limits a = some low ∧ exactBound? limits b = some high

theorem eq_append_of_cutAtDots {s a b : List Char} (h : cutAtDots s = some (a, b)) :
    s = a ++ '.' :: '.' :: b := by
  fun_induction cutAtDots s generalizing a with
  | case1 r =>
    cases h
    rfl
  | case2 c r _ ih =>
    cases hr : cutAtDots r with
    | none => simp [hr] at h
    | some p =>
      obtain ⟨x, y⟩ := p
      rw [hr] at h ih
      cases h
      rw [ih rfl, List.cons_append]
  | case3 => simp at h

/-- The first dots are found behind a text without dots. -/
theorem cutAtDots_append {s : List Char} (h : '.' ∉ s) (r : List Char) :
    cutAtDots (s ++ '.' :: '.' :: r) = some (s, r) := by
  induction s with
  | nil => rfl
  | cons c s ih =>
    obtain ⟨hc, hs⟩ : '.' ≠ c ∧ '.' ∉ s := by simpa using h
    rw [List.cons_append, cutAtDots.eq_2 _ _ (by rintro _ rfl; exact absurd rfl hc), ih hs]
    rfl

theorem cutAtDots_eq_none {s : List Char} (h : '.' ∉ s) : cutAtDots s = none := by
  by_contra hne
  obtain ⟨⟨a, b⟩, hs⟩ := Option.ne_none_iff_exists'.1 hne
  exact h (eq_append_of_cutAtDots hs ▸ by simp)

theorem isPart_of_splitPart {kind : PartKind} {text : String} {raw a b : List Char}
    (h : splitPart kind text raw = .ok (a, b)) : IsPart raw a b := by
  obtain ⟨before, after, hb, ha, hraw⟩ := exists_eq_append_trim raw
  simp only [splitPart] at h
  split at h
  · cases h
  · split at h
    · cases h
      have hpart : IsPart (before ++ trim raw ++ after) (trim raw) (trim raw) := .bound hb ha
      rwa [← hraw] at hpart
    · next x y hcut =>
      split at h
      · cases h
      · cases h
        obtain ⟨b₁, a₁, hb₁, ha₁, hx⟩ := exists_eq_append_trim x
        obtain ⟨b₂, a₂, hb₂, ha₂, hy⟩ := exists_eq_append_trim y
        have hpart : IsPart (before ++ b₁ ++ trim x ++ a₁ ++
            '.' :: '.' :: (b₂ ++ trim y ++ (a₂ ++ after))) (trim x) (trim y) :=
          .pair (hb.append hb₁) ha₁ hb₂ (ha₂.append ha)
        have htrim := eq_append_of_cutAtDots hcut
        have heq : raw = before ++ b₁ ++ trim x ++ a₁ ++
            '.' :: '.' :: (b₂ ++ trim y ++ (a₂ ++ after)) := by
          conv_lhs => rw [hraw, htrim, hx, hy]
          simp
        rwa [← heq] at hpart

theorem splitPart_of_isPart (kind : PartKind) (text : String) {raw a b : List Char}
    (h : IsPart raw a b) (ha : IsToken a) (hb : IsToken b) :
    splitPart kind text raw = .ok (a, b) := by
  cases h with
  | bound hbefore hafter =>
    have htrim := ha.trim_append hbefore hafter
    simp only [splitPart, htrim, cutAtDots_eq_none ha.noDot]
    simp [ha.ne_nil]
  | @pair w _ x y _ z h₁ h₂ h₃ h₄ =>
    have htrim : trim (w ++ a ++ x ++ '.' :: '.' :: (y ++ b ++ z)) =
        a ++ (x ++ '.' :: '.' :: y) ++ b := by
      have hne : a ++ (x ++ '.' :: '.' :: y) ++ b ≠ [] := by simp [ha.ne_nil]
      have hfirst : isBlank ((a ++ (x ++ '.' :: '.' :: y) ++ b).head hne) = false := by
        simp only [List.append_assoc, List.head_append_of_ne_nil ha.ne_nil]
        exact ha.solid _ (List.head_mem _)
      have hlast : isBlank ((a ++ (x ++ '.' :: '.' :: y) ++ b).getLast hne) = false := by
        rw [List.getLast_append_of_ne_nil hne hb.ne_nil]
        exact hb.solid _ (List.getLast_mem _)
      have := trim_append h₁ h₄ hne hfirst hlast
      simpa using this
    have hdot : '.' ∉ a ++ x := by
      rw [List.mem_append]
      rintro (hd | hd)
      · exact ha.noDot hd
      · exact absurd (h₂ '.' hd) (by decide)
    have hcut : cutAtDots (a ++ (x ++ '.' :: '.' :: y) ++ b) = some (a ++ x, y ++ b) := by
      simpa using cutAtDots_append hdot (y ++ b)
    have hlow : trim (a ++ x) = a := by
      have := ha.trim_append allBlank_nil h₂
      rwa [List.nil_append] at this
    have hhigh : trim (y ++ b) = b := by
      have := hb.trim_append h₃ allBlank_nil
      rwa [List.append_nil] at this
    simp only [splitPart, htrim, hcut, hlow, hhigh, cutAtDots_eq_none hb.noDot]
    simp [ha.ne_nil, hb.ne_nil]

end Argument
end YangSchema
