import YangSchema.Proofs.Argument.Parts
import YangSchema.Proofs.Binary64.Rounding
import YangSchema.Proofs.Typedef.Outcome
import YangSchema.Proofs.Types.IntegerLiteral

/-!
# Ranges on integer types

The bounds of a range and the values it is asked about are rounded to floating-point numbers. So a
range on an integer type admits the integers that are written, and beyond `2^53` also those that
round to the same number as a bound.
-/
namespace YangSchema

/-- One integer is at most another, or both are so large that they round to one number. -/
def AlmostLe (a b : Int) : Prop :=
  a ≤ b ∨ Binary64.ofInt a = Binary64.ofInt b ∧ 2 ^ 53 ≤ a.natAbs ∧ 2 ^ 53 ≤ b.natAbs

theorem almostLe_of_nearestUnits_le {a b : Int}
    (h : Binary64.nearestUnits a ≤ Binary64.nearestUnits b) : AlmostLe a b :=
  (Binary64.le_of_nearestUnits_le h).imp_right fun ⟨he, ha, hb⟩ =>
    ⟨Binary64.ofInt_eq_of_nearestUnits_eq he ha hb, ha, hb⟩

theorem AlmostLe.le {a b : Int} (h : AlmostLe a b) (hs : a.natAbs < 2 ^ 53 ∨ b.natAbs < 2 ^ 53) :
    a ≤ b := by
  obtain h | ⟨-, ha, hb⟩ := h <;> omega

namespace Argument
open Text Binary64

variable {limits : IntegerLimits}

/-- A number that the bound is nearest to, within the limits as they are rounded. -/
structure BoundOf (limits : IntegerLimits) (token : List Char) (x : Binary64) (n : Int) : Prop where
  written : exactBound? limits token = some n
  nearest : IsNearest x n
  low : nearestUnits limits.low ≤ nearestUnits n
  high : nearestUnits n ≤ nearestUnits limits.high

theorem isInfinite_of_between {x y z : Binary64} {a b : Int} (hx : IsNearest x a)
    (hz : IsNearest z b) (h₁ : x.le y = true) (h₂ : y.le z = true) : y.isInfinite = false := by
  obtain ⟨_, _, rfl, -⟩ := hx
  obtain ⟨_, _, rfl, -⟩ := hz
  cases y with
  | infinity s => cases s <;> simp [le] at h₁ h₂
  | _ => rfl

/-- A bound without a fraction is written as an integer. -/
theorem exactBound?_of_whole {token : List Char} {b : BoundText} (hmin : token ≠ minKeyword)
    (hmax : token ≠ maxKeyword) (h : BoundText.of? token = some b) (hf : b.fraction = none) :
    exactBound? limits token = some (Numeral.signed b.negative (Numeral.value b.whole)) := by
  rw [exactBound?, if_neg hmin, if_neg hmax]
  cases hs : Numeral.splitSign token with
  | mk negative r =>
    have hr : r = r.takeWhile Char.isDigit ++ r.dropWhile Char.isDigit :=
      List.takeWhile_append_dropWhile.symm
    simp only [BoundText.of?, hs] at h
    split at h
    · cases h
    · next hrest hne =>
      cases h
      rw [hrest, List.append_nil] at hr
      have hnumeral : Numeral.isNumeral r = true := by
        refine Numeral.isNumeral_iff.2 ⟨fun hnil => hne (by rw [hnil]; rfl), ?_⟩
        rw [hr]
        exact fun c hc => List.mem_takeWhile_imp hc
      simp only [hnumeral, if_true]
      rw [← hr]
    · split at h
      · cases h
        cases hf
      · cases h
    · cases h

theorem boundOf_of_rangeBound {text : String} {token : List Char} {lower upper x : Binary64}
    (hle : limits.low ≤ limits.high) (hlow : IsNearest lower limits.low)
    (hhigh : IsNearest upper limits.high)
    (h : rangeBound text lower upper true token = .ok x) : ∃ n, BoundOf limits token x n := by
  have hmono := nearestUnits_mono hle
  unfold rangeBound at h
  split at h
  · next hmin =>
    obtain rfl := Except.ok.inj h
    exact ⟨limits.low, by rw [exactBound?, if_pos hmin], hlow, le_rfl, hmono⟩
  · next hmin =>
    split at h
    · next hmax =>
      obtain rfl := Except.ok.inj h
      exact ⟨limits.high, by rw [exactBound?, if_neg hmin, if_pos hmax], hhigh, hmono, le_rfl⟩
    · next hmax =>
      split at h
      · cases h
      · next b hb =>
        simp only [Bool.true_and] at h
        split at h
        · cases h
        · next hf =>
          split at h
          · next hin =>
            obtain rfl := Except.ok.inj h
            simp only [Bool.and_eq_true] at hin
            have hfraction : b.fraction = none := by simpa using hf
            have hfinite := isInfinite_of_between hlow hhigh hin.1 hin.2
            have hvalue : b.value = ofDecimal b.negative (Numeral.value b.whole) 0 := by
              simp [BoundText.value, hfraction]
            rw [hvalue] at hfinite hin ⊢
            have hnearest := isNearest_ofDecimal hfinite
            exact ⟨_, exactBound?_of_whole hmin hmax hb hfraction, hnearest,
              (hlow.le_iff hnearest).1 hin.1, (hnearest.le_iff hhigh).1 hin.2⟩
          · cases h

theorem isToken_of_rangeBound {text : String} {token : List Char} {lower upper x : Binary64}
    (hle : limits.low ≤ limits.high) (hlow : IsNearest lower limits.low)
    (hhigh : IsNearest upper limits.high)
    (h : rangeBound text lower upper true token = .ok x) : IsToken token :=
  have ⟨_, hn⟩ := boundOf_of_rangeBound hle hlow hhigh h
  isToken_of_exactBound? hn.written

def IntervalOf (limits : IntegerLimits) (part : List Char) (i : Interval Binary64) : Prop :=
  ∃ a b m n, IsPart part a b ∧ BoundOf limits a i.low m ∧ BoundOf limits b i.high n

/-- The intervals of a range are its parts, as they are written. -/
theorem forall₂_of_range {text : String} {lower upper : Binary64} {is : List (Interval Binary64)}
    (hle : limits.low ≤ limits.high) (hlow : IsNearest lower limits.low)
    (hhigh : IsNearest upper limits.high) (h : range text lower upper true = .ok is) :
    List.Forall₂ (IntervalOf limits) (text.toList.splitOn '|') is := by
  refine ((readParts_eq_ok_iff_reads fun _ _ => isToken_of_rangeBound hle hlow hhigh).1 h).1.imp
    fun raw i ⟨a, b, hpart, ha, hb⟩ => ?_
  obtain ⟨m, hm⟩ := boundOf_of_rangeBound hle hlow hhigh ha
  obtain ⟨n, hn⟩ := boundOf_of_rangeBound hle hlow hhigh hb
  exact ⟨a, b, m, n, hpart, hm, hn⟩

/-- A part is read as the interval that it says. -/
theorem boundsOf_of_says {part : List Char} {i : Interval Binary64} {low high : Int}
    (hi : IntervalOf limits part i) (hs : Says limits part low high) :
    (∃ a, BoundOf limits a i.low low) ∧ ∃ b, BoundOf limits b i.high high := by
  obtain ⟨a, b, m, n, hpart, hm, hn⟩ := hi
  obtain ⟨a', b', hpart', ha', hb'⟩ := hs
  obtain ⟨rfl, rfl⟩ := hpart.unique hpart' (isToken_of_exactBound? hm.written)
    (isToken_of_exactBound? hn.written) (isToken_of_exactBound? ha') (isToken_of_exactBound? hb')
  obtain rfl : m = low := Option.some.inj (hm.written.symm.trans ha')
  obtain rfl : n = high := Option.some.inj (hn.written.symm.trans hb')
  exact ⟨⟨_, hm⟩, _, hn⟩

/-- An argument says an interval in one of its parts. -/
def Writes (limits : IntegerLimits) (text : String) (low high : Int) : Prop :=
  ∃ part ∈ text.toList.splitOn '|', Says limits part low high

/-- A restriction admits only integers between ends that an argument writes, and these are within
the limits, as far as a relation tells. -/
structure AdmitsWritten (le : Int → Int → Prop) (limits : IntegerLimits) (text : String)
    (r : Restriction) : Prop where
  admits : ∀ v : Int, r.allows (.int v) = .ok true →
    ∃ low high, Writes limits text low high ∧ le low v ∧ le v high
  within : ∀ low high, Writes limits text low high →
    (le limits.low low ∧ le low limits.high) ∧ le limits.low high ∧ le high limits.high

theorem toBinary64?_int (v : Int) :
    (Value.int v).toBinary64? = if (ofInt v).isInfinite then none else some (ofInt v) := by
  rw [Value.toBinary64?]

theorem contains_of_allows {r : Restriction} {is : List (Interval Binary64)} {v : Int}
    (hr : r.condition = .range is) (h : r.allows (.int v) = .ok true) :
    ∃ i ∈ is, i.contains (ofInt v) = true ∧ IsNearest (ofInt v) v := by
  rw [Restriction.allows, hr, Condition.allows, toBinary64?_int] at h
  have hnearest := isNearest_ofInt (n := v)
  generalize ofInt v = x at h hnearest ⊢
  cases hi : x.isInfinite with
  | true => simp [hi] at h
  | false =>
    rw [hi] at h
    obtain ⟨i, hm, hc⟩ := List.any_eq_true.1 (Except.ok.inj h)
    exact ⟨i, hm, hc, hnearest hi⟩

theorem admitsWritten_almostLe {text : String} {is : List (Interval Binary64)} {r : Restriction}
    (h : List.Forall₂ (IntervalOf limits) (text.toList.splitOn '|') is)
    (hr : r.condition = .range is) : AdmitsWritten AlmostLe limits text r := by
  refine ⟨fun v hv => ?_, fun low high hw => ?_⟩
  · obtain ⟨i, hi, hc, hx⟩ := contains_of_allows hr hv
    have hflip : List.Forall₂ (flip (IntervalOf limits)) is (text.toList.splitOn '|') :=
      List.Forall₂.flip h
    obtain ⟨part, hpart, a, b, m, n, hsplit, hm, hn⟩ := exists_mem_of_forall₂ hflip hi
    simp only [Interval.contains, Bool.and_eq_true] at hc
    exact ⟨m, n, ⟨part, hpart, a, b, hsplit, hm.written, hn.written⟩,
      almostLe_of_nearestUnits_le ((hm.nearest.le_iff hx).1 hc.1),
      almostLe_of_nearestUnits_le ((hx.le_iff hn.nearest).1 hc.2)⟩
  · obtain ⟨part, hpart, hs⟩ := hw
    obtain ⟨i, -, hi⟩ := exists_mem_of_forall₂ h hpart
    obtain ⟨⟨_, hl⟩, _, hh⟩ := boundsOf_of_says hi hs
    exact ⟨⟨almostLe_of_nearestUnits_le hl.low, almostLe_of_nearestUnits_le hl.high⟩,
      almostLe_of_nearestUnits_le hh.low, almostLe_of_nearestUnits_le hh.high⟩

/-- Between small limits nothing is rounded. -/
theorem AdmitsWritten.exact {text : String} {r : Restriction}
    (h : AdmitsWritten AlmostLe limits text r) (hlow : limits.low.natAbs < 2 ^ 53)
    (hhigh : limits.high.natAbs < 2 ^ 53) : AdmitsWritten (· ≤ ·) limits text r := by
  have hwithin (low high : Int) (hw : Writes limits text low high) :
      (limits.low ≤ low ∧ low ≤ limits.high) ∧ limits.low ≤ high ∧ high ≤ limits.high := by
    obtain ⟨⟨h₁, h₂⟩, h₃, h₄⟩ := h.within low high hw
    exact ⟨⟨h₁.le (.inl hlow), h₂.le (.inr hhigh)⟩, h₃.le (.inl hlow), h₄.le (.inr hhigh)⟩
  refine ⟨fun v hv => ?_, hwithin⟩
  obtain ⟨low, high, hw, hl, hh⟩ := h.admits v hv
  obtain ⟨⟨h₁, h₂⟩, h₃, h₄⟩ := hwithin low high hw
  exact ⟨low, high, hw, hl.le (.inl (by omega)), hh.le (.inr (by omega))⟩

end Argument

namespace TypeStore

structure RootedAt (store : TypeStore) (id : TypeId) (p : Primitive) : Prop where
  name : (store.rootNode id).name = .builtIn p.name
  nature : (store.rootNode id).nature = (primitiveNode p).nature

variable {store : TypeStore} {id : TypeId} {p : Primitive} {limits : IntegerLimits}

theorem named_of_limits (hp : p.limits? = some limits) :
    IntegerLimits.named? p.name = some limits := by
  rw [← hp]
  cases p <;> rfl

theorem numericLimits?_of_rootedAt (hp : p.limits? = some limits) (h : store.RootedAt id p) :
    store.numericLimits? id =
      some (Binary64.ofInt limits.low, Binary64.ofInt limits.high) := by
  have hdecimal : (store.rootNode id).isDecimal64 = false := by
    rw [TypeNode.isDecimal64, h.nature]
    cases p <;> first | rfl | cases hp
  simp only [numericLimits?, hdecimal, h.name, QualifiedName.builtIn, named_of_limits hp]
  rfl

theorem isInteger_of_rootedAt (hp : p.limits? = some limits) (h : store.RootedAt id p) :
    store.isInteger id = true := by
  simp only [isInteger, rootName, h.name, QualifiedName.builtIn, named_of_limits hp,
    Option.isSome_some]

end TypeStore

namespace Build

variable {tree : StatementTree} {s : Statement} {base : TypeId} {text : String}
  {b b' : TypeBuilder} {r : Restriction}

theorem exists_of_restriction_range (hs : s.name = "range") (ha : s.argument = some text)
    (h : restriction tree base s b = .ok (some r) b') :
    ∃ lower upper is, b.store.numericLimits? base = some (lower, upper) ∧
      Argument.range text lower upper (b.store.isInteger base) = .ok is ∧
        r.condition = .range is := by
  have hrange : range tree s base text b = .ok (some r) b' := by
    simpa [restriction, argument, ha, hs] using h
  simp only [range, bind_apply, get_apply] at hrange
  cases hl : b.store.numericLimits? base with
  | none => simp [hl] at hrange
  | some l =>
    obtain ⟨lower, upper⟩ := l
    simp only [hl, bind_apply] at hrange
    cases hr : Argument.range text lower upper (b.store.isInteger base) with
    | error e => cases e <;> simp [hr] at hrange
    | ok is =>
      obtain ⟨n, es, hn⟩ := onlyReports_notes tree s b
      simp only [hr, read_ok, bind_apply, hn] at hrange
      refine ⟨lower, upper, is, rfl, hr, ?_⟩
      unfold Condition.ofRanges at hrange
      split at hrange
      · simp [restrictionOf_error, RestrictionFault.isLimit] at hrange
      · rw [restrictionOf_ok] at hrange
        cases hrange
        rfl

end Build

open Build Argument

variable {tree : StatementTree} {s : Statement} {base : TypeId} {text : String}
  {b b' : TypeBuilder} {r : Restriction} {p : Primitive} {limits : IntegerLimits}

theorem limits_small (hp : p.limits? = some limits) (h₁ : p ≠ .int64) (h₂ : p ≠ .uint64) :
    limits.low.natAbs < 2 ^ 53 ∧ limits.high.natAbs < 2 ^ 53 := by
  cases p <;> cases hp <;> first | decide | contradiction

/-- A range that is accepted on an integer type admits only integers that it writes, on the types of
64 bits only up to rounding. -/
theorem admitsWritten_of_restriction (hp : p.limits? = some limits)
    (hroot : b.store.RootedAt base p) (hs : s.name = "range") (ha : s.argument = some text)
    (h : restriction tree base s b = .ok (some r) b') :
    AdmitsWritten AlmostLe limits text r ∧
      (p ≠ .int64 → p ≠ .uint64 → AdmitsWritten (· ≤ ·) limits text r) := by
  obtain ⟨hle, hlow, hhigh⟩ := Primitive.limits_bounds hp
  obtain ⟨lower, upper, is, hlimits, hrange, hr⟩ := exists_of_restriction_range hs ha h
  rw [TypeStore.numericLimits?_of_rootedAt hp hroot] at hlimits
  rw [TypeStore.isInteger_of_rootedAt hp hroot] at hrange
  obtain ⟨rfl, rfl⟩ := Prod.mk.inj (Option.some.inj hlimits)
  have hparts := forall₂_of_range hle (Binary64.isNearest_ofInt (Binary64.isInfinite_ofInt hlow))
    (Binary64.isNearest_ofInt (Binary64.isInfinite_ofInt hhigh)) hrange
  have halmost := admitsWritten_almostLe hparts hr
  refine ⟨halmost, fun h₁ h₂ => ?_⟩
  obtain ⟨hl, hh⟩ := limits_small hp h₁ h₂
  exact halmost.exact hl hh

def rangeStatement (text : String) : Statement :=
  { id := 0, name := "range", position := ⟨1, 1⟩, argument := some text }

/-- A builder that has the built-in types only; number nine is `uint64`. -/
def freshBuilder : TypeBuilder :=
  { scope := { namespaceOf := .unassigned } }

theorem rootedAt_uint64 : freshBuilder.store.RootedAt 9 .uint64 :=
  ⟨by decide +kernel, by decide +kernel⟩

theorem exists_restriction_of_allows (text : String) (v : Int)
    (h : (match restriction {} 9 (rangeStatement text) freshBuilder with
      | .ok (some r) _ => (r.allows (.int v)).toOption
      | _ => none) = some true) :
    ∃ r b', restriction {} 9 (rangeStatement text) freshBuilder = .ok (some r) b' ∧
      r.allows (.int v) = .ok true := by
  split at h
  · next r b' hr =>
    cases ha : r.allows (.int v) with
    | error e => simp [ha, Except.toOption] at h
    | ok allowed =>
      rw [ha] at h
      exact ⟨r, b', hr, by rw [ha, Option.some.inj h]⟩
  · cases h

theorem admitsWritten_ten_to_max :
    ∃ r b', restriction {} 9 (rangeStatement " 1 .. 10|20..max") freshBuilder = .ok (some r) b' ∧
      AdmitsWritten AlmostLe ⟨0, 2 ^ 64 - 1⟩ " 1 .. 10|20..max" r := by
  obtain ⟨r, b', h, -⟩ := exists_restriction_of_allows " 1 .. 10|20..max" 7
    (by decide +kernel)
  exact ⟨r, b', h, (admitsWritten_of_restriction rfl rootedAt_uint64 rfl rfl h).1⟩

/-- Of an integer that the type can read, too, the comparison may be off by rounding. -/
theorem not_admitsWritten_exactly :
    ¬ ∀ (tree : StatementTree) (s : Statement) (base : TypeId) (text : String)
        (b b' : TypeBuilder) (r : Restriction) (p : Primitive) (limits : IntegerLimits),
      p.limits? = some limits → b.store.RootedAt base p → s.name = "range" →
      s.argument = some text → restriction tree base s b = .ok (some r) b' →
        ∀ (literal : String) (v : Int), b.store.parse base literal = .ok (some (.int v)) →
          r.allows (.int v) = .ok true →
            ∃ low high, Writes limits text low high ∧ low ≤ v ∧ v ≤ high := by
  intro hall
  obtain ⟨r, b', h, hv⟩ := exists_restriction_of_allows "0..9007199254740992"
    9007199254740993 (by decide +kernel)
  have hparse : freshBuilder.store.parse 9 "9007199254740993" =
      .ok (some (.int 9007199254740993)) := by rfl
  obtain ⟨low, high, ⟨part, hpart, a, c, hp, ha, hc⟩, -, hhigh⟩ :=
    hall _ _ _ _ _ _ _ _ _ rfl rootedAt_uint64 rfl rfl h _ _ hparse hv
  obtain rfl : part = "0..9007199254740992".toList := by
    have hone : "0..9007199254740992".toList.splitOn '|' = ["0..9007199254740992".toList] := by
      decide
    exact List.mem_singleton.1 (hone ▸ hpart)
  have hsplit := splitPart_of_isPart .range "" hp (isToken_of_exactBound? ha)
    (isToken_of_exactBound? hc)
  have hpart' : splitPart .range "" "0..9007199254740992".toList =
      .ok (['0'], "9007199254740992".toList) := by decide
  rw [hpart'] at hsplit
  cases hsplit
  have hwritten : exactBound? ⟨0, 2 ^ 64 - 1⟩ "9007199254740992".toList =
      some 9007199254740992 := by decide
  have := Option.some.inj (hwritten.symm.trans hc)
  omega

end YangSchema
