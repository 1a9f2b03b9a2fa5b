import Mathlib.Algebra.Group.Int.Defs
import YangSchema.Proofs.Base64
import YangSchema.Proofs.Types.IntegerLiteral

/-!
# Values written and read back

Each built-in type but decimal64 writes exactly its own values and reads back what it wrote. What it
reads of any literal can be written, and the text that is written is read as the same value.
-/
namespace YangSchema
open Text Numeral

/-- The value that a text or a row of bytes is read as. -/
def Value.plain : Value → Value
  | .status s => .string s.name
  | .buffer b => .bytes b
  | v => v

namespace Codec

variable {c : Codec} {limits : IntegerLimits} {n : Int} {v : Value} {text : String}

def Has : Codec → Value → Prop
  | boolean, .bool _ => True
  | integer limits, .int n => limits.low ≤ n ∧ n ≤ limits.high
  | string, .string _ | string, .status _ => True
  | binary, .bytes _ | binary, .buffer _ => True
  | _, _ => False

/-- What is written is read back, and what is read can be written. -/
structure RoundTrips (c : Codec) : Prop where
  writes_iff : ∀ v, (∃ text, c.serialize v = some text) ↔ c.Has v
  parse_serialize : ∀ v text, c.serialize v = some text → c.parse text = .ok (some v.plain)
  serialize_parse : ∀ text v, c.parse text = .ok (some v) →
    ∃ text', c.serialize v = some text' ∧ c.parse text' = .ok (some v)

/-- The numeral of an integer is one of its literals. -/
theorem writesInteger_toString (n : Int) :
    WritesInteger (toString n).toList (Nat.toDigits 10 n.natAbs) n := by
  obtain ⟨sign, negative, hs, htext, hn⟩ := exists_sign_toString n
  have hw := writesInteger_append hs (isNumeral_toDigits n.natAbs)
  rwa [value_toDigits, hn, ← htext] at hw

theorem parse_toString (hlow : limits.low ≤ n) (hhigh : n ≤ limits.high)
    (hn : n.natAbs ≤ 2 ^ 64) : (integer limits).parse (toString n) = .ok (some (.int n)) := by
  have hlength : (Nat.toDigits 10 n.natAbs).length ≤ maxDigits :=
    (length_toDigits_le hn).trans (by decide)
  exact parse_integer_eq_some_iff.2
    ⟨_, n, writesInteger_toString n, hlength, hlow, hhigh, rfl⟩

theorem roundTrips_integer {p : Primitive} (hp : p.limits? = some limits) :
    RoundTrips (integer limits) := by
  obtain ⟨-, hlow, hhigh⟩ := Primitive.limits_bounds hp
  have hread (n : Int) (h : limits.low ≤ n ∧ n ≤ limits.high) :
      (integer limits).serialize (.int n) = some (toString n) ∧
        (integer limits).parse (toString n) = .ok (some (.int n)) :=
    ⟨if_pos h, parse_toString h.1 h.2 (by omega)⟩
  refine ⟨fun v => ?_, fun v text h => ?_, fun text v h => ?_⟩
  · cases v <;> simp [serialize, Has]
  · cases v with
    | int n =>
      have hin : limits.low ≤ n ∧ n ≤ limits.high := by
        by_contra hout
        rw [serialize, if_neg hout] at h
        cases h
      obtain ⟨hs, hp⟩ := hread n hin
      obtain rfl := Option.some.inj (hs.symm.trans h)
      exact hp
    | _ => cases h
  · obtain ⟨_, n, -, -, hl, hh, rfl⟩ := parse_integer_eq_some_iff.1 h
    exact ⟨_, hread n ⟨hl, hh⟩⟩

theorem roundTrips_empty : RoundTrips empty := by
  refine ⟨fun v => ?_, fun v text h => ?_, fun text v h => ?_⟩
  · cases v <;> simp [serialize, Has]
  · cases v <;> cases h
  · cases h

theorem roundTrips_boolean : RoundTrips boolean := by
  refine ⟨fun v => ?_, fun v text h => ?_, fun text v h => ?_⟩
  · cases v <;> simp [serialize, Has]
  · cases v with
    | bool b =>
      obtain rfl := Option.some.inj h
      cases b <;> rfl
    | _ => cases h
  · simp only [parse] at h
    split at h
    · cases h
      exact ⟨"true", rfl, rfl⟩
    · split at h
      · cases h
        exact ⟨"false", rfl, rfl⟩
      · cases h

theorem roundTrips_string : RoundTrips string := by
  refine ⟨fun v => ?_, fun v text h => ?_, fun text v h => ?_⟩
  · cases v <;> simp [serialize, Has]
  · cases v with
    | string s | status s =>
      obtain rfl := Option.some.inj h
      rfl
    | _ => cases h
  · cases h
    exact ⟨text, rfl, rfl⟩

theorem parse_encode (b : List UInt8) :
    binary.parse (String.ofList (Base64.encode b)) = .ok (some (.bytes b)) := by
  rw [parse, String.toList_ofList, Base64.decode?_encode]
  rfl

theorem roundTrips_binary : RoundTrips binary := by
  refine ⟨fun v => ?_, fun v text h => ?_, fun text v h => ?_⟩
  · cases v <;> simp [serialize, Has]
  · cases v with
    | bytes b | buffer b =>
      obtain rfl := Option.some.inj h
      exact parse_encode b
    | _ => cases h
  · obtain ⟨b, -, rfl⟩ : ∃ b, Base64.decode? text.toList = some b ∧ .bytes b = v := by
      simpa [parse] using h
    exact ⟨_, rfl, parse_encode b⟩

end Codec

/-- Every built-in type but decimal64 reads back what it writes, for all of its values, and writes
what it reads. -/
theorem roundTrips_of_primitive {p : Primitive} (hp : p ≠ .decimal64) :
    ∃ c, p.codec? = some c ∧ c.RoundTrips := by
  cases hl : p.limits? with
  | some limits => exact ⟨_, Primitive.codec?_of_limits hl, Codec.roundTrips_integer hl⟩
  | none =>
    cases p with
    | empty => exact ⟨_, rfl, Codec.roundTrips_empty⟩
    | boolean => exact ⟨_, rfl, Codec.roundTrips_boolean⟩
    | string => exact ⟨_, rfl, Codec.roundTrips_string⟩
    | binary => exact ⟨_, rfl, Codec.roundTrips_binary⟩
    | decimal64 => exact absurd rfl hp
    | _ => cases hl

/-- The least 64-bit integer keeps its sign and all its digits. -/
theorem roundTrips_least_int64 :
    ∃ c, Primitive.int64.codec? = some c ∧ ∃ text,
      c.serialize (.int (-2 ^ 63)) = some text ∧ c.parse text = .ok (some (.int (-2 ^ 63))) := by
  obtain ⟨c, hc, h⟩ := roundTrips_of_primitive (p := .int64) (by decide)
  obtain rfl : Codec.integer (.signed 64) = c := Option.some.inj hc
  obtain ⟨text, htext⟩ := (h.writes_iff (.int (-2 ^ 63))).2 (by unfold Codec.Has; decide)
  exact ⟨_, hc, text, htext, h.parse_serialize _ _ htext⟩

end YangSchema
