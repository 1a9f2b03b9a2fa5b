import YangSchema.Text.Quoted

/-!
# Reading UTF-8

Bytes are read as characters. The first byte that cannot go on refuses the whole, with the place of
the sequence that it breaks.
-/
namespace YangSchema.Utf8

inductive Reason where
  | start
  | continuation
  | ended
  deriving Repr, DecidableEq

def Reason.message : Reason → String
  | start => "invalid start byte"
  | continuation => "invalid continuation byte"
  | ended => "unexpected end of data"

/-- A broken sequence: its first byte, and its places from `start` up to `stop`. -/
structure Fault where
  first : UInt8
  start : Nat
  stop : Nat
  reason : Reason
  deriving Repr, DecidableEq

def Fault.message (f : Fault) : String :=
  let place :=
    if f.stop = f.start + 1 then
      let byte := String.ofList (Text.hexDigits 2 f.first.toNat)
      s!"byte 0x{byte} in position {f.start}"
    else s!"bytes in position {f.start}-{f.stop - 1}"
  s!"'utf-8' codec can't decode {place}: {f.reason.message}"

/-- A sequence of which `missing` bytes are still to come, the next of them between two bounds. -/
structure Sequence where
  first : UInt8
  start : Nat
  missing : Nat
  low : UInt8 := 0x80
  high : UInt8 := 0xBF
  value : Nat

/-- The sequence that a byte starts. The bounds keep out overlong forms, surrogates and numbers
above the last code point. -/
def sequence? (b : UInt8) (start : Nat) : Option Sequence :=
  let low (bits : Nat) : Nat := b.toNat % Nat.pow 2 bits
  if 0xC2 ≤ b && b ≤ 0xDF then some { first := b, start, missing := 1, value := low 5 }
  else if b = 0xE0 then some { first := b, start, missing := 2, low := 0xA0, value := low 4 }
  else if b = 0xED then some { first := b, start, missing := 2, high := 0x9F, value := low 4 }
  else if 0xE1 ≤ b && b ≤ 0xEF then some { first := b, start, missing := 2, value := low 4 }
  else if b = 0xF0 then some { first := b, start, missing := 3, low := 0x90, value := low 3 }
  else if b = 0xF4 then some { first := b, start, missing := 3, high := 0x8F, value := low 3 }
  else if 0xF1 ≤ b && b ≤ 0xF3 then some { first := b, start, missing := 3, value := low 3 }
  else none

/-- Reads on from a place, with the characters so far, last first, and the sequence that is open. -/
def decodeFrom (place : Nat) (done : List Char) :
    Option Sequence → List UInt8 → Except Fault (List Char)
  | none, [] => .ok done.reverse
  | some q, [] => .error ⟨q.first, q.start, place, .ended⟩
  | none, b :: r =>
    if b < 0x80 then decodeFrom (place + 1) (Char.ofNat b.toNat :: done) none r
    else match sequence? b place with
      | some q => decodeFrom (place + 1) done (some q) r
      | none => .error ⟨b, place, place + 1, .start⟩
  | some q, b :: r =>
    if q.low ≤ b && b ≤ q.high then
      let value := q.value * 64 + b.toNat % 64
      if q.missing = 1 then decodeFrom (place + 1) (Char.ofNat value :: done) none r
      else
        decodeFrom (place + 1) done
          (some { first := q.first, start := q.start, missing := q.missing - 1, value }) r
    else .error ⟨q.first, q.start, place, .continuation⟩

def decode (bytes : List UInt8) : Except Fault (List Char) :=
  decodeFrom 0 [] none bytes

end YangSchema.Utf8
