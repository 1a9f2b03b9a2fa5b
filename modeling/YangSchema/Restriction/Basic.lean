import YangSchema.Pattern.Machine
import YangSchema.Pattern.Parser
import YangSchema.Restriction.Interval
import YangSchema.Source.Position

/-!
# Restrictions

A restriction bounds the values of a type by ranges, by lengths or by a pattern, and carries notes
for messages. Each is built by a function that refuses what makes no restriction.
-/
namespace YangSchema

/-- A pattern with its reading. -/
structure PatternText where
  text : String
  rewindsRounds : Bool := true
  flags : Pattern.Flags
  tree : Pattern
  read : Pattern.parse text = .ok (flags, tree)

namespace PatternText

def of (runtime : Runtime) (text : String) : Except Pattern.Fault PatternText :=
  match h : Pattern.read runtime text with
  | .ok (flags, tree) => .ok ⟨text, runtime.rewindsRounds, flags, tree, Pattern.parse_of_read h⟩
  | .error e => .error e

theorem text_eq_of_ok {runtime : Runtime} {text : String} {p : PatternText}
    (h : of runtime text = .ok p) : p.text = text := by
  unfold of at h
  split at h <;> cases h
  rfl

def matchesAll (p : PatternText) (s : String) : Except Pattern.InvertedGroup Bool :=
  p.tree.matchesAll p.rewindsRounds p.flags s

end PatternText

/-- What a restriction says beside its condition. -/
structure Notes where
  errorMessage : Option String := none
  errorAppTag : Option String := none
  description : Option String := none
  reference : Option String := none
  origin : Option Origin := none
  deriving Repr, DecidableEq, Inhabited

inductive Condition where
  | range (parts : List (Interval Binary64))
  | length (parts : List (Interval Int))
  | pattern (p : PatternText)

structure Restriction where
  condition : Condition
  notes : Notes := {}

/-- Why there is no such restriction. -/
inductive RestrictionFault where
  | noParts
  | negativeLength (bound : Int)
  | pattern (text : String) (fault : Pattern.Fault)
  deriving Repr, DecidableEq

namespace RestrictionFault

/-- A refusal that is not told as a fault of the value: a limit of matching, or of the interpreter.
-/
def isLimit : RestrictionFault → Bool
  | pattern _ .tooManyRepetitions | pattern _ .lookbehindTooWide | pattern _ .tooDeep => true
  | _ => false

def message : RestrictionFault → String
  | noParts => "List should have at least 1 item after validation, not 0"
  | negativeLength n => s!"Value error, Length bound {n} is negative"
  | pattern text fault =>
    let told := fault.message text.toList
    match fault with
    | .ill _ _ => s!"Value error, Invalid pattern {Text.quoted text}: {told}"
    | .tooManyRepetitions | .lookbehindTooWide | .tooDeep => told
    | .longNumeral _ | .alphabetsMixed => s!"Value error, {told}"

end RestrictionFault

namespace Condition

def ofRanges (parts : List (Interval Binary64)) : Except RestrictionFault Condition :=
  if parts.isEmpty then .error .noParts else .ok (range parts)

def ofLengths (parts : List (Interval Int)) : Except RestrictionFault Condition :=
  if parts.isEmpty then .error .noParts
  else match parts.find? (·.low < 0) with
    | some r => .error (.negativeLength r.low)
    | none => .ok (length parts)

def ofPattern (runtime : Runtime) (text : String) : Except RestrictionFault Condition :=
  match PatternText.of runtime text with
  | .ok p => .ok (pattern p)
  | .error e => .error (.pattern text e)

def keyword : Condition → String
  | range _ => "range"
  | length _ => "length"
  | pattern _ => "pattern"

def text : Condition → String
  | range parts => "range " ++ intervalsText parts
  | length parts => "length " ++ intervalsText parts
  | pattern p => "pattern " ++ Text.quoted p.text

/-- A range admits what converts to a number in one of its parts, a length what has a length in one
of its parts, a pattern the texts that match as a whole. -/
def allows : Condition → Value → Except Pattern.InvertedGroup Bool
  | range parts, v =>
    match v.toBinary64? with
    | some x => .ok (parts.any (·.contains x))
    | none => .ok false
  | length parts, v =>
    match v.length? with
    | some n => .ok (parts.any (·.contains n))
    | none => .ok false
  | pattern p, v =>
    match v.text? with
    | some s => p.matchesAll s
    | none => .ok false

end Condition

namespace Restriction

def text (r : Restriction) : String :=
  r.condition.text

def allows (r : Restriction) (v : Value) : Except Pattern.InvertedGroup Bool :=
  r.condition.allows v

end Restriction
end YangSchema
