import YangSchema.Pattern.Basic
import YangSchema.Unicode.Blank
import YangSchema.Unicode.Bounds
import YangSchema.Unicode.Decimal
import YangSchema.Unicode.Letter
import YangSchema.Unicode.LetterCase

/-!
# Tests of characters

What a pattern asks of one character: to be any, to be a certain one, or to be in a set. Where case
is ignored the character is folded to its lower-case letter first, and what it is compared with has
been folded when the test was made. A test on which case has no bearing folds nothing.
-/
namespace YangSchema.Pattern
open Unicode

/-- How a character is changed before it is looked up. -/
inductive Fold where
  | exact
  | ascii
  | all
  deriving Repr, DecidableEq

namespace Fold

def apply (f : Fold) (c : Nat) : Nat :=
  match f with
  | exact => c
  | ascii => if 65 ≤ c && c ≤ 90 then c + 32 else c
  | all => lowerCase c

/-- Other lower-case letters that count as the same. -/
def siblings (f : Fold) (c : Nat) : List Nat :=
  match f with
  | all => caseSiblings c
  | _ => []

def uppers (f : Fold) (c : Nat) : List Nat :=
  match f with
  | exact => []
  | ascii => if 97 ≤ c && c ≤ 122 then [c - 32] else []
  | all => upperCases c

/-- Whether folding has a bearing on any code point from `low` to `high`, both on the first plane.
-/
def changesAny (f : Fold) (low high : Nat) : Bool :=
  match f with
  | exact => false
  | ascii => meetsBounds [65, 91, 97, 123] low high
  | all => meetsBounds casedBounds low high

def changes (f : Fold) (c : Nat) : Bool :=
  match f with
  | exact => false
  | ascii => (65 ≤ c && c ≤ 90) || (97 ≤ c && c ≤ 122)
  | all => isCased c

end Fold

/-- The folding where flags hold. -/
def Flags.fold (flags : Flags) : Fold :=
  if !flags.ignoreCase then .exact else if flags.ascii then .ascii else .all

def Category.holds (ascii : Bool) (kind : Category) (c : Char) : Bool :=
  match kind with
  | .digit => if ascii then c.isDigit else isDecimal c
  | .space => (!ascii || c.toNat < 28 || c = ' ') && isBlank c
  | .word => (!ascii || c.toNat < 128) && isWordChar c

/-- A member of the set of a test. -/
inductive Member where
  | literal (c : Nat)
  | range (low high : Nat)
  /-- The folded forms of a range on the first plane, and their siblings. -/
  | foldedRange (low high : Nat)
  /-- A range that also takes in what has its capital there. -/
  | capitalRange (low high : Nat)
  | category (kind : Category) (negated ascii : Bool)
  deriving Repr, DecidableEq

/-- Membership of a character that has been folded. -/
def Member.holds (f : Fold) (x : Nat) : Member → Bool
  | literal c => x = c
  | range low high => low ≤ x && x ≤ high
  | foldedRange low high =>
    (x :: f.siblings x).any fun y => (y :: f.uppers y).any fun z => low ≤ z && z ≤ high
  | capitalRange low high =>
    (low ≤ x && x ≤ high) || (low ≤ capital x && capital x ≤ high)
  | category kind negated ascii => kind.holds ascii (Char.ofNat x) != negated

inductive CharTest where
  | any
  | anyButLineFeed
  | literal (fold : Fold) (negated : Bool) (c : Nat)
  | oneOf (fold : Fold) (negated : Bool) (members : List Member)
  deriving Repr, DecidableEq

def CharTest.holds (c : Char) : CharTest → Bool
  | any => true
  | anyButLineFeed => c ≠ '\n'
  | literal f negated l => (f.apply c.toNat == l) != negated
  | oneOf f negated members => members.any (·.holds f (f.apply c.toNat)) != negated

/-- A literal. One with siblings is a set of all of them. -/
def literalTest (flags : Flags) (negated : Bool) (c : Nat) : CharTest :=
  let f := flags.fold
  if f.changes c then
    let l := f.apply c
    match f.siblings l with
    | [] => .literal f negated l
    | others => .oneOf f negated ((l :: others).map .literal)
  else .literal .exact negated c

/-- The first code point beyond the first plane. -/
def planeSize : Nat := 65536

namespace ClassItem

/-- Whether folding has a bearing on a member; it has none on a category, and always on what lies
beyond the first plane. -/
def isFolded (f : Fold) : ClassItem → Bool
  | literal c => planeSize ≤ c || f.changes c
  | range low high => planeSize ≤ high || f.changesAny low high
  | category .. => false

/-- The members to be looked up when nothing is folded. -/
def exactMember (ascii : Bool) : ClassItem → Member
  | literal c => .literal c
  | range low high => .range low high
  | category kind negated => .category kind negated ascii

/-- The members to be looked up after folding. What lies beyond the first plane is not folded. -/
def foldedMembers (ascii : Bool) : ClassItem → List Member
  | literal c => [if planeSize ≤ c then .literal c else .foldedRange c c]
  | range low high =>
    (if low < planeSize then [Member.foldedRange low (min high (planeSize - 1))] else []) ++
      if planeSize ≤ high then [.capitalRange low high] else []
  | category kind negated => [.category kind negated ascii]

end ClassItem

def setTest (flags : Flags) (negated : Bool) (items : List ClassItem) : CharTest :=
  let f := flags.fold
  if f ≠ .exact && items.any (·.isFolded f) then
    .oneOf f negated (items.flatMap (·.foldedMembers flags.ascii))
  else .oneOf .exact negated (items.map (·.exactMember flags.ascii))

/-- The test of a pattern that is one character under flags. -/
def charTest? (flags : Flags) : Pattern → Option CharTest
  | literal c => some (literalTest flags false c)
  | notLiteral c => some (literalTest flags true c)
  | any => some (if flags.dotAll then .any else .anyButLineFeed)
  | oneOf negated items => some (setTest flags negated items)
  | flagged on off p => charTest? (flags.inside on off) p
  | _ => none

end YangSchema.Pattern
