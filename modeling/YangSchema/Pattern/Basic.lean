/-!
# Regular expressions

The syntax trees of patterns over text, with captured groups, look-around, atomic groups,
conditionals and the three kinds of repetition, and the widths of what a pattern can match.
-/
namespace YangSchema

namespace Pattern

/-- What changes the meaning of parts of a pattern. -/
structure Flags where
  ignoreCase : Bool := false
  multiLine : Bool := false
  dotAll : Bool := false
  verbose : Bool := false
  ascii : Bool := false
  unicode : Bool := false
  template : Bool := false
  deriving Repr, DecidableEq, Inhabited

namespace Flags

def union (a b : Flags) : Flags :=
  ⟨a.ignoreCase || b.ignoreCase, a.multiLine || b.multiLine, a.dotAll || b.dotAll,
    a.verbose || b.verbose, a.ascii || b.ascii, a.unicode || b.unicode, a.template || b.template⟩

def without (a b : Flags) : Flags :=
  ⟨a.ignoreCase && !b.ignoreCase, a.multiLine && !b.multiLine, a.dotAll && !b.dotAll,
    a.verbose && !b.verbose, a.ascii && !b.ascii, a.unicode && !b.unicode,
    a.template && !b.template⟩

def isEmpty (a : Flags) : Bool :=
  a == {}

/-- One of the two alphabets is chosen. -/
def hasAlphabet (a : Flags) : Bool :=
  a.ascii || a.unicode

/-- Flags inside a group that turns some on and some off; a chosen alphabet replaces the other. -/
def inside (outer on off : Flags) : Flags :=
  let base := if on.hasAlphabet then { outer with ascii := false, unicode := false } else outer
  (base.union on).without off

end Flags

inductive Category where
  | digit
  | space
  | word
  deriving Repr, DecidableEq

/-- A member of a bracketed set. Code points need not be characters. -/
inductive ClassItem where
  | literal (c : Nat)
  | range (low high : Nat)
  | category (kind : Category) (negated : Bool)
  deriving Repr, DecidableEq

inductive Anchor where
  | lineStart
  | lineEnd
  | textStart
  | textEnd
  | boundary
  | nonBoundary
  deriving Repr, DecidableEq

/-- Which count of repetitions is tried first, and whether another is tried later. -/
inductive Greed where
  | greedy
  | reluctant
  | possessive
  deriving Repr, DecidableEq

end Pattern

open Pattern in
inductive Pattern where
  | empty
  /-- What matches nothing: the end of a row of alternatives. -/
  | never
  | literal (c : Nat)
  | notLiteral (c : Nat)
  | any
  | oneOf (negated : Bool) (items : List ClassItem)
  | anchor (a : Anchor)
  /-- What a group has captured; the group's own widths are noted. -/
  | backreference (group : Nat) (least most : Nat)
  | sequence (first second : Pattern)
  | alternative (first second : Pattern)
  | capture (group : Nat) (body : Pattern)
  | flagged (on off : Flags) (body : Pattern)
  | atomic (body : Pattern)
  | look (behind negated : Bool) (body : Pattern)
  /-- One of two patterns, by whether a group has captured something. The second may be empty. -/
  | conditional (group : Nat) (yes no : Pattern)
  | repetition (greed : Greed) (least : Nat) (most : Option Nat) (body : Pattern)
  deriving Repr, DecidableEq, Inhabited

namespace Pattern

def ofList : List Pattern → Pattern
  | [] => empty
  | [p] => p
  | p :: q :: r => sequence p (ofList (q :: r))

/-- Widths are not counted beyond this, and least widths stay below it. -/
def widthLimit : Nat := Nat.pow 2 32 - 1

def limitedWidth (least most : Nat) : Nat × Nat :=
  (min (widthLimit - 1) least, min widthLimit most)

/-- The least and the greatest number of characters that a pattern can match. -/
def width : Pattern → Nat × Nat
  | empty | anchor _ | look .. => (0, 0)
  | never => (widthLimit - 1, 0)
  | literal _ | notLiteral _ | any | oneOf .. => (1, 1)
  | backreference _ least most => (least, most)
  | sequence p q => limitedWidth (p.width.1 + q.width.1) (p.width.2 + q.width.2)
  | alternative p q => (min p.width.1 q.width.1, max p.width.2 q.width.2)
  | capture _ p | flagged _ _ p | atomic p => p.width
  | conditional _ p q => (min p.width.1 q.width.1, max p.width.2 q.width.2)
  | repetition _ least most p =>
    limitedWidth (least * p.width.1) (most.getD widthLimit * p.width.2)

/-- A pattern without parts that stands for one character, place or group. -/
def isLeaf : Pattern → Bool
  | literal _ | notLiteral _ | any | oneOf .. | anchor _ | backreference .. => true
  | _ => false

def isAnchor : Pattern → Bool
  | anchor _ => true
  | _ => false

def isRepetition : Pattern → Bool
  | repetition .. => true
  | _ => false

/-- The leaves that all alternatives start with, and what remains of the alternatives. -/
def factor : List Pattern → List (List Pattern) → List Pattern × List (List Pattern)
  | [], others => ([], [] :: others)
  | p :: first, others =>
    if p.isLeaf && others.all (·.head? == some p) then
      let (shared, alternatives) := factor first (others.map List.tail)
      (p :: shared, alternatives)
    else ([], (p :: first) :: others)

/-- The set members of an alternative that is one character or one set. -/
def classItems? : List Pattern → Option (List ClassItem)
  | [literal c] => some [.literal c]
  | [oneOf false items] => some items
  | _ => none

def alternatives : List (List Pattern) → Pattern
  | [] => never
  | a :: r => alternative (ofList a) (alternatives r)

/-- Joins alternatives: a shared start is taken out, and single characters become a set. -/
def join : List (List Pattern) → List Pattern
  | [] => []
  | [a] => a
  | a :: others =>
    let (shared, rest) := factor a others
    match rest.mapM classItems? with
    | some items => shared ++ [oneOf false items.flatten]
    | none => shared ++ [alternatives rest]

end Pattern
end YangSchema
