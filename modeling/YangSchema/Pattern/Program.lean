import YangSchema.Pattern.CharTest

/-!
# Programs of patterns

The steps by which a pattern is matched, in a row: what comes after a step is the rest of its row. A
group that captures is two marks in the row, and a repetition of one character is a step of its own.
-/
namespace YangSchema.Pattern

inductive Step where
  | one (t : CharTest)
  | place (a : Anchor) (flags : Flags)
  /-- Notes the place: mark `2 * g` is the start of group `g + 1` and mark `2 * g + 1` its end. -/
  | mark (n : Nat)
  | again (group : Nat) (fold : Fold)
  | conditional (group : Nat) (yes no : List Step)
  | choice (rows : List (List Step))
  /-- A test again and again. -/
  | run (greed : Greed) (least : Nat) (most : Option Nat) (t : CharTest)
  /-- A row again and again. It ends with `endRound`. -/
  | loop (reluctant : Bool) (least : Nat) (most : Option Nat) (body : List Step)
  | endRound
  | possessive (least : Nat) (most : Option Nat) (body : List Step)
  | atomic (body : List Step)
  /-- A look at the text from `back` characters ago on. -/
  | look (negated : Bool) (back : Nat) (body : List Step)
  /-- The end of one of several rows that lead on to the same steps. -/
  | join

/-- The step of a repetition, from its test if its body is one, and else from its body's row. -/
def repetitionStep (greed : Greed) (least : Nat) (most : Option Nat) (test? : Option CharTest)
    (row : List Step) : Step :=
  match test?, greed with
  | some t, _ => .run greed least most t
  | none, .possessive => .possessive least most row
  | none, _ => .loop (greed == .reluctant) least most (row ++ [.endRound])

mutual

def program (flags : Flags) : Pattern → List Step
  | empty | never => []
  | literal c => [.one (literalTest flags false c)]
  | notLiteral c => [.one (literalTest flags true c)]
  | any => [.one (if flags.dotAll then .any else .anyButLineFeed)]
  | oneOf negated items => [.one (setTest flags negated items)]
  | anchor a => [.place a flags]
  | backreference g _ _ => [.again (g - 1) flags.fold]
  | sequence p q => program flags p ++ program flags q
  | alternative p q => [.choice ((program flags p ++ [.join]) :: rows flags q)]
  | capture g p => .mark (2 * (g - 1)) :: program flags p ++ [.mark (2 * (g - 1) + 1)]
  | flagged on off p => program (flags.inside on off) p
  | atomic p => [.atomic (program flags p)]
  | look behind negated p => [.look negated (if behind then p.width.1 else 0) (program flags p)]
  | conditional g p empty => [.conditional (g - 1) (program flags p) []]
  | conditional g p q => [.conditional (g - 1) (program flags p ++ [.join]) (program flags q)]
  | repetition greed least most p =>
    [repetitionStep greed least most (charTest? flags p) (program flags p)]

/-- The rows of alternatives. -/
def rows (flags : Flags) : Pattern → List (List Step)
  | alternative p q => (program flags p ++ [.join]) :: rows flags q
  | _ => []

end

end YangSchema.Pattern
