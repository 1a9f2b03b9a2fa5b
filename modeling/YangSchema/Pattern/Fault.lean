import YangSchema.Runtime
import YangSchema.Text.Numeral
import YangSchema.Text.Quoted

/-!
# Faults in patterns

Why a text is not a pattern, and at which place. A fault of syntax is told with its position; the
other refusals are limits and contradictions that no position shows.
-/
namespace YangSchema.Pattern
open Text

inductive Reason where
  | trailingBackslash
  | badEscape (escape : String)
  | incompleteEscape (escape : String)
  | octalTooLarge (escape : String)
  | missingBrace
  | missingName (what : String)
  | unterminatedName (terminator : Char)
  | unknownCharacterName (name : String)
  | badGroupName (name : String)
  | unknownGroup (name : String)
  | redefinedGroup (name : String) (group previous : Nat)
  | openGroup
  | groupOfSameLookbehind
  | invalidReference (group : Nat)
  | groupZero
  | unterminatedSet
  | badRange (low high : String)
  | nothingToRepeat
  | multipleRepeat
  | reversedRepeat
  | unexpectedEnd
  | unknownExtension (text : String)
  | unterminatedComment
  | unterminatedGroup
  | tooManyBranches
  | lateGlobalFlags
  | unbalanced
  | localeFlag
  | alphabetConflict
  | missingFlagsEnd
  | unknownFlag
  | globalFlagOn
  | missingFlag
  | alphabetOff
  | missingColon
  | globalFlagOff
  | flagOnAndOff
  | variableLookbehind
  | templateRepetition (operator : String)
  deriving Repr, DecidableEq

def Reason.message : Reason → String
  | trailingBackslash => "bad escape (end of pattern)"
  | badEscape s => s!"bad escape {s}"
  | incompleteEscape s => s!"incomplete escape {s}"
  | octalTooLarge s => s!"octal escape value {s} outside of range 0-0o377"
  | missingBrace => "missing \x7b"
  | missingName what => s!"missing {what}"
  | unterminatedName c => s!"missing {c}, unterminated name"
  | unknownCharacterName s => s!"undefined character name {quoted s}"
  | badGroupName s => s!"bad character in group name {quoted s}"
  | unknownGroup s => s!"unknown group name {quoted s}"
  | redefinedGroup s g p =>
    s!"redefinition of group name {quoted s} as group {g}; was group {p}"
  | openGroup => "cannot refer to an open group"
  | groupOfSameLookbehind =>
    "cannot refer to group defined in the same lookbehind subpattern"
  | invalidReference g => s!"invalid group reference {g}"
  | groupZero => "bad group number"
  | unterminatedSet => "unterminated character set"
  | badRange low high => s!"bad character range {low}-{high}"
  | nothingToRepeat => "nothing to repeat"
  | multipleRepeat => "multiple repeat"
  | reversedRepeat => "min repeat greater than max repeat"
  | unexpectedEnd => "unexpected end of pattern"
  | unknownExtension s => s!"unknown extension ?{s}"
  | unterminatedComment => "missing ), unterminated comment"
  | unterminatedGroup => "missing ), unterminated subpattern"
  | tooManyBranches => "conditional backref with more than two branches"
  | lateGlobalFlags => "global flags not at the start of the expression"
  | unbalanced => "unbalanced parenthesis"
  | localeFlag => "bad inline flags: cannot use 'L' flag with a str pattern"
  | alphabetConflict => "bad inline flags: flags 'a', 'u' and 'L' are incompatible"
  | missingFlagsEnd => "missing -, : or )"
  | unknownFlag => "unknown flag"
  | globalFlagOn => "bad inline flags: cannot turn on global flag"
  | missingFlag => "missing flag"
  | alphabetOff => "bad inline flags: cannot turn off flags 'a', 'u' and 'L'"
  | missingColon => "missing :"
  | globalFlagOff => "bad inline flags: cannot turn off global flag"
  | flagOnAndOff => "bad inline flags: flag turned on and off"
  | variableLookbehind => "look-behind requires fixed-width pattern"
  | templateRepetition op => s!"internal: unsupported template operator {op}"

inductive Fault where
  | ill (reason : Reason) (position : Option Nat)
  | tooManyRepetitions
  | lookbehindTooWide
  | longNumeral (e : Numeral.Fault)
  | alphabetsMixed
  /-- The groups nest too deeply. -/
  | tooDeep
  deriving Repr, DecidableEq

/-- Line and column of a position, where only a line feed ends a line. -/
def lineColumn (pattern : List Char) (position : Nat) : Nat × Nat :=
  let before := pattern.take position
  (before.count '\n' + 1, (before.reverse.takeWhile (· ≠ '\n')).length + 1)

/-- The text of a fault in a pattern; a pattern of several lines also gets line and column. -/
def Fault.message (pattern : List Char) : Fault → String
  | ill reason none => reason.message
  | ill reason (some position) =>
    let place := s!"{reason.message} at position {position}"
    if pattern.contains '\n' then
      let (line, column) := lineColumn pattern position
      s!"{place} (line {line}, column {column})"
    else place
  | tooManyRepetitions => "the repetition number is too large"
  | lookbehindTooWide => "the look-behind is too wide"
  | longNumeral e => e.message
  | alphabetsMixed => "ASCII and UNICODE flags are incompatible"
  | tooDeep => Runtime.tooDeep

end YangSchema.Pattern
