/-!
# Escape sequences

Sequences that set colours and the like on a terminal: the escape character, an opening bracket,
numbers with semicolons and question marks, and a letter.
-/
namespace YangSchema.Console

def isParameter (c : Char) : Bool :=
  c.isDigit || c = ';' || c = '?'

/-- The length of the escape sequence at the start of a text. -/
def sequenceLength? : List Char → Option Nat
  | '\x1b' :: '[' :: r =>
    match r.dropWhile isParameter with
    | c :: _ => if c.isAlpha then some ((r.takeWhile isParameter).length + 3) else none
    | [] => none
  | _ => none

/-- A text without its escape sequences, of the first of which `skip` characters are still there. -/
def withoutSequencesFrom (skip : Nat) : List Char → List Char
  | [] => []
  | c :: r =>
    match skip with
    | n + 1 => withoutSequencesFrom n r
    | 0 =>
      match sequenceLength? (c :: r) with
      | some n => withoutSequencesFrom (n - 1) r
      | none => c :: withoutSequencesFrom 0 r

def withoutSequences (s : String) : String :=
  String.ofList (withoutSequencesFrom 0 s.toList)

end YangSchema.Console
