import YangSchema.Settings

/-!
# Lexical shapes

What stands at the start of a text: white space and comments, identifiers, and the two kinds of
strings. Everything here looks at characters only; cursors and positions come after.
-/
namespace YangSchema.Shape

def isSpace (c : Char) : Bool :=
  c = ' ' || c = '\t' || c = '\r' || c = '\n'

def isQuote (c : Char) : Bool :=
  c = '"' || c = '\''

/-- The characters that end a string without quotes, apart from white space. -/
def isStop (c : Char) : Bool :=
  c = ';' || c = '\x7b' || c = '\x7d'

def isIdentifierStart (c : Char) : Bool :=
  c.isAlpha || c = '_'

def isIdentifierChar (c : Char) : Bool :=
  c.isAlphanum || c = '_' || c = '-' || c = '.'

/-- Whether an identifier may start with a character. -/
def mayStart (policy : IdentifierPolicy) (c : Char) : Bool :=
  isIdentifierStart c &&
    match policy with
    | .yang => true
    | .legacy => !(['X', 'x', 'M', 'm', 'L', 'l'].contains c)

/-- Whether an identifier is reserved as a whole. -/
def isReserved (policy : IdentifierPolicy) (name : List Char) : Bool :=
  match policy with
  | .yang => (name.take 3).map Char.toLower = ['x', 'm', 'l']
  | .legacy => false

def closer? : List Char → Option Nat
  | '*' :: '/' :: _ => some 0
  | [] => none
  | _ :: r => (closer? r).map (· + 1)

/-- The length of a line comment with the character that ends its line. -/
def lineCommentLength (s : List Char) : Nat :=
  (s.takeWhile fun c => c ≠ '\n' && c ≠ '\r').length + 1

/-- The length of a block comment, if it is terminated. -/
def blockCommentLength? (s : List Char) : Option Nat :=
  (closer? (s.drop 2)).map (· + 4)

/-- What can be skipped at the start of a text. -/
inductive Gap where
  | none
  | skip (length : Nat)
  | unterminated
  deriving Repr, DecidableEq

def gap : List Char → Gap
  | [] => .none
  | c :: r =>
    if isSpace c then .skip 1
    else if c = '/' && r.head? = some '/' then .skip (lineCommentLength (c :: r))
    else if c = '/' && r.head? = some '*' then
      match blockCommentLength? (c :: r) with
      | some n => .skip n
      | none => .unterminated
    else .none

/-- Whether white space or a comment starts here. A comment that never ends is ordinary text. -/
def atGap (s : List Char) : Bool :=
  match gap s with
  | .skip _ => true
  | _ => false

theorem pos_of_gap_skip {s : List Char} {n : Nat} (h : gap s = .skip n) : 0 < n ∧ s ≠ [] := by
  unfold gap at h
  split at h
  · simp at h
  · refine ⟨?_, by simp⟩
    repeat' split at h
    all_goals simp_all [lineCommentLength, blockCommentLength?]
    · omega
    · omega
    · next hm => obtain ⟨a, _, rfl⟩ := hm; omega

/-- The characters that escapes in double quotes stand for. -/
def escaped? : Char → Option Char
  | '\\' => some '\\'
  | '"' => some '"'
  | 'n' => some '\n'
  | 'r' => some '\r'
  | 't' => some '\t'
  | _ => none

/-- How the text of a quoted string ends. -/
inductive SegmentEnd where
  | closed
  | unterminated
  /-- A backslash with a character after it that it does not escape, or none. -/
  | badEscape (escape : Option Char)
  deriving Repr, DecidableEq

/-- The text after an opening quote: its value, the characters taken, and how it ends. A bad escape
is not taken. -/
structure Segment where
  value : List Char
  length : Nat
  ending : SegmentEnd
  deriving Repr, DecidableEq

def Segment.cons (c : Char) (taken : Nat) (s : Segment) : Segment :=
  ⟨c :: s.value, s.length + taken, s.ending⟩

/-- Reads up to the closing quote. Escapes are known in double quotes only. -/
def segment (quote : Option Char) : List Char → Segment
  | [] => ⟨[], 0, .unterminated⟩
  | c :: r =>
    if quote = some c then ⟨[], 1, .closed⟩
    else if c = '\\' && quote = some '"' then
      match r with
      | [] => ⟨[], 0, .badEscape none⟩
      | e :: r =>
        match escaped? e with
        | some v => (segment quote r).cons v 2
        | none => ⟨[], 0, .badEscape (some e)⟩
    else (segment quote r).cons c 1

/-- Whether a string without quotes ends here. -/
def atWordEnd (s : List Char) : Bool :=
  match s with
  | [] => true
  | c :: _ => isStop c || atGap s

/-- The characters up to the end of a string without quotes. -/
def wordTail : List Char → List Char
  | [] => []
  | c :: r => if atWordEnd (c :: r) then [] else c :: wordTail r

/-- A string without quotes; its first character is not looked at. -/
def word : List Char → List Char
  | [] => []
  | c :: r => c :: wordTail r

end YangSchema.Shape
