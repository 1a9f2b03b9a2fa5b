import YangSchema.Lexer.Cursor
import YangSchema.Lexer.Dedent
import YangSchema.Lexer.Shape
import YangSchema.Source.SyntaxError

/-!
# Reading tokens

Each reading moves a cursor and gives a value, or an error together with the place where the cursor
was left. What is left of the text is always an end of what there was.
-/
namespace YangSchema

abbrev Scan (α : Type) := EStateM SyntaxError Cursor α

namespace Scan

def failAt {α : Type} (fault : SyntaxFault) (position : Position) : Scan α :=
  throw ⟨fault, position⟩

def fail {α : Type} (fault : SyntaxFault) : Scan α := do
  failAt fault (← get).position

def current? : Scan (Option Char) :=
  return (← get).current?

def forward (n : Nat) : Scan Unit :=
  modify (·.advanceBy n)

def skipGaps (c : Cursor) : EStateM.Result SyntaxError Cursor Unit :=
  match _h : Shape.gap c.rest with
  | .none => .ok () c
  | .skip n => skipGaps (c.advanceBy n)
  | .unterminated => .error ⟨.unterminatedComment, c.position⟩ c
termination_by c.rest.length
decreasing_by
  have ⟨hn, hs⟩ := Shape.pos_of_gap_skip _h
  have := List.length_pos_iff.2 hs
  simp only [Cursor.advanceBy_rest, List.length_drop]
  omega

theorem suffix_of_skipGaps {c d : Cursor} (h : skipGaps c = .ok () d) : d.rest <:+ c.rest := by
  fun_induction skipGaps c with
  | case1 c => simp_all
  | case2 c n _ ih =>
    refine (ih h).trans ?_
    simpa using List.drop_suffix n c.rest
  | case3 => simp at h

/-- Skips white space and comments, and tells whether there were any. -/
def skipSpace : Scan Bool := fun c =>
  match skipGaps c with
  | .ok _ d => .ok (c.offset < d.offset) d
  | .error e d => .error e d

/-- Skips up to the end of the line and the character that ends it. -/
def skipLineComment : Scan Unit := do
  forward (Shape.lineCommentLength (← get).rest)

def skipBlockComment : Scan Unit := do
  match Shape.blockCommentLength? (← get).rest with
  | some n => forward n
  | none => fail .unterminatedComment

def atSpace : Scan Bool :=
  return Shape.atGap (← get).rest

/-- Reads a string in quotes. The character at the cursor is taken for the quote. -/
def readSegment (c : Cursor) : EStateM.Result SyntaxError Cursor (List Char) :=
  let quote := c.current?
  let found := Shape.segment quote c.advance.rest
  let after := c.advance.advanceBy found.length
  match found.ending with
  | .closed => .ok found.value after
  | .unterminated => .error ⟨.unterminatedString quote, c.position⟩ after
  | .badEscape e => .error ⟨.invalidEscape e, after.position⟩ after

theorem suffix_of_readSegment {c d : Cursor} {v : List Char} (h : readSegment c = .ok v d) :
    d.rest <:+ c.rest := by
  simp only [readSegment] at h
  split at h
  · cases h
    simpa using (List.drop_suffix _ c.rest.tail).trans (List.tail_suffix c.rest)
  · simp at h
  · simp at h

/-- The value of the quoted strings that are joined to what came before, each after a plus sign. -/
def readJoined (c : Cursor) : EStateM.Result SyntaxError Cursor (List Char) :=
  match _h₁ : skipGaps c with
  | .error e d => .error e d
  | .ok _ d =>
    match _h₂ : d.rest with
    | '+' :: _ =>
      match _h₃ : skipGaps d.advance with
      | .error e f => .error e f
      | .ok _ f =>
        if (f.current?).any Shape.isQuote then
          match _h₄ : readSegment f with
          | .error e g => .error e g
          | .ok v g =>
            match readJoined g with
            | .error e k => .error e k
            | .ok w k => .ok (v ++ w) k
        else .error ⟨.quotedStringExpected f.current?, f.position⟩ f
    | _ => .ok [] c
termination_by c.rest.length
decreasing_by
  have h₁ := (suffix_of_skipGaps _h₁).length_le
  have h₃ := (suffix_of_skipGaps _h₃).length_le
  have h₄ := (suffix_of_readSegment _h₄).length_le
  simp only [Cursor.advance_rest, _h₂, List.tail_cons] at h₃
  rw [_h₂, List.length_cons] at h₁
  omega

/-- Reads strings in quotes, joined by plus signs. -/
def readQuoted : Scan (List Char) := fun c =>
  match readSegment c with
  | .error e d => .error e d
  | .ok first d =>
    match readJoined d with
    | .error e f => .error e f
    | .ok others f => .ok (first ++ others) f

/-- Reads a string without quotes. -/
def readWord : Scan (List Char) := do
  let found := Shape.word (← get).rest
  forward found.length
  return found

/-- The value of a string that started at a position, without its layout. -/
def withoutLayout (settings : ParserSettings) (start : Position) (value : List Char) :
    Scan String := do
  match Dedent.strip? value start.column settings.tabWidth with
  | some text => return String.ofList text
  | none => fail .tooWide

/-- Reads a string of either kind and strips its layout. Nothing is read where no string starts. -/
def readString? (settings : ParserSettings) : Scan (Option String) := do
  let c ← get
  if (c.current?).any Shape.isQuote then
    return some (← withoutLayout settings c.position (← readQuoted))
  else if Shape.atWordEnd c.rest then return none
  else return some (← withoutLayout settings c.position (← readWord))

def atIdentifier (policy : IdentifierPolicy) : Scan Bool :=
  return (← current?).any (Shape.mayStart policy)

def readIdentifier (policy : IdentifierPolicy) : Scan String := do
  let c ← get
  if (c.current?).any (Shape.mayStart policy) then
    let name := c.rest.takeWhile Shape.isIdentifierChar
    forward name.length
    if Shape.isReserved policy name then
      failAt (.reservedIdentifier (String.ofList name)) c.position
    else return String.ofList name
  else fail (.identifierExpected c.current?)

def readDigits (width : Nat) : Scan (List Char) := do
  let digits := ((← get).rest.take width).takeWhile Char.isDigit
  forward digits.length
  if digits.length < width then fail (.digitsExpected width (← current?)) else return digits

def expect (text : String) : Scan Unit := do
  let found ← current?
  if found.map String.singleton = some text then forward 1
  else fail (.textExpected text found)

open Text in
/-- Reads a date, the year first, with hyphens between its parts. -/
def readDate : Scan Date := do
  let start := (← get).position
  let year := Numeral.value (← readDigits 4)
  expect "-"
  let month := Numeral.value (← readDigits 2)
  expect "-"
  let day := Numeral.value (← readDigits 2)
  match Date.of year month day with
  | .ok d => return d
  | .error fault => failAt (.notADate year month day fault) start

end Scan
end YangSchema
