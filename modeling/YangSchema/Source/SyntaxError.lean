import YangSchema.Calendar
import YangSchema.Index
import YangSchema.Source.Excerpt
import YangSchema.Source.Position
import YangSchema.Text.Quoted

/-!
# Errors of syntax

Why a source text is refused, with the place it is reported at. The wording, the description of what
was expected and the shown excerpt are functions of these.
-/
namespace YangSchema
open Text

inductive SyntaxFault where
  | unterminatedComment
  /-- The quote is missing where a string is read at the end of the text. -/
  | unterminatedString (quote : Option Char)
  | invalidEscape (escape : Option Char)
  | quotedStringExpected (found : Option Char)
  | identifierExpected (found : Option Char)
  | reservedIdentifier (name : String)
  | digitsExpected (width : Nat) (found : Option Char)
  | textExpected (expected : String) (found : Option Char)
  | notADate (year month day : Nat) (fault : Calendar.DateFault)
  | statementExpected (block : String) (found : Option Char)
  | terminatorExpected (keyword : String) (found : Option Char)
  | trailingContent
  /-- A line of a string is indented so far that there is no room for its spaces. -/
  | tooWide
  deriving Repr, DecidableEq

/-- How a message names the character that was found. -/
def foundText : Option Char → String
  | none => "end of input"
  | some c => quoted (String.singleton c)

namespace SyntaxFault

def message : SyntaxFault → String
  | unterminatedComment => "Unterminated block comment"
  | unterminatedString _ => "Unterminated string literal"
  | invalidEscape none => "Invalid escape sequence \\"
  | invalidEscape (some c) => s!"Invalid escape sequence \\{c}"
  | quotedStringExpected found => s!"Expected quoted string after '+', got {foundText found}"
  | identifierExpected found => s!"Expected identifier, got {foundText found}"
  | reservedIdentifier name => s!"Identifier {quoted name} must not start with 'xml'"
  | digitsExpected width found => s!"Expected {width}-digit number, got {foundText found}"
  | textExpected expected found => s!"Expected {quoted expected}, got {foundText found}"
  | notADate year month day fault =>
    let date := Numeral.padded 4 year ++ "-" ++ Numeral.padded 2 month ++ "-" ++
      Numeral.padded 2 day
    s!"Invalid date {date}: {fault.message}"
  | statementExpected block found =>
    s!"Expected statement or '\x7d' in block of {quoted block}, got {foundText found}"
  | terminatorExpected keyword found =>
    s!"Expected ';' or '\x7b' after statement {quoted keyword}, got {foundText found}"
  | trailingContent => "Unexpected trailing content after top-level statement"
  | tooWide => IndexFault.message "string" .tooLarge

/-- What could have stood at the place. -/
def expected : SyntaxFault → String
  | unterminatedComment => "'*/'"
  | unterminatedString none => "closing None"
  | unterminatedString (some q) => s!"closing {q}"
  | invalidEscape _ => "one of \\\\ \\\" \\n \\r \\t"
  | quotedStringExpected _ => "quoted string"
  | identifierExpected _ | reservedIdentifier _ => "identifier"
  | digitsExpected width _ => s!"{width} digits"
  | textExpected expected _ => quoted expected
  | notADate .. => "date"
  | statementExpected .. => "statement or '\x7d'"
  | terminatorExpected .. => "';' or '\x7b'"
  | trailingContent => "end of input"
  | tooWide => ""

/-- A limit of the interpreter, which is no fault of the text and is not reported. -/
def isLimit : SyntaxFault → Bool
  | tooWide => true
  | _ => false

end SyntaxFault

structure SyntaxError where
  fault : SyntaxFault
  position : Position
  deriving Repr, DecidableEq

/-- The message under its place in a source and the excerpt around it. -/
def SyntaxError.report (e : SyntaxError) (file : Option String) (text : String) : String :=
  let excerpt := Excerpt.around text e.position.line 2
  Excerpt.located file e.position.line e.position.column (some excerpt) ++ "\n" ++ e.fault.message

end YangSchema
