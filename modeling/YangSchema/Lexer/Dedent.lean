import YangSchema.Text.Line
import YangSchema.Unicode.Blank

/-!
# Layout of strings that span lines

A string is written indented with its statement. Its lines after the first lose their leading white
space up to the column where the string starts, and all lines but the last lose the white space
before their end. Line ends become line feeds. What a line is indented beyond the column stays, in
spaces, of which there have to be fewer than a string can have.
-/
namespace YangSchema.Dedent
open Text

/-- The columns that leading white space takes up. -/
def indentWidth (tabWidth : Int) (lead : List Char) : Int :=
  lead.length + (tabWidth - 1) * lead.count '\t'

def lead (line : List Char) : List Char :=
  line.take (line.length - (Unicode.trimStart line).length)

/-- Takes the layout from a line after the first. -/
def stripLead (column tabWidth : Int) (line : List Char) : List Char :=
  if (lead line).isEmpty then line
  else List.replicate (indentWidth tabWidth (lead line) - column).toNat ' ' ++
    Unicode.trimStart line

/-- Strings have fewer characters than this. -/
def lengthLimit : Nat := Nat.pow 2 63

/-- Whether there is room for the spaces that stay of the lead of a line. They are no more than the
lead has characters if it is no wider than long. -/
def fits (column tabWidth : Int) (line : List Char) : Bool :=
  (lead line).isEmpty || indentWidth tabWidth (lead line) - column < lengthLimit ||
    (0 ≤ column && indentWidth tabWidth (lead line) ≤ (lead line).length)

/-- Takes the white space from the end of every line but the last. -/
def trimEnds : List (List Char) → List (List Char)
  | [] => []
  | [l] => [l]
  | l :: m :: r => Unicode.trimEnd l :: trimEnds (m :: r)

/-- Strips the layout of lines, of which the first has none. -/
def stripLines (column tabWidth : Int) (lines : List (List Char)) : List (List Char) :=
  match trimEnds lines with
  | [] => []
  | first :: others => first :: others.map (stripLead column tabWidth)

def strip (value : List Char) (column tabWidth : Int) : List Char :=
  let lines := Line.cut value
  if lines.length = 1 then value
  else Line.join (stripLines column tabWidth lines)

/-- Whether there is room for all that stays of the layout of a string. -/
def allFit (value : List Char) (column tabWidth : Int) : Bool :=
  (trimEnds (Line.cut value)).tail.all (fits column tabWidth)

/-- Strips the layout of a string, if there is room for what stays of it. -/
def strip? (value : List Char) (column tabWidth : Int) : Option (List Char) :=
  if allFit value column tabWidth then some (strip value column tabWidth) else none

end YangSchema.Dedent
