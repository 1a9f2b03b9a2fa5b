/-!
# Lines

Three ways to cut a text into lines. `cut` knows the three line ends of text files, a carriage
return, a line feed and the two together, and keeps an empty last line. `listing` knows every line
boundary and has no line after a last boundary. `split` knows the line feed alone. `unify` writes
each of the three line ends as a line feed.
-/
namespace YangSchema.Text.Line

/-- Puts a character in front of the first line. -/
def consHead (c : Char) : List (List Char) → List (List Char)
  | [] => [[c]]
  | l :: ls => (c :: l) :: ls

def cut : List Char → List (List Char)
  | [] => [[]]
  | '\r' :: '\n' :: r => [] :: cut r
  | c :: r => if c = '\r' || c = '\n' then [] :: cut r else consHead c (cut r)

def unify : List Char → List Char
  | [] => []
  | '\r' :: '\n' :: r => '\n' :: unify r
  | c :: r => (if c = '\r' then '\n' else c) :: unify r

/-- Line feed, vertical tab, form feed, carriage return, the three upper separators, next line,
line separator and paragraph separator. -/
def isBoundary (c : Char) : Bool :=
  [10, 11, 12, 13, 28, 29, 30, 133, 8232, 8233].contains c.toNat

/-- The lines of a text, where `line` holds the open line, last character first. -/
def listingFrom (line : List Char) : List Char → List (List Char)
  | [] => if line.isEmpty then [] else [line.reverse]
  | '\r' :: '\n' :: r => line.reverse :: listingFrom [] r
  | c :: r =>
    if isBoundary c then line.reverse :: listingFrom [] r else listingFrom (c :: line) r

def listing (s : List Char) : List (List Char) :=
  listingFrom [] s

/-- The lines between line feeds, which are the only boundaries here. -/
def split : List Char → List (List Char)
  | [] => [[]]
  | c :: r => if c = '\n' then [] :: split r else consHead c (split r)

def join (lines : List (List Char)) : List Char :=
  List.intercalate ['\n'] lines

end YangSchema.Text.Line
