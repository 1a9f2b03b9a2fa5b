import YangSchema.Console.Cluster
import YangSchema.Text.Line
import YangSchema.Unicode.Blank

/-!
# Lines on a console

A text is laid out in lines of a given width. Lines break between words, and a word that is longer
than a line is folded or loses its end. Bells, backspaces, vertical tabs, form feeds and carriage
returns are left out, and tabs go to the next column that is a multiple of eight.
-/
namespace YangSchema.Console
open Unicode

def isDropped (c : Char) : Bool :=
  [7, 8, 11, 12, 13].contains c.toNat

def printable (s : List Char) : List Char :=
  s.filter fun c => !isDropped c

def tabStop : Nat := 8

/-- Replaces the tabs of a line from a column on, where `part` has been read since the last tab and
is kept in reverse. A tab is a space at least. -/
def expandTabsFrom (column : Nat) (part : List Char) : List Char → List Char
  | [] => part.reverse
  | c :: r =>
    if c = '\t' then
      let cell := (' ' :: part).reverse
      let next := column + width cell
      let n := (tabStop - next % tabStop) % tabStop
      cell ++ List.replicate n ' ' ++ expandTabsFrom (next + n) [] r
    else expandTabsFrom column (c :: part) r

def expandTabs (line : List Char) : List Char :=
  expandTabsFrom 0 [] line

/-- The words of a line, each with the blank space behind it, the first also with that before it. -/
def words (line : List Char) : List (List Char) :=
  match line.splitBy fun a b => !isBlank a || isBlank b with
  | g :: h :: rest => if g.all isBlank then (g ++ h) :: rest else g :: h :: rest
  | groups => groups

/-- What becomes of a word that is longer than a line. -/
inductive Overflow where
  | fold
  | ellipsis
  deriving Repr, DecidableEq

/-- Puts words on lines from an open line on, which takes `used` columns. Words that are too long
are folded, or stand on lines of their own. -/
def fillFrom (o : Overflow) (limit : Nat) (line : List Char) (used : Nat) :
    List (List Char) → List (List Char)
  | [] => [line]
  | w :: ws =>
    let need := width (trimEnd w)
    if used + need ≤ limit then fillFrom o limit (line ++ w) (used + width w) ws
    else
      let finished := if line.isEmpty then [] else [line]
      if limit < need then
        let pieces := if o = .fold then chop limit w else [w]
        let last := pieces.getLastD []
        finished ++ pieces.dropLast ++ fillFrom o limit last (width last) ws
      else if used = 0 then fillFrom o limit (line ++ w) used ws
      else finished ++ fillFrom o limit w (width w) ws

/-- Drops blank space from the end of a line as far as the line is too long. -/
def trimExcess (limit : Nat) (line : List Char) : List Char :=
  let blanks := (line.reverse.takeWhile isBlank).length
  line.take (line.length - min blanks (line.length - limit))

/-- A line without what is too much for a width. -/
def Overflow.shorten (o : Overflow) (limit : Nat) (line : List Char) : List Char :=
  if width line ≤ limit then line
  else
    match o with
    | .fold => cropTo limit line
    | .ellipsis => cropTo (limit - 1) line ++ ['…']

/-- The lines of a text in a width. -/
def layOut (o : Overflow) (limit : Nat) (text : List Char) : List (List Char) :=
  (Text.Line.split text).flatMap fun line =>
    (fillFrom o limit [] 0 (words (expandTabs line))).map (o.shorten limit ∘ trimExcess limit)

def spaces (n : Nat) : List Char :=
  List.replicate n ' '

/-- Fills a line with spaces up to a width. -/
def padTo (limit : Nat) (line : List Char) : List Char :=
  line ++ spaces (limit - width line)

/-- Puts a line in the middle of a width; of an odd number of spaces the larger part comes last. -/
def centred (limit : Nat) (line : List Char) : List Char :=
  let line := trimEnd line
  padTo limit (spaces ((limit - width line) / 2) ++ line)

end YangSchema.Console
