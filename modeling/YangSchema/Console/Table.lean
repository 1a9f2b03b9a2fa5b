import YangSchema.CommandLine.Host
import YangSchema.Console.Layout
import YangSchema.Console.Markup
import YangSchema.Rounding

/-!
# Tables on a console

A table in a box with a heavy header. Each column is as wide as its widest cell, with a space on
either side, and the title stands in the middle above. Where this is too wide for the console, the
widest columns give way, and their cells are broken into lines.
-/
namespace YangSchema.Console

/-- The ends, the middle and the joints of a line of a box. -/
structure Rule where
  left : Char
  fill : Char
  joint : Char
  right : Char

namespace Table

def top : Rule := ⟨'┏', '━', '┳', '┓'⟩
def headerRow : Rule := ⟨'┃', ' ', '┃', '┃'⟩
def belowHeader : Rule := ⟨'┡', '━', '╇', '┩'⟩
def row : Rule := ⟨'│', ' ', '│', '│'⟩
def bottom : Rule := ⟨'└', '─', '┴', '┘'⟩

/-- Puts cells between the ends of a line, with the filling on either side of each. -/
def line (r : Rule) (cells : List (List Char)) : List Char :=
  let padded := cells.map fun c => r.fill :: c ++ [r.fill]
  r.left :: List.intercalate [r.joint] padded ++ [r.right]

def ruleLine (r : Rule) (widths : List Nat) : List Char :=
  line r (widths.map fun n => List.replicate n r.fill)

/-- The columns that a cell takes, with the spaces at its sides. -/
def cellWidth (cell : List Char) : Nat :=
  ((Text.Line.listing cell).map width).foldl max 0 + 2

def total (widths : List Nat) : Nat :=
  widths.foldl (· + ·) 0

/-- Takes an excess from the columns of a width, evenly and at most `most` from each. There are
`sharers` of these to come. -/
def reduceFrom (wide most excess sharers : Nat) : List Nat → List Nat
  | [] => []
  | n :: ns =>
    if n = wide then
      let share := min most (roundQuotient excess sharers)
      (n - share) :: reduceFrom wide most (excess - share) (sharers - 1) ns
    else n :: reduceFrom wide most excess sharers ns

/-- Narrows the widest columns down to the next in width, again and again until all fit. -/
def collapse (limit : Nat) : Nat → List Nat → List Nat
  | 0, widths => widths
  | rounds + 1, widths =>
    let excess := total widths - limit
    let wide := widths.foldl max 0
    let next := (widths.filter (· ≠ wide)).foldl max 0
    if excess = 0 || wide = 0 then widths
    else
      let most := min excess (wide - next)
      collapse limit rounds (reduceFrom wide most excess (widths.count wide) widths)

/-- The columns of a table, with the spaces at their sides. -/
def columnWidths (limit : Nat) (header : List (List Char)) (rows : List (List (List Char))) :
    List Nat :=
  let natural := (header :: rows).foldl
    (fun ws cells => List.zipWith max ws (cells.map (min limit ∘ cellWidth)))
    (header.map fun _ => 0)
  collapse limit (total natural - limit) natural

/-- The lines of a row, all cells of which have as many lines as the highest. -/
def rowLines (r : Rule) (widths : List Nat) (cells : List (List Char)) : List (List Char) :=
  let blocks :=
    List.zipWith (fun n c => (layOut .ellipsis n c).map (padTo n ∘ padTo n)) widths cells
  let height := (blocks.map List.length).foldl max 0
  (List.range height).map fun i =>
    line r (List.zipWith (fun n b => b.getD i (spaces n)) widths blocks)

/-- The text of a cell, without what no console shows. -/
def cellText (cell : String) : Except MarkupFault (List Char) :=
  (Markup.shown cell.toList).map printable

/-- The title in the middle of a width. An empty title has no line. -/
def titleLines (limit : Nat) (title : String) : Except MarkupFault (List (List Char)) := do
  if title.isEmpty then return []
  let shown ← Markup.shown title.toList
  return (layOut .fold limit (printable shown)).map (centred limit)

def lines (limit : Nat) (t : CommandLine.Table) : Except MarkupFault (List (List Char)) := do
  let header ← t.columns.mapM cellText
  let rows ← t.rows.mapM fun cells => cells.mapM cellText
  let bars := header.length + 1
  let padded := columnWidths (limit - bars) header rows
  let title ← titleLines (total padded + bars) t.title
  let widths := padded.map (· - 2)
  return title ++
    [ruleLine top widths] ++ rowLines headerRow widths header ++
    [ruleLine belowHeader widths] ++ rows.flatMap (rowLines row widths) ++
    [ruleLine bottom widths]

end Table
end YangSchema.Console
