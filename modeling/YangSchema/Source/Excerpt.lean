import YangSchema.Text.Line

/-!
# Excerpts

The lines around a place in a source, and how they are shown with line numbers and a mark below the
place.
-/
namespace YangSchema.Excerpt
open Text

/-- Cuts a list at two ends, of which the second counts from the end of the list if it is
negative. -/
def slice {α : Type} (xs : List α) (start : Nat) (stop : Int) : List α :=
  let stop := if stop < 0 then (xs.length + stop).toNat else stop.toNat
  (xs.take stop).drop start

/-- The lines of a text around one line, `context` before it and `context` after it. -/
def around (text : String) (line : Int) (context : Int) : String :=
  let lines := Line.listing text.toList
  let start := (line - 1 - context).toNat
  let stop := min (lines.length : Int) (line + context)
  String.ofList (Line.join (slice lines start stop))

/-- A line number, right-aligned in four places, and a bar. -/
def gutter (n : Int) : List Char :=
  (toString n).toList.leftpad 4 ' ' ++ [' ', '|', ' ']

/-- One line of an excerpt, with the mark below it if it is the line of the place. -/
def numbered (line column n : Int) (text : List Char) : List (List Char) :=
  let head := gutter n
  if n = line then
    [head ++ text, List.replicate (head.length + column - 1).toNat ' ' ++ ['^', '^', '^']]
  else [head ++ text]

/-- The lines of an excerpt with their numbers. The excerpt starts two lines above the place. -/
def render (excerpt : String) (line column : Int) : String :=
  if excerpt.isEmpty then ""
  else
    let first := max 1 (line - 2)
    let lines := excerpt.toList.splitOn '\n'
    let shown := lines.zipIdx.flatMap fun (l, i) => numbered line column (first + i) l
    String.ofList (Line.join shown)

/-- A place in a named or nameless source. -/
def location (file : Option String) (line column : Int) : String :=
  let name := file.getD "<string>"
  s!"{name}:{line}:{column}"

/-- A place, and the excerpt around it if there is one. -/
def located (file : Option String) (line column : Int) (excerpt : Option String) : String :=
  let place := location file line column
  match excerpt with
  | none | some "" => place
  | some e => place ++ "\n" ++ render e line column

end YangSchema.Excerpt
