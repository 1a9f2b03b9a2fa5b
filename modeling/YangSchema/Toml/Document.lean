import YangSchema.Toml.Scalar
import YangSchema.Toml.Table

/-!
# Reading a TOML document

Entries and headers stand on lines of their own and are applied to one table in their order. In a
value, the arrays and inline tables that are still open wait on a stack, so that each step takes at
least one character and the length of the text bounds the whole.
-/
namespace YangSchema.Toml
open Text

/-- Why a text is no document. A whole number that is too long to be read is told apart. -/
inductive Fault where
  | malformed
  | numeral (f : Numeral.Fault)
  deriving Repr, DecidableEq

abbrev Read := StateT (List Char) (Except Fault)

namespace Read

def malformed {α : Type} : Read α :=
  throw .malformed

/-- What is there, or the text is malformed. -/
def ofOption {α : Type} : Option α → Read α
  | some a => return a
  | none => malformed

def take {α : Type} (reader : List Char → Taken α) : Read α := do
  let (a, rest) ← ofOption (reader (← get))
  set rest
  return a

def skipBlank : Read Unit :=
  modify (·.dropWhile isBlank)

def expect (s : List Char) : Read Unit := do
  set (← ofOption (after? s (← get)))

/-- Goes past a character if it is next, and tells so. -/
def accepts (c : Char) : Read Bool := do
  match after? [c] (← get) with
  | some rest =>
    set rest
    return true
  | none => return false

def skipComment : Read Unit := do
  match ← get with
  | '#' :: r =>
    if (r.takeWhile (· ≠ '\n')).any isControl then malformed
    else set (r.dropWhile (· ≠ '\n'))
  | _ => return

/-- What follows the blank space, line ends and comments between the items of an array. -/
def afterLayout? (inComment : Bool) : List Char → Option (List Char)
  | [] => some []
  | c :: r =>
    if inComment then
      if c = '\n' then afterLayout? false r
      else if isControl c then none
      else afterLayout? true r
    else if isBlankOrLineEnd c then afterLayout? false r
    else if c = '#' then afterLayout? true r
    else some (c :: r)

def skipLayout : Read Unit := do
  set (← ofOption (afterLayout? false (← get)))

def keyFrom (parts : Key) : Nat → Read Key
  | 0 => return parts
  | n + 1 => do
    skipBlank
    if ← accepts '.' then
      skipBlank
      let part ← take keyPart?
      keyFrom (parts ++ [String.ofList part]) n
    else return parts

def key : Read Key := do
  let part ← take keyPart?
  keyFrom [String.ofList part] ((← get).length + 1)

/-- The key of an entry, up to its value. -/
def entryKey : Read Key := do
  let k ← key
  expect ['=']
  skipBlank
  return k

/-- The first of the forms of a number, date or time that the text has. -/
def plain? (s : List Char) : Taken (Except Fault Value) :=
  match moment? s with
  | some (v, r) => some (v.elim (.error .malformed) .ok, r)
  | none =>
    match clock? s with
    | some (c, r) => some (.ok (.time c), r)
    | none =>
      match based? s with
      | some (n, r) => some (.ok (.integer n), r)
      | none =>
        match decimal? s with
        | some (v, r) => some (v.mapError .numeral, r)
        | none => (special? s).map fun (v, r) => (.ok v, r)

def scalar : Read Value := do
  let s ← get
  match string? s with
  | some (text, rest) =>
    set rest
    return .string (String.ofList text)
  | none =>
    match s with
    | '"' :: _ | '\'' :: _ => malformed
    | 't' :: 'r' :: 'u' :: 'e' :: rest =>
      set rest
      return .boolean true
    | 'f' :: 'a' :: 'l' :: 's' :: 'e' :: rest =>
      set rest
      return .boolean false
    | _ => liftM (← take plain?)

/-- An array or inline table whose next value is being read; items are kept last first. -/
inductive Frame where
  | array (items : List Value)
  | table (entries : Entries) (key : Key)

inductive Progress where
  | done (v : Value)
  | more (stack : List Frame)

/-- Puts a finished value where it belongs, which may finish what holds it. -/
def deliver (v : Value) : List Frame → Read Progress
  | [] => return .done v
  | .array items :: outer => do
    skipLayout
    if ← accepts ']' then deliver (.array (v :: items).reverse) outer
    else
      expect [',']
      skipLayout
      if ← accepts ']' then deliver (.array (v :: items).reverse) outer
      else return .more (.array (v :: items) :: outer)
  | .table entries k :: outer => do
    let entries ← ofOption (Entries.assign 0 v k entries)
    skipBlank
    if ← accepts '\x7d' then deliver (.table entries.toValues) outer
    else
      expect [',']
      skipBlank
      return .more (.table entries (← entryKey) :: outer)

def step (stack : List Frame) : Read Progress := do
  if ← accepts '[' then
    skipLayout
    if ← accepts ']' then deliver (.array []) stack else return .more (.array [] :: stack)
  else if ← accepts '\x7b' then
    skipBlank
    if ← accepts '\x7d' then deliver (.table []) stack
    else return .more (.table [] (← entryKey) :: stack)
  else deliver (← scalar) stack

def steps : Nat → List Frame → Read Value
  | 0, _ => malformed
  | n + 1, stack => do
    match ← step stack with
    | .done v => return v
    | .more stack => steps n stack

def value : Read Value := do
  steps ((← get).length + 1) []

/-- What the lines so far have made: the whole table, the header that holds now, and the number of
headers. -/
structure Draft where
  entries : Entries := []
  header : Key := []
  part : Nat := 0

def header (d : Draft) (closing : List Char) (openAt : Key → Entries → Option Entries) :
    Read Draft := do
  skipBlank
  let k ← key
  let entries ← ofOption (openAt k d.entries)
  expect closing
  return ⟨entries, k, d.part + 1⟩

def entry (d : Draft) : Read Draft := do
  let k ← entryKey
  let v ← value
  let entries ← ofOption (Entries.under d.header (Entries.assign d.part v k) d.entries)
  return { d with entries }

def statement (d : Draft) : Read Draft := do
  match ← get with
  | '[' :: '[' :: r =>
    set r
    header d [']', ']'] Entries.openNext
  | '[' :: r =>
    set r
    header d [']'] Entries.openTable
  | c :: _ =>
    if isBareKey c || c = '"' || c = '\'' then entry d else return d
  | [] => return d

def lines : Nat → Draft → Read Draft
  | 0, d => return d
  | n + 1, d => do
    skipBlank
    let d ← statement d
    skipBlank
    skipComment
    match ← get with
    | [] => return d
    | '\n' :: r =>
      set r
      lines n d
    | _ => malformed

end Read

/-- The entries of a document, whose lines end with line feeds. -/
def entriesOf (text : String) : Except Fault (List (String × Value)) := do
  let s := text.toList
  let d ← (Read.lines (s.length + 1) {}).run' s
  return d.entries.toValues

end YangSchema.Toml
