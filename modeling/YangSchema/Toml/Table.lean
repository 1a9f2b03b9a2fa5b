import YangSchema.Toml.Value

/-!
# Tables under construction

A table knows what has opened it, since that decides what may still be added. A header opens a table
once, even if another has gone through it before. The dotted key of an entry opens tables too, which
only entries under the same header may open again. A key has one value, and nothing is added to a
value.
-/
namespace YangSchema.Toml

/-- The parts of a dotted key. -/
abbrev Key := List String

/-- What has opened a table. -/
inductive Opening where
  /-- The header of a table inside it. -/
  | passing
  /-- Its own header. -/
  | header
  /-- The key of an entry in a part of the document, which is what stands under one header. -/
  | entry (part : Nat)
  deriving Repr, DecidableEq

inductive Node where
  | value (v : Value)
  | table (opening : Opening) (entries : List (String × Node))
  /-- An array of tables, the last of which is open. -/
  | tables (done : List (List (String × Node))) (last : List (String × Node))

abbrev Entries := List (String × Node)

namespace Entries

/-- Gives a key another node in its place. -/
def replace (es : Entries) (key : String) (n : Node) : Entries :=
  es.map fun e => if e.1 = key then (key, n) else e

def append (es : Entries) (key : String) (n : Node) : Entries :=
  es ++ [(key, n)]

/-- Changes what is behind a key on the way to another: a table, which may be new, or the last of an
array of tables. -/
def through (es : Entries) (key : String) (change : Entries → Option Entries) : Option Entries :=
  match es.lookup key with
  | none => (change []).map fun inner => es.append key (.table .passing inner)
  | some (.table opening inner) =>
    (change inner).map fun inner => es.replace key (.table opening inner)
  | some (.tables done last) => (change last).map fun last => es.replace key (.tables done last)
  | some (.value _) => none

/-- Changes the table of a header. -/
def under : Key → (Entries → Option Entries) → Entries → Option Entries
  | [], change, es => change es
  | k :: ks, change, es => es.through k (under ks change)

/-- Opens a table by its header. -/
def openTable : Key → Entries → Option Entries
  | [], _ => none
  | [k], es =>
    match es.lookup k with
    | none => some (es.append k (.table .header []))
    | some (.table .passing inner) => some (es.replace k (.table .header inner))
    | some _ => none
  | k :: ks, es => es.through k (openTable ks)

def openNext : Key → Entries → Option Entries
  | [], _ => none
  | [k], es =>
    match es.lookup k with
    | none => some (es.append k (.tables [] []))
    | some (.tables done last) => some (es.replace k (.tables (done ++ [last]) []))
    | some _ => none
  | k :: ks, es => es.through k (openNext ks)

/-- Whether an entry of a part may go through a table. -/
def passable (part : Nat) : Opening → Bool
  | .passing => true
  | .header => false
  | .entry s => s = part

/-- Adds an entry in a part. -/
def assign (part : Nat) (v : Value) : Key → Entries → Option Entries
  | [], _ => none
  | [k], es => if (es.lookup k).isSome then none else some (es.append k (.value v))
  | k :: ks, es =>
    match es.lookup k with
    | none => (assign part v ks []).map fun inner => es.append k (.table (.entry part) inner)
    | some (.table opening inner) =>
      if passable part opening then
        (assign part v ks inner).map fun inner =>
          es.replace k (.table (.entry part) inner)
      else none
    | some _ => none

end Entries

mutual

def Node.toValue : Node → Value
  | .value v => v
  | .table _ entries => .table (Entries.toValues entries)
  | .tables done last => .array (Entries.toTables done ++ [.table (Entries.toValues last)])

def Entries.toValues : Entries → List (String × Value)
  | [] => []
  | (k, n) :: r => (k, n.toValue) :: Entries.toValues r

def Entries.toTables : List Entries → List Value
  | [] => []
  | es :: r => .table (Entries.toValues es) :: Entries.toTables r

end

end YangSchema.Toml
