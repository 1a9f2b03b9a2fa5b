/-!
# Paths

Paths with slashes between their parts. Empty parts and single dots say nothing and are left out.
Two slashes in front, but not three or more, name a root of their own.
-/
namespace YangSchema

/-- Where the parts of a path go on from. -/
inductive PathRoot where
  /-- A directory that the path does not tell. -/
  | here
  | slash
  | twoSlashes
  deriving Repr, DecidableEq, Inhabited

def PathRoot.text : PathRoot → String
  | here => ""
  | slash => "/"
  | twoSlashes => "//"

/-- The root of a path that starts with so many slashes. -/
def PathRoot.ofSlashes : Nat → PathRoot
  | 0 => here
  | 2 => twoSlashes
  | _ => slash

structure Path where
  root : PathRoot := .here
  parts : List String
  deriving Repr, DecidableEq, Inhabited

namespace Path

def ofText (s : String) : Path :=
  { root := .ofSlashes (s.toList.takeWhile (· = '/')).length
    parts := ((s.toList.splitOn '/').map String.ofList).filter fun p => p ≠ "" && p ≠ "." }

def text (p : Path) : String :=
  if p.root = .here && p.parts.isEmpty then "."
  else p.root.text ++ "/".intercalate p.parts

def isAbsolute (p : Path) : Bool :=
  p.root ≠ .here

def join (dir p : Path) : Path :=
  if p.isAbsolute then p else { dir with parts := dir.parts ++ p.parts }

def child (dir : Path) (name : String) : Path :=
  { dir with parts := dir.parts ++ [name] }

/-- The directory that holds what a path names. -/
def parent (p : Path) : Path :=
  { p with parts := p.parts.dropLast }

/-- The directories above a path, the nearest first. -/
def parents (p : Path) : List Path :=
  (List.range p.parts.length).reverse.map fun n => { p with parts := p.parts.take n }

/-- The parts without double dots, each of which takes the part before it away. -/
def collapse (parts : List String) : List String :=
  parts.foldl (fun done p => if p = ".." then done.dropLast else done ++ [p]) []

/-- Whether a text can name a file at all: the null character ends a name. -/
def isSpeakable (s : String) : Bool :=
  !s.toList.contains '\x00'

/-- How many bytes a name in a directory can have. -/
def nameLimit : Nat := 255

/-- How many bytes a path can have. -/
def pathLimit : Nat := 4095

end Path
end YangSchema
