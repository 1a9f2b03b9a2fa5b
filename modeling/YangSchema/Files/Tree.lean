import YangSchema.Files.System

/-!
# Trees of files

A tree of files as a value, with the directory from which relative paths go on. Every directory
above one that is named exists too.
-/
namespace YangSchema

/-- A place in the tree, from the root on. -/
abbrev Place := List String

structure FileTree where
  home : Place
  files : List (Place × List UInt8) := []
  directories : List Place := []

namespace FileTree

def hasDirectory (t : FileTree) (place : Place) : Bool :=
  (t.home :: t.directories ++ t.files.map fun f => f.1.dropLast).any place.isPrefixOf

def fileAt? (t : FileTree) (place : Place) : Option (List UInt8) :=
  t.files.lookup place

/-- Follows the parts of a path from a place on; each but the last has to be a directory. -/
def follow (t : FileTree) (path : Path) : Place → List String → Except FileFault Place
  | here, [] => .ok here
  | here, part :: parts =>
    if t.hasDirectory here then
      if Path.nameLimit < part.utf8ByteSize then .error (.tooLong path)
      else t.follow path (if part = ".." then here.dropLast else here ++ [part]) parts
    else if (t.fileAt? here).isSome then .error (.notADirectory path)
    else .error (.missing path)

def start (t : FileTree) (path : Path) : Place :=
  if path.isAbsolute then [] else t.home

def find (t : FileTree) (path : Path) : Except FileFault Place :=
  if !Path.isSpeakable path.text then .error .nullCharacter
  else if Path.pathLimit < path.text.utf8ByteSize then .error (.tooLong path)
  else t.follow path (t.start path) path.parts

/-- Whether something holds of the place of a path, which it does not where there is none. -/
def placed (t : FileTree) (path : Path) (test : Place → Bool) : Except FileFault Bool :=
  match t.find path with
  | .ok place => .ok (test place)
  | .error (.tooLong p) => .error (.tooLong p)
  | .error _ => .ok false

def isDirectory (t : FileTree) (path : Path) : Except FileFault Bool :=
  t.placed path t.hasDirectory

def holds (t : FileTree) (path : Path) : Except FileFault Bool :=
  t.placed path fun place => t.hasDirectory place || (t.fileAt? place).isSome

def read (t : FileTree) (path : Path) : Except FileFault (List UInt8) := do
  let place ← t.find path
  if t.hasDirectory place then throw (.isADirectory path)
  match t.fileAt? place with
  | some bytes => return bytes
  | none => throw (.missing path)

def resolve (t : FileTree) (path : Path) : Except FileFault Path :=
  if Path.isSpeakable path.text then
    .ok { root := .slash, parts := Path.collapse (t.start path ++ path.parts) }
  else .error .nullCharacter

/-- A tree answers what the program asks of files. -/
def system (t : FileTree) : FileSystem Id where
  isDirectory path := .mk (t.isDirectory path)
  holds path := .mk (t.holds path)
  read path := .mk (t.read path)
  resolve path := .mk (t.resolve path)

def addFile (t : FileTree) (path : Path) (bytes : List UInt8) : FileTree :=
  { t with files := (t.start path ++ path.parts, bytes) :: t.files }

def addDirectory (t : FileTree) (path : Path) : FileTree :=
  { t with directories := (t.start path ++ path.parts) :: t.directories }

end FileTree
end YangSchema
