import YangSchema.Files.Path
import YangSchema.Files.Utf8
import YangSchema.Text.Line
import YangSchema.Text.Quoted

/-!
# Access to files

What the program asks of files, in any monad: a tree of files that is a value answers it purely.
-/
namespace YangSchema

inductive FileFault where
  | missing (path : Path)
  | notADirectory (path : Path)
  | isADirectory (path : Path)
  | tooLong (path : Path)
  /-- Any other failure of the system, in its own words. -/
  | failed (message : String)
  | nullCharacter
  | undecodable (fault : Utf8.Fault)
  deriving Repr, DecidableEq

namespace FileFault

/-- Whether the system refused, and not the text of the path or of the file. -/
def isSystem : FileFault → Bool
  | nullCharacter | undecodable _ => false
  | _ => true

def message : FileFault → String
  | missing p => s!"[Errno 2] No such file or directory: {Text.quoted p.text}"
  | notADirectory p => s!"[Errno 20] Not a directory: {Text.quoted p.text}"
  | isADirectory p => s!"[Errno 21] Is a directory: {Text.quoted p.text}"
  | tooLong p => s!"[Errno 36] File name too long: {Text.quoted p.text}"
  | failed m => m
  | nullCharacter => "embedded null byte"
  | undecodable f => f.message

end FileFault

abbrev Access (m : Type → Type) := ExceptT FileFault m

structure FileSystem (m : Type → Type) where
  /-- Whether a path names a directory. A path that is too long is a fault, any other that cannot be
  followed names nothing. -/
  isDirectory : Path → Access m Bool
  holds : Path → Access m Bool
  read : Path → Access m (List UInt8)
  /-- The absolute path without dots and links. -/
  resolve : Path → Access m Path

/-- Reads a file as text, each line of which ends with a line feed. -/
def FileSystem.readText {m : Type → Type} [Monad m] (fs : FileSystem m) (path : Path) :
    Access m String := do
  match Utf8.decode (← fs.read path) with
  | .ok s => return String.ofList (Text.Line.unify s)
  | .error f => throw (.undecodable f)

end YangSchema
