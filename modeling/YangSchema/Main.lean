import Std.Time.Format
import YangSchema.CommandLine.Plain
import YangSchema.CommandLine.Session

/-!
# The program

The command line on the files and streams of the system.
-/
namespace YangSchema.CommandLine

/-- The number of an error of the system, which some calls give with its sign changed. -/
def errorNumber (n : UInt32) : UInt32 :=
  min n (0 - n)

/-- What a failed access to a path means, by the number of the system's error. -/
def faultOf (path : Path) (e : IO.Error) : FileFault :=
  match e with
  | .noFileOrDirectory .. => .missing path
  | .inappropriateType _ n _ =>
    if errorNumber n = 21 then .isADirectory path else .notADirectory path
  | .permissionDenied _ n _ =>
    .failed s!"[Errno {errorNumber n}] Permission denied: {Text.quoted path.text}"
  | .invalidArgument _ n _ => if errorNumber n = 36 then .tooLong path else .failed (toString e)
  | e => .failed (toString e)

def readFile (path : Path) : Access IO (List UInt8) := do
  match ← (IO.FS.readBinFile path.text).toBaseIO with
  | .ok bytes => return bytes.toList
  | .error e => throw (faultOf path e)

def resolvePath (path : Path) : IO Path := do
  match ← (IO.FS.realPath path.text).toBaseIO with
  | .ok found => return Path.ofText found.toString
  | .error _ =>
    let home := Path.ofText (← IO.currentDir).toString
    return { root := .slash, parts := Path.collapse (home.join path).parts }

/-- Whether reading a path tells that a directory is there, or a file that counts too. -/
def isThere (path : Path) (files : Bool) : Access IO Bool :=
  tryCatch (do
    discard (readFile path)
    return files) fun
    | .isADirectory _ => return true
    | .tooLong p => throw (.tooLong p)
    | _ => return false

def systemFiles : FileSystem IO where
  isDirectory path := isThere path false
  holds path := isThere path true
  read := readFile
  resolve path := resolvePath path

def usage : String :=
  "Usage: yangkit [--verbose] parse FILE [--json] [--config FILE]\n" ++
  "       yangkit [--verbose] check FILE TYPEDEF VALUE... [--json] [--config FILE]\n" ++
  "       yangkit --version\n"

def noticeText (stamp : String) : Notice → String
  | .log l => s!"{stamp} [DEBUG] {l.logger.name}: {l.message}\n"
  | .message s => s

def stamp : IO String := do
  return (← Std.Time.PlainDateTime.now).format "uuuu-MM-dd HH:mm:ss,SSS"

def finish : Outcome → IO UInt32
  | .misused => do
    IO.eprint usage
    return 2
  | .helped => do
    IO.print usage
    return 0
  | .versioned => do
    IO.println version
    return 0
  | .finished verbose r => do
    let time ← stamp
    IO.print r.output
    for n in r.shownNotices verbose do IO.eprint (noticeText time n)
    match r.crash with
    | some c => IO.eprintln c.message
    | none => pure ()
    return UInt32.ofNat r.exitCode

end YangSchema.CommandLine

open YangSchema.CommandLine in
/-- The program, on a console of 80 columns. -/
def main (arguments : List String) : IO UInt32 := do
  finish (← run (Host.plain 80) systemFiles arguments)
