import YangSchema.CommandLine.Host
import YangSchema.Module.Builder
import YangSchema.Settings.Load
import YangSchema.Statement.Data
import YangSchema.Statement.Parser
import YangSchema.Statement.Printer

/-!
# Running a command

A command reads the settings and its file, and writes the statements of the file or a table of
checked values. What it writes to either stream is gathered, so that a run is a value.
-/
namespace YangSchema.CommandLine

/-- What goes to the error stream: messages, and between them the log if it is wanted. -/
inductive Notice where
  | log (l : LogLine)
  | message (s : String)

/-- A fault that no command expects. -/
inductive Crash where
  | file (f : FileFault)
  | numeral (f : Text.Numeral.Fault)
  | type (f : TypeFault)
  | build (f : BuildFault)
  | console (message : String)
  /-- The settings nest too deeply to be read. -/
  | tooDeep
  /-- The reading of the file meets a limit. -/
  | limit (f : SyntaxFault)

def Crash.message : Crash → String
  | file f => f.message
  | numeral f => f.message
  | type f => f.message
  | build f => f.message
  | console message => message
  | tooDeep => Runtime.tooDeep
  | limit f => f.message

/-- Why a command ends early. -/
inductive Stop where
  | failed
  | crashed (c : Crash)

structure Report where
  exitCode : Nat := 0
  output : String := ""
  notices : List Notice := []
  crash : Option Crash := none

namespace Report

/-- The log lines only if they are wanted. -/
def shownNotices (r : Report) (verbose : Bool) : List Notice :=
  r.notices.filter fun n =>
    match n with
    | .log _ => verbose
    | .message _ => true

end Report

variable {m : Type → Type} [Monad m]

abbrev Session (m : Type → Type) := ExceptT Stop (StateT Report m)

namespace Session

def tell (n : Notice) : Session m Unit :=
  modify fun r => { r with notices := r.notices ++ [n] }

def log (lines : List LogLine) : Session m Unit :=
  lines.forM fun l => tell (.log l)

def complain (host : Host) (s : String) : Session m Unit :=
  tell (.message (host.echo s ++ "\n"))

def write (s : String) : Session m Unit :=
  modify fun r => { r with output := r.output ++ s }

def fail {α : Type} : Session m α :=
  throw .failed

def failWith {α : Type} (host : Host) (message : String) : Session m α := do
  complain host message
  fail

def crash {α : Type} (c : Crash) : Session m α :=
  throw (.crashed c)

def orCrash {ε α : Type} (cause : ε → Crash) : Except ε α → Session m α
  | .ok a => return a
  | .error e => crash (cause e)

/-- The settings of a file that is named, or else those nearest to the source file. A line for the
log that cannot be written is left out. -/
def settings (host : Host) (fs : FileSystem m) (config : Option String) (source : Path) :
    Session m ParserSettings := do
  let search : ParserSettings.Search m LoadedSettings :=
    match config with
    | some c => ParserSettings.load host.runtime fs (Path.ofText c)
    | none => do ParserSettings.find host.runtime fs (← (fs.resolve source).adapt .file).parent
  match ← liftM search.run with
  | .ok l =>
    log (l.log.toOption.getD [])
    return l.settings
  | .error (.config f) => failWith host s!"Config error: {f.message}"
  | .error (.file f) =>
    if f.isSystem then failWith host s!"Cannot read config: {f.message}" else crash (.file f)
  | .error (.numeral f) => crash (.numeral f)
  | .error .tooDeep => crash .tooDeep

/-- Reads the statements of a file. -/
def statements (host : Host) (fs : FileSystem m) (file : Path) (s : ParserSettings) :
    Session m Parsed := do
  log [parsingLine file.text]
  match ← liftM (fs.readText file).run with
  | .error f =>
    if f.isSystem then failWith host s!"Cannot read {file.text}: {f.message}" else crash (.file f)
  | .ok text =>
    let refuse {α : Type} (e : SyntaxError) : Session m α :=
      if e.fault.isLimit then crash (.limit e.fault)
      else failWith host s!"Parse error: {e.report file.text text}"
    match parseStatement text s with
    | .error e => refuse e
    | .ok p =>
      log [p.logLine file.text]
      match p.asDocument with
      | .error e => refuse e
      | .ok p => return p

def schemaErrors (host : Host) (errors : List SchemaError) : Session m Unit := do
  for e in errors do
    let line ← orCrash .console (host.print s!"[red]error[/red] {host.escape e.text}")
    tell (.message line)
  let count ← orCrash .console (host.print s!"\n[dim]{errors.length} schema error(s)[/dim]")
  tell (.message count)

def writeStatements (host : Host) (p : Parsed) (asJson : Bool) : Session m Unit := do
  let orTree {α : Type} (r : Except TreeFault α) : Session m α := orCrash (.build ∘ .tree) r
  if asJson then write (← orCrash .console (host.json (← orTree (p.tree.toData none true))))
  else write (host.echo (← orTree (p.tree.render none)))

def record (r : TypeStore.CheckRow) : List (String × JsonValue) :=
  [("value", .string r.value), ("valid", .bool r.valid), ("detail", .string r.detail)]

/-- The table of some rows. Its title is markup as it is. -/
def table (host : Host) (title : String) (rows : List TypeStore.CheckRow) : Table where
  title := title
  columns := ["Value", "Valid", "Detail"]
  rows := rows.map fun r =>
    [host.escape r.value, if r.valid then "[green]yes[/green]" else "[red]no[/red]",
      host.escape r.detail]

/-- The names of the types that a module exports, in their order as texts. -/
def exportedNames (module : YangModule) : List String :=
  (module.exported.map fun (name, _) => name.name).mergeSort fun a b => !(b < a)

def unknownTypedef (module : YangModule) (name : String) : String :=
  let names := exportedNames module
  let known := if names.isEmpty then "none" else ", ".intercalate names
  s!"Unknown typedef '{name}' (known: {known})"

/-- Checks values against a typedef of a module. -/
def check (host : Host) (p : Parsed) (asJson : Bool) (name : String) (values : List String) :
    Session m Unit := do
  let built ← match BuiltModule.of host.runtime p.tree none with
    | .ok built => pure built
    | .error broken =>
      log broken.log
      crash (.build broken.fault)
  log built.log
  match built.module, built.errors with
  | some module, [] =>
    match module.typeNamed? name with
    | none => failWith host (unknownTypedef module name)
    | some id =>
      let rows ← values.mapM fun v => orCrash .type (built.store.check id v)
      let shown := if asJson then host.json (.array (rows.map (.object ∘ record)))
        else host.table (table host s!"{module.name}:{name}" rows)
      write (← orCrash .console shown)
      unless rows.all (·.valid) do fail
  | _, errors =>
    schemaErrors host errors
    fail

def run (host : Host) (fs : FileSystem m) (c : Command) : Session m Unit := do
  let file := Path.ofText c.file
  let p ← statements host fs file (← settings host fs c.config file)
  match c.task with
  | .parse => writeStatements host p c.asJson
  | .check name values => check host p c.asJson name values

def report (s : Session m Unit) : m Report := do
  match ← StateT.run (ExceptT.run s) {} with
  | (.ok _, r) => return r
  | (.error .failed, r) => return { r with exitCode := 1 }
  | (.error (.crashed c), r) => return { r with exitCode := 1, crash := some c }

end Session

/-- How a run of the program ends. -/
inductive Outcome where
  | misused
  | helped
  | versioned
  | finished (verbose : Bool) (r : Report)

def version : String := "yangkit 0.1.0"

/-- Runs the program. A directory is no file to be read. -/
def run (host : Host) (fs : FileSystem m) (arguments : List String) : m Outcome := do
  match host.request? arguments with
  | none => return .misused
  | some .help => return .helped
  | some .version => return .versioned
  | some (.run verbose c) =>
    match ← (fs.isDirectory (Path.ofText c.file)).run with
    | .ok true => return .misused
    | _ => return .finished verbose (← (Session.run host fs c).report)

end YangSchema.CommandLine
