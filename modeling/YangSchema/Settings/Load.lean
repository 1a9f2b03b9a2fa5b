import YangSchema.Files.System
import YangSchema.Log
import YangSchema.Settings
import YangSchema.Runtime
import YangSchema.Toml.Document

/-!
# Settings files

The parser settings are the table `parser` of a settings file. What it does not name keeps its
default, and so does everything where no settings file is found.
-/
namespace YangSchema

/-- Why a settings file holds no settings. A value that is none of a setting is given as it is
shown. -/
inductive ConfigFault where
  | malformed (path : Path)
  | notATable (path : Path)
  | unknownPolicy (path : Path) (shown : String)
  | tabWidth (path : Path) (shown : String)

def ConfigFault.message : ConfigFault → String
  | malformed path => s!"Invalid TOML in {path.text}"
  | notATable path => s!"[parser] in {path.text} must be a table"
  | unknownPolicy path shown =>
    let allowed := ", ".intercalate (IdentifierPolicy.all.map IdentifierPolicy.name)
    s!"Unknown identifier_policy {shown} in {path.text} (expected one of: {allowed})"
  | tabWidth path shown => s!"tab_width in {path.text} must be a positive integer, got {shown}"

/-- Why settings are not loaded. -/
inductive LoadFault where
  | file (f : FileFault)
  | numeral (f : Text.Numeral.Fault)
  /-- The text nests too deeply to be read. -/
  | tooDeep
  | config (f : ConfigFault)

def LoadFault.message : LoadFault → String
  | file f => f.message
  | numeral f => f.message
  | tooDeep => Runtime.tooDeep
  | config f => f.message

namespace IdentifierPolicy

def shown (p : IdentifierPolicy) : String :=
  match p with
  | yang => "<IdentifierPolicy.YANG: 'yang'>"
  | legacy => "<IdentifierPolicy.LEGACY: 'legacy'>"

def ofValue? : Toml.Value → Option IdentifierPolicy
  | .string s => named? s
  | _ => none

end IdentifierPolicy

/-- Settings, and the file they are from; the defaults are from none. -/
structure LoadedSettings where
  settings : ParserSettings := {}
  file : Option Path := none
  deriving Repr, DecidableEq, Inhabited

def ParserSettings.shown (s : ParserSettings) : Except Text.Numeral.Fault String := do
  let width ← Text.Numeral.written s.tabWidth
  return s!"ParserSettings(identifier_policy={s.identifierPolicy.shown}, tab_width={width})"

/-- What the log says of settings from a file. -/
def LoadedSettings.log (l : LoadedSettings) : Except Text.Numeral.Fault (List LogLine) := do
  match l.file with
  | none => return []
  | some path =>
    return [⟨.settings, s!"Loaded parser settings from {path.text}: {← l.settings.shown}"⟩]

namespace ParserSettings

def fileName : String := "yangkit.toml"

def refuse {α : Type} (fault : String → ConfigFault) (v : Toml.Value) : Except LoadFault α := do
  throw (.config (fault (← v.shown.mapError .numeral)))

/-- The settings that the entries of a file make. -/
def ofEntries (path : Path) (entries : List (String × Toml.Value)) :
    Except LoadFault ParserSettings := do
  let table ← match entries.lookup "parser" with
    | none => pure []
    | some (.table t) => pure t
    | some _ => throw (.config (.notATable path))
  let policy ← match table.lookup "identifier_policy" with
    | none => pure ({} : ParserSettings).identifierPolicy
    | some v =>
      match IdentifierPolicy.ofValue? v with
      | some p => pure p
      | none => refuse (.unknownPolicy path) v
  let width ← match table.lookup "tab_width" with
    | none => pure ({} : ParserSettings).tabWidth
    | some v =>
      match v with
      | .integer n => if 1 ≤ n then pure n else refuse (.tabWidth path) v
      | _ => refuse (.tabWidth path) v
  return ⟨policy, width⟩

def ofText (runtime : Runtime) (path : Path) (text : String) : Except LoadFault ParserSettings :=
  if runtime.refusesToml text then .error .tooDeep
  else
    match Toml.entriesOf text with
    | .error .malformed => .error (.config (.malformed path))
    | .error (.numeral f) => .error (.numeral f)
    | .ok entries => ofEntries path entries

variable {m : Type → Type} [Monad m]

/-- A search for settings. -/
abbrev Search (m : Type → Type) := ExceptT LoadFault m

def load (runtime : Runtime) (fs : FileSystem m) (path : Path) : Search m LoadedSettings := do
  let text ← (fs.readText path).adapt .file
  return ⟨← (ofText runtime path text : Except LoadFault ParserSettings), some path⟩

/-- Loads the first settings file that is there. -/
def loadFirst (runtime : Runtime) (fs : FileSystem m) : List Path → Search m LoadedSettings
  | [] => return {}
  | path :: paths => do
    if ← (fs.holds path).adapt .file then load runtime fs path else loadFirst runtime fs paths

/-- Loads the settings file of a directory, or of the nearest directory above it that has one. A
path that is no directory stands for the one that holds it. -/
def find (runtime : Runtime) (fs : FileSystem m) (start : Path) : Search m LoadedSettings := do
  let directory := if ← (fs.isDirectory start).adapt .file then start else start.parent
  let above := (← (fs.resolve directory).adapt .file).parents
  loadFirst runtime fs ((directory :: above).map (·.child fileName))

end ParserSettings
end YangSchema
