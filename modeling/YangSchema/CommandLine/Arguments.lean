import YangSchema.CommandLine.Host
import YangSchema.Files.Path

/-!
# Command lines

Options have a long name behind two dashes or one letter behind a single dash, where letters may
stand together. A value follows its option as the next argument, behind an equals sign, or behind
its letter. Two dashes end the options. The options of the program come before the name of the
command, those of a command may stand anywhere behind it.
-/
namespace YangSchema.CommandLine

/-- The options that are known by their names, and whether a value belongs to each. -/
structure Known (α : Type) where
  option : α
  names : List String
  hasValue : Bool := false

variable {α : Type}

def find? (known : List (Known α)) (name : String) : Option (Known α) :=
  known.find? (·.names.contains name)

/-- Options with their values, and whether the next argument is one of these. -/
structure Given (α : Type) where
  options : List (α × String) := []
  takesNext : Bool := false

/-- An option whose value is the next argument. -/
def withNext (k : Known α) (next : Option String) : Option (Given α) :=
  next.map fun v => ⟨[(k.option, v)], true⟩

/-- Reads a long option, with its value if that is attached. -/
def long? (known : List (Known α)) (argument : List Char) (next : Option String) :
    Option (Given α) := do
  let k ← find? known (String.ofList (argument.takeWhile (· ≠ '=')))
  match argument.dropWhile (· ≠ '='), k.hasValue with
  | _ :: v, true => return ⟨[(k.option, String.ofList v)], false⟩
  | _ :: _, false => none
  | [], true => withNext k next
  | [], false => return ⟨[(k.option, "")], false⟩

def letters? (known : List (Known α)) (next : Option String) : List Char → Option (Given α)
  | [] => some {}
  | c :: cs => do
    let k ← find? known (String.ofList ['-', c])
    if k.hasValue then
      if cs.isEmpty then withNext k next else return ⟨[(k.option, String.ofList cs)], false⟩
    else
      let g ← letters? known next cs
      return { g with options := (k.option, "") :: g.options }

/-- Reads an argument that starts with a dash. -/
def given? (known : List (Known α)) (argument : List Char) (next : Option String) :
    Option (Given α) :=
  match argument with
  | '-' :: '-' :: _ => long? known argument next
  | _ => letters? known next (argument.drop 1)

def isOption (argument : List Char) : Bool :=
  argument.head? = some '-' && 1 < argument.length

/-- The options of a row of arguments, and its other arguments. If the options may not stand
`anywhere` they end before the first of these. Nothing is an error. -/
def separate (known : List (Known α)) (anywhere : Bool) (arguments : List String) :
    Option (List (α × String) × List String) :=
  match arguments with
  | [] => some ([], [])
  | a :: r =>
    if a = "--" then some ([], r)
    else if isOption a.toList then
      match given? known a.toList r.head? with
      | none => none
      | some g =>
        (separate known anywhere (if g.takesNext then r.tail else r)).map fun (os, others) =>
          (g.options ++ os, others)
    else if anywhere then
      (separate known anywhere r).map fun (os, others) => (os, a :: others)
    else some ([], a :: r)
termination_by arguments.length
decreasing_by
  all_goals simp_wf
  · split
    · rw [List.length_tail]
      omega
    · omega

inductive ProgramOption where
  | version
  | verbose
  | help
  deriving Repr, DecidableEq

inductive CommandOption where
  | json
  | config
  | help
  deriving Repr, DecidableEq

def programOptions : List (Known ProgramOption) :=
  [⟨.version, ["--version", "-V"], false⟩, ⟨.verbose, ["--verbose", "-v"], false⟩,
   ⟨.help, ["--help"], false⟩]

def commandOptions : List (Known CommandOption) :=
  [⟨.json, ["--json"], false⟩, ⟨.config, ["--config", "-c"], true⟩, ⟨.help, ["--help"], false⟩]

namespace Request

def task? (name : String) (arguments : List String) : Option (Task × String) :=
  match name, arguments with
  | "parse", [file] => some (.parse, file)
  | "check", file :: typedefName :: v :: vs => some (.check typedefName (v :: vs), file)
  | _, _ => none

def lastValue? (options : List (CommandOption × String)) (o : CommandOption) : Option String :=
  options.reverse.lookup o

def ofCommand? (verbose : Bool) (name : String) (arguments : List String) : Option Request := do
  let (options, others) ← separate commandOptions true arguments
  if (lastValue? options .help).isSome then return .help
  let (task, file) ← task? name others
  let config := lastValue? options .config
  guard ((file :: config.toList).all Path.isSpeakable)
  return .run verbose { task, file, asJson := (lastValue? options .json).isSome, config }

def commandNames : List String :=
  ["parse", "check"]

/-- What is asked for without a command. -/
def withoutCommand? (options : List (ProgramOption × String)) : Option Request :=
  options.findSome? fun (o, _) =>
    match o with
    | .help => some .help
    | .version => some .version
    | .verbose => none

/-- What the arguments of the program ask for. Nothing is an error of usage. What stands in the
place of a command and is none may still be an option that asks for something without a command. -/
def ofArguments? (arguments : List String) : Option Request := do
  let (options, rest) ← separate programOptions false arguments
  match withoutCommand? options, rest with
  | some r, _ => return r
  | none, [] => none
  | none, name :: r =>
    if commandNames.contains name then ofCommand? (!options.isEmpty) name r
    else withoutCommand? (← separate programOptions false rest).1

end Request
end YangSchema.CommandLine
