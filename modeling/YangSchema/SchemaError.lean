import YangSchema.Argument
import YangSchema.Name
import YangSchema.Restriction.Basic
import YangSchema.Statement.Tree

/-!
# Schema errors

What can be wrong with a schema whose text is well-formed. Each error names the statement that it is
about, and its message is a function of its parts.
-/
namespace YangSchema

/-- What is wrong with an argument. -/
inductive ArgumentProblem where
  | fault (f : ArgumentFault)
  | restriction (f : RestrictionFault)
  /-- A default that is no literal of a type with this root. -/
  | notALiteral (value : Value) (root : String)
  | told (message : String)

def ArgumentProblem.message : ArgumentProblem → String
  | fault f => f.message
  | restriction f => f.message
  | notALiteral v root => s!"{v.shown} is not a valid {root} value"
  | told m => m

/-- A module or a type that an error refers to. -/
structure Referent where
  name : String
  origin : Option Origin := none
  deriving Repr, DecidableEq, Inhabited

inductive SchemaError where
  | syntaxFailure (message : String) (position : Option Position)
  | unsupportedYangVersion (statement : Statement) (version : String)
  | argumentExpected (statement : Statement)
  | noArgumentExpected (statement : Statement)
  | argumentParserError (statement : Statement) (problem : ArgumentProblem)
  | expectedStatement (statement : Statement) (expected : String)
  | unexpectedStatement (statement : Statement)
  | missingRequiredStatement (statement : Statement) (missing : String)
  | tooManyInstances (statement : Statement)
  | alreadyUsedModuleName (statement : Statement) (module : Referent)
  | unknownPrefix (statement : Statement) (qualifier : String)
  | alreadyUsedPrefix (statement previous : Statement)
  | alreadyUsedNamespace (statement : Statement) (module : Referent)
  | shadowedType (statement : Statement) (shadowed : Referent)
  /-- The type with the default is named by its origin. -/
  | invalidDefault (type : Option Origin) (restriction : Restriction)
  | unresolvedTypeRef (statement : Statement) (type : String)

namespace SchemaError

def kind : SchemaError → String
  | syntaxFailure .. => "syntax_error"
  | unsupportedYangVersion .. => "unsupported_yang_version"
  | argumentExpected _ => "argument_expected"
  | noArgumentExpected _ => "no_argument_expected"
  | argumentParserError .. => "argument_parser_error"
  | expectedStatement .. => "expected_statement"
  | unexpectedStatement _ => "unexpected_statement"
  | missingRequiredStatement .. => "missing_required_statement"
  | tooManyInstances _ => "too_many_instances"
  | alreadyUsedModuleName .. => "already_used_module_name"
  | unknownPrefix .. => "unknown_prefix"
  | alreadyUsedPrefix .. => "already_used_prefix"
  | alreadyUsedNamespace .. => "already_used_namespace"
  | shadowedType .. => "shadowed_type"
  | invalidDefault .. => "invalid_default"
  | unresolvedTypeRef .. => "unresolved_type_ref"

/-- The statement that an error is about. -/
def statement? : SchemaError → Option Statement
  | syntaxFailure .. | invalidDefault .. => none
  | unsupportedYangVersion s _ | argumentExpected s | noArgumentExpected s
  | argumentParserError s _ | expectedStatement s _ | unexpectedStatement s
  | missingRequiredStatement s _ | tooManyInstances s | alreadyUsedModuleName s _
  | unknownPrefix s _ | alreadyUsedPrefix s _ | alreadyUsedNamespace s _ | shadowedType s _
  | unresolvedTypeRef s _ => some s

/-- The keyword and the position that a message starts with. -/
def subject? : SchemaError → Option (String × Position)
  | invalidDefault type _ => type.map fun o => (o.keyword, o.position)
  | e => e.statement?.map fun s => (s.name, s.position)

def detail : SchemaError → String
  | syntaxFailure message none => message
  | syntaxFailure message (some p) => s!"Syntax error at {p.text}: {message}"
  | unsupportedYangVersion _ version => s!"Unsupported YANG version {version}."
  | argumentExpected s => s!"Statement \"{s.name}\" expects an argument."
  | noArgumentExpected s => s!"Statement \"{s.name}\" does not expect an argument."
  | argumentParserError s problem =>
    s!"Error parsing argument for statement \"{s.name}\":\n{problem.message}"
  | expectedStatement s expected => s!"Expected \"{expected}\" statement, but got \"{s.name}\"."
  | unexpectedStatement s => s!"Unexpected statement \"{s.name}\"."
  | missingRequiredStatement _ missing => s!"Missing required statement \"{missing}\"."
  | tooManyInstances s => s!"Too many instances of the \"{s.name}\" statement."
  | alreadyUsedModuleName _ m =>
    match m.origin with
    | some o => s!"Module name already used by module at {o.position.text}."
    | none => "Module name already used."
  | unknownPrefix _ qualifier => s!"Unknown prefix \"{qualifier}\"."
  | alreadyUsedPrefix _ previous =>
    s!"Prefix already registered. See statement at {previous.position.text}"
  | alreadyUsedNamespace _ m =>
    match m.origin with
    | some o => s!"Namespace already registered by module \"{m.name}\" ({o.position.text})."
    | none => s!"Namespace already registered by module \"{m.name}\"."
  | shadowedType _ t =>
    match t.origin with
    | some o => s!"This type shadows the type {t.name} defined at {o.position.text}."
    | none => "This type shadows a type defined in an higher scope."
  | invalidDefault _ r =>
    let place := match r.notes.origin with
      | some o => o.text
      | none => "<position not available>"
    s!"This type has an invalid default value. See restriction at {place}."
  | unresolvedTypeRef _ type => s!"Cannot find type {type}."

def text (e : SchemaError) : String :=
  match e.subject? with
  | none => e.detail
  | some (name, position) => s!"Statement \"{name}\" ({position.text}): {e.detail}"

end SchemaError
end YangSchema
