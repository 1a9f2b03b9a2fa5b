/-!
# Log lines

What the library tells about its work, each line with the part that tells it.
-/
namespace YangSchema

inductive Logger where
  | grammar
  | typedefs
  | modules
  | settings
  deriving Repr, DecidableEq

def Logger.name : Logger → String
  | grammar => "yangkit.core.grammar"
  | typedefs => "yangkit.core.typedefs"
  | modules => "yangkit.core.modules"
  | settings => "yangkit.core.settings"

structure LogLine where
  logger : Logger
  message : String
  deriving Repr, DecidableEq

def LogLine.text (l : LogLine) : String :=
  s!"DEBUG {l.logger.name}: {l.message}"

end YangSchema
