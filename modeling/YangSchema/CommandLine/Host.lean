import YangSchema.Json
import YangSchema.Runtime

/-!
# What the program is run with

The program declares its commands with their options and leaves to a library what a row of arguments
asks for by them. Another library writes what it has to say: texts, texts with markup, tables and
data. Both are taken as they are, with the interpreter.
-/
namespace YangSchema.CommandLine

/-- What a command does with its file. -/
inductive Task where
  | parse
  | check (typedefName : String) (values : List String)
  deriving Repr, DecidableEq

structure Command where
  task : Task
  file : String
  asJson : Bool := false
  config : Option String := none
  deriving Repr, DecidableEq

/-- What a command line asks for. -/
inductive Request where
  | version
  | help
  | run (verbose : Bool) (command : Command)
  deriving Repr, DecidableEq

/-- A table whose texts may all hold markup. -/
structure Table where
  title : String
  columns : List String
  rows : List (List String)
  deriving Repr, DecidableEq

/-- The libraries and the interpreter that the program runs on. A fault of the console is its
message. -/
structure Host where
  runtime : Runtime := {}
  /-- What arguments ask for. Nothing is an error of usage. -/
  request? : List String → Option Request
  /-- What is written of a text without markup. -/
  echo : String → String
  /-- A text as markup. -/
  escape : String → String
  /-- The text that markup shows. -/
  shown : String → Except String String
  /-- What is written of markup. -/
  print : String → Except String String
  /-- What is written of a table. -/
  table : Table → Except String String
  /-- What is written of data. -/
  json : JsonValue → Except String String

end YangSchema.CommandLine
