import YangSchema.CommandLine.Arguments
import YangSchema.Console.Escape
import YangSchema.Console.Table

/-!
# A console that is no terminal

A host that writes lines of a fixed width, without colours and other styles.
-/
namespace YangSchema.CommandLine.Host
open Console

def joinLines (lines : List (List Char)) : String :=
  String.join (lines.map fun l => String.ofList l ++ "\n")

def ofMarkup {α : Type} (x : Except MarkupFault α) : Except String α :=
  x.mapError (·.message)

/-- The host with lines of a width. -/
def plain (width : Nat) : Host where
  request? := Request.ofArguments?
  echo := withoutSequences
  escape s := String.ofList (Markup.escape s.toList)
  shown s := ofMarkup ((Markup.shown s.toList).map String.ofList)
  print s := ofMarkup ((Markup.shown s.toList).map fun t =>
    joinLines (layOut .fold width (printable t)))
  table t := ofMarkup ((Table.lines width t).map joinLines)
  json v := .ok (v.text ++ "\n")

end YangSchema.CommandLine.Host
