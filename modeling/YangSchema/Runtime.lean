/-!
# The interpreter

Patterns and settings are read by recursion on their groups and arrays. How deep these may nest
depends on the interpreter and on what is under way when the reading begins, and is not known here.
Releases also differ in how a possessive repetition ends.
-/
namespace YangSchema

structure Runtime where
  /-- The patterns that nest too deeply to be read. -/
  refusesPattern : String → Bool := fun _ => false
  /-- The settings that nest too deeply to be read. -/
  refusesToml : String → Bool := fun _ => false
  /-- Behind a possessive repetition reading goes on where its last round, which has failed, began.
  Earlier releases go on at the place that this round noted last. -/
  rewindsRounds : Bool := true
  deriving Inhabited

/-- What is told of a reading that is too deep. -/
def Runtime.tooDeep : String :=
  "maximum recursion depth exceeded"

end YangSchema
