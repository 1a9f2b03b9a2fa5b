import YangSchema.Lexer.Progress
import YangSchema.Log
import YangSchema.Statement.Tree

/-!
# Reading statements

A statement is a keyword, perhaps with a qualifier and a colon before it, perhaps an argument after
white space, and then a semicolon or a block of statements in braces. The blocks that are open wait
on a stack, so that nesting is bounded by nothing but the text.
-/
namespace YangSchema

/-- A statement up to what ends it or opens its block. -/
structure Header where
  name : String
  position : Position
  qualifier : Option String
  argument : Option String
  deriving Repr, DecidableEq

def Header.keyword (h : Header) : String :=
  qualifiedKeyword h.qualifier h.name

namespace Scan

def readKeyword (policy : IdentifierPolicy) : Scan (Option String × String) := do
  let first ← readIdentifier policy
  if (← current?) = some ':' then
    forward 1
    return (some first, ← readIdentifier policy)
  else return (none, first)

/-- An argument needs white space before it. Without an argument nothing is read. -/
def readArgument? (settings : ParserSettings) : Scan (Option String) := fun mark =>
  match skipSpace mark with
  | .error e c => .error e c
  | .ok false c => .ok none c
  | .ok true c =>
    match readString? settings c with
    | .error e d => .error e d
    | .ok none _ => .ok none mark
    | .ok (some a) d => .ok (some a) d

def readHeader (settings : ParserSettings) : Scan Header := do
  let position := (← get).position
  let (qualifier, name) ← readKeyword settings.identifierPolicy
  let argument ← readArgument? settings
  let _ ← skipSpace
  return { name, position, qualifier, argument }

/-- What ends a statement, with the white space after it; `true` if a block opens. -/
def readTerminator (keyword : String) : Scan Bool := do
  let found ← current?
  if found = some ';' || found = some '\x7b' then
    forward 1
    let _ ← skipSpace
    return found = some '\x7b'
  else fail (.terminatorExpected keyword found)

/-- A statement of the block of another, with what ends it. -/
def readChild (settings : ParserSettings) (block : String) : Scan (Header × Bool) := do
  let found ← current?
  if found.any (Shape.mayStart settings.identifierPolicy) then
    let header ← readHeader settings
    return (header, ← readTerminator header.keyword)
  else fail (.statementExpected block found)

/-- The brace that ends a block, with the white space after it. -/
def closeBlock : Scan Unit := do
  forward 1
  let _ ← skipSpace

theorem length_lt_of_readKeyword {policy : IdentifierPolicy} {c d : Cursor}
    {k : Option String × String} (h : readKeyword policy c = .ok k d) :
    d.rest.length < c.rest.length := by
  unfold readKeyword at h
  simp only [bind_eq_ok, current?_eq_ok] at h
  obtain ⟨_, _, h₁, _, _, ⟨rfl, rfl⟩, h⟩ := h
  have h₁ := length_lt_of_readIdentifier h₁
  split at h
  · simp only [bind_eq_ok, pure_eq_ok] at h
    obtain ⟨_, _, h₂, _, _, h₃, _, rfl⟩ := h
    have h₂ := (suffix_of_forward h₂).length_le
    have h₃ := length_lt_of_readIdentifier h₃
    omega
  · rw [pure_eq_ok] at h
    exact h.2 ▸ h₁

theorem suffix_of_readArgument? {settings : ParserSettings} {c d : Cursor} {a : Option String}
    (h : readArgument? settings c = .ok a d) : d.rest <:+ c.rest := by
  unfold readArgument? at h
  split at h
  · simp at h
  · next h₁ =>
    cases h
    exact suffix_of_skipSpace h₁
  · next h₁ =>
    have h₁ := suffix_of_skipSpace h₁
    split at h
    · simp at h
    · cases h
      exact List.suffix_rfl
    · next h₂ =>
      cases h
      exact (suffix_of_readString? h₂).trans h₁

theorem length_lt_of_readHeader {settings : ParserSettings} {c d : Cursor} {header : Header}
    (h : readHeader settings c = .ok header d) : d.rest.length < c.rest.length := by
  unfold readHeader at h
  simp only [bind_eq_ok, get_eq_ok, pure_eq_ok] at h
  obtain ⟨_, _, ⟨rfl, rfl⟩, _, _, h₁, _, _, h₂, _, _, h₃, _, rfl⟩ := h
  have h₁ := length_lt_of_readKeyword h₁
  have h₂ := (suffix_of_readArgument? h₂).length_le
  have h₃ := (suffix_of_skipSpace h₃).length_le
  omega

theorem suffix_of_readTerminator {keyword : String} {c d : Cursor} {b : Bool}
    (h : readTerminator keyword c = .ok b d) : d.rest <:+ c.rest := by
  unfold readTerminator at h
  simp only [bind_eq_ok, current?_eq_ok] at h
  obtain ⟨_, _, ⟨rfl, rfl⟩, h⟩ := h
  split at h
  · simp only [bind_eq_ok, pure_eq_ok] at h
    obtain ⟨_, _, h₁, _, _, h₂, _, rfl⟩ := h
    exact (suffix_of_skipSpace h₂).trans (suffix_of_forward h₁)
  · exact absurd h fail_ne_ok

theorem length_lt_of_readChild {settings : ParserSettings} {block : String} {c d : Cursor}
    {child : Header × Bool} (h : readChild settings block c = .ok child d) :
    d.rest.length < c.rest.length := by
  unfold readChild at h
  simp only [bind_eq_ok, current?_eq_ok] at h
  obtain ⟨_, _, ⟨rfl, rfl⟩, h⟩ := h
  split at h
  · simp only [bind_eq_ok, pure_eq_ok] at h
    obtain ⟨_, _, h₁, _, _, h₂, _, rfl⟩ := h
    have h₁ := length_lt_of_readHeader h₁
    have h₂ := (suffix_of_readTerminator h₂).length_le
    omega
  · exact absurd h fail_ne_ok

theorem length_lt_of_closeBlock {c d : Cursor} {u : Unit} (hc : c.rest ≠ [])
    (h : closeBlock c = .ok u d) : d.rest.length < c.rest.length := by
  unfold closeBlock at h
  simp only [bind_eq_ok, forward_eq_ok, pure_eq_ok] at h
  obtain ⟨_, _, rfl, _, _, h₂, _, rfl⟩ := h
  have h₂ := (suffix_of_skipSpace h₂).length_le
  have := List.length_pos_iff.2 hc
  simp only [Cursor.advanceBy_rest, List.length_drop] at h₂
  omega

/-- A block that is being read. -/
structure OpenBlock where
  id : StatementId
  keyword : String
  deriving Repr, DecidableEq

/-- Reads on until the open blocks, the innermost first, are closed. -/
def readBlocks (settings : ParserSettings) (tree : StatementTree) (blocks : List OpenBlock)
    (c : Cursor) : EStateM.Result SyntaxError Cursor StatementTree :=
  match blocks with
  | [] => .ok tree c
  | block :: outer =>
    if _hc : c.current? = some '\x7d' then
      match _h : closeBlock c with
      | .error e d => .error e d
      | .ok _ d => readBlocks settings tree outer d
    else
      match _h : readChild settings block.keyword c with
      | .error e d => .error e d
      | .ok (header, opens) d =>
        let child : OpenBlock := ⟨tree.size, header.keyword⟩
        let tree := tree.addBelow block.id header.name header.position header.qualifier
          header.argument
        readBlocks settings tree (if opens then child :: block :: outer else block :: outer) d
termination_by c.rest.length
decreasing_by
  · exact length_lt_of_closeBlock (by rintro hr; simp [Cursor.current?, hr] at _hc) _h
  · exact length_lt_of_readChild _h

/-- Reads a statement with all that is below it. Its own id is 0. -/
def readStatement (settings : ParserSettings) : Scan StatementTree := do
  let header ← readHeader settings
  let tree := ({} : StatementTree).add header.name header.position header.qualifier header.argument
  let opens ← readTerminator header.keyword
  readBlocks settings { tree with root := some 0 } (if opens then [⟨0, header.keyword⟩] else [])

end Scan

/-- A statement that was read from the start of a text, and where the reading ended. -/
structure Parsed where
  tree : StatementTree
  stop : Cursor
  deriving Repr, DecidableEq

namespace Parsed

def root (p : Parsed) : Statement :=
  (p.tree.get? 0).getD default

/-- What the log says of a reading. -/
def logLine (p : Parsed) (file : Option String) : LogLine :=
  let source := file.getD "<string>"
  let keyword := Text.quoted p.root.keyword
  ⟨.grammar, s!"Parsed {p.tree.size} statements from {source} (root {keyword})"⟩

def remainder (p : Parsed) : String :=
  String.ofList p.stop.rest

/-- A document is a text in which nothing follows the first statement. -/
def asDocument (p : Parsed) : Except SyntaxError Parsed :=
  if p.stop.atEnd then .ok p else .error ⟨.trailingContent, p.stop.position⟩

end Parsed

/-- What the log says before a file is read. -/
def parsingLine (file : String) : LogLine :=
  ⟨.grammar, s!"Parsing {file}"⟩

def parseStatement (text : String) (settings : ParserSettings) : Except SyntaxError Parsed :=
  let reading : Scan StatementTree := do
    let _ ← Scan.skipSpace
    Scan.readStatement settings
  match reading (Cursor.ofText text) with
  | .ok tree stop => .ok ⟨tree, stop⟩
  | .error e _ => .error e

/-- Reads a text that is one statement. -/
def parseDocument (text : String) (settings : ParserSettings) : Except SyntaxError Parsed :=
  (parseStatement text settings).bind Parsed.asDocument

end YangSchema
