import YangSchema.Binary64.Reading
import YangSchema.Pattern.Basic
import YangSchema.Pattern.Fault
import YangSchema.Unicode.CharacterName
import YangSchema.Unicode.Identifier

/-!
# Reading patterns

A pattern is read token by token, a backslash and the character after it being one token. The groups
that are still open wait on a stack, so that each step of the reading takes at least one token and
their number bounds the whole. What can only be said of the finished tree (`treeFault?`) comes last.
-/
namespace YangSchema.Pattern
open Text

inductive Token where
  | plain (c : Char)
  | escape (c : Char)
  deriving Repr, DecidableEq

def Token.text : Token → String
  | plain c => String.singleton c
  | escape c => String.ofList ['\\', c]

def Token.length : Token → Nat
  | plain _ => 1
  | escape _ => 2

def Token.isLetter : Token → Bool
  | plain c => Unicode.isLetter c
  | escape _ => false

/-- An element of a sequence. A group that captures nothing and changes no flag stays in one piece
as long as it can be repeated. -/
inductive Item where
  | node (p : Pattern)
  | group (body : List Pattern)

def Item.nodes : Item → List Pattern
  | node p => [p]
  | group body => body

inductive GroupKind where
  | whole
  | capture (group : Nat)
  | plain
  | flagged (on off : Flags)
  | atomic
  /-- `outermost` is for a lookbehind that stands in no other. -/
  | look (behind negated outermost : Bool)
  | conditional (group : Nat)

/-- A group that is being read: its finished alternatives and the items of the current one, both
last first. -/
structure Frame where
  kind : GroupKind
  start : Nat
  verbose : Bool
  alternatives : List (List Pattern) := []
  items : List Item := []

structure Reader where
  rest : List Char
  place : Nat
  flags : Flags
  /-- The widths of the groups so far, none for an open one. -/
  widths : List (Option (Nat × Nat))
  names : List (String × Nat)
  /-- The count of groups when the outermost open lookbehind began. -/
  lookbehind : Option Nat
  /-- The first place of each group that a conditional asks for by number. -/
  asked : List (Nat × Nat)
  frame : Frame
  outer : List Frame

abbrev ReadM := StateT Reader (Except Fault)

def ill {α : Type} (reason : Reason) (position : Nat) : ReadM α :=
  throw (.ill reason (some position))

/-- A fault `back` characters before the next token. -/
def illBack {α : Type} (reason : Reason) (back : Nat) : ReadM α := do
  ill reason ((← get).place - back)

def tokenOf : List Char → Option Token
  | [] => none
  | '\\' :: c :: _ => some (.escape c)
  | c :: _ => some (.plain c)

def peek : ReadM (Option Token) :=
  return tokenOf (← get).rest

/-- Goes past `n` characters. A backslash that ends the pattern is a fault as soon as it is next. -/
def skip (n : Nat) : ReadM Unit := do
  let s ← get
  let rest := s.rest.drop n
  if rest = ['\\'] then ill .trailingBackslash (s.place + n)
  set { s with rest, place := s.place + n }

def take : ReadM (Option Token) := do
  let t ← peek
  skip ((t.map Token.length).getD 0)
  return t

def accept (c : Char) : ReadM Bool := do
  if (← peek) = some (.plain c) then
    skip 1
    return true
  else return false

/-- At most `n` of the next characters, as long as they pass a test. -/
def takeWhile (test : Char → Bool) (n : Nat) : ReadM (List Char) := do
  let found := ((← get).rest.take n).takeWhile test
  skip found.length
  return found

/-- The characters up to a terminator, and whether it is there. A terminator after a backslash does
not count. -/
def splitName (terminator : Char) : List Char → List Char × Bool
  | [] => ([], false)
  | ['\\'] => ([], false)
  | '\\' :: c :: r =>
    let (name, found) := splitName terminator r
    ('\\' :: c :: name, found)
  | c :: r =>
    if c = terminator then ([], true)
    else
      let (name, found) := splitName terminator r
      (c :: name, found)

def takeName (terminator : Char) (what : String) : ReadM String := do
  let (name, found) := splitName terminator (← get).rest
  skip name.length
  if found then
    skip 1
    if name.isEmpty then illBack (.missingName what) 1
  else if name.isEmpty then illBack (.missingName what) 0
  else illBack (.unterminatedName terminator) name.length
  return String.ofList name

def isOctal (c : Char) : Bool :=
  '0' ≤ c && c ≤ '7'

def isHex (c : Char) : Bool :=
  c.isDigit || ('a' ≤ c && c ≤ 'f') || ('A' ≤ c && c ≤ 'F')

def hexValue (c : Char) : Nat :=
  if c.isDigit then c.toNat - 48 else c.toLower.toNat - 87

def octalNumber (ds : List Char) : Nat :=
  ds.foldl (fun n c => 8 * n + (c.toNat - 48)) 0

def hexNumber (ds : List Char) : Nat :=
  ds.foldl (fun n c => 16 * n + hexValue c) 0

/-- The characters that a letter or a backslash after a backslash stand for. -/
def controlEscape? : Char → Option Nat
  | 'a' => some 7
  | 'b' => some 8
  | 'f' => some 12
  | 'n' => some 10
  | 'r' => some 13
  | 't' => some 9
  | 'v' => some 11
  | '\\' => some 92
  | _ => none

def categoryEscape? : Char → Option ClassItem
  | 'd' => some (.category .digit false)
  | 'D' => some (.category .digit true)
  | 's' => some (.category .space false)
  | 'S' => some (.category .space true)
  | 'w' => some (.category .word false)
  | 'W' => some (.category .word true)
  | _ => none

def anchorEscape? : Char → Option Anchor
  | 'A' => some .textStart
  | 'b' => some .boundary
  | 'B' => some .nonBoundary
  | 'Z' => some .textEnd
  | _ => none

/-- A code point by a fixed count of hexadecimal digits after an escape letter. -/
def hexEscape (letter : Char) (width : Nat) : ReadM Nat := do
  let ds ← takeWhile isHex width
  let escape := String.ofList ('\\' :: letter :: ds)
  if ds.length ≠ width then illBack (.incompleteEscape escape) (ds.length + 2)
  let n := hexNumber ds
  if 0x110000 ≤ n then illBack (.badEscape escape) (ds.length + 2)
  return n

def namedEscape : ReadM Nat := do
  unless ← accept '\x7b' do illBack .missingBrace 0
  let name ← takeName '\x7d' "character name"
  match Unicode.characterNamed? name with
  | some n => return n
  | none => illBack (.unknownCharacterName name) (name.length + 4)

/-- An octal escape of at most 255, from its digits. -/
def octalEscape (ds : List Char) : ReadM Nat := do
  let n := octalNumber ds
  if 255 < n then illBack (.octalTooLarge (String.ofList ('\\' :: ds))) (ds.length + 1)
  return n

/-- The escapes that are the same inside and outside of sets: by number, by name, and a character
that is no ASCII letter or digit for itself. -/
def commonEscape (c : Char) : ReadM Nat := do
  match c with
  | 'x' => hexEscape c 2
  | 'u' => hexEscape c 4
  | 'U' => hexEscape c 8
  | 'N' => namedEscape
  | _ =>
    if c.isAlphanum then illBack (.badEscape (String.ofList ['\\', c])) 2
    else return c.toNat

def classEscape (c : Char) : ReadM ClassItem := do
  match controlEscape? c, categoryEscape? c with
  | some n, _ => return .literal n
  | none, some item => return item
  | none, none =>
    if isOctal c then
      let ds ← takeWhile isOctal 2
      return .literal (← octalEscape (c :: ds))
    else return .literal (← commonEscape c)

def isClosedGroup (s : Reader) (g : Nat) : Bool :=
  match s.widths[g]? with
  | some (some _) => true
  | _ => false

/-- Inside a lookbehind, a group can be referred to only if it was closed before. -/
def checkLookbehind (g : Nat) : ReadM Unit := do
  let s ← get
  match s.lookbehind with
  | none => return
  | some n =>
    unless isClosedGroup s g do illBack .openGroup 0
    if n ≤ g then illBack .groupOfSameLookbehind 0

def backreferenceTo (s : Reader) (g : Nat) : Pattern :=
  match s.widths[g]? with
  | some (some (least, most)) => .backreference g least most
  | _ => .backreference g 0 0

/-- An escape that starts with a digit other than zero: three octal digits, or a group's number of
one or two digits. -/
def numberEscape (c : Char) : ReadM Pattern := do
  let second ← takeWhile Char.isDigit 1
  let third ← if isOctal c && !second.isEmpty && second.all isOctal then takeWhile isOctal 1
    else pure []
  if !third.isEmpty then return .literal (← octalEscape (c :: second ++ third))
  let ds := c :: second
  let g := Numeral.value ds
  let s ← get
  if g < s.widths.length then
    unless isClosedGroup s g do illBack .openGroup (ds.length + 1)
    checkLookbehind g
    return backreferenceTo s g
  else illBack (.invalidReference g) ds.length

def escapeNode (c : Char) : ReadM Pattern := do
  match anchorEscape? c, categoryEscape? c, controlEscape? c with
  | some a, _, _ => return .anchor a
  | _, some item, _ => return .oneOf false [item]
  | _, _, some n => return .literal n
  | none, none, none =>
    if c = '0' then
      let ds ← takeWhile isOctal 2
      return .literal (octalNumber ds)
    else if c.isDigit then numberEscape c
    else return .literal (← commonEscape c)

def pushItem (i : Item) : ReadM Unit :=
  modify fun s => { s with frame := { s.frame with items := i :: s.frame.items } }

def pushNode (p : Pattern) : ReadM Unit :=
  pushItem (.node p)

def classMember (t : Token) : ReadM ClassItem :=
  match t with
  | .plain c => return .literal c.toNat
  | .escape c => classEscape c

/-- A range of a set, from its two ends and their first tokens. -/
def classRange (first last : Token) (low high : ClassItem) : ReadM ClassItem := do
  let bad : Reason := .badRange first.text last.text
  let back := first.length + 1 + last.length
  match low, high with
  | .literal a, .literal b => if b < a then illBack bad back else return .range a b
  | _, _ => illBack bad back

/-- The members of a set up to its closing bracket, which is a member if it comes first. -/
def classItems (start : Nat) : Nat → List ClassItem → ReadM (List ClassItem)
  | 0, items => return items
  | n + 1, items => do
    let some first ← take | ill .unterminatedSet start
    if first = .plain ']' && !items.isEmpty then return items
    let low ← classMember first
    if ← accept '-' then
      let some last ← take | ill .unterminatedSet start
      if last = .plain ']' then return items ++ [low, .literal '-'.toNat]
      let high ← classMember last
      let range ← classRange first last low high
      classItems start n (items ++ [range])
    else classItems start n (items ++ [low])

/-- A bracketed set, after its opening bracket. A set of one character is a literal. -/
def readSet : ReadM Unit := do
  let s ← get
  let start := s.place - 1
  let negated ← accept '^'
  let items ← classItems start (s.rest.length + 1) []
  match items.eraseDups, negated with
  | [.literal c], false => pushNode (.literal c)
  | [.literal c], true => pushNode (.notLiteral c)
  | unique, _ => pushNode (.oneOf negated unique)

/-- Counts from here on are refused. -/
def repetitionLimit : Nat := 4294967295

def readCount (ds : List Char) : ReadM (Option Nat) := do
  if ds.isEmpty then return none
  match Numeral.ofDigits ds with
  | .error e => throw (.longNumeral e)
  | .ok n => if repetitionLimit ≤ n then throw .tooManyRepetitions else return some n

/-- The counts in braces after an opening brace, or nothing if they are not well-formed; then the
brace stands for itself. -/
def readBraces : ReadM (Option (Nat × Option Nat)) := do
  let s ← get
  if s.rest.head? = some '\x7d' then return none
  let low ← takeWhile Char.isDigit s.rest.length
  let high ← if ← accept ',' then takeWhile Char.isDigit s.rest.length else pure low
  unless ← accept '\x7d' do
    modify fun t => { t with rest := s.rest, place := s.place }
    return none
  let least ← readCount low
  let most ← readCount high
  match most with
  | some n => if n < least.getD 0 then ill .reversedRepeat s.place
  | none => pure ()
  return some (least.getD 0, most)

/-- The mark behind a count that says how eagerly it is used up. -/
def readGreed : ReadM Greed := do
  if ← accept '?' then return .reluctant
  if ← accept '+' then return .possessive
  return .greedy

def repeatLast (start least : Nat) (most : Option Nat) : ReadM Unit := do
  let frame := (← get).frame
  let body ← match frame.items with
    | [] => ill .nothingToRepeat start
    | .group body :: _ => pure (ofList body)
    | .node p :: _ =>
      if p.isAnchor then ill .nothingToRepeat start
      else if p.isRepetition then ill .multipleRepeat start
      else pure p
  let greed ← readGreed
  modify fun s =>
    { s with
      frame :=
        { frame with items := .node (.repetition greed least most body) :: frame.items.tail } }

def openGroup (kind : GroupKind) (start : Nat) (verbose : Bool) : ReadM Unit :=
  modify fun s => { s with frame := { kind, start, verbose }, outer := s.frame :: s.outer }

def openCapture (name : Option String) (start : Nat) : ReadM Unit := do
  let s ← get
  let g := s.widths.length
  match name with
  | none => pure ()
  | some n =>
    match s.names.lookup n with
    | some previous => illBack (.redefinedGroup n g previous) (n.length + 1)
    | none => pure ()
  let names := (name.map fun n => (n, g)).toList ++ s.names
  set { s with widths := s.widths ++ [none], names }
  openGroup (.capture g) start s.frame.verbose

def checkName (name : String) : ReadM Unit := do
  unless Unicode.isName name.toList do illBack (.badGroupName name) (name.length + 1)

/-- Named groups and references to them. -/
def readNamed (start : Nat) : ReadM Unit := do
  if ← accept '<' then
    let name ← takeName '>' "group name"
    checkName name
    openCapture (some name) start
  else if ← accept '=' then
    let name ← takeName ')' "group name"
    checkName name
    let s ← get
    match s.names.lookup name with
    | none => illBack (.unknownGroup name) (name.length + 1)
    | some g =>
      unless isClosedGroup s g do illBack .openGroup (name.length + 1)
      checkLookbehind g
      pushNode (backreferenceTo s g)
  else
    match ← take with
    | none => illBack .unexpectedEnd 0
    | some t => illBack (.unknownExtension ("P" ++ t.text)) (t.length + 2)

/-- Skips a comment with its closing parenthesis, which does not count after a backslash. -/
def skipComment (start : Nat) : ReadM Unit := do
  let (text, found) := splitName ')' (← get).rest
  skip text.length
  if found then skip 1 else ill .unterminatedComment start

def openLook (behind negated : Bool) (start : Nat) : ReadM Unit := do
  let s ← get
  let outermost := behind && s.lookbehind.isNone
  if outermost then set { s with lookbehind := some s.widths.length }
  openGroup (.look behind negated outermost) start s.frame.verbose

/-- The number of a group in a conditional, in digits of any script. -/
def groupNumber? (name : String) : Option Nat := do
  let t ← Binary64.withoutUnderscores? ' ' (Binary64.trimAscii (Binary64.asciiForm name.toList))
  let (negative, ds) := Numeral.splitSign t
  if Numeral.isNumeral ds && ds.length ≤ Numeral.maxDigits then
    let n := Numeral.value ds
    if negative && n ≠ 0 then none else some n
  else none

/-- Numbers of groups stay below this. -/
def groupLimit : Nat := 1073741823

def openConditional (start : Nat) : ReadM Unit := do
  let name ← takeName ')' "group name"
  let back := name.length + 1
  let s ← get
  let g ←
    if Unicode.isName name.toList then
      match s.names.lookup name with
      | some g => pure g
      | none => illBack (.unknownGroup name) back
    else
      match groupNumber? name with
      | none => illBack (.badGroupName name) back
      | some 0 => illBack .groupZero back
      | some g =>
        if groupLimit ≤ g then illBack (.invalidReference g) back
        if (s.asked.lookup g).isNone then
          set { s with asked := s.asked ++ [(g, s.place - back)] }
        pure g
  checkLookbehind g
  openGroup (.conditional g) start (← get).frame.verbose

/-- The flag of a letter; `none` inside is the one that text patterns do not allow. -/
def flagOf? : Token → Option (Option Flags)
  | .plain 'i' => some (some { ignoreCase := true })
  | .plain 'L' => some none
  | .plain 'm' => some (some { multiLine := true })
  | .plain 's' => some (some { dotAll := true })
  | .plain 'x' => some (some { verbose := true })
  | .plain 'a' => some (some { ascii := true })
  | .plain 't' => some (some { template := true })
  | .plain 'u' => some (some { unicode := true })
  | _ => none

def illFlag {α : Type} (t : Token) (otherwise : Reason) : ReadM α :=
  illBack (if t.isLetter then .unknownFlag else otherwise) t.length

/-- The flags to turn on, from the first letter, and the token after them. -/
def flagsOn : Nat → Token → Flags → ReadM (Flags × Token)
  | 0, t, on => return (on, t)
  | n + 1, t, on => do
    match flagOf? t with
    | none => illFlag t .missingFlagsEnd
    | some none => illBack .localeFlag 0
    | some (some flag) =>
      let on := on.union flag
      if flag.hasAlphabet && on.ascii && on.unicode then illBack .alphabetConflict 0
      let some next ← take | illBack .missingFlagsEnd 0
      if next = .plain ')' || next = .plain '-' || next = .plain ':' then return (on, next)
      flagsOn n next on

/-- The flags to turn off, from the first letter up to a colon. -/
def flagsOff : Nat → Token → Flags → ReadM Flags
  | 0, _, off => return off
  | n + 1, t, off => do
    match flagOf? t with
    | none => illFlag t .missingColon
    | some none => illBack .alphabetOff 0
    | some (some flag) =>
      if flag.hasAlphabet then illBack .alphabetOff 0
      let off := off.union flag
      let some next ← take | illBack .missingColon 0
      if next = .plain ':' then return off
      flagsOff n next off

/-- Flags for the whole pattern or for a group, from their first token. -/
def readFlags (start : Nat) (first : Token) : ReadM Unit := do
  let bound := (← get).rest.length + 2
  let (on, stop) ← if first = .plain '-' then pure ({}, first) else flagsOn bound first {}
  let s ← get
  if stop = .plain ')' then
    match s.frame.kind, s.frame.alternatives, s.frame.items with
    | .whole, [], [] =>
      let flags := s.flags.union on
      set { s with flags, frame := { s.frame with verbose := flags.verbose } }
    | _, _, _ => ill .lateGlobalFlags start
  else
    if on.template then illBack .globalFlagOn 1
    let off ←
      if stop = .plain '-' then
        let some next ← take | illBack .missingFlag 0
        if (flagOf? next).isNone then illFlag next .missingFlag
        flagsOff bound next {}
      else pure {}
    if off.template then illBack .globalFlagOff 1
    let both := on.without (on.without off)
    unless both.isEmpty do illBack .flagOnAndOff 1
    openGroup (.flagged on off) start ((s.frame.verbose || on.verbose) && !off.verbose)

def readParenthesis : ReadM Unit := do
  let start := (← get).place - 1
  let verbose := (← get).frame.verbose
  if ← accept '?' then
    let some t ← take | illBack .unexpectedEnd 0
    match t with
    | .plain 'P' => readNamed start
    | .plain ':' => openGroup .plain start verbose
    | .plain '#' => skipComment start
    | .plain '=' => openLook false false start
    | .plain '!' => openLook false true start
    | .plain '<' =>
      let some d ← take | illBack .unexpectedEnd 0
      if d = .plain '=' then openLook true false start
      else if d = .plain '!' then openLook true true start
      else illBack (.unknownExtension ("<" ++ d.text)) (d.length + 2)
    | .plain '(' => openConditional start
    | .plain '>' => openGroup .atomic start verbose
    | _ =>
      if (flagOf? t).isSome || t = .plain '-' then readFlags start t
      else illBack (.unknownExtension t.text) (t.length + 1)
  else openCapture none start

def Frame.current (f : Frame) : List Pattern :=
  f.items.reverse.flatMap Item.nodes

def Frame.finished (f : Frame) : List (List Pattern) :=
  (f.current :: f.alternatives).reverse

/-- The item that a closed group becomes. -/
def closedItem (f : Frame) : ReadM Item := do
  let nodes := join f.finished
  let body := ofList nodes
  match f.kind with
  | .whole | .plain => return .group nodes
  | .capture g =>
    modify fun s => { s with widths := s.widths.set g (some body.width) }
    return .node (.capture g body)
  | .flagged on off => return .node (.flagged on off body)
  | .atomic => return .node (.atomic body)
  | .look behind negated outermost =>
    if outermost then modify fun s => { s with lookbehind := none }
    return .node (.look behind negated body)
  | .conditional g =>
    match f.finished with
    | [yes, no] => return .node (.conditional g (ofList yes) (ofList no))
    | _ => return .node (.conditional g (ofList f.current) .empty)

def closeGroup : ReadM Unit := do
  let s ← get
  match s.outer with
  | [] =>
    if s.flags.ascii && s.flags.unicode then throw .alphabetsMixed
    illBack .unbalanced 0
  | frame :: outer =>
    let item ← closedItem s.frame
    modify fun t => { t with frame, outer }
    skip 1
    pushItem item

def nextAlternative : ReadM Unit := do
  let s ← get
  let f := s.frame
  match f.kind, f.alternatives with
  | .conditional _, _ :: _ => illBack .tooManyBranches 0
  | _, _ => pure ()
  let verbose := match f.kind with
    | .whole => s.flags.verbose
    | _ => f.verbose
  skip 1
  modify fun t =>
    { t with
      frame := { f with verbose, alternatives := f.current :: f.alternatives, items := [] } }

/-- Skips the comment of a verbose pattern with its line feed; one after a backslash does not end
it. -/
def skipLineComment : ReadM Unit := do
  let (text, found) := splitName '\n' (← get).rest
  skip text.length
  if found then skip 1

/-- Space, tab, line feed, carriage return, vertical tab and form feed. -/
def isLayout (c : Char) : Bool :=
  c = ' ' || (9 ≤ c.toNat && c.toNat ≤ 13)

/-- Reads one item, quantifier or opening parenthesis, whose first token is taken. -/
def readPlain (c : Char) : ReadM Unit := do
  let s ← get
  let start := s.place - 1
  if s.frame.verbose && isLayout c then return
  if s.frame.verbose && c = '#' then skipLineComment
  else match c with
    | '[' => readSet
    | '?' => repeatLast start 0 (some 1)
    | '*' => repeatLast start 0 none
    | '+' => repeatLast start 1 none
    | '\x7b' =>
      match ← readBraces with
      | some (least, most) => repeatLast start least most
      | none => pushNode (.literal c.toNat)
    | '.' => pushNode .any
    | '(' => readParenthesis
    | '^' => pushNode (.anchor .lineStart)
    | '$' => pushNode (.anchor .lineEnd)
    | _ => pushNode (.literal c.toNat)

/-- Reads on; `false` at the end of the pattern. -/
def readStep : ReadM Bool := do
  match ← peek with
  | none => return false
  | some (.plain '|') => nextAlternative
  | some (.plain ')') => closeGroup
  | some (.plain c) =>
    skip 1
    readPlain c
  | some (.escape c) =>
    skip 2
    pushNode (← escapeNode c)
  return true

def readSteps : Nat → ReadM Unit
  | 0 => return
  | n + 1 => do if ← readStep then readSteps n

/-- The first group that is asked for and does not exist. -/
def missingGroup? (s : Reader) : Option (Nat × Nat) :=
  s.asked.find? fun (g, _) => s.widths.length ≤ g

/-- The name of a repetition in the refusal of templates. -/
def Greed.operator : Greed → String
  | .greedy => "MAX_REPEAT"
  | .reluctant => "MIN_REPEAT"
  | .possessive => "POSSESSIVE_REPEAT"

/-- Templates have no repetition, and a lookbehind needs one width. The first of these in the order
of the text. -/
def treeFault? (flags : Flags) : Pattern → Option Reason
  | .sequence p q | .alternative p q | .conditional _ p q =>
    match treeFault? flags p with
    | some r => some r
    | none => treeFault? flags q
  | .capture _ p | .flagged _ _ p | .atomic p => treeFault? flags p
  | .look behind _ p =>
    if behind && p.width.1 ≠ p.width.2 then some .variableLookbehind
    else treeFault? flags p
  | .repetition greed _ _ p =>
    if flags.template then some (.templateRepetition greed.operator) else treeFault? flags p
  | _ => none

/-- Lookbehinds are refused from this width on. -/
def lookbehindLimit : Nat := Nat.pow 2 31

def hasWideLookbehind : Pattern → Bool
  | .sequence p q | .alternative p q | .conditional _ p q =>
    hasWideLookbehind p || hasWideLookbehind q
  | .capture _ p | .flagged _ _ p | .atomic p | .repetition _ _ _ p => hasWideLookbehind p
  | .look behind _ p => (behind && lookbehindLimit ≤ p.width.1) || hasWideLookbehind p
  | _ => false

def readAll : ReadM (Flags × Pattern) := do
  skip 0
  readSteps ((← get).rest.length + 1)
  let s ← get
  unless s.outer.isEmpty do ill .unterminatedGroup s.frame.start
  if s.flags.ascii && s.flags.unicode then throw .alphabetsMixed
  match missingGroup? s with
  | some (g, position) => ill (.invalidReference g) position
  | none => pure ()
  let flags := if s.flags.ascii then s.flags else { s.flags with unicode := true }
  let tree := ofList (join s.frame.finished)
  match treeFault? flags tree with
  | some reason => throw (.ill reason none)
  | none =>
    if hasWideLookbehind tree then throw .lookbehindTooWide
    return (flags, tree)

def parse (text : String) : Except Fault (Flags × Pattern) :=
  readAll.run'
    { rest := text.toList, place := 0, flags := {}, widths := [none], names := []
      lookbehind := none, asked := [], frame := { kind := .whole, start := 0, verbose := false }
      outer := [] }

/-- Reads a pattern where it may nest too deeply to be read. -/
def read (runtime : Runtime) (text : String) : Except Fault (Flags × Pattern) :=
  if runtime.refusesPattern text then .error .tooDeep else parse text

theorem parse_of_read {runtime : Runtime} {text : String} {p : Flags × Pattern}
    (h : read runtime text = .ok p) : parse text = .ok p := by
  unfold read at h
  split at h
  · cases h
  · exact h

end YangSchema.Pattern
