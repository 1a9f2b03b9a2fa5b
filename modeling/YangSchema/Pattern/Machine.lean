import YangSchema.Pattern.Program

/-!
# Matching

A machine that runs the program of a pattern over a text. It reads steps until one fails, and goes
back to the last choice that is still open. Lookarounds, atomic groups and rounds of possessive
repetitions are enclosed: what they leave open is given up when they end.

The place that was noted last, and marks that were set, outlive a failure unless the choice that is
taken up again restores them. A choice restores the number of marks, and inside of loops also the
marks themselves.
-/
namespace YangSchema.Pattern

/-- What outlives failures: the place noted last, and the marks. A mark may be unset below others.
-/
structure Trace where
  noted : Nat := 0
  marks : Array (Option Nat) := #[]
  deriving Repr, DecidableEq

namespace Trace

def mark (t : Trace) (n place : Nat) : Trace :=
  if n < t.marks.size then { t with marks := t.marks.setIfInBounds n (some place) }
  else { t with marks := (t.marks ++ Array.replicate (n - t.marks.size) none).push (some place) }

/-- The piece of text that a group holds, if it has been closed after it was opened. -/
def captured? (t : Trace) (group : Nat) : Option (Nat × Nat) :=
  match t.marks[2 * group]?, t.marks[2 * group + 1]? with
  | some (some a), some (some b) => if a ≤ b then some (a, b) else none
  | _, _ => none

end Trace

/-- What a choice restores: the number of marks, and perhaps the marks. -/
structure Saved where
  size : Nat
  marks : Option (Array (Option Nat))

def Trace.save (t : Trace) (withMarks : Bool) : Saved :=
  ⟨t.marks.size, if withMarks then some t.marks else none⟩

def Trace.restore (t : Trace) (s : Saved) : Trace :=
  { t with marks := s.marks.getD (t.marks.take s.size) }

/-- A repetition whose rounds are being read. -/
structure Loop where
  reluctant : Bool
  least : Nat
  most : Option Nat
  body : List Step
  next : List Step
  /-- The rounds that have been begun. -/
  count : Nat := 0
  /-- Where the last round beyond the least count began. -/
  last : Option Nat := none

structure Cursor where
  place : Nat
  next : List Step
  loops : List Loop

inductive Choice where
  /-- No choice, but the noted place is taken back. -/
  | rewind (place : Nat)
  | row (saved : Saved) (rows : List (List Step)) (cursor : Cursor)
  /-- A run goes on at one of `places` places. -/
  | fewer (saved : Saved) (places : Nat) (cursor : Cursor)
  /-- A run takes one more character, up to `spare` more. -/
  | more (saved : Saved) (t : CharTest) (spare : Option Nat) (cursor : Cursor)
  /-- A greedy loop ends. -/
  | leave (saved : Saved) (loop : Loop) (place : Nat) (outer : List Loop)
  /-- A reluctant loop takes one more round. -/
  | enter (saved : Saved) (loop : Loop) (place : Nat) (outer : List Loop)

/-- A possessive repetition whose rounds are being read. -/
structure Rounds where
  least : Nat
  most : Option Nat
  body : List Step
  /-- Where the first round began, and what follows the last. -/
  start : Cursor
  count : Nat := 0
  last : Option Nat := none

/-- What is enclosed, and how reading goes on behind it. -/
inductive Enclosure where
  | atomic (behind : Cursor)
  | look (behind : Cursor)
  | lookNot (saved : Saved) (behind : Cursor)
  | round (saved : Option Saved) (r : Rounds)

inductive Status where
  | reading (c : Cursor)
  | failing
  | ended (found : Bool)

structure Machine where
  /-- Whether a possessive repetition ends where its last round began. -/
  rewindsRounds : Bool := true
  status : Status
  trace : Trace := {}
  /-- The open choices of the innermost enclosure, and each enclosure with the choices around it. -/
  choices : List Choice := []
  enclosures : List (Enclosure × List Choice) := []

def isWordAt (ascii : Bool) (text : Array Char) (i : Nat) : Bool :=
  match text[i]? with
  | some c => Category.word.holds ascii c
  | none => false

def wordBefore (ascii : Bool) (text : Array Char) (i : Nat) : Bool :=
  0 < i && isWordAt ascii text (i - 1)

/-- A boundary lies between a word character and none; an empty text has none, nor an inner place.
-/
def Anchor.holds (flags : Flags) (text : Array Char) (i : Nat) : Anchor → Bool
  | .textStart => i = 0
  | .textEnd => i = text.size
  | .lineStart => i = 0 || (flags.multiLine && text[i - 1]? = some '\n')
  | .lineEnd =>
    i = text.size || (text[i]? = some '\n' && (flags.multiLine || i + 1 = text.size))
  | .boundary =>
    text.size ≠ 0 && wordBefore flags.ascii text i != isWordAt flags.ascii text i
  | .nonBoundary =>
    text.size ≠ 0 && wordBefore flags.ascii text i == isWordAt flags.ascii text i

def holdsAt (text : Array Char) (t : CharTest) (i : Nat) : Bool :=
  match text[i]? with
  | some c => t.holds c
  | none => false

/-- How many characters from a place on pass a test, up to a limit. -/
def runLength (text : Array Char) (t : CharTest) (i : Nat) : Nat → Nat
  | 0 => 0
  | n + 1 => if holdsAt text t i then runLength text t (i + 1) n + 1 else 0

/-- Whether the piece of text from `a` on occurs again at `i`, `n` characters long. -/
def repeats (fold : Fold) (text : Array Char) (a i : Nat) : Nat → Bool
  | 0 => true
  | n + 1 =>
    match text[a]?, text[i]? with
    | some x, some y =>
      fold.apply x.toNat == fold.apply y.toNat && repeats fold text (a + 1) (i + 1) n
    | _, _ => false

/-- A test that is tried on its own before a row is begun. -/
def guard? : List Step → Option CharTest
  | .one (.literal .exact false c) :: _ => some (.literal .exact false c)
  | .one (.oneOf .exact negated members) :: _ => some (.oneOf .exact negated members)
  | _ => none

def literal? : List Step → Option CharTest
  | .one (.literal .exact false c) :: _ => some (.literal .exact false c)
  | _ => none

/-- Whether a run of a test notes each place that it comes to. -/
def CharTest.notesPlaces : CharTest → Bool
  | oneOf f _ _ => f ≠ .exact
  | _ => false

def allowsMore (most : Option Nat) (count : Nat) : Bool :=
  most.all (count < ·)

namespace Machine

def goOn (m : Machine) (c : Cursor) : Machine :=
  { m with status := .reading c }

def fail (m : Machine) : Machine :=
  { m with status := .failing }

def note (m : Machine) (place : Nat) : Machine :=
  { m with trace := { m.trace with noted := place } }

def restore (m : Machine) (s : Saved) : Machine :=
  { m with trace := m.trace.restore s }

def offer (m : Machine) (c : Choice) : Machine :=
  { m with choices := c :: m.choices }

def enclose (m : Machine) (e : Enclosure) : Machine :=
  { m with choices := [], enclosures := (e, m.choices) :: m.enclosures }

/-- Begins a row, and offers those behind it. -/
def takeRow (text : Array Char) (m : Machine) (saved : Saved) (c : Cursor) :
    List (List Step) → Machine
  | [] => m.fail
  | r :: rs =>
    match guard? r with
    | some t =>
      if holdsAt text t c.place then
        ((m.note c.place).offer (.row saved rs c)).goOn { c with next := r ++ c.next }
      else takeRow text m saved c rs
    | none => ((m.note c.place).offer (.row saved rs c)).goOn { c with next := r ++ c.next }

/-- Goes on behind a run, at `n` places at most: from its end, and then one character less each
time. Where a literal follows, the run gives back at once what stands between. -/
def takeFewer (text : Array Char) (m : Machine) (saved : Saved) (c : Cursor) : Nat → Machine
  | 0 => m.fail
  | n + 1 =>
    let shorter := { c with place := c.place - 1 }
    if (literal? c.next).all (holdsAt text · c.place) then
      ((m.note c.place).offer (.fewer saved n shorter)).goOn c
    else takeFewer text m saved shorter n

/-- Notes the place where a run ends, as far as its test does. -/
def noteRun (m : Machine) (t : CharTest) (place count : Nat) : Machine :=
  m.note (if t.notesPlaces then place + count else place)

/-- A run of a test, as long as it can be or as short as it may be. -/
def beginRun (text : Array Char) (m : Machine) (greed : Greed) (least : Nat) (most : Option Nat)
    (t : CharTest) (c : Cursor) : Machine :=
  let left := text.size - c.place
  if left < least then m.fail
  else
    let saved := m.trace.save (!c.loops.isEmpty)
    match greed with
    | .reluctant =>
      let n := runLength text t c.place least
      let m := if least = 0 then m.note c.place else m.noteRun t c.place n
      if n < least then m.fail
      else
        let c := { c with place := c.place + n }
        ((m.note c.place).offer (.more saved t (most.map (· - least)) c)).goOn c
    | _ =>
      let n := runLength text t c.place (min left (most.getD left))
      let m := m.noteRun t c.place n
      let c := { c with place := c.place + n }
      if n < least then m.fail
      else if greed = .possessive then m.goOn c
      else takeFewer text m saved c (n - least + 1)

def beginRound (m : Machine) (l : Loop) (place : Nat) (last : Option Nat) (outer : List Loop) :
    Machine :=
  m.goOn ⟨place, l.body, { l with count := l.count + 1, last } :: outer⟩

def leaveLoop (m : Machine) (l : Loop) (place : Nat) (outer : List Loop) : Machine :=
  m.goOn ⟨place, l.next, outer⟩

/-- Decides at the start of a loop and after each round. A round beyond the least count that moved
nowhere is the last. -/
def continueLoop (m : Machine) (l : Loop) (place : Nat) (outer : List Loop) : Machine :=
  let m := m.note place
  if l.count < l.least then (m.offer (.rewind place)).beginRound l place l.last outer
  else if l.reluctant then
    (m.offer (.enter (m.trace.save (!outer.isEmpty)) l place outer)).leaveLoop l place outer
  else if allowsMore l.most l.count && l.last ≠ some place then
    (m.offer (.leave (m.trace.save true) l place outer)).beginRound l place (some place) outer
  else (m.offer (.rewind place)).leaveLoop l place outer

/-- Decides before each round of a possessive repetition. -/
def continueRounds (m : Machine) (r : Rounds) : Machine :=
  let place := m.trace.noted
  let entered (saved : Option Saved) (last : Option Nat) : Machine :=
    (m.enclose (.round saved { r with last })).goOn { r.start with place, next := r.body }
  if r.count < r.least then entered none r.last
  else if allowsMore r.most r.count && r.last ≠ some place then
    entered (some (m.trace.save true)) (some place)
  else m.goOn { r.start with place }

def read (text : Array Char) (m : Machine) (c : Cursor) (s : Step) : Machine :=
  match s with
  | .one t => if holdsAt text t c.place then m.goOn { c with place := c.place + 1 } else m.fail
  | .place a flags => if a.holds flags text c.place then m.goOn c else m.fail
  | .mark n => { m with trace := m.trace.mark n c.place }.goOn c
  | .again g fold =>
    match m.trace.captured? g with
    | some (a, b) =>
      if repeats fold text a c.place (b - a) then m.goOn { c with place := c.place + (b - a) }
      else m.fail
    | none => m.fail
  | .conditional g yes no =>
    let row := if (m.trace.captured? g).isSome then yes else no
    m.goOn { c with next := row ++ c.next }
  | .choice rows => takeRow text m (m.trace.save (!c.loops.isEmpty)) c rows
  | .run greed least most t => m.beginRun text greed least most t c
  | .loop reluctant least most body =>
    m.continueLoop { reluctant, least, most, body, next := c.next } c.place c.loops
  | .endRound =>
    match c.loops with
    | [] => m.fail
    | l :: outer => m.continueLoop l c.place outer
  | .possessive least most body => (m.note c.place).continueRounds { least, most, body, start := c }
  | .atomic body => ((m.note c.place).enclose (.atomic c)).goOn { c with next := body }
  | .look negated back body =>
    if back ≤ c.place then
      let place := c.place - back
      let e : Enclosure :=
        if negated then .lookNot (m.trace.save (!c.loops.isEmpty)) c else .look c
      ((m.note place).enclose e).goOn { c with place, next := body }
    else if negated then m.goOn c
    else m.fail
  | .join => m.goOn c

/-- Ends the innermost enclosure, which has matched. -/
def close (m : Machine) : Enclosure → Machine
  | .atomic behind => m.goOn { behind with place := m.trace.noted }
  | .look behind => m.goOn behind
  | .lookNot _ _ => m.fail
  | .round _ r => m.continueRounds { r with count := r.count + 1 }

/-- Ends the innermost enclosure, which has not matched. -/
def abandon (m : Machine) : Enclosure → Machine
  | .atomic behind => (m.note behind.place).fail
  | .look _ => m.fail
  | .lookNot saved behind => (m.restore saved).goOn behind
  | .round none r => (m.note r.start.place).fail
  | .round (some saved) r =>
    let place := if m.rewindsRounds then r.last.getD r.start.place else m.trace.noted
    ((m.restore saved).note place).goOn { r.start with place }

/-- The program or what is enclosed has been read to its end. The whole has to end with the text. -/
def accept (text : Array Char) (m : Machine) (place : Nat) : Machine :=
  match m.enclosures with
  | [] => if place = text.size then { m with status := .ended true } else m.fail
  | (e, choices) :: enclosures => { m.note place with choices, enclosures }.close e

def take (text : Array Char) (m : Machine) : Choice → Machine
  | .rewind place => (m.note place).fail
  | .row saved rows c => takeRow text (m.restore saved) saved c rows
  | .fewer saved n c => takeFewer text (m.restore saved) saved c n
  | .more saved t spare c =>
    let m := (m.restore saved).note c.place
    if holdsAt text t c.place then
      let m := m.noteRun t c.place 1
      match spare with
      | some 0 => m.fail
      | _ =>
        let c := { c with place := c.place + 1 }
        ((m.note c.place).offer (.more saved t (spare.map (· - 1)) c)).goOn c
    else m.fail
  | .leave saved l place outer =>
    (((m.restore saved).note place).offer (.rewind place)).leaveLoop l place outer
  | .enter saved l place outer =>
    let m := (m.restore saved).note place
    if allowsMore l.most l.count && l.last ≠ some place then
      (m.offer (.rewind place)).beginRound l place (some place) outer
    else m.fail

def goBack (text : Array Char) (m : Machine) : Machine :=
  match m.choices with
  | c :: choices => take text { m with choices } c
  | [] =>
    match m.enclosures with
    | [] => { m with status := .ended false }
    | (e, choices) :: enclosures => { m with choices, enclosures }.abandon e

def step (text : Array Char) (m : Machine) : Machine :=
  match m.status with
  | .ended _ => m
  | .failing => m.goBack text
  | .reading c =>
    match c.next with
    | [] => m.accept text c.place
    | s :: next => m.read text { c with next } s

/-- Runs a machine for a number of steps at most, and tells the trace of a match. -/
def run (text : Array Char) : Nat → Machine → Option Trace
  | 0, _ => none
  | n + 1, m =>
    match m.status with
    | .ended found => if found then some m.trace else none
    | _ => run text n (step text m)

end Machine

/-- More steps than any search takes. -/
def stepLimit : Nat := Nat.pow 2 62

/-- A match in which a group ends before it starts. -/
structure InvertedGroup where
  group : Nat
  deriving Repr, DecidableEq

def InvertedGroup.message (f : InvertedGroup) : String :=
  s!"group {f.group} ends before it starts"

def Trace.inverted? (t : Trace) : Option InvertedGroup :=
  ((List.range (t.marks.size / 2)).find? fun g =>
    match t.marks[2 * g]?, t.marks[2 * g + 1]? with
    | some (some a), some (some b) => b < a
    | _, _ => false).map fun g => ⟨g + 1⟩

/-- Whether a pattern matches a whole text, which cannot be told if a group is inverted. -/
def matchesAll (p : Pattern) (rewindsRounds : Bool) (flags : Flags) (text : String) :
    Except InvertedGroup Bool :=
  let chars := text.toList.toArray
  if chars.size < p.width.1 then .ok false
  else
    let start : Machine := { rewindsRounds, status := .reading ⟨0, program flags p, []⟩ }
    match Machine.run chars stepLimit start with
    | none => .ok false
    | some t =>
      match t.inverted? with
      | none => .ok true
      | some f => .error f

end YangSchema.Pattern
