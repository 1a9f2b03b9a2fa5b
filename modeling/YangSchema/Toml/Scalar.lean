import YangSchema.Binary64.Reading
import YangSchema.Text.Numeral
import YangSchema.Toml.Value

/-!
# Keys and scalars of a TOML document

Each reader takes a text and gives what stands at its start and the rest, or nothing.
-/
namespace YangSchema.Toml
open Text

/-- The rest of a text behind what a reader has taken. -/
abbrev Taken (α : Type) := Option (α × List Char)

def isBlank (c : Char) : Bool :=
  c = ' ' || c = '\t'

def isBlankOrLineEnd (c : Char) : Bool :=
  isBlank c || c = '\n'

/-- Control characters other than the tab, which stand in no comment or string. -/
def isControl (c : Char) : Bool :=
  (c.toNat < 32 && c ≠ '\t') || c.toNat = 127

def after? : List Char → List Char → Option (List Char)
  | [], s => some s
  | c :: cs, d :: ds => if c = d then after? cs ds else none
  | _ :: _, [] => none

def isHexDigit (c : Char) : Bool :=
  c.isDigit || ('a' ≤ c && c ≤ 'f') || ('A' ≤ c && c ≤ 'F')

def hexDigitValue (c : Char) : Nat :=
  if c.isDigit then c.toNat - 48 else if c ≤ 'F' then c.toNat - 55 else c.toNat - 87

def valueIn (base : Nat) (digits : List Char) : Nat :=
  digits.foldl (fun n c => base * n + hexDigitValue c) 0

/-- A character by the hexadecimal digits of its code point. -/
def codePoint? (width : Nat) (s : List Char) : Taken Char :=
  let digits := s.take width
  let n := valueIn 16 digits
  if digits.length = width && digits.all isHexDigit && decide n.isValidChar then
    some (Char.ofNat n, s.drop width)
  else none

/-- The character that an escape stands for, from behind its backslash. -/
def escaped? : List Char → Taken Char
  | 'b' :: r => some ('\x08', r)
  | 't' :: r => some ('\t', r)
  | 'n' :: r => some ('\n', r)
  | 'f' :: r => some ('\x0c', r)
  | 'r' :: r => some ('\r', r)
  | '"' :: r => some ('"', r)
  | '\\' :: r => some ('\\', r)
  | 'u' :: r => codePoint? 4 r
  | 'U' :: r => codePoint? 8 r
  | _ => none

/-- What follows a backslash at the end of a line, without the blank space and line ends there. -/
def continued? (s : List Char) : Option (List Char) :=
  match s.dropWhile isBlank with
  | '\n' :: r => some (r.dropWhile isBlankOrLineEnd)
  | _ => none

theorem codePoint?_length {n : Nat} {s r : List Char} {c : Char}
    (h : codePoint? n s = some (c, r)) : r.length ≤ s.length := by
  simp only [codePoint?] at h
  split at h
  · simp only [Option.some.injEq, Prod.mk.injEq] at h
    obtain ⟨-, rfl⟩ := h
    simp
  · simp at h

theorem escaped?_length {s r : List Char} {c : Char} (h : escaped? s = some (c, r)) :
    r.length ≤ s.length := by
  unfold escaped? at h
  split at h <;> simp_all
  · have := codePoint?_length h; omega
  · have := codePoint?_length h; omega

theorem continued?_length {s r : List Char} (h : continued? s = some r) :
    r.length ≤ s.length := by
  unfold continued? at h
  split at h
  · next t ht =>
    simp only [Option.some.injEq] at h
    subst h
    have h1 := (List.dropWhile_suffix (l := s) isBlank).length_le
    have h2 := (List.dropWhile_suffix (l := t) isBlankOrLineEnd).length_le
    simp only [ht, List.length_cons] at h1
    omega
  · simp at h

def cons (c : Char) (t : Taken (List Char)) : Taken (List Char) :=
  t.map fun (text, r) => (c :: text, r)

def basicString? (s : List Char) : Taken (List Char) :=
  match s with
  | [] => none
  | '"' :: r => some ([], r)
  | '\\' :: r =>
    match h : escaped? r with
    | some (c, t) =>
      have := escaped?_length h
      cons c (basicString? t)
    | none => none
  | c :: r => if isControl c then none else cons c (basicString? r)
termination_by s.length

/-- The rest of a string in three double quotes. -/
def longBasicString? (s : List Char) : Taken (List Char) :=
  match s with
  | [] => none
  | '"' :: '"' :: '"' :: r => some ([], r)
  | '\\' :: r =>
    match h : continued? r with
    | some t =>
      have := continued?_length h
      longBasicString? t
    | none =>
      match h' : escaped? r with
      | some (c, t) =>
        have := escaped?_length h'
        cons c (longBasicString? t)
      | none => none
  | c :: r => if isControl c && c ≠ '\n' then none else cons c (longBasicString? r)
termination_by s.length

def literalString? : List Char → Taken (List Char)
  | [] => none
  | '\'' :: r => some ([], r)
  | c :: r => if isControl c then none else cons c (literalString? r)

/-- The rest of a string in three single quotes. -/
def longLiteralString? : List Char → Taken (List Char)
  | [] => none
  | '\'' :: '\'' :: '\'' :: r => some ([], r)
  | c :: r => if isControl c && c ≠ '\n' then none else cons c (longLiteralString? r)

/-- Up to two quotes more belong to a string that has ended with three. -/
def withQuotes (quote : Char) : List Char × List Char → List Char × List Char
  | (text, c :: d :: r) =>
    if c = quote then
      if d = quote then (text ++ [c, d], r) else (text ++ [c], d :: r)
    else (text, c :: d :: r)
  | (text, [c]) => if c = quote then (text ++ [c], []) else (text, [c])
  | (text, []) => (text, [])

/-- A line end right behind the opening quotes is not part of a string. -/
def withoutFirstLineEnd : List Char → List Char
  | '\n' :: r => r
  | s => s

def string? : List Char → Taken (List Char)
  | '"' :: '"' :: '"' :: r => (longBasicString? (withoutFirstLineEnd r)).map (withQuotes '"')
  | '\'' :: '\'' :: '\'' :: r =>
    (longLiteralString? (withoutFirstLineEnd r)).map (withQuotes '\'')
  | '"' :: r => basicString? r
  | '\'' :: r => literalString? r
  | _ => none

def isBareKey (c : Char) : Bool :=
  c.isAlphanum || c = '-' || c = '_'

def keyPart? : List Char → Taken (List Char)
  | '"' :: r => basicString? r
  | '\'' :: r => literalString? r
  | s =>
    let text := s.takeWhile isBareKey
    if text.isEmpty then none else some (text, s.dropWhile isBareKey)

/-- Digits between which single underscores may stand, without them. -/
def moreDigits (isDigit : Char → Bool) : List Char → List Char × List Char
  | '_' :: c :: r =>
    if isDigit c then
      let (ds, t) := moreDigits isDigit r
      (c :: ds, t)
    else ([], '_' :: c :: r)
  | c :: r =>
    if isDigit c then
      let (ds, t) := moreDigits isDigit r
      (c :: ds, t)
    else ([], c :: r)
  | [] => ([], [])

/-- A first digit and more. -/
def digits? (isDigit : Char → Bool) : List Char → Taken (List Char)
  | c :: r =>
    if isDigit c then
      let (ds, t) := moreDigits isDigit r
      some (c :: ds, t)
    else none
  | [] => none

/-- A whole number that names its base. -/
def based? : List Char → Taken Nat
  | '0' :: 'x' :: r => (digits? isHexDigit r).map fun (ds, t) => (valueIn 16 ds, t)
  | '0' :: 'o' :: r =>
    (digits? (fun c => '0' ≤ c && c ≤ '7') r).map fun (ds, t) => (valueIn 8 ds, t)
  | '0' :: 'b' :: r =>
    (digits? (fun c => c = '0' || c = '1') r).map fun (ds, t) => (valueIn 2 ds, t)
  | _ => none

/-- The whole part of a decimal number, which has no zeros in front. -/
def wholePart? : List Char → Taken (List Char)
  | '0' :: r => some (['0'], r)
  | s => digits? Char.isDigit s

def fraction : List Char → List Char × List Char
  | '.' :: r =>
    match digits? Char.isDigit r with
    | some (ds, t) => ('.' :: ds, t)
    | none => ([], '.' :: r)
  | s => ([], s)

/-- A sign at the start of a text, as text. -/
def signText : List Char → List Char × List Char
  | '+' :: r => (['+'], r)
  | '-' :: r => (['-'], r)
  | s => ([], s)

def exponent (s : List Char) : List Char × List Char :=
  match s with
  | c :: r =>
    if c = 'e' || c = 'E' then
      let (sign, u) := signText r
      match digits? Char.isDigit u with
      | some (ds, t) => ('e' :: sign ++ ds, t)
      | none => ([], s)
    else ([], s)
  | [] => ([], [])

/-- A number in decimal digits. It is a whole number if it has neither fraction nor exponent. -/
def decimal? (s : List Char) : Taken (Except Numeral.Fault Value) :=
  let (sign, s) := signText s
  match wholePart? s with
  | none => none
  | some (whole, s) =>
    let (fraction, s) := fraction s
    let (exponent, s) := exponent s
    let more := fraction ++ exponent
    if more.isEmpty then
      some ((Numeral.ofDigits whole).map fun n => .integer (Numeral.signed (sign = ['-']) n), s)
    else
      (Binary64.ofText? (String.ofList (sign ++ whole ++ more))).map fun x => (.ok (.float x), s)

def special? (s : List Char) : Taken Value :=
  let (sign, r) := signText s
  match r with
  | 'i' :: 'n' :: 'f' :: t => some (.float (.infinity (sign = ['-'])), t)
  | 'n' :: 'a' :: 'n' :: t => some (.float .nan, t)
  | _ => none

/-- A number in as many digits as told, up to a bound. -/
def fixed? (width most : Nat) (s : List Char) : Taken Nat :=
  let digits := s.take width
  let n := Numeral.value digits
  if digits.length = width && digits.all Char.isDigit && n ≤ most then some (n, s.drop width)
  else none

/-- The digits behind the point of the seconds; all after the sixth are dropped. -/
def microseconds : List Char → Nat × List Char
  | '.' :: r =>
    let digits := r.takeWhile Char.isDigit
    if digits.isEmpty then (0, '.' :: r)
    else (Numeral.value ((digits.take 6).rightpad 6 '0'), r.dropWhile Char.isDigit)
  | s => (0, s)

def clock? (s : List Char) : Option (Clock × List Char) := do
  let (hour, s) ← fixed? 2 23 s
  let s ← after? [':'] s
  let (minute, s) ← fixed? 2 59 s
  let s ← after? [':'] s
  let (second, s) ← fixed? 2 59 s
  let (microsecond, s) := microseconds s
  return (⟨hour, minute, second, microsecond⟩, s)

def offset? : List Char → Option (Offset × List Char)
  | c :: r => do
    if c = 'Z' || c = 'z' then return (⟨0⟩, r)
    guard (c = '+' || c = '-')
    let (hour, s) ← fixed? 2 23 r
    let s ← after? [':'] s
    let (minute, s) ← fixed? 2 59 s
    return (⟨Numeral.signed (c = '-') (60 * hour + minute)⟩, s)
  | [] => none

/-- A time behind a date. -/
def clockAfterDate? : List Char → Option ((Clock × Option Offset) × List Char)
  | c :: r => do
    guard (c = 'T' || c = 't' || c = ' ')
    let (clock, s) ← clock? r
    match offset? s with
    | some (o, t) => return ((clock, some o), t)
    | none => return ((clock, none), s)
  | [] => none

/-- Year, month and day, which need not be a date. -/
def yearMonthDay? (s : List Char) : Option ((Nat × Nat × Nat) × List Char) := do
  let (year, s) ← fixed? 4 9999 s
  let s ← after? ['-'] s
  let (month, s) ← fixed? 2 12 s
  guard (1 ≤ month)
  let s ← after? ['-'] s
  let (day, s) ← fixed? 2 31 s
  guard (1 ≤ day)
  return ((year, month, day), s)

/-- A date with or without a time; none inside if there is no such day. -/
def moment? (s : List Char) : Option (Option Value × List Char) := do
  let ((year, month, day), s) ← yearMonthDay? s
  let date := (Date.of year month day).toOption
  match clockAfterDate? s with
  | some ((clock, offset), t) => return (date.map fun d => .moment d clock offset, t)
  | none => return (date.map .date, s)

end YangSchema.Toml
