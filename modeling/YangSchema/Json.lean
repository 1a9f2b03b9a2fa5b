/-!
# JSON values and their text

Text is written indented by two spaces. Only quotes, backslashes and control characters are escaped
in strings; everything else stands for itself.
-/
namespace YangSchema

inductive JsonValue where
  | null
  | bool (b : Bool)
  | int (n : Int)
  | string (s : String)
  | array (items : List JsonValue)
  | object (members : List (String × JsonValue))
  deriving Inhabited

namespace JsonValue

def hexDigit (n : Nat) : Char :=
  if n < 10 then Char.ofNat (48 + n) else Char.ofNat (87 + n)

def escapeChar (c : Char) : List Char :=
  if c = '"' then ['\\', '"']
  else if c = '\\' then ['\\', '\\']
  else if c = '\n' then ['\\', 'n']
  else if c = '\r' then ['\\', 'r']
  else if c = '\t' then ['\\', 't']
  else if c.toNat = 8 then ['\\', 'b']
  else if c.toNat = 12 then ['\\', 'f']
  else if c.toNat < 32 then ['\\', 'u', '0', '0', hexDigit (c.toNat / 16), hexDigit (c.toNat % 16)]
  else [c]

def stringText (s : String) : List Char :=
  '"' :: s.toList.flatMap escapeChar ++ ['"']

def newLine (depth : Nat) : List Char :=
  '\n' :: List.replicate (2 * depth) ' '

mutual

def chars (depth : Nat) : JsonValue → List Char
  | null => ['n', 'u', 'l', 'l']
  | bool true => ['t', 'r', 'u', 'e']
  | bool false => ['f', 'a', 'l', 's', 'e']
  | int n => (toString n).toList
  | string s => stringText s
  | array [] => ['[', ']']
  | array (v :: vs) =>
    '[' :: newLine (depth + 1) ++ chars (depth + 1) v ++ charsAfter (depth + 1) vs ++
      newLine depth ++ [']']
  | object [] => ['\x7b', '\x7d']
  | object ((k, v) :: ms) =>
    '\x7b' :: newLine (depth + 1) ++ stringText k ++ ':' :: ' ' :: chars (depth + 1) v ++
      membersAfter (depth + 1) ms ++ newLine depth ++ ['\x7d']

/-- Items after the first. -/
def charsAfter (depth : Nat) : List JsonValue → List Char
  | [] => []
  | v :: vs => ',' :: newLine depth ++ chars depth v ++ charsAfter depth vs

/-- Members after the first. -/
def membersAfter (depth : Nat) : List (String × JsonValue) → List Char
  | [] => []
  | (k, v) :: ms =>
    ',' :: newLine depth ++ stringText k ++ ':' :: ' ' :: chars depth v ++ membersAfter depth ms

end

def text (v : JsonValue) : String :=
  String.ofList (chars 0 v)

def ofOption (s : Option String) : JsonValue :=
  match s with
  | some s => string s
  | none => null

end JsonValue
end YangSchema
