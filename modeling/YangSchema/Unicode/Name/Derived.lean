import YangSchema.Unicode.Bounds

/-!
# Names by rule

Ideographs and some other characters are named by their code points, and the syllables of Hangul by
the letters they consist of.
-/
namespace YangSchema.Unicode

/-- The number that hexadecimal digits with capital letters stand for. -/
def capitalHex? (s : List Char) : Option Nat :=
  s.foldlM (fun n c =>
    if c.isDigit then some (16 * n + (c.toNat - '0'.toNat))
    else if 'A' ≤ c && c ≤ 'F' then some (16 * n + (c.toNat - 'A'.toNat + 10))
    else none) 0

/-- The character of a set whose name is a word and four or five digits of its code point. -/
def namedByDigits? (start : String) (bounds : List Nat) (name : List Char) : Option Nat :=
  let digits := name.drop start.length
  if start.toList.isPrefixOf name && (digits.length = 4 || digits.length = 5) then
    (capitalHex? digits).filter (inBounds bounds)
  else none

def unifiedBounds : List Nat :=
  [0x3400, 0x4DC0, 0x4E00, 0xA000, 0x20000, 0x2A6E0, 0x2A700, 0x2B739, 0x2B740, 0x2B81E, 0x2B820,
   0x2CEA2, 0x2CEB0, 0x2EBE1, 0x30000, 0x3134B]

/-- The unified ideograph with a name. A fifth digit may be a zero in front. -/
def unifiedIdeograph? (name : List Char) : Option Nat :=
  namedByDigits? "CJK UNIFIED IDEOGRAPH-" unifiedBounds name

/-- Words that come before a code point in a name, and the sets of the characters named so. -/
def codedNames : List (String × List Nat) :=
  [("CJK COMPATIBILITY IDEOGRAPH-", [0xF900, 0xFA6E, 0xFA70, 0xFADA, 0x2F800, 0x2FA1E]),
   ("KHITAN SMALL SCRIPT CHARACTER-", [0x18B00, 0x18CD6]),
   ("NUSHU CHARACTER-", [0x1B170, 0x1B2FC])]

/-- The character whose name ends in its code point, with no zero in front. -/
def coded? (name : List Char) : Option Nat :=
  codedNames.findSome? fun (start, bounds) =>
    if name[start.length]? = some '0' then none else namedByDigits? start bounds name

def leadingConsonants : List String :=
  ["G", "GG", "N", "D", "DD", "R", "M", "B", "BB", "S", "SS", "", "J", "JJ", "C", "K", "T", "P",
   "H"]

def vowels : List String :=
  ["A", "AE", "YA", "YAE", "EO", "E", "YEO", "YE", "O", "WA", "WAE", "OE", "YO", "U", "WEO", "WE",
   "WI", "YU", "EU", "YI", "I"]

def trailingConsonants : List String :=
  ["", "G", "GG", "GS", "N", "NJ", "NH", "D", "L", "LG", "LM", "LB", "LS", "LT", "LP", "LH", "M",
   "B", "BS", "S", "SS", "NG", "J", "C", "K", "T", "P", "H"]

/-- The longest item of a table that starts a text: its number, and the text behind it. -/
def longestStart? (table : List String) (s : List Char) : Option (Nat × List Char) :=
  let longer (best : Option (String × Nat)) (item : String × Nat) : Option (String × Nat) :=
    if !item.1.toList.isPrefixOf s || best.any (item.1.length ≤ ·.1.length) then best else some item
  (table.zipIdx.foldl longer none).map fun (item, i) => (i, s.drop item.length)

/-- The syllable whose name spells its consonants and its vowel. -/
def syllable? (name : List Char) : Option Nat :=
  let start := "HANGUL SYLLABLE "
  if start.toList.isPrefixOf name then do
    let (l, r) ← longestStart? leadingConsonants (name.drop start.length)
    let (v, r) ← longestStart? vowels r
    let (t, r) ← longestStart? trailingConsonants r
    if r.isEmpty then
      some (0xAC00 + (l * vowels.length + v) * trailingConsonants.length + t)
    else none
  else none

end YangSchema.Unicode
