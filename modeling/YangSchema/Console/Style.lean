import YangSchema.Text.Numeral
import YangSchema.Unicode.Blank
import YangSchema.Unicode.Decimal
import YangSchema.Unicode.LetterCase

/-!
# Styles of console text

A style is named by words: attributes, which a word before them can turn off, a colour, a background
and a link. Names of the same style have one normal form, in which the words have an order of their
own; what names no style is its own normal form but for case.
-/
namespace YangSchema.Console
open Text

inductive Attribute where
  | bold
  | dim
  | italic
  | underline
  | blink
  | blink2
  | reverse
  | conceal
  | strike
  | underline2
  | frame
  | encircle
  | overline
  deriving Repr, DecidableEq

namespace Attribute

def name : Attribute → String
  | bold => "bold"
  | dim => "dim"
  | italic => "italic"
  | underline => "underline"
  | blink => "blink"
  | blink2 => "blink2"
  | reverse => "reverse"
  | conceal => "conceal"
  | strike => "strike"
  | underline2 => "underline2"
  | frame => "frame"
  | encircle => "encircle"
  | overline => "overline"

/-- In the order of the normal form. -/
def all : List Attribute :=
  [bold, dim, italic, underline, blink, blink2, reverse, conceal, strike, underline2, frame,
   encircle, overline]

def shortNames : List (String × Attribute) :=
  [("b", bold), ("d", dim), ("i", italic), ("u", underline), ("uu", underline2), ("r", reverse),
   ("c", conceal), ("s", strike), ("o", overline)]

def named? (s : String) : Option Attribute :=
  (all.find? (·.name = s)) <|> shortNames.lookup s

end Attribute

/-- The colours that have names, with a space between names. -/
def colorNames : List String :=
  ["black red green yellow blue magenta cyan white bright_black bright_red bright_green",
   "bright_yellow bright_blue bright_magenta bright_cyan bright_white gray0 grey0 navy_blue",
   "dark_blue blue3 blue1 dark_green deep_sky_blue4 dodger_blue3 dodger_blue2 green4",
   "spring_green4 turquoise4 deep_sky_blue3 dodger_blue1 dark_cyan light_sea_green",
   "deep_sky_blue2 deep_sky_blue1 green3 spring_green3 cyan3 dark_turquoise turquoise2 green1",
   "spring_green2 spring_green1 medium_spring_green cyan2 cyan1 purple4 purple3 blue_violet",
   "gray37 grey37 medium_purple4 slate_blue3 royal_blue1 chartreuse4 pale_turquoise4",
   "steel_blue steel_blue3 cornflower_blue dark_sea_green4 cadet_blue sky_blue3 chartreuse3",
   "sea_green3 aquamarine3 medium_turquoise steel_blue1 sea_green2 sea_green1 dark_slate_gray2",
   "dark_red dark_magenta orange4 light_pink4 plum4 medium_purple3 slate_blue1 wheat4 gray53",
   "grey53 light_slate_gray light_slate_grey medium_purple light_slate_blue yellow4",
   "dark_sea_green light_sky_blue3 sky_blue2 chartreuse2 pale_green3 dark_slate_gray3",
   "sky_blue1 chartreuse1 light_green aquamarine1 dark_slate_gray1 deep_pink4",
   "medium_violet_red dark_violet purple medium_orchid3 medium_orchid dark_goldenrod",
   "rosy_brown gray63 grey63 medium_purple2 medium_purple1 dark_khaki navajo_white3 gray69",
   "grey69 light_steel_blue3 light_steel_blue dark_olive_green3 dark_sea_green3 light_cyan3",
   "light_sky_blue1 green_yellow dark_olive_green2 pale_green1 dark_sea_green2 pale_turquoise1",
   "red3 deep_pink3 magenta3 dark_orange3 indian_red hot_pink3 hot_pink2 orchid orange3",
   "light_salmon3 light_pink3 pink3 plum3 violet gold3 light_goldenrod3 tan misty_rose3",
   "thistle3 plum2 yellow3 khaki3 light_yellow3 gray84 grey84 light_steel_blue1 yellow2",
   "dark_olive_green1 dark_sea_green1 honeydew2 light_cyan1 red1 deep_pink2 deep_pink1",
   "magenta2 magenta1 orange_red1 indian_red1 hot_pink medium_orchid1 dark_orange salmon1",
   "light_coral pale_violet_red1 orchid2 orchid1 orange1 sandy_brown light_salmon1 light_pink1",
   "pink1 plum1 gold1 light_goldenrod2 navajo_white1 misty_rose1 thistle1 yellow1",
   "light_goldenrod1 khaki1 wheat1 cornsilk1 gray100 grey100 gray3 grey3 gray7 grey7 gray11",
   "grey11 gray15 grey15 gray19 grey19 gray23 grey23 gray27 grey27 gray30 grey30 gray35 grey35",
   "gray39 grey39 gray42 grey42 gray46 grey46 gray50 grey50 gray54 grey54 gray58 grey58 gray62",
   "grey62 gray66 grey66 gray70 grey70 gray74 grey74 gray78 grey78 gray82 grey82 gray85 grey85",
   "gray89 grey89 gray93 grey93"]

def lower (s : List Char) : List Char :=
  s.map fun c => Char.ofNat (Unicode.lowerCase c.toNat)

/-- What stands in the parentheses of a word that starts with a name and a parenthesis. -/
def inParentheses? (name : String) (word : List Char) : Option (List Char) :=
  let start := name.toList ++ ['(']
  if start.isPrefixOf word && word.getLast? = some ')' then
    some ((word.drop start.length).dropLast)
  else none

/-- The number of one part of a colour, in the digits of any script. -/
def partNumber (digits : List Char) : Except Numeral.Fault Nat :=
  Numeral.ofDigits (digits.map fun c =>
    Char.ofNat ('0'.toNat + (Unicode.decimalValue? c).getD 0))

/-- Whether three parts with commas between them are a colour. A part without digits is a fault. -/
def isMixed (parts : List Char) : Except Numeral.Fault Bool := do
  let listed := parts.splitOn ','
  if listed.length ≠ 3 then return false
  return (← listed.mapM partNumber).all (· ≤ 255)

def isHexDigit (c : Char) : Bool :=
  c.isDigit || ('a' ≤ c && c ≤ 'f')

/-- Whether a word in small letters is a colour: a name, six hexadecimal digits, a number, or three
parts. -/
def isColor (word : List Char) : Except Numeral.Fault Bool :=
  if word = "default".toList ||
      colorNames.any fun row => (row.toList.splitOn ' ').contains word then
    .ok true
  else match word, inParentheses? "color" word, inParentheses? "rgb" word with
    | '#' :: digits, _, _ => .ok (digits.length = 6 && digits.all isHexDigit)
    | _, some number, _ =>
      .ok (Numeral.isNumeral number && number.length ≤ 3 && Numeral.value number ≤ 255)
    | _, _, some parts =>
      if !parts.isEmpty && parts.all fun c => c = ',' || (Unicode.decimalValue? c).isSome then
        isMixed parts
      else .ok false
    | _, _, _ => .ok false

structure Style where
  /-- The attributes that are on or off, the last word first. -/
  attributes : List (Attribute × Bool) := []
  color : Option (List Char) := none
  background : Option (List Char) := none
  link : Option (List Char) := none
  deriving Repr, DecidableEq

namespace Style

def attributeWords (s : Style) : List (List Char) :=
  Attribute.all.flatMap fun a =>
    match s.attributes.lookup a with
    | some true => [a.name.toList]
    | some false => ["not".toList, a.name.toList]
    | none => []

/-- The words of a style in their order. -/
def words (s : Style) : List (List Char) :=
  s.attributeWords ++ s.color.toList ++ (s.background.map fun c => ["on".toList, c]).getD [] ++
    (s.link.map fun l => ["link".toList, l]).getD []

def text (s : Style) : List Char :=
  if s.words.isEmpty then "none".toList else List.intercalate [' '] s.words

/-- Reads the words of a style, if they are one. -/
def read (s : Style) : List (List Char) → Except Numeral.Fault (Option Style)
  | [] => .ok (some s)
  | w :: ws => do
    let word := lower w
    match String.ofList word, Attribute.named? (String.ofList word), ws with
    | "on", _, c :: ws =>
      if ← isColor (lower c) then read { s with background := some (lower c) } ws else return none
    | "not", _, a :: ws =>
      match Attribute.named? (String.ofList a) with
      | some a => read { s with attributes := (a, false) :: s.attributes } ws
      | none => return none
    | "link", _, l :: ws => read { s with link := some l } ws
    | _, some a, ws => read { s with attributes := (a, true) :: s.attributes } ws
    | _, none, ws =>
      if ← isColor word then read { s with color := some word } ws else return none

def normalForm (name : List Char) : Except Numeral.Fault (List Char) := do
  let name := Unicode.trim name
  if name = "none".toList then return name
  match ← read {} ((name.splitOnP Unicode.isBlank).filter (!·.isEmpty)) with
  | some s => return s.text
  | none => return lower name

end Style
end YangSchema.Console
