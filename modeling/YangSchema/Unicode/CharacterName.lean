import YangSchema.Unicode.Name.AlchemyToSelector
import YangSchema.Unicode.Name.Alias
import YangSchema.Unicode.Name.ChakmaToTamil
import YangSchema.Unicode.Name.CopticToHexagram
import YangSchema.Unicode.Name.CuneiformToTangut
import YangSchema.Unicode.Name.Derived
import YangSchema.Unicode.Name.DevanagariToMyanmar
import YangSchema.Unicode.Name.GeorgianToVedic
import YangSchema.Unicode.Name.HebrewToArabic
import YangSchema.Unicode.Name.KanaToMathematics
import YangSchema.Unicode.Name.LatinToArmenian
import YangSchema.Unicode.Name.LinearToKaithi
import YangSchema.Unicode.Name.MathematicsToGlagolitic
import YangSchema.Unicode.Name.NumberToDingbat
import YangSchema.Unicode.Name.PhoneticToLetterlike
import YangSchema.Unicode.Name.PresentationForm
import YangSchema.Unicode.Name.SignWritingToArabic
import YangSchema.Unicode.Name.TileToTransport
import YangSchema.Unicode.Name.YiToHangul

/-!
# Names of characters

Every character has one name at most, and some have further ones. Case does not count when a name is
looked up, except in the names that are made by rule for ideographs and syllables.
-/
namespace YangSchema.Unicode
open NameBlock

/-- All names that are not made by rule. -/
def nameBlocks : List (List NameBlock) :=
  [latinToArmenian, hebrewToArabic, devanagariToMyanmar, georgianToVedic, phoneticToLetterlike,
   numberToDingbat, mathematicsToGlagolitic, copticToHexagram, yiToHangul, presentationForms,
   linearToKaithi, chakmaToTamil, cuneiformToTangut, kanaToMathematics, signWritingToArabic,
   tileToTransport, alchemyToSelector]

/-- The code point of the character with a name. -/
def characterNamed? (name : String) : Option Nat :=
  let exact := name.toList
  let upper := exact.map Char.toUpper
  syllable? exact <|> unifiedIdeograph? exact <|> coded? upper <|>
    nameBlocks.findSome? (·.findSome? (·.find? upper)) <|> aliased? upper

end YangSchema.Unicode
