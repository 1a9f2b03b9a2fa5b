import YangSchema.Console.EmojiName
import YangSchema.Unicode.Blank

/-!
# Emoji in console text

A name of an emoji between colons is shown as the emoji. The name may end with the wish for a
coloured or a plain form. A name that is not known stays as it is written, with both of its colons.
-/
namespace YangSchema.Console
namespace Emoji

/-- What stands behind a colon up to the next one, if there is no blank space in it. -/
def code? (s : List Char) : Option (List Char) :=
  let code := s.takeWhile fun c => c ≠ ':' && !Unicode.isBlank c
  if s[code.length]? = some ':' then some code else none

/-- The ends of names that choose a form, and the character that does. -/
def forms : List (List Char × Char) :=
  [("-emoji".toList, '\ufe0f'), ("-text".toList, '\ufe0e')]

/-- What is shown for a name between colons. -/
def shown (code : List Char) : List Char :=
  let (name, form) :=
    match forms.find? fun (ending, _) => ending.isSuffixOf code with
    | some (ending, c) => (code.take (code.length - ending.length), [c])
    | none => (code, [])
  match emojiNamed? name with
  | some emoji => emoji ++ form
  | none => ':' :: code ++ [':']

/-- Shows the emoji of a text, of the first name of which `skip` characters are still there. -/
def replaceFrom (skip : Nat) : List Char → List Char
  | [] => []
  | c :: r =>
    match skip with
    | n + 1 => replaceFrom n r
    | 0 =>
      match if c = ':' then code? r else none with
      | some code => shown code ++ replaceFrom (code.length + 1) r
      | none => c :: replaceFrom 0 r

/-- Shows the emoji of a text. -/
def replace (s : List Char) : List Char :=
  replaceFrom 0 s

end Emoji
end YangSchema.Console
