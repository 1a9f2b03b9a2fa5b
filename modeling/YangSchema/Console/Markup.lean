import YangSchema.Console.Emoji
import YangSchema.Console.Style

/-!
# Markup in console text

Text for a console may hold tags in square brackets, which choose a style and are not shown. A
backslash in front of a tag makes it plain text, and a pair of backslashes there stands for one.
Names of emoji between colons are shown as emoji. `escape` writes a text such that its brackets are
no tags.
-/
namespace YangSchema.Console

/-- Why markup cannot be shown. -/
inductive MarkupFault where
  /-- A tag closes a style that no tag has opened. -/
  | unmatched (tag : String)
  /-- A colour has a part that is no number. -/
  | numeral (f : Text.Numeral.Fault)
  deriving Repr, DecidableEq

def MarkupFault.message : MarkupFault → String
  | unmatched tag => s!"closing tag '[{tag}]' doesn't match any open tag"
  | numeral f => f.message

namespace Markup

def isTagStart (c : Char) : Bool :=
  ('a' ≤ c && c ≤ 'z') || c = '#' || c = '/' || c = '@'

/-- The text up to a closing bracket that no opening bracket comes before, and the rest. -/
def tagEnd? : List Char → Option (List Char × List Char)
  | [] => none
  | c :: r =>
    if c = ']' then some ([], r)
    else if c = '[' then none
    else (tagEnd? r).map fun (tag, t) => (c :: tag, t)

/-- The tag behind an opening bracket, and the rest. -/
def tag? : List Char → Option (List Char × List Char)
  | [] => none
  | c :: r => if isTagStart c then (tagEnd? r).map fun (tag, t) => (c :: tag, t) else none

theorem tagEnd?_length {s tag r : List Char} (h : tagEnd? s = some (tag, r)) :
    r.length < s.length := by
  induction s generalizing tag with
  | nil => simp [tagEnd?] at h
  | cons c s ih =>
    unfold tagEnd? at h
    split at h
    · simp_all
    · split at h
      · simp at h
      · simp only [Option.map_eq_some_iff, Prod.exists, Prod.mk.injEq] at h
        obtain ⟨tag', r', h', -, rfl⟩ := h
        have := ih h'
        simp only [List.length_cons]
        omega

theorem tag?_length {s tag r : List Char} (h : tag? s = some (tag, r)) : r.length < s.length := by
  cases s with
  | nil => simp [tag?] at h
  | cons c s =>
    simp only [tag?] at h
    split at h
    · simp only [Option.map_eq_some_iff, Prod.exists, Prod.mk.injEq] at h
      obtain ⟨tag', r', h', -, rfl⟩ := h
      have := tagEnd?_length h'
      simp only [List.length_cons]
      omega
    · simp at h

/-- A part of a text: names of emoji do not go beyond its ends. -/
inductive Piece where
  | plain (text : List Char)
  | tag (text : List Char)
  deriving Repr, DecidableEq

def backslashes (n : Nat) : List Char :=
  List.replicate n '\\'

def bracketed (tag : List Char) : List Char :=
  '[' :: tag ++ [']']

/-- The pieces of a text, of which the first has begun and goes on behind a run of backslashes. -/
def piecesFrom (begun : List Char) (run : Nat) (s : List Char) : List Piece :=
  match s with
  | [] => [.plain (begun ++ backslashes run)]
  | '\\' :: r => piecesFrom begun (run + 1) r
  | '[' :: r =>
    match h : tag? r with
    | some (tag, t) =>
      have := tag?_length h
      let piece : Piece := if run % 2 = 1 then .plain (bracketed tag) else .tag tag
      .plain (begun ++ backslashes (run / 2)) :: piece :: piecesFrom [] 0 t
    | none => piecesFrom (begun ++ backslashes (run - 1) ++ ['[']) 0 r
  | c :: r => piecesFrom (begun ++ backslashes run ++ [c]) 0 r
termination_by s.length

/-- The name of a style in a tag, whatever its parameters are. -/
def styleName (tag : List Char) : List Char :=
  Unicode.trim (tag.takeWhile (· ≠ '='))

def normalName (name : List Char) : Except MarkupFault (List Char) :=
  (Style.normalForm name).mapError .numeral

/-- The text of pieces under the styles that are open, the last first. -/
def shownFrom (styles : List (List Char)) : List Piece → Except MarkupFault (List Char)
  | [] => .ok []
  | .plain s :: ps => (shownFrom styles ps).map (Emoji.replace s ++ ·)
  | .tag ('/' :: tag) :: ps => do
    let name := styleName tag
    if name.isEmpty then
      match styles with
      | [] => throw (.unmatched "/")
      | _ :: outer => shownFrom outer ps
    else
      let normal ← normalName name
      if styles.contains normal then shownFrom (styles.erase normal) ps
      else throw (.unmatched (String.ofList ('/' :: tag)))
  | .tag tag :: ps => do shownFrom ((← normalName (styleName tag)) :: styles) ps

def shown (s : List Char) : Except MarkupFault (List Char) :=
  shownFrom [] (piecesFrom [] 0 s)

/-- Escapes a text behind a run of backslashes. -/
def escapeFrom (run : Nat) (s : List Char) : List Char :=
  match s with
  | [] => backslashes run
  | '\\' :: r => escapeFrom (run + 1) r
  | '[' :: r =>
    match h : tag? r with
    | some (tag, t) =>
      have := tag?_length h
      backslashes (2 * run + 1) ++ bracketed tag ++ escapeFrom 0 t
    | none => backslashes run ++ '[' :: escapeFrom 0 r
  | c :: r => backslashes run ++ c :: escapeFrom 0 r
termination_by s.length

/-- Whether a text ends with one backslash and not with two. -/
def endsWithBackslash (s : List Char) : Bool :=
  match s.reverse with
  | '\\' :: '\\' :: _ => false
  | '\\' :: _ => true
  | _ => false

/-- A text with no tags. A backslash at its end is doubled, as a tag may follow. -/
def escape (s : List Char) : List Char :=
  let e := escapeFrom 0 s
  if endsWithBackslash e then e ++ ['\\'] else e

end Markup
end YangSchema.Console
