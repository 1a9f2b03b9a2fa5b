import YangSchema.Unicode.DisplayWidth

/-!
# Clusters of characters

Characters that a console shows in one place: a character with the marks behind it, those that
joiners put on top of it, and a selector that asks for its form as an emoji. Texts are measured and
cut by clusters.
-/
namespace YangSchema.Console
open Unicode

/-- The zero width joiner. -/
def joiner : Char := '\u200d'

/-- The selector of the form as an emoji. -/
def emojiSelector : Char := '\ufe0f'

/-- The columns that a selector adds behind the last character that was seen. -/
def widening (last : Option Char) : Nat :=
  if last.any isWidened then 1 else 0

/-- Adds up the columns of a text, of which `used` are counted. -/
def widthFrom (used : Nat) (last : Option Char) : List Char → Nat
  | [] => used
  | c :: r =>
    if c = joiner then
      match r with
      | [] => used
      | _ :: r => widthFrom used last r
    else if c = emojiSelector then widthFrom (used + widening last) none r
    else
      let n := charWidth c
      widthFrom (used + n) (if n = 0 then last else some c) r

def width (s : List Char) : Nat :=
  widthFrom 0 none s

structure Cluster where
  text : List Char
  columns : Nat

namespace Cluster

/-- Puts a character into the cluster that is open, whose text is kept in reverse. -/
def add (k : Cluster) (c : Char) (columns : Nat) : Cluster :=
  ⟨c :: k.text, k.columns + columns⟩

/-- The clusters of a text, where those before are kept in reverse. -/
def splitFrom (before : List Cluster) (k : Cluster) (last : Option Char) :
    List Char → List Cluster
  | [] => (k :: before).reverse.map fun k => { k with text := k.text.reverse }
  | c :: r =>
    if c = joiner then
      match r with
      | [] => splitFrom before (k.add c 0) last []
      | d :: r => splitFrom before ((k.add c 0).add d 0) last r
    else if c = emojiSelector then
      let n := widening last
      splitFrom before (k.add c n) (if n = 0 then last else none) r
    else
      match charWidth c with
      | 0 => splitFrom before (k.add c 0) last r
      | n => splitFrom (k :: before) ⟨[c], n⟩ (some c) r

/-- The clusters of a text. A joiner or a selector at its start stands for itself. -/
def split : List Char → List Cluster
  | [] => []
  | c :: r =>
    if c = joiner || c = emojiSelector then splitFrom [] ⟨[c], 0⟩ none r
    else
      let n := charWidth c
      splitFrom [] ⟨[c], n⟩ (if n = 0 then none else some c) r

/-- The first clusters that fit a width. One that would stand across the end leaves a space. -/
def take (limit : Nat) : List Cluster → List Char
  | [] => []
  | k :: ks =>
    if limit = 0 then []
    else if k.columns ≤ limit then k.text ++ take (limit - k.columns) ks
    else [' ']

/-- Puts clusters on lines of a width, where the open line is kept in reverse. -/
def chopFrom (limit : Nat) (line : List (List Char)) (used : Nat) :
    List Cluster → List (List Char)
  | [] => if used = 0 then [] else [line.reverse.flatten]
  | k :: ks =>
    if used + k.columns ≤ limit then chopFrom limit (k.text :: line) (used + k.columns) ks
    else line.reverse.flatten :: chopFrom limit [k.text] k.columns ks

end Cluster

/-- The longest start of a text that fits a width. -/
def cropTo (limit : Nat) (s : List Char) : List Char :=
  if width s ≤ limit then s else Cluster.take limit (Cluster.split s)

/-- Cuts a word into lines. -/
def chop (limit : Nat) (word : List Char) : List (List Char) :=
  Cluster.chopFrom limit [] 0 (Cluster.split word)

end YangSchema.Console
