import YangSchema.Proofs.Lexer.StringContinuation
import YangSchema.Proofs.Lexer.Travel
import YangSchema.Proofs.Statement.Grammar
import YangSchema.Proofs.Statement.Linked

/-!
# Keywords stand where statements say

Every statement of a tree that was read has the place of an offset in the text, and there is no
other offset with this place. From it on the text has the keyword of the statement, with its
qualifier and a colon before it if it has one.
-/
namespace YangSchema

namespace Scan

variable {settings : ParserSettings} {policy : IdentifierPolicy} {c d : Cursor}

theorem onward_readKeyword (policy : IdentifierPolicy) : Onward (readKeyword policy) := by
  refine onward_bind (onward_readIdentifier policy) fun first => onward_bind onward_current? ?_
  refine fun _ => onward_ite _ ?_ (onward_pure _)
  exact onward_bind (onward_forward 1) fun _ =>
    onward_bind (onward_readIdentifier policy) fun _ => onward_pure _

/-- Where no argument is found, the cursor goes back to where the search began. -/
theorem onward_readArgument? (settings : ParserSettings) : Onward (readArgument? settings) := by
  intro c
  unfold left readArgument?
  cases h : skipSpace c with
  | error e d => exact onward_skipSpace.of_error h
  | ok b d =>
    have hd := onward_skipSpace.of_ok h
    cases b with
    | false => exact hd
    | true =>
      simp only
      cases h' : readString? settings d with
      | error e f => exact hd.trans ((onward_readString? settings).of_error h')
      | ok a f =>
        cases a with
        | none => exact .refl c
        | some a => exact hd.trans ((onward_readString? settings).of_ok h')

theorem onward_readHeader (settings : ParserSettings) : Onward (readHeader settings) := by
  refine onward_bind onward_get fun c => onward_bind (onward_readKeyword _) fun keyword => ?_
  exact onward_bind (onward_readArgument? settings) fun _ =>
    onward_bind onward_skipSpace fun _ => onward_pure _

theorem onward_readTerminator (keyword : String) : Onward (readTerminator keyword) := by
  refine onward_bind onward_current? fun found => onward_ite _ ?_ (onward_fail _)
  exact onward_bind (onward_forward 1) fun _ => onward_bind onward_skipSpace fun _ => onward_pure _

theorem onward_readChild (settings : ParserSettings) (block : String) :
    Onward (readChild settings block) := by
  refine onward_bind onward_current? fun found => onward_ite _ ?_ (onward_fail _)
  exact onward_bind (onward_readHeader settings) fun header =>
    onward_bind (onward_readTerminator _) fun _ => onward_pure _

theorem onward_closeBlock : Onward closeBlock :=
  onward_bind (onward_forward 1) fun _ => onward_bind onward_skipSpace fun _ => onward_pure _

theorem onward_readBlocks (settings : ParserSettings) (tree : StatementTree)
    (blocks : List OpenBlock) : Onward (readBlocks settings tree blocks) := by
  intro c
  unfold left
  fun_induction readBlocks settings tree blocks c with
  | case1 tree c => exact .refl c
  | case2 tree c block outer _ e d hclose => exact onward_closeBlock.of_error hclose
  | case3 tree c block outer _ u d hclose ih => exact (onward_closeBlock.of_ok hclose).trans ih
  | case4 tree c block outer _ e d hchild => exact (onward_readChild settings _).of_error hchild
  | case5 tree c block outer _ header opens d hchild child grown ih =>
    exact ((onward_readChild settings _).of_ok hchild).trans ih

theorem onward_readStatement (settings : ParserSettings) : Onward (readStatement settings) :=
  onward_bind (onward_readHeader settings) fun _ =>
    onward_bind (onward_readTerminator _) fun _ => onward_readBlocks settings _ _

/-- A keyword as it is written: the qualifier, if there is one, with a colon before the name. -/
def spelling (qualifier : Option String) (name : String) : List Char :=
  match qualifier with
  | none => name.toList
  | some q => q.toList ++ ':' :: name.toList

theorem past_of_readKeyword {qualifier : Option String} {name : String}
    (h : readKeyword policy c = .ok (qualifier, name) d) : c.Past (spelling qualifier name) d := by
  unfold readKeyword at h
  simp only [bind_eq_ok, current?_eq_ok] at h
  obtain ⟨first, _, h₁, _, _, ⟨rfl, rfl⟩, h⟩ := h
  have hfirst := past_of_readIdentifier h₁
  split at h
  · next hcolon =>
    simp only [bind_eq_ok, forward_eq_ok, pure_eq_ok] at h
    obtain ⟨_, _, rfl, second, _, h₂, hk, rfl⟩ := h
    cases hk
    have hpast := (hfirst.trans (Cursor.past_of_current? hcolon)).trans (past_of_readIdentifier h₂)
    rwa [List.append_assoc] at hpast
  · rw [pure_eq_ok] at h
    obtain ⟨hk, rfl⟩ := h
    cases hk
    exact hfirst

/-- A header has the place at which its keyword begins. -/
theorem keyword_of_readHeader {header : Header} (h : readHeader settings c = .ok header d) :
    header.position = c.position ∧ spelling header.qualifier header.name <+: c.rest := by
  unfold readHeader at h
  simp only [bind_eq_ok, get_eq_ok, pure_eq_ok] at h
  obtain ⟨_, _, ⟨rfl, rfl⟩, ⟨q, name⟩, _, hk, a, _, -, b, _, -, rfl, -⟩ := h
  exact ⟨rfl, _, (past_of_readKeyword hk).rest.symm⟩

end Scan

namespace Statement

variable {text : List Char} {s s' : Statement}

/-- The place of the statement is that of one offset, at which its keyword begins. -/
def StandsIn (text : List Char) (s : Statement) : Prop :=
  ∃ p ≤ text.length, (∀ q, s.position = .counted text q ↔ q = p) ∧
    Scan.spelling s.qualifier s.name <+: text.drop p

theorem standsIn_of_header {c : Cursor} (hc : c.Stands text) (hp : s.position = c.position)
    (hk : Scan.spelling s.qualifier s.name <+: c.rest) : s.StandsIn text := by
  refine ⟨c.offset, hc.offset_le, fun q => ?_, hc.rest ▸ hk⟩
  rw [hp, hc.position, Position.counted_eq_ofOffset, Position.ofOffset_inj, eq_comm]

/-- The links of a statement have no part in its place. -/
theorem StandsIn.congr (h : s.StandsIn text) (hp : s'.position = s.position)
    (hq : s'.qualifier = s.qualifier) (hn : s'.name = s.name) : s'.StandsIn text := by
  unfold StandsIn
  rwa [hp, hq, hn]

end Statement

namespace StatementTree

variable {text : List Char} {t : StatementTree}

def StandsIn (text : List Char) (t : StatementTree) : Prop :=
  ∀ ⦃id s⦄, t.get? id = some s → s.StandsIn text

theorem StandsIn.modify (h : t.StandsIn text) (id : StatementId) {f : Statement → Statement}
    (hf : ∀ s, s.StandsIn text → (f s).StandsIn text) : (t.modify id f).StandsIn text := by
  intro i s hs
  rw [get?_modify] at hs
  split at hs
  · obtain ⟨q, hq, rfl⟩ := Option.map_eq_some_iff.1 hs
    exact hf q (h hq)
  · exact h hs

theorem StandsIn.add (h : t.StandsIn text) {header : Header} {c : Cursor} (hc : c.Stands text)
    (hheader : header.position = c.position ∧
      Scan.spelling header.qualifier header.name <+: c.rest) :
    (t.add header.name header.position header.qualifier header.argument).StandsIn text := by
  intro i s hs
  rw [get?_add] at hs
  split at hs
  · cases hs
    exact Statement.standsIn_of_header hc hheader.1 hheader.2
  · exact h hs

theorem StandsIn.addBelow (h : t.StandsIn text) {header : Header} {c : Cursor}
    (hc : c.Stands text) (hheader : header.position = c.position ∧
      Scan.spelling header.qualifier header.name <+: c.rest) (parent : StatementId) :
    (t.addBelow parent header.name header.position header.qualifier header.argument).StandsIn
      text := by
  refine StandsIn.modify (StandsIn.modify (h.add hc hheader) parent ?_) t.size ?_
  · exact fun s hs => hs.congr rfl rfl rfl
  · exact fun s hs => hs.congr rfl rfl rfl

end StatementTree

namespace Scan

variable {settings : ParserSettings} {c d : Cursor} {text : List Char} {tree tree' : StatementTree}

theorem header_of_readChild {block : String} {header : Header} {opens : Bool}
    (h : readChild settings block c = .ok (header, opens) d) :
    header.position = c.position ∧ spelling header.qualifier header.name <+: c.rest := by
  obtain ⟨_, hheader, -⟩ := Grammar.readChild_eq_ok.1 h
  exact keyword_of_readHeader hheader

theorem standsIn_of_readBlocks {blocks : List OpenBlock}
    (h : readBlocks settings tree blocks c = .ok tree' d) (hc : c.Stands text)
    (ht : tree.StandsIn text) : tree'.StandsIn text := by
  fun_induction readBlocks settings tree blocks c with
  | case1 =>
    cases h
    exact ht
  | case2 => cases h
  | case3 tree c block outer _ u d hclose ih =>
    exact ih h (hc.reaches (onward_closeBlock.of_ok hclose)) ht
  | case4 => cases h
  | case5 tree c block outer _ header opens d hchild child grown ih =>
    refine ih h (hc.reaches ((onward_readChild settings _).of_ok hchild)) ?_
    exact ht.addBelow hc (header_of_readChild hchild) block.id

end Scan

theorem standsIn_of_readStatement {settings : ParserSettings} {c d : Cursor} {text : List Char}
    {tree : StatementTree} (h : Scan.readStatement settings c = .ok tree d) (hc : c.Stands text) :
    tree.StandsIn text := by
  obtain ⟨header, c₁, hheader, h⟩ := bind_eq_ok.1 h
  obtain ⟨opens, c₂, hopens, h⟩ := bind_eq_ok.1 h
  have hempty : ({} : StatementTree).StandsIn text := by
    intro id s hs
    simp [StatementTree.get?] at hs
  have hc₁ := hc.reaches ((Scan.onward_readHeader settings).of_ok hheader)
  have hc₂ := hc₁.reaches ((Scan.onward_readTerminator _).of_ok hopens)
  exact Scan.standsIn_of_readBlocks h hc₂ (hempty.add hc (Scan.keyword_of_readHeader hheader))

theorem parseStatement_eq_ok {text : String} {settings : ParserSettings} {p : Parsed} :
    parseStatement text settings = .ok p ↔
      ∃ b c, Scan.skipSpace (.ofText text) = .ok b c ∧
        Scan.readStatement settings c = .ok p.tree p.stop := by
  unfold parseStatement
  simp only [bind_apply]
  cases hskip : Scan.skipSpace (.ofText text) with
  | error e c => simp
  | ok b c =>
    cases hread : Scan.readStatement settings c with
    | error e d => simp [hread]
    | ok t d =>
      cases p
      simp [hread]

theorem standsIn_of_parseStatement {text : String} {settings : ParserSettings} {q : Parsed}
    (h : parseStatement text settings = .ok q) : q.tree.StandsIn text.toList := by
  rcases parseStatement_eq_ok.1 h with ⟨b, c, hspace, hread⟩
  have hc := (Cursor.stands_ofText text).reaches (Scan.onward_skipSpace.of_ok hspace)
  exact standsIn_of_readStatement hread hc

theorem parseDocument_eq_ok {text : String} {settings : ParserSettings} {q : Parsed} :
    parseDocument text settings = .ok q ↔
      parseStatement text settings = .ok q ∧ q.stop.atEnd = true := by
  constructor
  · intro h
    obtain ⟨q', hq', h⟩ := except_bind_eq_ok.1 h
    rw [Parsed.asDocument] at h
    split at h
    · next hend =>
      cases h
      exact ⟨hq', hend⟩
    · cases h
  · rintro ⟨h, hend⟩
    refine except_bind_eq_ok.2 ⟨q, h, ?_⟩
    rw [Parsed.asDocument, if_pos hend]

theorem parseStatement_of_parseDocument {text : String} {settings : ParserSettings} {q : Parsed}
    (h : parseDocument text settings = .ok q) : parseStatement text settings = .ok q :=
  (parseDocument_eq_ok.1 h).1

/-- Whatever is asked of a cursor of a text, and whatever fails of it, its line and column are those
of its offset. Hence, in a text that was read, the keyword of a statement is at the only offset
with the place of the statement. -/
theorem stands_run_and_parse (text : String) (settings : ParserSettings) :
    (∀ calls : List Lexing.Call,
      let c := ((Lexing.ofText text).run settings calls).cursor
      c.offset ≤ text.toList.length ∧ c.rest = text.toList.drop c.offset ∧
        c.position = .counted text.toList c.offset) ∧
      ∀ q, parseStatement text settings = .ok q ∨ parseDocument text settings = .ok q →
        ∀ id s, q.tree.get? id = some s → s.StandsIn text.toList := by
  constructor
  · intro calls
    have hstands : ((Lexing.ofText text).run settings calls).Stands text.toList :=
      (Lexing.stands_ofText text).run calls
    have hc := hstands.cursor
    refine ⟨hc.offset_le, hc.rest, ?_⟩
    rw [Position.counted_eq_ofOffset, hc.position]
  · rintro q (h | h) id s hs
    · exact standsIn_of_parseStatement h hs
    · exact standsIn_of_parseStatement (parseStatement_of_parseDocument h) hs

/-- Line ends of three kinds come before the second keyword. A date is looked for in vain, and the
cursor is set back to two marks. -/
theorem stands_run_and_parse_of_lines :
    ((Lexing.ofText "a\r\n\x7b\r \np:b;\x7d").run {}
        [.readIdentifier, .mark, .skipSpace, .advance, .readDate, .skipSpace, .mark, .reset 0,
          .reset 1]).cursor = ⟨"p:b;\x7d".toList, 7, ⟨4, 1⟩⟩ ∧
      (⟨4, 1⟩ : Position) = .counted "a\r\n\x7b\r \np:b;\x7d".toList 7 ∧
      ∃ q s, parseDocument "a\r\n\x7b\r \np:b;\x7d" {} = .ok q ∧ q.tree.get? 1 = some s ∧
        s.position = ⟨4, 1⟩ ∧ s.StandsIn "a\r\n\x7b\r \np:b;\x7d".toList := by
  obtain ⟨hrun, hparse⟩ := stands_run_and_parse "a\r\n\x7b\r \np:b;\x7d" {}
  have hcursor : ((Lexing.ofText "a\r\n\x7b\r \np:b;\x7d").run {}
      [.readIdentifier, .mark, .skipSpace, .advance, .readDate, .skipSpace, .mark, .reset 0,
        .reset 1]).cursor = ⟨"p:b;\x7d".toList, 7, ⟨4, 1⟩⟩ := by
    decide +kernel
  have hplace := (hrun [.readIdentifier, .mark, .skipSpace, .advance, .readDate, .skipSpace, .mark,
    .reset 0, .reset 1]).2.2
  rw [hcursor] at hplace
  have hstatement : (parseDocument "a\r\n\x7b\r \np:b;\x7d" {}).toOption.bind
      (fun q => (q.tree.get? 1).map (·.position)) = some ⟨4, 1⟩ := by
    decide +kernel
  obtain ⟨q, hq, hs⟩ := Option.bind_eq_some_iff.1 hstatement
  obtain ⟨s, hs, hposition⟩ := Option.map_eq_some_iff.1 hs
  rw [toOption_eq_some] at hq
  exact ⟨hcursor, hplace, q, s, hq, hs, hposition, hparse q (.inr hq) 1 s hs⟩

end YangSchema
