import YangSchema.Proofs.Lexer.Remainder
import YangSchema.Proofs.Statement.KeywordPlace
import YangSchema.Proofs.Statement.Stack

/-!
# Statements and what follows them

What follows the first statement of a text, and the white space behind it, has no part in how the
statement is read: the text up to there is a document with the same tree, read up to the same place.
-/
namespace YangSchema

namespace Scan

variable {settings : ParserSettings} {policy : IdentifierPolicy} {c e : Cursor} {z : List Char}
  {ch : Char}

/-- A character that is gone past is not the first one that is left. -/
theorem current?_of_leaves (hch : (c.followedBy z).current? = some ch)
    (h : Leaves z ((c.followedBy z).advanceBy 1)) : c.current? = some ch := by
  by_cases hc : c.rest = []
  · have hz : z ≠ [] := by
      rintro rfl
      simp [Cursor.current?, hc] at hch
    have hlength := Cursor.le_length_of_suffix hz h
    simp [hc] at hlength
  · rwa [Cursor.current?_followedBy hc] at hch

theorem current?_followedBy_of_some (h : c.current? = some ch) (z : List Char) :
    (c.followedBy z).current? = some ch := by
  have hc : c.rest ≠ [] := by
    intro hnil
    simp [Cursor.current?, hnil] at h
  rwa [Cursor.current?_followedBy hc]

theorem ignores_readKeyword (hz : Shape.gap z = .none) :
    Ignores z (Leaves z) (readKeyword policy) := by
  intro c k e h he
  unfold readKeyword at h ⊢
  simp only [bind_eq_ok, current?_eq_ok] at h
  rcases h with ⟨first, d, hfirst, _, _, ⟨rfl, rfl⟩, h⟩
  by_cases hcolon : d.current? = some ':'
  · rw [if_pos hcolon] at h
    simp only [bind_eq_ok, forward_eq_ok, pure_eq_ok] at h
    rcases h with ⟨_, _, rfl, second, f, hsecond, rfl, rfl⟩
    have hafter := he.of_onward (onward_readIdentifier policy) hsecond
    have hd := hafter.of_onward (onward_forward 1) (a := ()) (forward_eq_ok.2 rfl)
    rcases ignores_readIdentifier hz hfirst hd with ⟨d, hfirst', rfl⟩
    have hcolon' := current?_of_leaves hcolon hafter
    rcases ignores_forward hz 1 (c := d) (a := ()) (forward_eq_ok.2 rfl) hafter with ⟨g, hg, hcut⟩
    rw [hcut] at hsecond
    rcases ignores_readIdentifier hz hsecond he with ⟨f, hsecond', rfl⟩
    rw [forward_eq_ok] at hg
    subst hg
    exact ⟨f, by simp [hfirst', hcolon', hsecond'], rfl⟩
  · rw [if_neg hcolon, pure_eq_ok] at h
    rcases h with ⟨rfl, rfl⟩
    rcases ignores_readIdentifier hz hfirst he with ⟨d, hfirst', rfl⟩
    have hcolon' : d.current? ≠ some ':' := fun hd => hcolon (current?_followedBy_of_some hd z)
    exact ⟨d, by simp [hfirst', hcolon'], rfl⟩

theorem ignores_readArgument? (hz : Shape.gap z = .none) :
    Ignores z (LeavesBehindGaps z) (readArgument? settings) := by
  intro c a e h he
  unfold readArgument? at h ⊢
  cases hskip : skipSpace (c.followedBy z) with
  | error f d => simp [hskip] at h
  | ok b d =>
    cases b with
    | false =>
      simp only [hskip] at h
      cases h
      rcases ignores_skipSpace hz hskip he.leaves with ⟨d, hd, rfl⟩
      exact ⟨d, by simp only [hd], rfl⟩
    | true =>
      simp only [hskip] at h
      cases hread : readString? settings d with
      | error f g => simp [hread] at h
      | ok v g =>
        cases v with
        | none =>
          -- Nothing was read, and what is skipped next is what was skipped before.
          simp only [hread] at h
          cases h
          have hgaps := skipGaps_of_skipSpace hskip
          rcases he with ⟨f, hf, hleft⟩
          obtain rfl : f = d := by
            rw [hgaps] at hf
            cases hf
            rfl
          obtain rfl := eq_of_readString?_none hread
          have hstays : LeavesBehindGaps z g := ⟨g, skipGaps_of_none (gap_of_skipGaps hgaps), hleft⟩
          rcases ignores_skipSpace hz hskip hleft with ⟨d, hd, rfl⟩
          rcases ignores_readString? hz hread hstays with ⟨g, hg, -⟩
          exact ⟨c, by simp only [hd, hg], rfl⟩
        | some v =>
          simp only [hread] at h
          cases h
          have hd := he.leaves.of_onward (onward_readString? settings) hread
          rcases ignores_skipSpace hz hskip hd with ⟨d, hd', rfl⟩
          rcases ignores_readString? hz hread he with ⟨g, hg, rfl⟩
          exact ⟨g, by simp only [hd', hg], rfl⟩

theorem ignores_readHeader (hz : Shape.gap z = .none) :
    Ignores z (Leaves z) (readHeader settings) := by
  intro c header e h he
  unfold readHeader at h ⊢
  simp only [bind_eq_ok, get_eq_ok, pure_eq_ok] at h
  rcases h with ⟨_, _, ⟨rfl, rfl⟩, ⟨q, name⟩, d, hkeyword, a, f, hargument, b, g, hskip, rfl, rfl⟩
  have hf : LeavesBehindGaps z f := ⟨g, skipGaps_of_skipSpace hskip, he⟩
  have hd := hf.leaves.of_onward (onward_readArgument? settings) hargument
  rcases ignores_readKeyword hz hkeyword hd with ⟨d, hkeyword', rfl⟩
  rcases ignores_readArgument? hz hargument hf with ⟨f, hargument', rfl⟩
  rcases ignores_skipSpace hz hskip he with ⟨g, hskip', rfl⟩
  exact ⟨g, by simp [hkeyword', hargument', hskip'], rfl⟩

/-- A mark and the white space after it. -/
theorem pass_of_leaves (hz : Shape.gap z = .none) {d : Cursor} {b : Bool}
    (hch : (c.followedBy z).current? = some ch)
    (h : skipSpace ((c.followedBy z).advanceBy 1) = .ok b d) (hd : Leaves z d) :
    c.current? = some ch ∧ ∃ f, skipSpace (c.advanceBy 1) = .ok b f ∧ d = f.followedBy z := by
  have hafter := hd.of_onward onward_skipSpace h
  rcases ignores_forward hz 1 (c := c) (a := ()) (forward_eq_ok.2 rfl) hafter with ⟨g, hg, hcut⟩
  rw [forward_eq_ok] at hg
  subst hg
  rw [hcut] at h
  exact ⟨current?_of_leaves hch hafter, ignores_skipSpace hz h hd⟩

theorem ignores_readTerminator (hz : Shape.gap z = .none) (keyword : String) :
    Ignores z (Leaves z) (readTerminator keyword) := by
  intro c b e h he
  unfold readTerminator at h ⊢
  simp only [bind_eq_ok, current?_eq_ok] at h
  rcases h with ⟨_, _, ⟨rfl, rfl⟩, h⟩
  split at h
  · next hmark =>
    simp only [bind_eq_ok, forward_eq_ok, pure_eq_ok] at h
    rcases h with ⟨_, _, rfl, s, d, hskip, rfl, rfl⟩
    have hch : ∃ ch, (c.followedBy z).current? = some ch := by
      cases hc : (c.followedBy z).current? with
      | none => simp [hc] at hmark
      | some ch => exact ⟨ch, rfl⟩
    rcases hch with ⟨ch, hch⟩
    rcases pass_of_leaves hz hch hskip he with ⟨hch', f, hskip', rfl⟩
    rw [hch] at hmark ⊢
    refine ⟨f, ?_, rfl⟩
    rw [bind_apply, current?_apply, hch']
    simp only [if_pos hmark, bind_apply, forward_apply, hskip', pure_apply]
  · exact absurd h fail_ne_ok

theorem ignores_readChild (hz : Shape.gap z = .none) (block : String) :
    Ignores z (Leaves z) (readChild settings block) := by
  rintro c ⟨header, opens⟩ e h he
  rcases Grammar.readChild_eq_ok.1 h with ⟨d, hheader, hmark⟩
  have hd := he.of_onward (onward_readTerminator _) hmark
  rcases ignores_readHeader hz hheader hd with ⟨d, hheader', rfl⟩
  rcases ignores_readTerminator hz _ hmark he with ⟨f, hmark', rfl⟩
  exact ⟨f, Grammar.readChild_eq_ok.2 ⟨d, hheader', hmark'⟩, rfl⟩

/-- However many blocks are open, what follows the last of them is not looked at. -/
theorem ignores_readBlocks (hz : Shape.gap z = .none) (tree : StatementTree)
    (blocks : List OpenBlock) : Ignores z (Leaves z) (readBlocks settings tree blocks) := by
  intro c t e h he
  generalize hb : c.followedBy z = b at h
  fun_induction readBlocks settings tree blocks b generalizing c t e with
  | case1 tree b =>
    subst hb
    cases h
    exact ⟨c, by rw [readBlocks], rfl⟩
  | case2 => cases h
  | case3 tree b block outer hbrace u d hclose ih =>
    subst hb
    have hd := he.of_onward (onward_readBlocks settings tree outer) h
    unfold closeBlock at hclose
    simp only [bind_eq_ok, forward_eq_ok, pure_eq_ok] at hclose
    rcases hclose with ⟨_, _, rfl, _, _, hskip, -, rfl⟩
    rcases pass_of_leaves hz hbrace hskip hd with ⟨hbrace', d, hskip', rfl⟩
    have hclose' : Grammar.pass c = .ok () d := by
      simp [Grammar.pass, hskip']
    rw [readBlocks_of_brace hbrace', hclose']
    exact ih he rfl h
  | case4 => cases h
  | case5 tree b block outer hbrace header opens d hchild =>
    rename_i ih
    subst hb
    have hd := he.of_onward (onward_readBlocks settings _ _) h
    rcases ignores_readChild hz _ hchild hd with ⟨d, hchild', rfl⟩
    have hbrace' : c.current? ≠ some '\x7d' := fun hc => hbrace (current?_followedBy_of_some hc z)
    rw [readBlocks_of_child hbrace' hchild']
    exact ih he rfl h

theorem ignores_readStatement (hz : Shape.gap z = .none) :
    Ignores z (Leaves z) (readStatement settings) := by
  intro c t e h he
  rcases bind_eq_ok.1 h with ⟨header, d, hheader, h⟩
  rcases bind_eq_ok.1 h with ⟨opens, f, hmark, hblocks⟩
  have hf := he.of_onward (onward_readBlocks settings _ _) hblocks
  have hd := hf.of_onward (onward_readTerminator _) hmark
  rcases ignores_readHeader hz hheader hd with ⟨d, hheader', rfl⟩
  rcases ignores_readTerminator hz _ hmark hf with ⟨f, hmark', rfl⟩
  rcases ignores_readBlocks hz _ _ hblocks he with ⟨g, hblocks', rfl⟩
  refine ⟨g, ?_, rfl⟩
  exact bind_eq_ok.2 ⟨header, d, hheader', bind_eq_ok.2 ⟨opens, f, hmark', hblocks'⟩⟩

theorem gap_of_skipSpace {b : Bool} (h : skipSpace c = .ok b e) : Shape.gap e.rest = .none :=
  gap_of_skipGaps (skipGaps_of_skipSpace h)

theorem gap_of_readTerminator {keyword : String} {opens : Bool}
    (h : readTerminator keyword c = .ok opens e) : Shape.gap e.rest = .none := by
  unfold readTerminator at h
  simp only [bind_eq_ok, current?_eq_ok] at h
  rcases h with ⟨_, _, ⟨rfl, rfl⟩, h⟩
  split at h
  · simp only [bind_eq_ok, pure_eq_ok] at h
    rcases h with ⟨_, _, -, _, _, hskip, -, rfl⟩
    exact gap_of_skipSpace hskip
  · exact absurd h fail_ne_ok

theorem gap_of_readBlocks {tree t : StatementTree} {blocks : List OpenBlock}
    (h : readBlocks settings tree blocks c = .ok t e) (hc : Shape.gap c.rest = .none) :
    Shape.gap e.rest = .none := by
  fun_induction readBlocks settings tree blocks c with
  | case1 =>
    cases h
    exact hc
  | case2 => cases h
  | case3 tree c block outer _ u d hclose ih =>
    unfold closeBlock at hclose
    simp only [bind_eq_ok, pure_eq_ok] at hclose
    rcases hclose with ⟨_, _, -, _, _, hskip, -, rfl⟩
    exact ih h (gap_of_skipSpace hskip)
  | case4 => cases h
  | case5 tree c block outer _ header opens d hchild child grown ih =>
    unfold readChild at hchild
    simp only [bind_eq_ok, current?_eq_ok] at hchild
    rcases hchild with ⟨_, _, ⟨rfl, rfl⟩, hchild⟩
    split at hchild
    · simp only [bind_eq_ok, pure_eq_ok] at hchild
      rcases hchild with ⟨_, _, -, _, _, hmark, -, rfl⟩
      exact ih h (gap_of_readTerminator hmark)
    · exact absurd hchild fail_ne_ok

theorem gap_of_readStatement {t : StatementTree} (h : readStatement settings c = .ok t e) :
    Shape.gap e.rest = .none := by
  rcases bind_eq_ok.1 h with ⟨header, d, -, h⟩
  rcases bind_eq_ok.1 h with ⟨opens, f, hmark, hblocks⟩
  exact gap_of_readBlocks hblocks (gap_of_readTerminator hmark)

end Scan

/-- What a reading that succeeds leaves unread has no part in it. The text up to where the reading
ended is a document, with the same tree, the same offset and the same end. -/
theorem parseDocument_take_of_parseStatement {text : String} {settings : ParserSettings}
    {p : Parsed} (h : parseStatement text settings = .ok p) :
    parseDocument (String.ofList (text.toList.take p.stop.offset)) settings =
      .ok { p with stop := { p.stop with rest := [] } } := by
  rcases parseStatement_eq_ok.1 h with ⟨b, c, hskip, hread⟩
  have hz := Scan.gap_of_readStatement hread
  have hstop : p.stop.Stands text.toList :=
    ((Cursor.stands_ofText text).reaches (Scan.onward_skipSpace.of_ok hskip)).reaches
      ((Scan.onward_readStatement settings).of_ok hread)
  have hleft : Scan.Leaves p.stop.rest p.stop := List.suffix_rfl
  have htext : Cursor.ofText text =
      (Cursor.ofText (String.ofList (text.toList.take p.stop.offset))).followedBy p.stop.rest := by
    simp [Cursor.ofText, Cursor.followedBy, hstop.rest]
  rw [htext] at hskip
  have hc := hleft.of_onward (Scan.onward_readStatement settings) hread
  rcases Scan.ignores_skipSpace hz hskip hc with ⟨c, hskip', rfl⟩
  rcases Scan.ignores_readStatement hz hread hleft with ⟨d, hread', hd⟩
  have hnil : d.rest = [] := by
    have hrest := congrArg Cursor.rest hd
    simpa using hrest
  have hparse : parseStatement (String.ofList (text.toList.take p.stop.offset)) settings =
      .ok ⟨p.tree, d⟩ :=
    parseStatement_eq_ok.2 ⟨b, c, hskip', hread'⟩
  have hend : d = { p.stop with rest := [] } := by
    rw [hd, ← hnil]
    rfl
  rw [parseDocument, hparse, hend]
  rfl

/-- A comment ends a word, another one stands before the remainder, and one is left open in it. -/
theorem parseDocument_take_of_comments :
    ∃ p, parseStatement "a b/*;*/; // c\nd /*" {} = .ok p ∧
      p.stop = ⟨"d /*".toList, 15, ⟨2, 1⟩⟩ ∧
      parseDocument "a b/*;*/; // c\n" {} = .ok ⟨p.tree, ⟨[], 15, ⟨2, 1⟩⟩⟩ := by
  have hreads : (parseStatement "a b/*;*/; // c\nd /*" {}).toOption.map (·.stop) =
      some ⟨"d /*".toList, 15, ⟨2, 1⟩⟩ := by
    decide +kernel
  rcases Option.map_eq_some_iff.1 hreads with ⟨p, hp, hstop⟩
  rw [toOption_eq_some] at hp
  have hdocument := parseDocument_take_of_parseStatement hp
  rw [hstop] at hdocument
  exact ⟨p, hp, hstop, hdocument⟩

end YangSchema
