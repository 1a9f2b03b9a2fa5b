import YangSchema.Proofs.Statement.HeaderContinuation
import YangSchema.Proofs.Statement.Room
import YangSchema.Proofs.Statement.Stack

/-!
# Where a text stops being the start of a document

An error is reported at a place up to which the text can still be completed to a document. At every
place where the grammar refuses to go on there is something it would take instead, down to the end
of the document; and what was read before is read again when the rest is exchanged for it, though a
comment that never ends can make a word of everything up to the end of the text. Only where a tab is
so wide that there is no room for a lead does the reading of what was completed meet a limit.
-/
namespace YangSchema

namespace Grammar
open Relation Scan

variable {settings : ParserSettings} {c d : Cursor} {e : SyntaxError} {m : Char}
  {r x z : List Char}

/-! ### Texts that are statements -/

/-- The text starts with a statement, after which a given end of it is left, if there is room for
the strings of the statement. -/
def IsStatement (settings : ParserSettings) (x z : List Char) : Prop :=
  Admits (fun c => (statement settings c).outcome) x z

/-- The text starts with the rest of a block, whatever its keyword is. -/
def IsBlock (settings : ParserSettings) (x z : List Char) : Prop :=
  ∀ keyword, Admits (fun c => (block settings keyword c).outcome) x z

structure IsMark (m : Char) (x z : List Char) : Prop where
  head? : x.head? = some m
  accepts : Accepts pass x z

def Plain (x : List Char) : Prop :=
  Shape.gap x = .none

theorem accepts_pass (h : Accepts skipGaps x z) : Accepts pass (m :: x) z := by
  intro c hc
  have hrest : (c.advanceBy 1).rest = x := by rw [Cursor.advanceBy_rest, hc]; rfl
  obtain ⟨b, d, hd, hz⟩ := accepts_skipSpace_iff.2 h _ hrest
  exact ⟨(), d, by simp [pass, hd], hz⟩

theorem isMark_cons (hz : Plain z) : IsMark m (m :: z) z where
  head? := rfl
  accepts := accepts_pass (accepts_skipGaps_none hz)

theorem continues_mark (hr : c.current? = some m) (h : pass c = .ok () d) :
    Continues Plain (IsMark m) c d := by
  simp only [pass, bind_eq_ok, forward_eq_ok, pure_eq_ok] at h
  obtain ⟨_, _, rfl, b, _, hs, -, rfl⟩ := h
  obtain ⟨t, hpast, -, -, hx⟩ := skipSpace_continues hs
  exact ⟨_, (Cursor.past_of_current? hr).trans hpast, fun x z _ hxz _ =>
    ⟨rfl, accepts_pass (hx x z hxz)⟩⟩

theorem viable_mark (hr : c.current? = some m) (h : pass c = .error e d) :
    Viable Plain (IsMark m) c e.position := by
  simp only [pass, bind_apply, forward_apply, pure_apply] at h
  split at h
  · cases h
  · next hs =>
    cases h
    obtain ⟨t, d', hpast, he, hx⟩ := skipSpace_stops hs
    exact ⟨_, d', [], (Cursor.past_of_current? hr).trans hpast, he, by decide, fun k hk _ =>
      ⟨rfl, accepts_pass (hx k hk)⟩⟩

/-! ### The grammar, read from its parts -/

theorem isStatement_of_semicolon
    (h : Comp (Admits (header settings)) (IsMark ';') x z) : IsStatement settings x z := by
  obtain ⟨y, hheader, hmark⟩ := h
  intro c hc
  obtain ⟨e, d, hd, hlimit⟩ | ⟨a, d, hd, rfl⟩ := hheader c hc
  · exact .inl ⟨e, d, statement_of_header_error hd, hlimit⟩
  · obtain ⟨_, f, hf, hz⟩ := hmark.accepts d rfl
    refine .inr ⟨.node a [], f, ?_, hz⟩
    beta_reduce
    rw [statement_of_semicolon hd (List.cons_head?_tail hmark.head?).symm, map_apply, hf]

theorem isStatement_of_brace
    (h : Comp (Admits (header settings)) (Comp (IsMark '\x7b') (IsBlock settings)) x z) :
    IsStatement settings x z := by
  obtain ⟨y, hheader, u, hmark, hblock⟩ := h
  intro c hc
  obtain ⟨e, d, hd, hlimit⟩ | ⟨a, d, hd, rfl⟩ := hheader c hc
  · exact .inl ⟨e, d, statement_of_header_error hd, hlimit⟩
  · obtain ⟨_, f, hf, hfrest⟩ := hmark.accepts d rfl
    have hstatement := statement_of_brace hd (List.cons_head?_tail hmark.head?).symm
    simp only [hf] at hstatement
    obtain ⟨e, g, hg, hlimit⟩ | ⟨row, g, hg, hz⟩ := hblock a.keyword f hfrest
    · exact .inl ⟨e, g, hstatement.trans (Taken.map_of_error hg _), hlimit⟩
    · exact .inr ⟨.node a row, g, hstatement.trans (Taken.map_of_ok hg _), hz⟩

theorem isBlock_of_brace (h : IsMark '\x7d' x z) : IsBlock settings x z := by
  intro keyword c hc
  obtain ⟨_, d, hd, hz⟩ := h.accepts c hc
  have hcur : c.current? = some '\x7d' := by rw [Cursor.current?, hc, h.head?]
  have hstart : c.current?.any (Shape.mayStart settings.identifierPolicy) = false := by
    rw [hcur]
    exact mayStart_brace _
  refine .inr ⟨[], d, ?_, hz⟩
  beta_reduce
  rw [block_of_brace hstart (List.cons_head?_tail hcur).symm, map_apply, hd]

theorem starts_of_statement {s : SyntaxTree} (hs : (statement settings c).outcome = .ok s d) :
    c.current?.any (Shape.mayStart settings.identifierPolicy) = true := by
  cases hheader : header settings c with
  | ok h d => exact mayStart_of_readHeader (header_eq_readHeader settings ▸ hheader)
  | error e d =>
    rw [statement_of_header_error hheader] at hs
    cases hs

/-- A limit is met behind a keyword only. -/
theorem starts_of_exceeds (h : Exceeds (statement settings c).outcome) :
    c.current?.any (Shape.mayStart settings.identifierPolicy) = true := by
  rw [← Bool.not_eq_false]
  intro hc
  have hheader : header settings c =
      .error ⟨.identifierExpected c.current?, c.position⟩ c := by
    rw [header_eq_readHeader]
    simp [readHeader, readKeyword, readIdentifier_of_not_mayStart hc]
  obtain ⟨e, d, he, hlimit⟩ := h
  rw [statement_of_header_error hheader] at he
  cases he
  cases hlimit

theorem isBlock_of_statement (h : Comp (IsStatement settings) (IsBlock settings) x z) :
    IsBlock settings x z := by
  obtain ⟨y, hstatement, hblock⟩ := h
  intro keyword c hc
  obtain hexceeds | ⟨s, d, hs, hd⟩ := hstatement c hc
  · have hstarts := starts_of_exceeds hexceeds
    obtain ⟨e, d, he, hlimit⟩ := hexceeds
    refine .inl ⟨e, d, ?_, hlimit⟩
    simp only [block_of_statement hstarts, he]
  · have hrow := @block_of_statement settings c keyword (starts_of_statement hs)
    simp only [hs] at hrow
    obtain ⟨e, f, hf, hlimit⟩ | ⟨row, f, hf, hz⟩ := hblock keyword d hd
    · exact .inl ⟨e, f, hrow.trans (Taken.map_of_error hf _), hlimit⟩
    · exact .inr ⟨s :: row, f, hrow.trans (Taken.map_of_ok hf _), hz⟩

theorem plain_of_mayStart {policy : IdentifierPolicy}
    (h : x.head?.any (Shape.mayStart policy) = true) : Plain x := by
  cases x with
  | nil => rfl
  | cons ch x => exact gap_of_mayStart x h

theorem IsStatement.plain (h : IsStatement settings x z) : Plain x := by
  obtain hexceeds | ⟨s, d, hs, -⟩ := h { rest := x } rfl
  · exact plain_of_mayStart (starts_of_exceeds hexceeds)
  · exact plain_of_mayStart (starts_of_statement hs)

theorem IsBlock.plain (h : IsBlock settings x z) : Plain x := by
  cases hx : x.head?.any (Shape.mayStart settings.identifierPolicy) with
  | true => exact plain_of_mayStart hx
  | false =>
    by_cases hb : x.head? = some '\x7d'
    · rw [← List.cons_head?_tail hb]
      rfl
    · have hneither := @block_of_neither settings { rest := x } "" hx hb
      obtain ⟨e, d, he, hlimit⟩ | ⟨row, d, hrow, -⟩ := h "" { rest := x } rfl
      · cases hneither.symm.trans he
        cases hlimit
      · cases hneither.symm.trans hrow

/-! ### Everything read is read again, and what breaks off can be completed -/

theorem IsMark.terminates (h : IsMark m x z) (hm : m = ';' ∨ m = '\x7b') : Terminates x := by
  obtain rfl | rfl := hm
  · exact .inl h.head?
  · exact .inr h.head?

theorem terminates_of_brace {S : List Char → List Char → Prop}
    (h : Comp (IsMark '\x7b') S x z) : Terminates x := by
  obtain ⟨_, hmark, -⟩ := h
  exact hmark.terminates (.inr rfl)

theorem closes (hz : Plain z) : IsBlock settings ('\x7d' :: z) z :=
  isBlock_of_brace (isMark_cons hz)

theorem continues_header {h : Header} (hh : header settings c = .ok h d) :
    Continues Terminates (Admits (header settings)) c d := by
  rw [header_eq_readHeader] at hh ⊢
  exact readHeader_continues hh

theorem viable_header (hh : header settings c = .error e d) (hlimit : e.fault.isLimit = false) :
    Viable Terminates (Admits (header settings)) c e.position := by
  rw [header_eq_readHeader] at hh ⊢
  exact readHeader_stops hh hlimit

mutual

theorem continues_statement {c d : Cursor} {s : SyntaxTree}
    (hs : (statement settings c).outcome = .ok s d) :
    Continues Plain (IsStatement settings) c d := by
  cases hh : header settings c with
  | error e f =>
    rw [statement_of_header_error hh] at hs
    cases hs
  | ok h f =>
    have hf : f.rest.length < c.rest.length := (leading settings c).forward hh
    have hheader := continues_header hh
    by_cases hm : f.current? = some ';'
    · rw [statement_of_semicolon hh (List.cons_head?_tail hm).symm, map_apply] at hs
      split at hs
      · next hp =>
        cases hs
        exact (hheader.comp (continues_mark hm hp) (fun _ _ hx => hx.terminates (.inl rfl))
          fun _ => Terminates.gap).mono fun _ _ => isStatement_of_semicolon
      · cases hs
    · by_cases hb : f.current? = some '\x7b'
      · have hrest := (List.cons_head?_tail hb).symm
        rw [statement_of_brace hh hrest] at hs
        split at hs
        · next g hp =>
          have hg := length_lt_of_pass (fun hnil => by rw [hnil] at hrest; cases hrest) hp
          obtain ⟨row, hrow, rfl⟩ := exists_of_map_ok hs
          have hblock := (continues_mark hb hp).comp (continues_block hrow)
            (fun _ _ => IsBlock.plain) fun _ => id
          exact (hheader.comp hblock (fun _ _ => terminates_of_brace)
            fun _ => Terminates.gap).mono fun _ _ => isStatement_of_brace
        · cases hs
      · rw [statement_of_no_mark hh hm hb] at hs
        cases hs
termination_by (c.rest.length, 0)

theorem continues_block {c d : Cursor} {keyword : String} {row : List SyntaxTree}
    (hs : (block settings keyword c).outcome = .ok row d) :
    Continues Plain (IsBlock settings) c d := by
  cases hc : c.current?.any (Shape.mayStart settings.identifierPolicy) with
  | true =>
    rw [block_of_statement hc] at hs
    split at hs
    · next s f hs₁ =>
      have hf := (statement settings c).forward hs₁
      obtain ⟨r, hr, rfl⟩ := exists_of_map_ok hs
      exact ((continues_statement hs₁).comp (continues_block hr) (fun _ _ => IsBlock.plain)
        fun _ => id).mono fun _ _ => isBlock_of_statement
    · cases hs
  | false =>
    by_cases hb : c.current? = some '\x7d'
    · rw [block_of_brace hc (List.cons_head?_tail hb).symm, map_apply] at hs
      split at hs
      · next hp =>
        cases hs
        exact (continues_mark hb hp).mono fun _ _ => isBlock_of_brace
      · cases hs
    · rw [block_of_neither hc hb] at hs
      cases hs
termination_by (c.rest.length, 1)

end

mutual

theorem viable_statement {c d : Cursor} {e : SyntaxError}
    (hs : (statement settings c).outcome = .error e d) (hlimit : e.fault.isLimit = false) :
    Viable Plain (IsStatement settings) c e.position := by
  cases hh : header settings c with
  | error e' f =>
    rw [statement_of_header_error hh] at hs
    cases hs
    refine ((viable_header hh hlimit).before (w := [';']) (by decide) fun k hk => ?_).mono
      fun _ _ => isStatement_of_semicolon
    exact ⟨.inl rfl, isMark_cons hk⟩
  | ok h f =>
    have hf : f.rest.length < c.rest.length := (leading settings c).forward hh
    have hheader := continues_header hh
    by_cases hm : f.current? = some ';'
    · rw [statement_of_semicolon hh (List.cons_head?_tail hm).symm, map_apply] at hs
      split at hs
      · cases hs
      · next hp =>
        cases hs
        exact (Viable.after hheader (viable_mark hm hp) (fun _ _ hx => hx.terminates (.inl rfl))
          fun _ => Terminates.gap).mono fun _ _ => isStatement_of_semicolon
    · by_cases hb : f.current? = some '\x7b'
      · have hrest := (List.cons_head?_tail hb).symm
        rw [statement_of_brace hh hrest] at hs
        have hblock : Viable Plain (Comp (IsMark '\x7b') (IsBlock settings)) f e.position := by
          split at hs
          · next g hp =>
            have hg := length_lt_of_pass (fun hnil => by rw [hnil] at hrest; cases hrest) hp
            exact (Viable.after (continues_mark hb hp) (viable_block (error_of_map_error hs) hlimit)
              (fun _ _ => IsBlock.plain) fun _ => id)
          · next hp =>
            cases hs
            exact (viable_mark hb hp).before (w := ['\x7d']) (by decide) fun k hk =>
              ⟨rfl, closes hk⟩
        exact (Viable.after hheader hblock (fun _ _ => terminates_of_brace)
          fun _ => Terminates.gap).mono fun _ _ => isStatement_of_brace
      · rw [statement_of_no_mark hh hm hb] at hs
        cases hs
        have hend : Viable Plain (IsMark ';') d d.position :=
          viable_here (w := [';']) (by decide) (fun k hk => isMark_cons hk) d
        exact (Viable.after hheader hend (fun _ _ hx => hx.terminates (.inl rfl))
          fun _ => Terminates.gap).mono fun _ _ => isStatement_of_semicolon
termination_by (c.rest.length, 0)

theorem viable_block {c d : Cursor} {e : SyntaxError} {keyword : String}
    (hs : (block settings keyword c).outcome = .error e d) (hlimit : e.fault.isLimit = false) :
    Viable Plain (IsBlock settings) c e.position := by
  cases hc : c.current?.any (Shape.mayStart settings.identifierPolicy) with
  | true =>
    rw [block_of_statement hc] at hs
    refine Viable.mono (R := Comp (IsStatement settings) (IsBlock settings)) ?_
      fun _ _ => isBlock_of_statement
    split at hs
    · next s f hs₁ =>
      have hf := (statement settings c).forward hs₁
      exact Viable.after (continues_statement hs₁) (viable_block (error_of_map_error hs) hlimit)
        (fun _ _ => IsBlock.plain) fun _ => id
    · next hs₁ =>
      cases hs
      exact (viable_statement hs₁ hlimit).before (w := ['\x7d']) (by decide) fun k hk =>
        ⟨rfl, closes hk⟩
  | false =>
    by_cases hb : c.current? = some '\x7d'
    · rw [block_of_brace hc (List.cons_head?_tail hb).symm, map_apply] at hs
      split at hs
      · cases hs
      · next hp =>
        cases hs
        exact (viable_mark hb hp).mono fun _ _ => isBlock_of_brace
    · rw [block_of_neither hc hb] at hs
      cases hs
      exact viable_here (w := ['\x7d']) (by decide) (fun k hk => closes hk) c
termination_by (c.rest.length, 1)

end

/-! ### Documents -/

theorem continues_skipSpace {b : Bool} (h : skipSpace c = .ok b d) :
    Continues Plain (Accepts skipGaps) c d := by
  obtain ⟨t, hpast, -, -, hx⟩ := skipSpace_continues h
  exact ⟨t, hpast, fun x z _ hxz _ => hx x z hxz⟩

theorem viable_skipSpace (h : skipSpace c = .error e d) :
    Viable Plain (Accepts skipGaps) c e.position := by
  obtain ⟨t, d', hpast, he, hx⟩ := skipSpace_stops h
  exact ⟨t, d', [], hpast, he, by decide, fun k hk _ => hx k hk⟩

def IsDocument (settings : ParserSettings) : List Char → List Char → Prop :=
  Comp (Accepts skipGaps) (IsStatement settings)

theorem isStatement_shortest (hz : Plain z) : IsStatement settings ('a' :: ';' :: z) z := by
  refine isStatement_of_semicolon ⟨';' :: z, ?_, isMark_cons hz⟩
  rw [header_eq_readHeader]
  exact admits_header (t := ['a']) (fun _ hx => accepts_name (isName_singleton _) hx)
    (tail_of_none (accepts_skipGaps_none rfl) (.inl rfl))

theorem viable_document {text : String} (h : parseDocument text settings = .error e)
    (hlimit : e.fault.isLimit = false) :
    Viable (· = []) (IsDocument settings) (Cursor.ofText text) e.position := by
  rw [parseDocument, parseStatement_eq] at h
  cases hskip : skipSpace (Cursor.ofText text) with
  | error e' c =>
    simp only [hskip, Except.bind, Except.error.injEq] at h
    subst h
    refine (viable_skipSpace hskip).before (w := ['a', ';']) (by decide) ?_
    rintro _ rfl
    exact ⟨rfl, isStatement_shortest rfl⟩
  | ok b c =>
    refine Viable.after (continues_skipSpace hskip) ?_ (fun _ _ => IsStatement.plain) fun _ => id
    simp only [hskip] at h
    cases hs : (statement settings c).outcome with
    | error e' d =>
      simp only [hs, Except.bind, Except.error.injEq] at h
      subst h
      refine (viable_statement hs hlimit).imp ?_
      rintro _ rfl
      rfl
    | ok s d =>
      simp only [hs, Except.bind, Parsed.asDocument] at h
      split at h
      · cases h
      · next hend =>
        cases h
        refine (continues_statement hs).viable (by simpa [Cursor.atEnd] using hend) ?_
        rintro _ rfl
        exact ⟨rfl, rfl⟩

theorem parses_of_isDocument {text : String} (h : IsDocument settings text.toList []) :
    (∃ q, parseDocument text settings = .ok q) ∨
      ∃ e, parseDocument text settings = .error e ∧ e.fault.isLimit = true := by
  obtain ⟨x, hspace, hstatement⟩ := h
  obtain ⟨b, c, hskip, hc⟩ := accepts_skipSpace_iff.2 hspace (Cursor.ofText text) rfl
  rw [parseDocument, parseStatement_eq, hskip]
  obtain ⟨e, d, he, hlimit⟩ | ⟨s, d, hs, hd⟩ := hstatement c hc
  · refine .inr ⟨e, ?_, hlimit⟩
    simp only [he, Except.bind]
  · refine .inl ⟨⟨s.arena, d⟩, ?_⟩
    simp only [hs, Except.bind, Parsed.asDocument, Cursor.atEnd, hd, List.isEmpty_nil, if_true]

end Grammar

/-! ### Errors -/

/-- Whether the start of a text, up to an offset, is the start of a document. -/
def Extendable (text : String) (settings : ParserSettings) (p : Nat) : Prop :=
  ∃ s q, parseDocument (String.ofList (text.toList.take p) ++ s) settings = .ok q

theorem Extendable.mono {text : String} {settings : ParserSettings} {n p : Nat}
    (h : Extendable text settings p) (hn : n ≤ p) : Extendable text settings n := by
  obtain ⟨s, q, hq⟩ := h
  refine ⟨String.ofList ((text.toList.take p).drop n) ++ s, q, ?_⟩
  rw [← String.append_assoc, ← String.ofList_append]
  have htake : text.toList.take n = (text.toList.take p).take n := by
    rw [List.take_take, Nat.min_eq_left hn]
  rw [htake, List.take_append_drop]
  exact hq

/-- Whether the start of a text, up to an offset, can be completed so that nothing but a limit keeps
it from being a document. -/
def Completable (text : String) (settings : ParserSettings) (p : Nat) : Prop :=
  ∃ s, ∀ e, parseDocument (String.ofList (text.toList.take p) ++ s) settings = .error e →
    e.fault.isLimit = true

theorem exists_of_viable {text : String} {settings : ParserSettings} {p : Position}
    (h : Scan.Viable (· = []) (Grammar.IsDocument settings) (Cursor.ofText text) p) :
    ∃ n ≤ text.length, p = .ofOffset text.toList n ∧ ∃ w, Scan.Completing w ∧
      ∀ e, parseDocument (String.ofList (text.toList.take n) ++ String.ofList w) settings =
        .error e → e.fault.isLimit = true := by
  obtain ⟨t, d, w, hpast, rfl, hw, hk⟩ := h
  have htext : text.toList = t ++ d.rest := hpast.rest
  have hlen : t.length ≤ text.toList.length := by simp [htext]
  refine ⟨t.length, hlen, ?_, w, hw, fun e he => ?_⟩
  · rw [hpast.stop, Position.ofOffset_eq hlen]
  · have hdoc := hk [] rfl List.not_mem_nil
    have htake : (t ++ d.rest).take t.length = t := List.take_left
    rw [List.append_nil, ← htake, ← htext] at hdoc
    have htoList : (String.ofList (text.toList.take t.length) ++ String.ofList w).toList =
        text.toList.take t.length ++ w := by simp
    obtain ⟨q, hq⟩ | ⟨e', he', hlimit⟩ := Grammar.parses_of_isDocument (htoList ▸ hdoc)
    · cases hq.symm.trans he
    · cases he'.symm.trans he
      exact hlimit

/-- Every error has the place of an offset of the text. -/
theorem exists_offset_of_error {text : String} {settings : ParserSettings} {e : SyntaxError}
    (h : parseDocument text settings = .error e) :
    ∃ p ≤ text.length, e.position = .ofOffset text.toList p := by
  cases he : e.fault.isLimit with
  | false =>
    obtain ⟨p, hp, hposition, -⟩ := exists_of_viable (Grammar.viable_document h he)
    exact ⟨p, hp, hposition⟩
  | true => exact (limit_of_parseDocument h he).1

/-- What completes a text needs no room. -/
theorem countP_of_completing {w : List Char} (hw : Scan.Completing w) :
    w.countP Shape.bearsLead = 0 := by
  have hnone : ['\n', '"', ';', '\x7d', 'a'].countP Shape.bearsLead = 0 := by decide
  exact List.countP_eq_zero.2 fun ch hch => List.countP_eq_zero.1 hnone ch (hw ch hch)

/-- An error is reported at the place of an offset up to which the text can still be completed, and
where tabs of the text leave room, to a document: the place is never behind the first one where it
cannot. -/
theorem extendable_of_error {text : String} {settings : ParserSettings} {e : SyntaxError}
    (h : parseDocument text settings = .error e) (he : e.fault.isLimit = false) :
    ∃ p ≤ text.length, e.position = .ofOffset text.toList p ∧ Completable text settings p ∧
      (settings.tabWidth * text.length < Dedent.lengthLimit → Extendable text settings p ∧
        ∀ n, ¬ Extendable text settings n → p < n) := by
  obtain ⟨p, hp, hposition, w, hw, hcomplete⟩ := exists_of_viable (Grammar.viable_document h he)
  refine ⟨p, hp, hposition, ⟨_, hcomplete⟩, fun hroom => ?_⟩
  have hcount : (text.toList.take p ++ w).countP Shape.bearsLead ≤ text.length := by
    rw [List.countP_append, countP_of_completing hw, Nat.add_zero]
    exact (List.take_sublist p _).countP_le.trans List.countP_le_length
  have hextends : Extendable text settings p := by
    cases hq : parseDocument (String.ofList (text.toList.take p) ++ String.ofList w) settings with
    | ok q => exact ⟨_, q, hq⟩
    | error e' =>
      obtain ⟨-, hleads⟩ := limit_of_parseDocument hq (hcomplete e' hq)
      have hlt := Dedent.mul_lt_of_le hcount hroom
      simp only [String.toList_append, String.toList_ofList] at hleads
      omega
  exact ⟨hextends, fun n hn => Nat.lt_of_not_le fun hle => hn (hextends.mono hle)⟩

/-- A slash and a star that begin no comment, since it would never end, are text of a word. -/
theorem extendable_of_error_in_word :
    parseDocument "a b/*c d" {} = .error ⟨.terminatorExpected "a" (some 'd'), ⟨1, 8⟩⟩ ∧
      ∃ p ≤ "a b/*c d".length, (⟨1, 8⟩ : Position) = .ofOffset "a b/*c d".toList p ∧
        Completable "a b/*c d" {} p ∧ Extendable "a b/*c d" {} p ∧
        ∀ n, ¬ Extendable "a b/*c d" {} n → p < n := by
  have herror : parseDocument "a b/*c d" {} =
      .error ⟨.terminatorExpected "a" (some 'd'), ⟨1, 8⟩⟩ := by
    decide +kernel
  obtain ⟨p, hp, hposition, hcompletable, hextendable⟩ := extendable_of_error herror rfl
  exact ⟨herror, p, hp, hposition, hcompletable, hextendable (by decide)⟩

end YangSchema
