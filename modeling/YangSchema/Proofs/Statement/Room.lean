import YangSchema.Proofs.Lexer.Room
import YangSchema.Proofs.Statement.KeywordPlace

/-!
# Room for the strings of a text

What the lead of a line of a string can have is written in the text, as it is or behind a backslash.
Where a tab for each of these characters leaves room, no reading of the text meets a limit, since it
goes on to an end of the text, which has no more of them.
-/
namespace YangSchema
open Dedent

namespace Shape

/-- A character that can stand for one of a lead: a character of the lead or the backslash of an
escape. -/
def bearsLead (c : Char) : Bool :=
  inLead c || c = '\\'

theorem countP_inLead_le (s : List Char) : s.countP inLead ≤ s.countP bearsLead :=
  List.countP_mono_left fun c _ h => by simp [bearsLead, h]

theorem countP_segment (quote : Option Char) (s : List Char) :
    (segment quote s).value.countP inLead + (s.drop (segment quote s).length).countP bearsLead ≤
      s.countP bearsLead := by
  fun_induction segment quote s with
  | case1 => simp
  | case2 c r h => simpa using (List.sublist_cons_self c r).countP_le
  | case3 => simp
  | case4 c _ hc e r v hv ih =>
    have hbears : bearsLead c = true := by simp_all [bearsLead]
    rw [Segment.cons, List.countP_cons, List.countP_cons_of_pos hbears, List.countP_cons,
      List.drop_succ_cons, List.drop_succ_cons]
    split <;> omega
  | case5 => simp
  | case6 c r _ _ ih =>
    have hle : (if inLead c = true then 1 else 0) ≤ if bearsLead c = true then 1 else 0 := by
      by_cases hc : inLead c = true <;> simp [bearsLead, hc]
    rw [Segment.cons, List.countP_cons, List.countP_cons, List.drop_succ_cons]
    omega

theorem wordTail_isPrefix (s : List Char) : wordTail s <+: s := by
  fun_induction wordTail s with
  | case1 => exact List.prefix_rfl
  | case2 => exact List.nil_prefix
  | case3 c r _ ih => exact (List.prefix_cons_inj c).2 ih

theorem word_isPrefix (s : List Char) : word s <+: s := by
  cases s with
  | nil => exact List.prefix_rfl
  | cons c r => exact (List.prefix_cons_inj c).2 (wordTail_isPrefix r)

end Shape

namespace Cursor

variable {settings : ParserSettings} {c d : Cursor}

/-- There is room for the strings of the text. -/
structure HasRoom (settings : ParserSettings) (c : Cursor) : Prop where
  column : 0 ≤ c.position.column
  leads : settings.tabWidth * c.rest.countP Shape.bearsLead < lengthLimit

theorem column_nonneg_advanceBy (h : 0 ≤ c.position.column) (n : Nat) :
    0 ≤ (c.advanceBy n).position.column := by
  induction n generalizing c with
  | zero => exact h
  | succ n ih =>
    refine ih ?_
    unfold advance positionAfter
    split
    · exact h
    · split
      · exact Int.one_nonneg
      · exact Int.add_nonneg h Int.one_nonneg

theorem Reaches.countP_le (h : c.Reaches d) (p : Char → Bool) :
    d.rest.countP p ≤ c.rest.countP p := by
  obtain ⟨n, rfl⟩ := h
  rw [advanceBy_rest]
  exact (List.drop_sublist n c.rest).countP_le

theorem HasRoom.reaches (hc : c.HasRoom settings) (h : c.Reaches d) : d.HasRoom settings where
  column := by
    obtain ⟨n, rfl⟩ := h
    exact column_nonneg_advanceBy hc.column n
  leads := mul_lt_of_le (h.countP_le _) hc.leads

end Cursor

namespace Scan

variable {settings : ParserSettings} {c d : Cursor} {v : List Char}

theorem countP_readSegment (h : readSegment c = .ok v d) :
    v.countP inLead + d.rest.countP Shape.bearsLead ≤ c.rest.countP Shape.bearsLead := by
  simp only [readSegment] at h
  split at h
  · cases h
    have htail := (List.tail_sublist c.rest).countP_le (p := Shape.bearsLead)
    have hsegment := Shape.countP_segment c.current? c.rest.tail
    simp only [Cursor.advanceBy_rest, Cursor.advance_rest]
    omega
  · cases h
  · cases h

theorem countP_readJoined (h : readJoined c = .ok v d) :
    v.countP inLead + d.rest.countP Shape.bearsLead ≤ c.rest.countP Shape.bearsLead := by
  fun_induction readJoined c generalizing v d with
  | case5 c _ b hskip₁ _ hplus _ f hskip₂ _ w g hsegment others k hothers ih =>
    cases h
    have hb := (onward_skipGaps.of_ok hskip₁).countP_le Shape.bearsLead
    have hf := (b.reaches_advance.trans (onward_skipGaps.of_ok hskip₂)).countP_le Shape.bearsLead
    have hg := countP_readSegment hsegment
    have hk := ih hothers
    rw [List.countP_append]
    omega
  | case7 c =>
    cases h
    simp
  | _ => cases h

theorem countP_readQuoted (h : readQuoted c = .ok v d) :
    v.countP inLead ≤ c.rest.countP Shape.bearsLead := by
  unfold readQuoted at h
  split at h
  · cases h
  · next first b hfirst =>
    split at h
    · cases h
    · next others f hothers =>
      cases h
      have hb := countP_readSegment hfirst
      have hf := countP_readJoined hothers
      rw [List.countP_append]
      omega

theorem countP_readWord (h : readWord c = .ok v d) :
    v.countP inLead ≤ c.rest.countP Shape.bearsLead := by
  simp only [readWord, bind_eq_ok, get_eq_ok, pure_eq_ok] at h
  obtain ⟨_, _, ⟨rfl, rfl⟩, _, _, -, rfl, -⟩ := h
  exact ((Shape.word_isPrefix c.rest).sublist.countP_le).trans (Shape.countP_inLead_le _)

/-- The reading fails for what the text is, and never at a limit. -/
def Limitless {α : Type} (m : Scan α) : Prop :=
  ∀ ⦃c e d⦄, m c = .error e d → e.fault.isLimit = false

/-- The reading goes on. A limit is met where it stops, and only if there is no room for the strings
of the text. -/
structure Roomy {α : Type} (settings : ParserSettings) (m : Scan α) : Prop where
  onward : Onward m
  limit : ∀ ⦃c e d⦄, m c = .error e d → e.fault.isLimit = true →
    e.position = d.position ∧ ¬ c.HasRoom settings

variable {α β : Type} {m : Scan α} {f : α → Scan β}

theorem Limitless.roomy (h : Limitless m) (hm : Onward m) : Roomy settings m where
  onward := hm
  limit c e d he hlimit := by
    rw [h he] at hlimit
    cases hlimit

theorem roomy_pure (a : α) : Roomy settings (pure a) :=
  Limitless.roomy (fun _ _ _ h => by cases h) (onward_pure a)

theorem roomy_get : Roomy settings get :=
  Limitless.roomy (fun _ _ _ h => by cases h) onward_get

theorem roomy_current? : Roomy settings current? :=
  Limitless.roomy (fun _ _ _ h => by cases h) onward_current?

theorem roomy_forward (n : Nat) : Roomy settings (forward n) :=
  Limitless.roomy (fun _ _ _ h => by cases h) (onward_forward n)

theorem roomy_failAt {fault : SyntaxFault} (h : fault.isLimit = false) (p : Position) :
    Roomy settings (failAt fault p : Scan α) := by
  refine Limitless.roomy (fun c e d he => ?_) (onward_failAt fault p)
  cases he
  exact h

theorem roomy_bind (h : Roomy settings m) (hf : ∀ a, Roomy settings (f a)) :
    Roomy settings (m >>= f) where
  onward := onward_bind h.onward fun a => (hf a).onward
  limit c e d he hlimit := by
    cases hm : m c with
    | error e' d' =>
      rw [bind_apply, hm] at he
      cases he
      exact h.limit hm hlimit
    | ok a d' =>
      rw [bind_apply, hm] at he
      obtain ⟨hplace, hroom⟩ := (hf a).limit he hlimit
      exact ⟨hplace, fun hc => hroom (hc.reaches (h.onward.of_ok hm))⟩

theorem roomy_fail {fault : SyntaxFault} (h : fault.isLimit = false) :
    Roomy settings (fail fault : Scan α) :=
  roomy_bind roomy_get fun c => roomy_failAt h c.position

theorem roomy_ite (p : Prop) [Decidable p] {m₁ m₂ : Scan α} (h₁ : Roomy settings m₁)
    (h₂ : Roomy settings m₂) : Roomy settings (if p then m₁ else m₂) := by
  split
  · exact h₁
  · exact h₂

theorem limitless_skipGaps : Limitless skipGaps := by
  intro c e d h
  fun_induction skipGaps c with
  | case1 => cases h
  | case2 c n _ ih => exact ih h
  | case3 =>
    cases h
    rfl

theorem limitless_skipSpace : Limitless skipSpace := by
  intro c e d h
  unfold skipSpace at h
  split at h
  · cases h
  · next hskip =>
    cases h
    exact limitless_skipGaps hskip

theorem roomy_skipSpace : Roomy settings skipSpace :=
  limitless_skipSpace.roomy onward_skipSpace

theorem limitless_readSegment : Limitless readSegment := by
  intro c e d h
  simp only [readSegment] at h
  split at h <;> cases h <;> rfl

theorem limitless_readJoined : Limitless readJoined := by
  intro c e d h
  fun_induction readJoined c with
  | case1 c _ _ hskip =>
    cases h
    exact limitless_skipGaps hskip
  | case2 c _ _ _ _ _ _ _ hskip =>
    cases h
    exact limitless_skipGaps hskip
  | case3 c _ _ _ _ _ _ _ _ _ _ _ hsegment =>
    cases h
    exact limitless_readSegment hsegment
  | case4 c _ _ _ _ _ _ _ _ _ _ _ _ _ _ hothers ih =>
    cases h
    exact ih hothers
  | case6 =>
    cases h
    rfl
  | _ => cases h

theorem limitless_readQuoted : Limitless readQuoted := by
  intro c e d h
  unfold readQuoted at h
  split at h
  · next hfirst =>
    cases h
    exact limitless_readSegment hfirst
  · split at h
    · next hothers =>
      cases h
      exact limitless_readJoined hothers
    · cases h

theorem limitless_readWord : Limitless readWord := by
  intro c e d h
  exact absurd h readWord_ne_error

/-- The value of a string fits as long as it has no more of leads than the text has. -/
theorem withoutLayout_of_hasRoom (hc : c.HasRoom settings)
    (hv : v.countP inLead ≤ c.rest.countP Shape.bearsLead) (d : Cursor) :
    ∃ text, withoutLayout settings c.position v d = .ok text d := by
  have hfit : allFit v c.position.column settings.tabWidth = true :=
    allFit_of_countP hc.column (mul_lt_of_le hv hc.leads)
  exact ⟨_, withoutLayout_eq_ok.2 ⟨by rw [strip?_of_allFit hfit, String.toList_ofList], rfl⟩⟩

/-- The string of a value is the only one for which there may be no room. -/
theorem limit_of_withoutLayout {m : Scan (List Char)} {e : SyntaxError} (hm : Limitless m)
    (hcount : ∀ ⦃v b⦄, m c = .ok v b → v.countP inLead ≤ c.rest.countP Shape.bearsLead)
    (h : (m >>= fun v => withoutLayout settings c.position v >>= fun text =>
      pure (some text)) c = .error e d) (hlimit : e.fault.isLimit = true) :
    e.position = d.position ∧ ¬ c.HasRoom settings := by
  cases hv : m c with
  | error e' b =>
    rw [bind_apply, hv] at h
    cases h
    rw [hm hv] at hlimit
    cases hlimit
  | ok v b =>
    simp only [bind_apply, hv, pure_apply] at h
    refine ⟨?_, fun hc => ?_⟩
    · unfold withoutLayout at h
      cases hstrip : strip? v c.position.column settings.tabWidth with
      | none =>
        rw [hstrip] at h
        cases h
        rfl
      | some text =>
        rw [hstrip] at h
        cases h
    · obtain ⟨text, htext⟩ := withoutLayout_of_hasRoom hc (hcount hv) b
      rw [htext] at h
      cases h

theorem roomy_readString? : Roomy settings (readString? settings) where
  onward := onward_readString? settings
  limit c e d h hlimit := by
    simp only [readString?, bind_apply, get_apply] at h
    split at h
    · exact limit_of_withoutLayout limitless_readQuoted (fun _ _ => countP_readQuoted) h hlimit
    · split at h
      · cases h
      · exact limit_of_withoutLayout limitless_readWord (fun _ _ => countP_readWord) h hlimit

theorem roomy_readIdentifier (policy : IdentifierPolicy) :
    Roomy settings (readIdentifier policy) := by
  refine roomy_bind roomy_get fun c => roomy_ite _ ?_ (roomy_fail rfl)
  exact roomy_bind (roomy_forward _) fun _ => roomy_ite _ (roomy_failAt rfl _) (roomy_pure _)

theorem roomy_readKeyword (policy : IdentifierPolicy) : Roomy settings (readKeyword policy) := by
  refine roomy_bind (roomy_readIdentifier policy) fun first => roomy_bind roomy_current? ?_
  refine fun _ => roomy_ite _ ?_ (roomy_pure _)
  exact roomy_bind (roomy_forward 1) fun _ =>
    roomy_bind (roomy_readIdentifier policy) fun _ => roomy_pure _

theorem roomy_readArgument? : Roomy settings (readArgument? settings) where
  onward := onward_readArgument? settings
  limit c e d h hlimit := by
    unfold readArgument? at h
    split at h
    · next hskip =>
      cases h
      exact roomy_skipSpace.limit hskip hlimit
    · cases h
    · next hskip =>
      split at h
      · next hstring =>
        cases h
        obtain ⟨hplace, hroom⟩ := roomy_readString?.limit hstring hlimit
        exact ⟨hplace, fun hc => hroom (hc.reaches (onward_skipSpace.of_ok hskip))⟩
      · cases h
      · cases h

theorem roomy_readHeader : Roomy settings (readHeader settings) :=
  roomy_bind roomy_get fun _ => roomy_bind (roomy_readKeyword _) fun _ =>
    roomy_bind roomy_readArgument? fun _ => roomy_bind roomy_skipSpace fun _ => roomy_pure _

theorem roomy_readTerminator (keyword : String) : Roomy settings (readTerminator keyword) := by
  refine roomy_bind roomy_current? fun found => roomy_ite _ ?_ (roomy_fail rfl)
  exact roomy_bind (roomy_forward 1) fun _ => roomy_bind roomy_skipSpace fun _ => roomy_pure _

theorem roomy_readChild (block : String) : Roomy settings (readChild settings block) := by
  refine roomy_bind roomy_current? fun found => roomy_ite _ ?_ (roomy_fail rfl)
  exact roomy_bind roomy_readHeader fun header =>
    roomy_bind (roomy_readTerminator _) fun _ => roomy_pure _

theorem roomy_closeBlock : Roomy settings closeBlock :=
  roomy_bind (roomy_forward 1) fun _ => roomy_bind roomy_skipSpace fun _ => roomy_pure _

/-- However many blocks are open, each reading begins at an end of the text. -/
theorem roomy_readBlocks (tree : StatementTree) (blocks : List OpenBlock) :
    Roomy settings (readBlocks settings tree blocks) := by
  refine ⟨onward_readBlocks settings tree blocks, fun c e d h hlimit => ?_⟩
  fun_induction readBlocks settings tree blocks c with
  | case1 => cases h
  | case2 tree c block outer _ _ _ hclose =>
    cases h
    exact roomy_closeBlock.limit hclose hlimit
  | case3 tree c block outer _ u b hclose ih =>
    obtain ⟨hplace, hroom⟩ := ih h
    exact ⟨hplace, fun hc => hroom (hc.reaches (onward_closeBlock.of_ok hclose))⟩
  | case4 tree c block outer _ _ _ hchild =>
    cases h
    exact (roomy_readChild _).limit hchild hlimit
  | case5 tree c block outer _ header opens b hchild child grown ih =>
    obtain ⟨hplace, hroom⟩ := ih h
    exact ⟨hplace, fun hc => hroom (hc.reaches ((onward_readChild settings _).of_ok hchild))⟩

theorem roomy_readStatement : Roomy settings (readStatement settings) :=
  roomy_bind roomy_readHeader fun _ =>
    roomy_bind (roomy_readTerminator _) fun _ => roomy_readBlocks _ _

end Scan

/-- A limit is met at the place of an offset of the text, and only where there is no room for its
strings. -/
theorem limit_of_parseDocument {text : String} {settings : ParserSettings} {e : SyntaxError}
    (h : parseDocument text settings = .error e) (hlimit : e.fault.isLimit = true) :
    (∃ p ≤ text.length, e.position = .ofOffset text.toList p) ∧
      lengthLimit ≤ settings.tabWidth * text.toList.countP Shape.bearsLead := by
  have hreading : Scan.Roomy settings (do let _ ← Scan.skipSpace; Scan.readStatement settings) :=
    Scan.roomy_bind Scan.roomy_skipSpace fun _ => Scan.roomy_readStatement
  rw [parseDocument] at h
  cases hparse : parseStatement text settings with
  | ok q =>
    rw [hparse, Except.bind, Parsed.asDocument] at h
    split at h
    · cases h
    · cases h
      cases hlimit
  | error e' =>
    rw [hparse] at h
    cases h
    simp only [parseStatement] at hparse
    split at hparse
    · cases hparse
    · next hread =>
      cases hparse
      obtain ⟨hplace, hroom⟩ := hreading.limit hread hlimit
      have hstands := (Cursor.stands_ofText text).reaches (hreading.onward.of_error hread)
      refine ⟨⟨_, hstands.offset_le, hplace.trans hstands.position⟩, ?_⟩
      exact Int.le_of_not_gt fun hlt => hroom ⟨Int.one_nonneg, hlt⟩

end YangSchema
