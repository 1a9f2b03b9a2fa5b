import YangSchema.Proofs.Typedef.Grouping
import YangSchema.Proofs.Typedef.Outcome

/-!
# Reports of a statement

Whatever a step of building reports is added behind the earlier reports, and a step that only reads
statements leaves the rest of the state as it is. Up to the check of a default, every report of a
step names the statement of the step or one below it, and none is about a default. A step that adds
nothing has no part that does.
-/
namespace YangSchema

/-- The error tells of a default that is refused or that is no literal. -/
inductive SchemaError.AboutDefault : SchemaError → Prop
  | refused (type : Option Origin) (r : Restriction) : AboutDefault (.invalidDefault type r)
  | notALiteral (d : Statement) (v : Value) (root : String) :
    AboutDefault (.argumentParserError d (.notALiteral v root))

namespace StatementTree

inductive Within (tree : StatementTree) (s : Statement) : Statement → Prop
  | self : Within tree s s
  | child {c q : Statement} (h : Within tree s c) (hq : q ∈ tree.childStatements c) :
    Within tree s q

theorem Within.trans {tree : StatementTree} {s c q : Statement} (h : tree.Within s c)
    (hq : tree.Within c q) : tree.Within s q := by
  induction hq with
  | self => exact h
  | child _ hchild ih => exact .child ih hchild

end StatementTree

/-- The error names a statement or one below it, and is not about a default. -/
def SchemaError.Local (tree : StatementTree) (s : Statement) (e : SchemaError) : Prop :=
  ¬ e.AboutDefault ∧ ∃ q, tree.Within s q ∧ e.statement? = some q

theorem SchemaError.Local.below {tree : StatementTree} {s c : Statement} {e : SchemaError}
    (h : e.Local tree c) (hc : c ∈ tree.childStatements s) : e.Local tree s := by
  obtain ⟨hdefault, q, hq, hstatement⟩ := h
  exact ⟨hdefault, q, (StatementTree.Within.child .self hc).trans hq, hstatement⟩

namespace Build

variable {α β : Type} {P : SchemaError → Prop} {tree : StatementTree} {s q : Statement}
  {b b' : TypeBuilder}

/-- Whenever the step succeeds, it adds errors of one sort behind those that are there. -/
def Appends (P : SchemaError → Prop) (m : Build α) : Prop :=
  ∀ b a b', m b = .ok a b' → ∃ es, b'.errors = b.errors ++ es ∧ ∀ e ∈ es, P e

theorem appends_of_errors_eq {m : Build α} (h : ∀ b a b', m b = .ok a b' → b'.errors = b.errors) :
    Appends P m := by
  intro b a b' hm
  exact ⟨[], by rw [h b a b' hm, List.append_nil], by simp⟩

theorem appends_pure (a : α) : Appends P (pure a : Build α) := by
  apply appends_of_errors_eq
  rintro b a' b' ⟨⟩
  rfl

theorem appends_get : Appends P (get : Build TypeBuilder) := by
  apply appends_of_errors_eq
  rintro b a b' ⟨⟩
  rfl

theorem appends_bind {m : Build α} {f : α → Build β} (hm : Appends P m)
    (hf : ∀ b a b', m b = .ok a b' → Appends P (f a)) : Appends P (m >>= f) := by
  intro b c b' h
  obtain ⟨a, d, ha, hc⟩ := bind_eq_ok.1 h
  obtain ⟨es, hes, hP⟩ := hm b a d ha
  obtain ⟨fs, hfs, hP'⟩ := hf b a d ha d c b' hc
  refine ⟨es ++ fs, by rw [hfs, hes, List.append_assoc], ?_⟩
  intro e he
  rcases List.mem_append.1 he with he | he
  · exact hP e he
  · exact hP' e he

theorem Appends.isPrefix {m : Build α} {a : α} (hm : Appends P m) (h : m b = .ok a b') :
    b.errors <+: b'.errors := by
  obtain ⟨es, hes, -⟩ := hm b a b' h
  exact ⟨es, hes.symm⟩

/-- If nothing is reported from the first to the last of three states, then nothing between them. -/
theorem errors_eq_of_isPrefix {d : TypeBuilder} (h : b.errors <+: d.errors)
    (h' : d.errors <+: b'.errors) (he : b'.errors = b.errors) :
    d.errors = b.errors ∧ b'.errors = d.errors := by
  rw [he] at h' ⊢
  have heq := h.eq_of_length (Nat.le_antisymm h.length_le h'.length_le)
  exact ⟨heq.symm, heq⟩

/-! ### Reports and nothing else -/

/-- Whenever the step succeeds, nothing of the state is changed, apart from reports of one sort. -/
def Reports (P : SchemaError → Prop) (m : Build α) : Prop :=
  ∀ b a b', m b = .ok a b' → ∃ es, b' = b.reporting es ∧ ∀ e ∈ es, P e

theorem Reports.appends {m : Build α} (h : Reports P m) : Appends P m := by
  intro b a b' hm
  obtain ⟨es, rfl, hP⟩ := h b a b' hm
  exact ⟨es, rfl, hP⟩

theorem Reports.mono {m : Build α} {Q : SchemaError → Prop} (h : Reports P m)
    (hPQ : ∀ e, P e → Q e) : Reports Q m := by
  intro b a b' hm
  obtain ⟨es, hes, hP⟩ := h b a b' hm
  exact ⟨es, hes, fun e he => hPQ e (hP e he)⟩

theorem reports_pure (a : α) : Reports P (pure a : Build α) := by
  rintro b _ _ ⟨⟩
  exact ⟨[], by simp, by simp⟩

theorem reports_get : Reports P (get : Build TypeBuilder) := by
  rintro b _ _ ⟨⟩
  exact ⟨[], by simp, by simp⟩

theorem reports_bind {m : Build α} {f : α → Build β} (hm : Reports P m)
    (hf : ∀ b a b', m b = .ok a b' → Reports P (f a)) : Reports P (m >>= f) := by
  intro b c b' h
  obtain ⟨a, d, ha, hc⟩ := bind_eq_ok.1 h
  obtain ⟨es, rfl, hP⟩ := hm b a d ha
  obtain ⟨fs, rfl, hP'⟩ := hf b a _ ha _ c b' hc
  refine ⟨es ++ fs, by simp, ?_⟩
  intro e he
  rcases List.mem_append.1 he with he | he
  · exact hP e he
  · exact hP' e he

/-- If nothing is reported, neither of two steps reports anything. -/
theorem Reports.quiet {m : Build α} {f : α → Build β} {Q : SchemaError → Prop} {c : β}
    (hm : Reports P m) (hf : ∀ a, Reports Q (f a)) (h : (m >>= f) b = .ok c b) :
    ∃ a, m b = .ok a b ∧ f a b = .ok c b := by
  obtain ⟨a, d, ha, hc⟩ := bind_eq_ok.1 h
  obtain ⟨es, rfl, -⟩ := hm b a d ha
  obtain ⟨fs, hfs, -⟩ := hf a _ c b hc
  rw [TypeBuilder.reporting_reporting, eq_comm, TypeBuilder.reporting_eq_self] at hfs
  obtain ⟨rfl, -⟩ := List.append_eq_nil_iff.1 hfs
  rw [TypeBuilder.reporting_nil] at ha hc
  exact ⟨a, ha, hc⟩

theorem reports_addErrors {es : List SchemaError} (h : ∀ e ∈ es, P e) :
    Reports P (addErrors es) := by
  rintro b a b' ⟨⟩
  exact ⟨es, rfl, h⟩

theorem reports_addError {e : SchemaError} (h : P e) : Reports P (addError e) := by
  apply reports_addErrors
  simpa using h

theorem reports_reject {e : SchemaError} (h : P e) : Reports P (reject e : Build (Option α)) :=
  reports_bind (reports_addError h) fun _ _ _ _ => reports_pure none

/-! ### Sub-statements and arguments -/

/-- An error about a statement that is none of a default. -/
theorem local_of_statement {e : SchemaError} (h : e.statement? = some q) (hd : ¬ e.AboutDefault)
    (hq : tree.Within s q) : e.Local tree s :=
  ⟨hd, q, hq, h⟩

theorem reports_argument (hq : tree.Within s q) : Reports (·.Local tree s) (argument q) := by
  unfold argument
  split
  · exact reports_pure _
  · exact reports_reject (local_of_statement rfl (by rintro ⟨⟩) hq)

theorem reports_substatements (tree : StatementTree) (allowed : List Allowed) (s : Statement) :
    Reports (·.Local tree s) (substatements tree allowed s) := by
  rintro b a b' ⟨⟩
  refine ⟨_, rfl, fun e he => ?_⟩
  obtain ⟨c, hc, rfl | rfl⟩ := Substatements.exists_of_mem_errors he
  · exact local_of_statement rfl (by rintro ⟨⟩) (.child .self hc)
  · exact local_of_statement rfl (by rintro ⟨⟩) (.child .self hc)

abbrev below (tree : StatementTree) (allowed : List Allowed) (s : Statement) : Substatements :=
  .of allowed (tree.childStatements s)

variable {allowed : List Allowed}

theorem mem_childStatements {keyword : String} (h : q ∈ (below tree allowed s).named keyword) :
    q ∈ tree.childStatements s :=
  (Substatements.mem_row.1 (Substatements.mem_of_named h)).1

theorem within_of_named {keyword : String} (h : q ∈ (below tree allowed s).named keyword) :
    tree.Within s q :=
  .child .self (mem_childStatements h)

theorem reports_argumentNamed (keyword : String) :
    Reports (·.Local tree s) (argumentNamed (below tree allowed s) keyword) := by
  unfold argumentNamed
  split
  · exact reports_pure none
  · next q row h => exact reports_argument (within_of_named (h ▸ List.mem_cons_self))

theorem reports_read (hq : tree.Within s q) (x : Argument α) :
    Reports (·.Local tree s) (read q x) := by
  rcases x with (f | f) | a
  · exact reports_reject (local_of_statement rfl (by rintro ⟨⟩) hq)
  · rintro b a b' ⟨⟩
  · exact reports_pure _

/-! ### Restrictions -/

theorem reports_notes (tree : StatementTree) (s : Statement) :
    Reports (·.Local tree s) (notes tree s) := by
  apply reports_bind (reports_substatements tree _ s)
  rintro _ _ _ ⟨⟩
  apply reports_bind (reports_argumentNamed _)
  intro _ _ _ _
  apply reports_bind (reports_argumentNamed _)
  intro _ _ _ _
  apply reports_bind (reports_argumentNamed _)
  intro _ _ _ _
  apply reports_bind (reports_argumentNamed _)
  intro _ _ _ _
  exact reports_pure _

theorem reports_restrictionOf (tree : StatementTree) (s : Statement) (n : Notes)
    (c : Except RestrictionFault Condition) : Reports (·.Local tree s) (restrictionOf s n c) := by
  unfold restrictionOf
  split
  · exact reports_pure _
  · split
    · rintro b a b' ⟨⟩
    · exact reports_reject (local_of_statement rfl (by rintro ⟨⟩) .self)

theorem reports_finish (tree : StatementTree) (s : Statement)
    (c : Except RestrictionFault Condition) :
    Reports (·.Local tree s) (do restrictionOf s (← notes tree s) c) :=
  reports_bind (reports_notes tree s) fun _ n _ _ => reports_restrictionOf tree s n c

theorem reports_unexpected (tree : StatementTree) (s : Statement) :
    Reports (·.Local tree s) (reject (.unexpectedStatement s) : Build (Option α)) :=
  reports_reject (local_of_statement rfl (by rintro ⟨⟩) .self)

theorem reports_range (tree : StatementTree) (s : Statement) (base : TypeId) (text : String) :
    Reports (·.Local tree s) (range tree s base text) := by
  apply reports_bind reports_get
  intro _ b _ _
  dsimp only
  split
  · exact reports_unexpected tree s
  · apply reports_bind (reports_read .self _)
    intro _ parts _ _
    cases parts with
    | none => exact reports_pure none
    | some parts => exact reports_finish tree s _

theorem reports_length (tree : StatementTree) (s : Statement) (base : TypeId) (text : String) :
    Reports (·.Local tree s) (length tree s base text) := by
  apply reports_bind reports_get
  intro _ b _ _
  dsimp only
  split
  · apply reports_bind (reports_read .self _)
    intro _ parts _ _
    cases parts with
    | none => exact reports_pure none
    | some parts => exact reports_finish tree s _
  · exact reports_unexpected tree s

theorem reports_pattern (tree : StatementTree) (s : Statement) (base : TypeId) (text : String) :
    Reports (·.Local tree s) (pattern tree s base text) := by
  apply reports_bind reports_get
  intro _ b _ _
  split
  · exact reports_finish tree s _
  · exact reports_unexpected tree s

theorem reports_restriction (tree : StatementTree) (base : TypeId) (s : Statement) :
    Reports (·.Local tree s) (restriction tree base s) := by
  apply reports_bind (reports_argument .self)
  intro _ text _ _
  cases text with
  | none => exact reports_pure none
  | some text =>
    dsimp only
    split
    · exact reports_range tree s base text
    split
    · exact reports_length tree s base text
    split
    · exact reports_pattern tree s base text
    · exact reports_pure none

/-- Each report is about one statement of the row. -/
theorem reports_restrictions (tree : StatementTree) (base : TypeId) (row : List Statement) :
    Reports (fun e => ∃ q ∈ row, e.Local tree q) (restrictions tree base row) := by
  induction row with
  | nil => exact reports_pure []
  | cons q row ih =>
    apply reports_bind ((reports_restriction tree base q).mono fun e he => ?_)
    · intro _ _ _ _
      apply reports_bind (ih.mono fun e he => ?_)
      · intro _ _ _ _
        exact reports_pure _
      · obtain ⟨c, hc, he⟩ := he
        exact ⟨c, List.mem_cons_of_mem q hc, he⟩
    · exact ⟨q, List.mem_cons_self, he⟩

/-! ### Types -/

theorem reports_ofType (x : Except TypeFault α) : Reports P (ofType x) := by
  cases x with
  | error f => rintro b a b' ⟨⟩
  | ok a => exact reports_pure a

theorem appends_setStore (store : TypeStore) : Appends P (setStore store) := by
  apply appends_of_errors_eq
  rintro b a b' ⟨⟩
  rfl

theorem appends_fractionDigits (tree : StatementTree) (s : Statement) (base : TypeId) :
    Appends (·.Local tree s) (fractionDigits s (below tree Allowed.inType s) base) := by
  apply appends_bind appends_get
  intro _ b _ _
  dsimp only
  split
  · split
    · exact (reports_reject (local_of_statement rfl (by rintro ⟨⟩) .self)).appends
    · exact appends_pure _
  next d row hd =>
  have hwithin : tree.Within s d := within_of_named (hd ▸ List.mem_cons_self)
  split
  · apply appends_bind (reports_argument hwithin).appends
    intro _ text _ _
    cases text with
    | none => exact appends_pure none
    | some text =>
      apply appends_bind (reports_read hwithin _).appends
      intro _ digits _ _
      cases digits with
      | none => exact appends_pure none
      | some digits =>
        apply appends_bind appends_get
        intro _ b _ _
        apply appends_bind (reports_ofType _).appends
        intro _ store _ _
        apply appends_bind (appends_setStore store)
        intro _ _ _ _
        exact appends_pure _
  · apply appends_bind (reports_addError (local_of_statement rfl (by rintro ⟨⟩) hwithin)).appends
    intro _ _ _ _
    exact appends_pure _

theorem appends_primitive? (name : String) : Appends P (primitive? name) := by
  apply appends_bind appends_get
  intro _ b _ _
  split
  · exact appends_pure none
  · apply appends_bind (appends_setStore _)
    intro _ _ _ _
    exact appends_pure _

theorem appends_lookup (t : TypeName) : Appends P (lookup t) := by
  apply appends_bind appends_get
  intro _ b _ _
  split
  · split
    · exact appends_pure _
    · split
      · exact appends_primitive? t.name
      · exact appends_pure none
  · split
    · exact appends_pure _
    · exact appends_pure none

theorem appends_baseOf (tree : StatementTree) (s : Statement) (text : String) :
    Appends (·.Local tree s) (baseOf s text) := by
  apply appends_bind appends_get
  intro _ b _ _
  split
  · apply appends_bind (appends_lookup _)
    intro _ id _ _
    split
    · exact appends_pure _
    · exact (reports_reject (local_of_statement rfl (by rintro ⟨⟩) .self)).appends
  · exact (reports_reject (local_of_statement rfl (by rintro ⟨⟩) .self)).appends

/-- The statements that restrict a type: ranges, then lengths, then patterns. -/
def restricting (found : Substatements) : List Statement :=
  found.named "range" ++ found.named "length" ++ found.named "pattern"

/-- The statements of restrictions stand below the type statement. -/
theorem mem_childStatements_of_restricting
    (h : q ∈ restricting (below tree Allowed.inType s)) : q ∈ tree.childStatements s := by
  rcases List.mem_append.1 h with h | h
  · rcases List.mem_append.1 h with h | h
    · exact mem_childStatements h
    · exact mem_childStatements h
  · exact mem_childStatements h

theorem reports_restricting (tree : StatementTree) (s : Statement) (base : TypeId) :
    Reports (·.Local tree s)
      (restrictions tree base (restricting (below tree Allowed.inType s))) := by
  refine (reports_restrictions tree base _).mono fun e he => ?_
  obtain ⟨q, hq, he⟩ := he
  exact he.below (mem_childStatements_of_restricting hq)

theorem appends_resolve (tree : StatementTree) (s : Statement) :
    Appends (·.Local tree s) (resolve tree s) := by
  apply appends_bind (reports_argument .self).appends
  intro _ text _ _
  cases text with
  | none => exact appends_pure none
  | some text =>
    apply appends_bind (appends_baseOf tree s text)
    intro _ base _ _
    cases base with
    | none => exact appends_pure none
    | some base =>
      apply appends_bind (reports_substatements tree _ s).appends
      rintro _ _ _ ⟨⟩
      apply appends_bind (appends_fractionDigits tree s base)
      intro _ usable _ _
      cases usable with
      | none => exact appends_pure none
      | some _ =>
        exact appends_bind (reports_restricting tree s base).appends fun _ _ _ _ => appends_pure _

/-! ### Properties -/

theorem appends_setProperty (id : TypeId) (p : Property) (v : Value) :
    Appends P (setProperty id p v) := by
  apply appends_of_errors_eq
  rintro b a b' ⟨⟩
  rfl

theorem appends_textProperty (tree : StatementTree) (s : Statement) (id : TypeId) (p : Property) :
    Appends (·.Local tree s) (textProperty id (below tree Allowed.inTypedef s) p) := by
  apply appends_bind (reports_argumentNamed _).appends
  intro _ text _ _
  cases text with
  | none => exact appends_pure _
  | some text => exact appends_setProperty id p _

theorem appends_statusProperty (tree : StatementTree) (s : Statement) (id : TypeId) :
    Appends (·.Local tree s) (statusProperty id (below tree Allowed.inTypedef s)) := by
  unfold statusProperty
  split
  · exact appends_pure _
  next d row hd =>
  have hwithin : tree.Within s d := within_of_named (hd ▸ List.mem_cons_self)
  apply appends_bind (reports_argument hwithin).appends
  intro _ text _ _
  cases text with
  | none => exact appends_pure _
  | some text =>
    apply appends_bind (reports_read hwithin _).appends
    intro _ v _ _
    cases v with
    | none => exact appends_pure _
    | some v => exact appends_setProperty id .status _

theorem appends_properties (tree : StatementTree) (s : Statement) (id : TypeId) :
    Appends (·.Local tree s) (properties id (below tree Allowed.inTypedef s)) := by
  apply appends_bind (appends_textProperty tree s id _)
  intro _ _ _ _
  apply appends_bind (appends_textProperty tree s id _)
  intro _ _ _ _
  apply appends_bind (appends_textProperty tree s id _)
  intro _ _ _ _
  apply appends_bind (appends_textProperty tree s id _)
  intro _ _ _ _
  exact appends_statusProperty tree s id

end Build
end YangSchema
