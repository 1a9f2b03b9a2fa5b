import YangSchema.Proofs.Typedef.DefaultCheck

/-!
# Reports before a fault

A step of building that ends in a fault has told what it found before. What it told is about the
statement of the step or one below it, and stands behind the reports that were there.
-/
namespace YangSchema
namespace Build

variable {α β : Type} {P Q : SchemaError → Prop} {tree : StatementTree} {s : Statement}
  {b b' : TypeBuilder} {found : Substatements}

/-- Errors of one sort stand in a state behind those of another. -/
def Added (P : SchemaError → Prop) (b : TypeBuilder) (es : List SchemaError) (b' : TypeBuilder) :
    Prop :=
  b'.errors = b.errors ++ es ∧ ∀ e ∈ es, P e

theorem Added.mono {es : List SchemaError} (h : Added P b es b') (hPQ : ∀ e, P e → Q e) :
    Added Q b es b' :=
  ⟨h.1, fun e he => hPQ e (h.2 e he)⟩

theorem Added.append {es fs : List SchemaError} {d : TypeBuilder} (h : Added P b es d)
    (h' : Added P d fs b') : Added P b (es ++ fs) b' := by
  refine ⟨by rw [h'.1, h.1, List.append_assoc], fun e he => ?_⟩
  rcases List.mem_append.1 he with he | he
  · exact h.2 e he
  · exact h'.2 e he

/-- A fault comes behind errors of one sort, which are added to those that are there. -/
def FaultsAfter (P : SchemaError → Prop) (m : Build α) : Prop :=
  ∀ b f b', m b = .error f b' → ∃ es, Added P b es b'

theorem faultsAfter_of_ok {m : Build α} (h : ∀ b, ∃ a b', m b = .ok a b') : FaultsAfter P m := by
  intro b f b' hm
  obtain ⟨a, d, ha⟩ := h b
  rw [ha] at hm
  cases hm

theorem OnlyReports.faultsAfter {m : Build α} (h : OnlyReports m) : FaultsAfter P m :=
  faultsAfter_of_ok fun b => by
    obtain ⟨a, es, ha⟩ := h b
    exact ⟨a, _, ha⟩

theorem faultsAfter_of_eq {m : Build α} (h : ∀ b f b', m b = .error f b' → b' = b) :
    FaultsAfter P m := by
  intro b f b' hm
  obtain rfl := h b f b' hm
  exact ⟨[], by simp [Added]⟩

theorem FaultsAfter.mono {m : Build α} (h : FaultsAfter P m) (hPQ : ∀ e, P e → Q e) :
    FaultsAfter Q m := by
  intro b f b' hm
  obtain ⟨es, hes⟩ := h b f b' hm
  exact ⟨es, hes.mono hPQ⟩

theorem faultsAfter_bind {m : Build α} {f : α → Build β} (hm : FaultsAfter P m)
    (hok : Appends P m) (hf : ∀ b a b', m b = .ok a b' → FaultsAfter P (f a)) :
    FaultsAfter P (m >>= f) := by
  intro b g b' h
  rw [bind_apply] at h
  cases ha : m b with
  | error g' d =>
    rw [ha] at h
    cases h
    exact hm b _ _ ha
  | ok a d =>
    rw [ha] at h
    obtain ⟨es, hes⟩ := hok b a d ha
    obtain ⟨fs, hfs⟩ := hf b a d ha d g b' h
    exact ⟨es ++ fs, Added.append hes hfs⟩

/-- The second of two steps never faults. -/
theorem faultsAfter_bind_ok {m : Build α} {f : α → Build β} (hm : FaultsAfter P m)
    (hf : ∀ a b, ∃ c b', f a b = .ok c b') : FaultsAfter P (m >>= f) := by
  intro b g b' h
  rw [bind_apply] at h
  cases ha : m b with
  | error g' d =>
    rw [ha] at h
    cases h
    exact hm b _ _ ha
  | ok a d =>
    obtain ⟨c, d', hc⟩ := hf a d
    rw [ha] at h
    dsimp only at h
    rw [hc] at h
    cases h

theorem faultsAfter_pure (a : α) : FaultsAfter P (pure a : Build α) :=
  (onlyReports_pure a).faultsAfter

theorem faultsAfter_reject (e : SchemaError) : FaultsAfter P (reject e : Build (Option α)) :=
  faultsAfter_of_ok fun b => ⟨_, _, reject_apply b e⟩

theorem faultsAfter_get : FaultsAfter P (get : Build TypeBuilder) :=
  faultsAfter_of_ok fun b => ⟨b, b, rfl⟩

theorem faultsAfter_read (q : Statement) (x : Argument α) : FaultsAfter P (read q x) := by
  apply faultsAfter_of_eq
  intro b f b' h
  rcases x with (g | g) | a
  · cases h
  · cases h
    rfl
  · cases h

theorem faultsAfter_ofType (x : Except TypeFault α) : FaultsAfter P (ofType x) := by
  apply faultsAfter_of_eq
  intro b f b' h
  cases x with
  | error g =>
    cases h
    rfl
  | ok a => cases h

theorem faultsAfter_restrictionOf (q : Statement) (n : Notes)
    (c : Except RestrictionFault Condition) : FaultsAfter P (restrictionOf q n c) := by
  apply faultsAfter_of_eq
  intro b f b' h
  cases c with
  | error g =>
    rw [restrictionOf_error] at h
    split at h
    · cases h
      rfl
    · cases h
  | ok c => cases h

theorem faultsAfter_finish (tree : StatementTree) (s : Statement)
    (c : Except RestrictionFault Condition) :
    FaultsAfter (·.Local tree s) (do restrictionOf s (← notes tree s) c) :=
  faultsAfter_bind (onlyReports_notes tree s).faultsAfter (reports_notes tree s).appends
    fun _ n _ _ => faultsAfter_restrictionOf s n c

/-- An argument is read, and a restriction is made of its parts. -/
theorem faultsAfter_parts (x : Argument α) {next : Option α → Build (Option Restriction)}
    (hnone : next none = pure none)
    (hsome : ∀ parts, ∃ c, next (some parts) = (do restrictionOf s (← notes tree s) c)) :
    FaultsAfter (·.Local tree s) (read s x >>= next) := by
  apply faultsAfter_bind (faultsAfter_read s x) (reports_read .self x).appends
  intro _ parts _ _
  cases parts with
  | none =>
    rw [hnone]
    exact faultsAfter_pure none
  | some parts =>
    obtain ⟨c, hc⟩ := hsome parts
    rw [hc]
    exact faultsAfter_finish tree s c

theorem faultsAfter_restriction (tree : StatementTree) (base : TypeId) (s : Statement) :
    FaultsAfter (·.Local tree s) (restriction tree base s) := by
  apply faultsAfter_bind (onlyReports_argument s).faultsAfter (reports_argument .self).appends
  intro _ text _ _
  cases text with
  | none => exact faultsAfter_pure none
  | some text =>
    dsimp only
    split
    · apply faultsAfter_bind faultsAfter_get appends_get
      intro _ _ _ _
      dsimp only
      split
      · exact faultsAfter_reject _
      · exact faultsAfter_parts _ rfl fun _ => ⟨_, rfl⟩
    split
    · apply faultsAfter_bind faultsAfter_get appends_get
      intro _ _ _ _
      dsimp only
      split
      · exact faultsAfter_parts _ rfl fun _ => ⟨_, rfl⟩
      · exact faultsAfter_reject _
    split
    · apply faultsAfter_bind faultsAfter_get appends_get
      intro _ _ _ _
      split
      · exact faultsAfter_finish tree s _
      · exact faultsAfter_reject _
    · exact faultsAfter_pure none

theorem faultsAfter_restrictions (tree : StatementTree) (base : TypeId) {row : List Statement}
    (h : ∀ q ∈ row, q ∈ tree.childStatements s) :
    FaultsAfter (·.Local tree s) (restrictions tree base row) := by
  induction row with
  | nil => exact faultsAfter_pure []
  | cons q row ih =>
    obtain ⟨hq, hrow⟩ := List.forall_mem_cons.1 h
    apply faultsAfter_bind
    · exact (faultsAfter_restriction tree base q).mono fun e he => he.below hq
    · exact ((reports_restriction tree base q).mono fun e he => he.below hq).appends
    · intro _ _ _ _
      exact faultsAfter_bind_ok (ih hrow) fun a b => ⟨_, b, rfl⟩

theorem faultsAfter_fractionDigits (tree : StatementTree) (s : Statement) (base : TypeId) :
    FaultsAfter (·.Local tree s) (fractionDigits s (below tree Allowed.inType s) base) := by
  apply faultsAfter_bind faultsAfter_get appends_get
  intro _ b _ _
  dsimp only
  split
  · split
    · exact faultsAfter_reject _
    · exact faultsAfter_pure _
  next d row hd =>
  have hwithin : tree.Within s d := within_of_named (hd ▸ List.mem_cons_self)
  split
  · apply faultsAfter_bind (onlyReports_argument d).faultsAfter (reports_argument hwithin).appends
    intro _ text _ _
    cases text with
    | none => exact faultsAfter_pure none
    | some text =>
      apply faultsAfter_bind (faultsAfter_read d _) (reports_read hwithin _).appends
      intro _ digits _ _
      cases digits with
      | none => exact faultsAfter_pure none
      | some digits =>
        apply faultsAfter_bind faultsAfter_get appends_get
        intro _ b _ _
        exact faultsAfter_bind_ok (faultsAfter_ofType _) fun store b => ⟨_, _, rfl⟩
  · exact faultsAfter_of_ok fun b => ⟨_, _, rfl⟩

theorem faultsAfter_resolve (tree : StatementTree) (s : Statement) :
    FaultsAfter (·.Local tree s) (resolve tree s) := by
  apply faultsAfter_bind (onlyReports_argument s).faultsAfter (reports_argument .self).appends
  intro _ text _ _
  cases text with
  | none => exact faultsAfter_pure none
  | some text =>
    apply faultsAfter_bind (faultsAfter_of_ok fun b => ?_) (appends_baseOf tree s text)
    · intro _ base _ _
      cases base with
      | none => exact faultsAfter_pure none
      | some base =>
        apply faultsAfter_bind _ (reports_substatements tree _ s).appends
        · rintro _ _ _ ⟨⟩
          apply faultsAfter_bind (faultsAfter_fractionDigits tree s base)
            (appends_fractionDigits tree s base)
          intro _ usable _ _
          cases usable with
          | none => exact faultsAfter_pure none
          | some _ =>
            refine faultsAfter_bind_ok (faultsAfter_restrictions tree base fun q hq => ?_)
              fun rs b => ⟨_, b, rfl⟩
            exact mem_childStatements_of_restricting hq
        · exact faultsAfter_of_ok fun b => ⟨_, _, substatements_apply b tree _ s⟩
    · obtain ⟨base?, b₁, hbase, -⟩ := baseOf_spec b s text
      exact ⟨base?, b₁, hbase⟩

theorem faultsAfter_properties (tree : StatementTree) (s : Statement) (id : TypeId) :
    FaultsAfter (·.Local tree s) (properties id (below tree Allowed.inTypedef s)) := by
  have htext (p : Property) :
      FaultsAfter (·.Local tree s) (textProperty id (below tree Allowed.inTypedef s) p) := by
    refine faultsAfter_bind_ok (onlyReports_argumentNamed _ _).faultsAfter fun text b => ?_
    cases text with
    | none => exact ⟨_, _, rfl⟩
    | some text => exact ⟨_, _, rfl⟩
  apply faultsAfter_bind (htext _) (appends_textProperty tree s id _)
  intro _ _ _ _
  apply faultsAfter_bind (htext _) (appends_textProperty tree s id _)
  intro _ _ _ _
  apply faultsAfter_bind (htext _) (appends_textProperty tree s id _)
  intro _ _ _ _
  apply faultsAfter_bind (htext _) (appends_textProperty tree s id _)
  intro _ _ _ _
  unfold statusProperty
  split
  · exact faultsAfter_pure _
  next d row hd =>
  have hwithin : tree.Within s d := within_of_named (hd ▸ List.mem_cons_self)
  apply faultsAfter_bind (onlyReports_argument d).faultsAfter (reports_argument hwithin).appends
  intro _ text _ _
  cases text with
  | none => exact faultsAfter_pure _
  | some text =>
    refine faultsAfter_bind_ok (faultsAfter_read d _) fun v b => ?_
    cases v with
    | none => exact ⟨_, _, rfl⟩
    | some v => exact ⟨_, _, rfl⟩

theorem faultsAfter_checkDefault (id : TypeId) (found : Substatements) :
    FaultsAfter P (checkDefault id found) := by
  apply faultsAfter_of_eq
  intro b f b' h
  by_cases hnone : b.store.property id .default = .none
  · unfold checkDefault at h
    simp only [bind_apply, get_apply, hnone] at h
    cases h
  · rw [checkDefault_apply _ hnone] at h
    split at h
    · cases h
      rfl
    · split at h
      · cases h
      · cases h
    · split at h
      · cases h
        rfl
      · cases h
      · cases h

end Build
end YangSchema
