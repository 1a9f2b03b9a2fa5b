import YangSchema.Proofs.Typedef.Flaw
import YangSchema.Proofs.Typedef.Report

/-!
# Flawed restrictions

A range is only ever told. A length is fatal for a bound with too many digits, and a pattern for a
count or a look-behind beyond the limits of matching.
-/
namespace YangSchema

/-- A limit of matching or of the interpreter, which is not told as a fault of the pattern. -/
def Pattern.Fault.IsLimit (f : Pattern.Fault) : Prop :=
  f = .tooManyRepetitions ∨ f = .lookbehindTooWide ∨ f = .tooDeep

theorem isLimit_pattern_iff (text : String) (f : Pattern.Fault) :
    (RestrictionFault.pattern text f).isLimit = true ↔ f.IsLimit := by
  cases f <;> simp [RestrictionFault.isLimit, Pattern.Fault.IsLimit]

theorem Condition.read_ne_error {runtime : Runtime} {text : String} {d : Condition}
    {f : Pattern.Fault} (h : Condition.ofPattern runtime text = .ok d) :
    Pattern.read runtime text ≠ .error f := by
  intro hf
  rw [Condition.ofPattern, PatternText.of] at h
  split at h
  · next hok =>
    split at hok
    · next hp =>
      rw [hf] at hp
      cases hp
    · cases hok
  · cases h

theorem Condition.read_eq_error {runtime : Runtime} {text : String} {f : RestrictionFault}
    (h : Condition.ofPattern runtime text = .error f) :
    ∃ e, f = .pattern text e ∧ Pattern.read runtime text = .error e := by
  rw [Condition.ofPattern, PatternText.of] at h
  split at h
  · cases h
  · next herror =>
    split at herror
    · cases herror
    · next hp =>
      cases herror
      cases h
      exact ⟨_, rfl, hp⟩

/-- What is wrong with the argument of a statement that restricts a base. -/
inductive RestrictionFlaw (runtime : Runtime) (store : TypeStore) (base : TypeId) (s : Statement) :
    Flaw → Prop
  | range {text : String} {lower upper : Binary64} {x : Flaw} (hs : s.name = "range")
      (ha : s.argument = some text) (hbase : store.numericLimits? base = some (lower, upper))
      (h : Refused s (Argument.range text lower upper (store.isInteger base)) False x) :
      RestrictionFlaw runtime store base s x
  | length {text : String} {x : Flaw} (hs : s.name = "length") (ha : s.argument = some text)
      (hbase : store.rootName base = "string" ∨ store.rootName base = "binary")
      (h : Refused s (Argument.length text) (Argument.LongLength text) x) :
      RestrictionFlaw runtime store base s x
  | pattern {text : String} {f : Pattern.Fault} (hs : s.name = "pattern")
      (ha : s.argument = some text) (hbase : store.rootName base = "string")
      (h : Pattern.read runtime text = .error f) (hf : ¬ f.IsLimit) :
      RestrictionFlaw runtime store base s
        (.told (.argumentParserError s (.restriction (.pattern text f))))
  | limit {text : String} {f : Pattern.Fault} (hs : s.name = "pattern")
      (ha : s.argument = some text) (hbase : store.rootName base = "string")
      (h : Pattern.read runtime text = .error f) (hf : f.IsLimit) :
      RestrictionFlaw runtime store base s .fatal

namespace Build

variable {tree : StatementTree} {base : TypeId} {s : Statement} {text : String}

/-- The notes come first and have no flaws; a condition that is no limit has none either. -/
theorem tells_finish {F : Flaw → Prop} {c : Except RestrictionFault Condition}
    (hok : ∀ d, c = .ok d → ∀ x, ¬ F x)
    (herror : ∀ f, c = .error f → (F .fatal ↔ f.isLimit = true) ∧
      (∀ e, F (.told e) → e = .argumentParserError s (.restriction f)))
    (b : TypeBuilder) : Tells ((do restrictionOf s (← notes tree s) c : Build _) b) b F := by
  refine Tells.bind_right (.of_onlyReports (onlyReports_notes tree s) b not_flawless) ?_
  intro n b' _
  cases c with
  | ok d => exact tells_nothing (List.prefix_refl _) (hok d rfl)
  | error f =>
    obtain ⟨hfatal, htold⟩ := herror f rfl
    rw [restrictionOf_error]
    by_cases hf : f.isLimit = true
    · rw [if_pos hf]
      exact hfatal.2 hf
    · rw [if_neg hf]
      refine tells_one fun x hx => ?_
      cases x with
      | fatal => exact absurd (hfatal.1 hx) hf
      | told e => rw [htold e hx]

theorem not_isLimit_ofRanges {parts : List (Interval Binary64)} {f : RestrictionFault}
    (h : Condition.ofRanges parts = .error f) : f.isLimit = false := by
  unfold Condition.ofRanges at h
  split at h
  · cases h
    rfl
  · cases h

theorem not_isLimit_ofLengths {parts : List (Interval Int)} {f : RestrictionFault}
    (h : Condition.ofLengths parts = .error f) : f.isLimit = false := by
  unfold Condition.ofLengths at h
  split at h
  · cases h
    rfl
  · split at h
    · cases h
      rfl
    · cases h

/-- A statement with a condition that is no pattern: its argument is read, then its condition is
built. -/
theorem tells_parts {α : Type} {x : Argument α} {long : Prop} {F : Flaw → Prop}
    (tree : StatementTree) (condition : α → Except RestrictionFault Condition)
    {next : Option α → Build (Option Restriction)} (hnone : next none = pure none)
    (hsome : ∀ a, next (some a) = do restrictionOf s (← notes tree s) (condition a))
    (hlong : x.IsTooLong ↔ long) (hlimit : ∀ a f, condition a = .error f → f.isLimit = false)
    (hF : ∀ y, F y ↔ Refused s x long y) (b : TypeBuilder) : Tells ((read s x >>= next) b) b F := by
  refine Tells.congr (Tells.bind_left (tells_read hlong b) ?_) fun y => (hF y).symm
  intro a b' _
  cases a with
  | none =>
    rw [hnone]
    exact tells_nothing (List.prefix_refl _) not_flawless
  | some a =>
    rw [hsome]
    refine tells_finish (fun _ _ => not_flawless) (fun f hf => ⟨?_, ?_⟩) b'
    · rw [hlimit a f hf]
      exact iff_of_false (not_flawless _) (by simp)
    · exact fun e he => absurd he (not_flawless _)

theorem tells_range (hs : s.name = "range") (ha : s.argument = some text) (b : TypeBuilder) :
    Tells (range tree s base text b) b (RestrictionFlaw b.scope.runtime b.store base s) := by
  unfold range
  simp only [bind_apply, get_apply]
  cases hbase : b.store.numericLimits? base with
  | none =>
    refine tells_nothing (errors_prefix_reporting b _) ?_
    rintro x (⟨hs', -, hbase'⟩ | ⟨hs', -⟩ | ⟨hs', -⟩ | ⟨hs', -⟩)
    · rw [hbase] at hbase'
      cases hbase'
    all_goals simp [hs] at hs'
  | some l =>
    obtain ⟨lower, upper⟩ := l
    have hlong : (Argument.range text lower upper (b.store.isInteger base)).IsTooLong ↔ False :=
      iff_of_false (Argument.not_isTooLong_range _ _ _ _) id
    refine tells_parts tree Condition.ofRanges ?_ ?_ hlong ?_ ?_ b
    · rfl
    · exact fun _ => rfl
    · exact fun _ _ => not_isLimit_ofRanges
    · intro x
      constructor
      · rintro (⟨-, ha', hbase', h⟩ | ⟨hs', -⟩ | ⟨hs', -⟩ | ⟨hs', -⟩)
        · rw [ha] at ha'
          rw [hbase] at hbase'
          cases ha'
          cases hbase'
          exact h
        all_goals simp [hs] at hs'
      · exact .range hs ha hbase

theorem tells_length (hs : s.name = "length") (ha : s.argument = some text) (b : TypeBuilder) :
    Tells (length tree s base text b) b (RestrictionFlaw b.scope.runtime b.store base s) := by
  unfold length
  simp only [bind_apply, get_apply]
  by_cases hbase : b.store.rootName base = "string" ∨ b.store.rootName base = "binary"
  · have hcond : (b.store.rootName base = "string" || b.store.rootName base = "binary") = true := by
      simpa using hbase
    simp only [hcond, if_true]
    refine tells_parts tree Condition.ofLengths ?_ ?_ (Argument.isTooLong_length text) ?_ ?_ b
    · rfl
    · exact fun _ => rfl
    · exact fun _ _ => not_isLimit_ofLengths
    · intro x
      constructor
      · rintro (⟨hs', -⟩ | ⟨-, ha', -, h⟩ | ⟨hs', -⟩ | ⟨hs', -⟩)
        · simp [hs] at hs'
        · rw [ha] at ha'
          cases ha'
          exact h
        all_goals simp [hs] at hs'
      · exact .length hs ha hbase
  · have hcond :
        (b.store.rootName base = "string" || b.store.rootName base = "binary") = false := by
      simpa using hbase
    simp only [hcond]
    refine tells_nothing (errors_prefix_reporting b _) ?_
    rintro x (⟨hs', -⟩ | ⟨-, -, hbase', -⟩ | ⟨hs', -⟩ | ⟨hs', -⟩)
    · simp [hs] at hs'
    · exact hbase hbase'
    all_goals simp [hs] at hs'

theorem restrictionFlaw_pattern (hs : s.name = "pattern") (ha : s.argument = some text)
    {runtime : Runtime} {store : TypeStore} {x : Flaw}
    (h : RestrictionFlaw runtime store base s x) :
    store.rootName base = "string" ∧ ∃ f, Pattern.read runtime text = .error f ∧
      (¬ f.IsLimit ∧ x = .told (.argumentParserError s (.restriction (.pattern text f))) ∨
        f.IsLimit ∧ x = .fatal) := by
  obtain ⟨hs', -⟩ | ⟨hs', -⟩ | ⟨-, ha', hbase, h, hf⟩ | ⟨-, ha', hbase, h, hf⟩ := h
  · simp [hs] at hs'
  · simp [hs] at hs'
  · rw [ha] at ha'
    cases ha'
    exact ⟨hbase, _, h, .inl ⟨hf, rfl⟩⟩
  · rw [ha] at ha'
    cases ha'
    exact ⟨hbase, _, h, .inr ⟨hf, rfl⟩⟩

theorem tells_pattern (hs : s.name = "pattern") (ha : s.argument = some text) (b : TypeBuilder) :
    Tells (pattern tree s base text b) b (RestrictionFlaw b.scope.runtime b.store base s) := by
  unfold pattern
  simp only [bind_apply, get_apply]
  by_cases hbase : b.store.rootName base = "string"
  · rw [if_pos hbase]
    refine tells_finish ?_ ?_ b
    · intro d hd x hx
      obtain ⟨-, f, hf, -⟩ := restrictionFlaw_pattern hs ha hx
      exact Condition.read_ne_error hd hf
    · intro f hf
      obtain ⟨e, rfl, he⟩ := Condition.read_eq_error hf
      rw [isLimit_pattern_iff]
      refine ⟨⟨fun h => ?_, .limit hs ha hbase he⟩, fun x hx => ?_⟩
      · obtain ⟨-, e', he', ⟨-, h⟩ | ⟨hlimit, -⟩⟩ := restrictionFlaw_pattern hs ha h
        · cases h
        · rw [he] at he'
          cases he'
          exact hlimit
      · obtain ⟨-, e', he', ⟨-, h⟩ | ⟨-, h⟩⟩ := restrictionFlaw_pattern hs ha hx
        · rw [he] at he'
          cases he'
          cases h
          rfl
        · cases h
  · rw [if_neg hbase]
    refine tells_nothing (errors_prefix_reporting b _) fun x hx => ?_
    exact hbase (restrictionFlaw_pattern hs ha hx).1

theorem tells_restriction (tree : StatementTree) (base : TypeId) (s : Statement)
    (b : TypeBuilder) :
    Tells (restriction tree base s b) b (RestrictionFlaw b.scope.runtime b.store base s) := by
  unfold restriction
  rw [bind_apply, argument_apply]
  cases ha : s.argument with
  | none =>
    refine tells_nothing (errors_prefix_reporting b _) ?_
    rintro x (⟨-, ha', -⟩ | ⟨-, ha', -⟩ | ⟨-, ha', -⟩ | ⟨-, ha', -⟩)
    all_goals simp [ha] at ha'
  | some text =>
    simp only [ite_apply]
    split
    · next hs => exact tells_range hs ha b
    · next hrange =>
      split
      · next hs => exact tells_length hs ha b
      · next hlength =>
        split
        · next hs => exact tells_pattern hs ha b
        · next hpattern =>
          refine tells_nothing (List.prefix_refl _) ?_
          rintro x (⟨hs, -⟩ | ⟨hs, -⟩ | ⟨hs, -⟩ | ⟨hs, -⟩)
          · exact hrange hs
          · exact hlength hs
          all_goals exact hpattern hs

theorem tells_restrictions (tree : StatementTree) (base : TypeId) (row : List Statement)
    (b : TypeBuilder) :
    Tells (restrictions tree base row b) b
      fun x => ∃ s ∈ row, RestrictionFlaw b.scope.runtime b.store base s x := by
  induction row generalizing b with
  | nil => exact tells_nothing (List.prefix_refl _) (by simp)
  | cons s r ih =>
    refine Tells.bind (tells_restriction tree base s b) ?_ ?_
    · exact fun h => ⟨s, List.mem_cons_self, h⟩
    · intro first b' h
      obtain ⟨es, rfl, -⟩ := reports_restriction tree base s b first b' h
      refine ⟨_, Tells.bind_left (ih _) fun _ b' _ => ?_, ?_, ?_⟩
      · exact tells_nothing (List.prefix_refl _) not_flawless
      · rintro ⟨s', hs', hx⟩
        exact ⟨s', List.mem_cons_of_mem s hs', hx⟩
      · rintro x ⟨s', hs', hx⟩
        obtain rfl | hs' := List.mem_cons.1 hs'
        · exact .inl hx
        · exact .inr ⟨s', hs', hx⟩

end Build
end YangSchema
