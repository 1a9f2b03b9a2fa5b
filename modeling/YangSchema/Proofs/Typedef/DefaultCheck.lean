import YangSchema.Proofs.Typedef.Resolution
import YangSchema.Proofs.Typedef.Settled
import YangSchema.Statement.Parser

/-!
# What is reported of a default

Of a default that is a text, what is reported is what the check of the type's default says. A
default that is another value, which only a type from outside can bring along, is passed over; and a
default statement without an argument is blamed for an inherited default that is no literal.
-/
namespace YangSchema

namespace TypeStore

variable {store : TypeStore} {id : TypeId} {n : TypeNode} {v : Value}

/-- What a type sets itself is the value of its property. -/
theorem property_of_override {p : Property} (hn : store.get? id = some n)
    (hv : n.override? p = some v) : store.property id p = v := by
  obtain ⟨levels, hlevels⟩ :=
    Nat.exists_eq_succ_of_ne_zero (Nat.ne_of_gt (Nat.zero_lt_of_lt (lt_size_of_get? hn)))
  rw [property, chain, hlevels, chainTo, List.findSome?_cons, get_eq hn, hv]
  rfl

/-- A default that is no literal violates nothing, if it is a text. -/
theorem defaultViolation?_of_none (hd : (store.property id .default).text?.isSome = true)
    (h : store.parseValue id (store.property id .default) = .ok none) :
    store.defaultViolation? id = .ok none := by
  rw [defaultViolation?, defaultValue?_of_text hd, h]
  rfl

end TypeStore

theorem Substatements.head?_named {allowed : List Allowed} {keyword : String} {a : Allowed}
    (tree : StatementTree) (s : Statement) (ha : allowed.find? (·.keyword = keyword) = some a) :
    ((Build.below tree allowed s).named keyword).head? =
      (tree.childrenNamed s keyword).head? := by
  change _ = (row (tree.childStatements s) keyword).head?
  rw [named_of, kept, ha]
  dsimp only
  split
  · rfl
  · cases row (tree.childStatements s) keyword <;> rfl

namespace Build

variable {tree : StatementTree} {s : Statement} {store : TypeStore} {id : TypeId}
  {b b' : TypeBuilder} {es fs : List SchemaError}

/-- The default of a type, which the check of the type refuses, is reported if it is a text. It is
reported as no literal at the first default statement, if there is one. -/
structure ReportsDefault (tree : StatementTree) (s : Statement) (store : TypeStore) (id : TypeId)
    (es : List SchemaError) : Prop where
  refused : ∀ type r, .invalidDefault type r ∈ es ↔ type = (store.get id).origin ∧
    store.defaultViolation? id = .ok (some r) ∧ (store.property id .default).text?.isSome = true
  notALiteral : ∀ d v root, .argumentParserError d (.notALiteral v root) ∈ es ↔
    (tree.childrenNamed s "default").head? = some d ∧ v = store.property id .default ∧
      v ≠ .none ∧ store.parseValue id v = .ok none ∧ root = store.rootName id

theorem ReportsDefault.append (h : ReportsDefault tree s store id es)
    (hfs : ∀ e ∈ fs, ¬ e.AboutDefault) : ReportsDefault tree s store id (fs ++ es) := by
  have hmem {e : SchemaError} (he : e.AboutDefault) : e ∈ fs ++ es ↔ e ∈ es := by
    rw [List.mem_append]
    constructor
    · rintro (h | h)
      · exact absurd he (hfs e h)
      · exact h
    · exact .inr
  constructor
  · intro type r
    rw [hmem (.refused type r)]
    exact h.refused type r
  · intro d v root
    rw [hmem (.notALiteral d v root)]
    exact h.notALiteral d v root

theorem reportsDefault_nil (h : store.property id .default = .none) :
    ReportsDefault tree s store id [] := by
  refine ⟨by simp [h, Value.text?], fun d v root => ?_⟩
  rw [h]
  exact iff_of_false List.not_mem_nil fun ⟨_, hv, hne, _⟩ => hne hv

/-- A default that is no literal is reported at the statement of a default. -/
theorem reportsDefault_of_unread (hnone : store.property id .default ≠ .none)
    (hparse : store.parseValue id (store.property id .default) = .ok none) :
    ReportsDefault tree s store id ((tree.childrenNamed s "default").head?.toList.map fun d =>
      .argumentParserError d
        (.notALiteral (store.property id .default) (store.rootName id))) := by
  constructor
  · intro type r
    refine iff_of_false (by simp) ?_
    rintro ⟨-, hviolation, htext⟩
    rw [TypeStore.defaultViolation?_of_none htext hparse] at hviolation
    cases hviolation
  · intro d v root
    simp only [List.mem_map, Option.mem_toList]
    constructor
    · rintro ⟨_, hd, ⟨⟩⟩
      exact ⟨hd, rfl, hnone, hparse, rfl⟩
    · rintro ⟨hd, rfl, -, -, rfl⟩
      exact ⟨d, hd, rfl⟩

/-- A default that is a literal is reported if it violates a restriction. -/
theorem reportsDefault_of_read {v : Value} {r? : Option Restriction}
    (hparse : store.parseValue id (store.property id .default) = .ok (some v))
    (hviolation : store.defaultViolation? id = .ok r?) :
    ReportsDefault tree s store id (r?.toList.map (.invalidDefault (store.get id).origin)) := by
  constructor
  · intro type r
    have htext := TypeStore.text_of_parseValue hparse
    simp only [List.mem_map, Option.mem_toList, hviolation]
    constructor
    · rintro ⟨_, rfl, ⟨⟩⟩
      exact ⟨rfl, rfl, htext⟩
    · rintro ⟨rfl, ⟨⟩, -⟩
      exact ⟨r, rfl, rfl⟩
  · intro d w root
    refine iff_of_false (by simp) ?_
    rintro ⟨-, rfl, -, h, -⟩
    rw [hparse] at h
    cases h

theorem reportsDefault_of_checkDefault
    (h : checkDefault id (below tree Allowed.inTypedef s) b = .ok () b') :
    ∃ es, b' = b.reporting es ∧ ReportsDefault tree s b.store id es := by
  have hhead : ((below tree Allowed.inTypedef s).named "default").head? =
      (tree.childrenNamed s "default").head? :=
    Substatements.head?_named tree s rfl
  by_cases hnone : b.store.property id .default = .none
  · unfold checkDefault at h
    simp only [bind_apply, get_apply, hnone] at h
    cases h
    exact ⟨[], by simp, reportsDefault_nil hnone⟩
  rw [checkDefault_apply _ hnone] at h
  split at h
  · cases h
  · next hparse =>
    refine ⟨_, ?_, reportsDefault_of_unread hnone hparse⟩
    rw [← hhead]
    split at h
    · next hfound =>
      cases h
      simp [hfound]
    · next d row hfound =>
      cases h
      simp [hfound]
  · next v hparse =>
    split at h
    · cases h
    · next hviolation =>
      cases h
      exact ⟨_, by simp, reportsDefault_of_read hparse hviolation⟩
    · next r hviolation =>
      cases h
      exact ⟨_, rfl, reportsDefault_of_read hparse hviolation⟩

/-- A default is reported as no literal if it is the type's own, or if it is inherited and there is
a default statement which has no argument. -/
theorem ReportsDefault.notALiteral_iff {n : TypeNode} (h : ReportsDefault tree s store id es)
    (hn : store.get? id = some n) (hown : n.override? .default =
      ((tree.childrenNamed s "default").head?.bind (·.argument)).map .string) :
    (∃ d v root, .argumentParserError d (.notALiteral v root) ∈ es) ↔
      (∃ text, n.override? .default = some (.string text) ∧
        store.parseValue id (.string text) = .ok none) ∨
      (n.override? .default = none ∧ tree.childrenNamed s "default" ≠ [] ∧
        store.property id .default ≠ .none ∧
          store.parseValue id (store.property id .default) = .ok none) := by
  simp only [h.notALiteral]
  constructor
  · rintro ⟨d, _, _, hd, rfl, hnone, hparse, -⟩
    cases ha : d.argument with
    | none =>
      refine .inr ⟨by simp [hown, hd, ha], ?_, hnone, hparse⟩
      rintro hnil
      rw [hnil] at hd
      cases hd
    | some text =>
      have htext : n.override? .default = some (.string text) := by simp [hown, hd, ha]
      rw [TypeStore.property_of_override hn htext] at hparse
      exact .inl ⟨text, htext, hparse⟩
  · rintro (⟨text, htext, hparse⟩ | ⟨-, hne, hnone, hparse⟩)
    · have hproperty := TypeStore.property_of_override hn htext
      cases hd : (tree.childrenNamed s "default").head? with
      | none => simp [hown, hd] at htext
      | some d => exact ⟨d, _, _, rfl, hproperty.symm, by simp, hparse, rfl⟩
    · obtain ⟨d, hd⟩ := Option.isSome_iff_exists.1 (List.isSome_head?.2 hne)
      exact ⟨d, _, _, hd, rfl, hnone, hparse, rfl⟩

/-- The reports of a typedef that is built say of a default that is a text what the check of the
default says. Another default can only be inherited from outside: it is not checked, and like every
inherited one that is no literal it is reported if there is a default statement without an
argument. -/
theorem reportsDefault_of_addTypedef {i : StatementId}
    (h : addTypedef tree i b = .ok (some id) b') :
    ∃ s n es, tree.get i = .ok s ∧ b'.store.get? id = some n ∧ b'.errors = b.errors ++ es ∧
      ReportsDefault tree s b'.store id es ∧
        ((∃ d v root, .argumentParserError d (.notALiteral v root) ∈ es) ↔
          (∃ text, n.override? .default = some (.string text) ∧
            b'.store.parseValue id (.string text) = .ok none) ∨
          (n.override? .default = none ∧ tree.childrenNamed s "default" ≠ [] ∧
            b'.store.property id .default ≠ .none ∧
              b'.store.parseValue id (b'.store.property id .default) = .ok none)) := by
  obtain ⟨s, hs, hdefines⟩ := defines_of_addTypedef h
  cases hdefines with
  | @defined name t row base rs b₁ b₂ b₃ log ha hname hfree ht hresolve hproperties hdefault =>
  obtain ⟨n, hl, -, hset⟩ := leaves_of_properties rfl hproperties
  have hown : n.override? .default =
      ((tree.childrenNamed s "default").head?.bind (·.argument)).map .string := by
    rw [hset .default, Substatements.value?_of_ne _ (by simp), Substatements.text?,
      Substatements.head?_named tree s rfl]
    rfl
  obtain ⟨es, rfl, hreports⟩ := reportsDefault_of_checkDefault hdefault
  obtain ⟨fs₁, hfs₁, hlocal₁⟩ := (reports_substatements tree Allowed.inTypedef s).appends b _ _
    (substatements_apply b tree Allowed.inTypedef s)
  obtain ⟨fs₂, hfs₂, hlocal₂⟩ := appends_resolve tree t _ _ _ hresolve
  obtain ⟨fs₃, hfs₃, hlocal₃⟩ := appends_properties tree s _ _ _ _ hproperties
  have hearlier : ∀ e ∈ fs₁ ++ fs₂ ++ fs₃, ¬ e.AboutDefault := by
    intro e he
    rcases List.mem_append.1 he with he | he
    · rcases List.mem_append.1 he with he | he
      · exact (hlocal₁ e he).1
      · exact (hlocal₂ e he).1
    · exact (hlocal₃ e he).1
  have hall := hreports.append hearlier
  refine ⟨s, n, _, hs, hl.adds.node, ?_, hall, hall.notALiteral_iff hl.adds.node hown⟩
  calc b₂.errors ++ es
      = (b.errors ++ fs₁) ++ fs₂ ++ fs₃ ++ es := by rw [hfs₃, hfs₂, hfs₁]
    _ = b.errors ++ (fs₁ ++ fs₂ ++ fs₃ ++ es) := by simp only [List.append_assoc]

def numberedDefault : TypeBuilder :=
  { scope :=
      { namespaceOf := ⟨some "m", some "n"⟩
        imports := [("x", ⟨some "x", some "x"⟩)]
        external := [(⟨⟨some "x", some "x"⟩, "e"⟩, 12)] }
    store := TypeStore.initial.add
      { name := ⟨⟨some "x", some "x"⟩, "e"⟩, base := some 2, overrides := [(.default, .int 5)] } }

/-- A range refuses a default that is a number, and nothing is reported of it. -/
theorem reportsDefault_of_number :
    ∃ p id b' r, parseDocument "typedef t \x7b type x:e \x7b range 1..3; \x7d \x7d" {} = .ok p ∧
      addTypedef p.tree 0 numberedDefault = .ok (some id) b' ∧ b'.errors = [] ∧
        b'.store.defaultViolation? id = .ok (some r) ∧
          ∃ s es, p.tree.get 0 = .ok s ∧ b'.errors = es ∧
            ReportsDefault p.tree s b'.store id es := by
  have hbuilt : ((parseDocument "typedef t \x7b type x:e \x7b range 1..3; \x7d \x7d"
      {}).toOption.any fun p => match addTypedef p.tree 0 numberedDefault with
        | .ok (some id) b' => b'.errors.isEmpty &&
          (b'.store.defaultViolation? id).toOption.any (·.isSome)
        | .ok none _ => false
        | .error _ _ => false) = true := by
    decide +kernel
  obtain ⟨p, hp, hbuilt⟩ := Option.any_eq_true _ _ |>.1 hbuilt
  split at hbuilt
  · next id b' hadd =>
    obtain ⟨he, hviolation⟩ := Bool.and_eq_true_iff.1 hbuilt
    obtain ⟨r?, hr, hsome⟩ := Option.any_eq_true _ _ |>.1 hviolation
    obtain ⟨r, rfl⟩ := Option.isSome_iff_exists.1 hsome
    obtain ⟨s, n, es, hs, -, hes, hreports, -⟩ := reportsDefault_of_addTypedef hadd
    have he : b'.errors = [] := by simpa using he
    exact ⟨p, id, b', r, toOption_eq_some.1 hp, hadd, he, toOption_eq_some.1 hr, s, es, hs, hes,
      hreports⟩
  · cases hbuilt
  · cases hbuilt

end Build
end YangSchema
