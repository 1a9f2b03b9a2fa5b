import YangSchema.Proofs.Typedef.TypeFlaw

/-!
# Flawed properties

The properties of a typedef are told by the type that it adds, and its default is checked against
the restrictions of that type, its own ones first. A default is fatal if it is an integer with too
many digits, or if a pattern cannot tell whether it matches.
-/
namespace YangSchema
open Text

def Substatements.text? (found : Substatements) (keyword : String) : Option String :=
  (found.named keyword).head?.bind (·.argument)

/-- The value that an argument gives to a property: the status of that name, or the text. -/
def Property.value? : Property → String → Option Value
  | status, text => (Status.named? text).map .status
  | _, text => some (.string text)

def Substatements.value? (found : Substatements) (p : Property) : Option Value :=
  (found.text? p.name).bind p.value?

theorem Substatements.value?_of_ne {p : Property} (found : Substatements) (hp : p ≠ .status) :
    found.value? p = (found.text? p.name).map .string := by
  unfold value?
  cases p with
  | status => exact absurd rfl hp
  | _ => cases found.text? _ <;> rfl

/-! ### Properties that are set -/

namespace TypeNode

def setting (n : TypeNode) (p : Property) (v? : Option Value) : TypeNode :=
  match v? with
  | some v => n.set p v
  | none => n

variable (n : TypeNode) (p q : Property) (v? : Option Value)

/-- Setting properties changes nothing else. -/
theorem setting_eq {m : TypeNode} (h : m = { n with overrides := m.overrides }) :
    m.setting p v? = { n with overrides := (m.setting p v?).overrides } := by
  rw [h]
  cases v? <;> rfl

theorem override?_setting_self : (n.setting p v?).override? p = v?.or (n.override? p) := by
  cases v? with
  | none => rfl
  | some v => rw [setting, override?_set, if_pos rfl, Option.some_or]

@[simp]
theorem override?_setting_ne (h : p ≠ q) : (n.setting p v?).override? q = n.override? q := by
  cases v? with
  | none => rfl
  | some v => rw [setting, override?_set, if_neg h.symm]

end TypeNode

/-! ### Defaults -/

/-- The text is read as an integer, and its numeral is too long. -/
def Codec.Overflows (c : Codec) (text : String) : Prop :=
  (∃ limits, c = .integer limits) ∧
    LongNumeral (Numeral.splitSign (Binary64.trimAscii text.toList)).2

theorem Codec.parse_eq_error_iff (c : Codec) (text : String) :
    (∃ e, c.parse text = .error e) ↔ c.Overflows text := by
  cases c with
  | integer limits =>
    simp only [parse, readInteger, Overflows]
    generalize Numeral.splitSign (Binary64.trimAscii text.toList) = split
    obtain ⟨negative, digits⟩ := split
    by_cases hn : Numeral.isNumeral digits = true
    · simp only [hn, if_true, ← Numeral.ofDigits_eq_error_iff hn]
      cases Numeral.ofDigits digits <;> simp [Except.map]
    · have hlong : ¬ LongNumeral digits := fun h => hn h.1
      simp [hn, hlong]
  | _ => simp [parse, Overflows]

theorem Codec.parseValue_of_not_text {c : Codec} {v : Value} (hv : v.text? = none) :
    c.parseValue v = .ok none := by
  cases v with
  | string s => cases hv
  | status s => cases hv
  | _ => cases c <;> rfl

theorem Codec.parseValue_eq_error_iff (c : Codec) (v : Value) :
    (∃ e, c.parseValue v = .error e) ↔ ∃ text, v.text? = some text ∧ c.Overflows text := by
  cases hv : v.text? with
  | none => simp [parseValue_of_not_text hv]
  | some text =>
    simp only [Option.some.injEq, exists_eq_left', ← c.parse_eq_error_iff text]
    cases v with
    | string s =>
      cases hv
      cases c <;> rfl
    | status s =>
      cases hv
      cases c <;> simp [parseValue, parse]
    | _ => cases hv

/-- The default of a typedef: its own, or that of its base. -/
def defaultOf (store : TypeStore) (base : TypeId) (found : Substatements) : Value :=
  match found.text? "default" with
  | some text => .string text
  | none => store.property base .default

/-- What is wrong with the default of a typedef that puts restrictions on a base. -/
inductive DefaultFlaw (store : TypeStore) (s : Statement) (base : TypeId) (rs : List Restriction)
    (found : Substatements) : Flaw → Prop
  | notALiteral {d : Statement} {r : List Statement} {text : String} {c : Codec}
      (hd : found.named "default" = d :: r) (ha : d.argument = some text)
      (hc : store.Reads base c) (h : c.parse text = .ok none) :
      DefaultFlaw store s base rs found
        (.told (.argumentParserError d (.notALiteral (.string text) (store.rootName base))))
  | refused {c : Codec} {v : Value} {q : Restriction} (hc : store.Reads base c)
      (hv : c.parseValue (defaultOf store base found) = .ok (some v))
      (hq : TypeStore.ReachedBy v (rs ++ store.allRestrictions base) q)
      (h : q.allows v = .ok false) :
      DefaultFlaw store s base rs found (.told (.invalidDefault (some s.origin) q))
  | overflow {text : String} {c : Codec} (hc : store.Reads base c)
      (hd : (defaultOf store base found).text? = some text) (h : c.Overflows text) :
      DefaultFlaw store s base rs found .fatal
  | inverted {c : Codec} {v : Value} {q : Restriction} {f : Pattern.InvertedGroup}
      (hc : store.Reads base c) (hv : c.parseValue (defaultOf store base found) = .ok (some v))
      (hq : TypeStore.ReachedBy v (rs ++ store.allRestrictions base) q)
      (h : q.allows v = .error f) : DefaultFlaw store s base rs found .fatal

namespace TypeStore

variable {s : TypeStore} {id : TypeId} {c c' : Codec} {v : Value}

/-- A type reads by one codec only. -/
theorem Reads.unique (h : s.Reads id c) (h' : s.Reads id c') : c = c' :=
  Except.ok.inj ((codec_of_reads h).symm.trans (codec_of_reads h'))

theorem parseValue_of_reads (h : s.Reads id c) (v : Value) :
    s.parseValue id v = (c.parseValue v).mapError .numeral := by
  rw [parseValue, codec_of_reads h]
  rfl

theorem parseValue_eq_ok {v? : Option Value} (h : s.Reads id c) :
    s.parseValue id v = .ok v? ↔ c.parseValue v = .ok v? := by
  rw [parseValue_of_reads h]
  cases c.parseValue v <;> simp [Except.mapError]

/-- Only a text can be a literal. -/
theorem text_of_parseValue {w : Value} (h : s.parseValue id v = .ok (some w)) :
    v.text?.isSome = true := by
  obtain ⟨c, -, h⟩ := except_bind_eq_ok.1 h
  by_contra hv
  rw [Codec.parseValue_of_not_text (by simpa using hv)] at h
  cases h

theorem defaultValue?_of_text (h : (s.property id .default).text?.isSome = true) :
    s.defaultValue? id = s.parseValue id (s.property id .default) := by
  unfold defaultValue?
  split
  · next hnone =>
    rw [hnone] at h
    cases h
  · rw [if_pos h]

theorem defaultViolation?_eq {w : Value}
    (hv : s.parseValue id (s.property id .default) = .ok (some w)) :
    s.defaultViolation? id = refusal? w (s.allRestrictions id) := by
  rw [allRestrictions, ← map_firstViolation?, defaultViolation?,
    defaultValue?_of_text (text_of_parseValue hv), hv]
  change (s.violation? id w >>= fun x => pure (x.map (·.restriction))) = _
  rw [violation?]
  cases s.firstViolation? w (s.chain id) <;> rfl

end TypeStore

namespace Build
open TypeBuilder

variable {found : Substatements} {store : TypeStore} {n : TypeNode} {b b' : TypeBuilder}

/-! ### Setting properties -/

/-- A step ends in a state whose store has one type more than a given one, and keeps the names and
the errors. -/
structure Leaves (store : TypeStore) (n : TypeNode) (b b' : TypeBuilder) : Prop where
  adds : store.Adds b'.store n
  scope : b'.scope = b.scope
  typedefs : b'.typedefs = b.typedefs
  errors : b.errors <+: b'.errors

theorem Leaves.trans {n' : TypeNode} {b'' : TypeBuilder} (h : Leaves store n b b')
    (h' : Leaves store n' b' b'') : Leaves store n' b b'' :=
  ⟨h'.adds, h'.scope.trans h.scope, h'.typedefs.trans h.typedefs, h.errors.trans h'.errors⟩

theorem argumentNamed_apply (found : Substatements) (keyword : String) (b : TypeBuilder) :
    ∃ es, argumentNamed found keyword b = .ok (found.text? keyword) (b.reporting es) := by
  unfold argumentNamed Substatements.text?
  cases found.named keyword with
  | nil => exact ⟨[], by simp⟩
  | cons s r =>
    simp only [argument_apply, List.head?_cons, Option.bind_some]
    cases s.argument with
    | none => exact ⟨_, rfl⟩
    | some a => exact ⟨[], by simp⟩

theorem textProperty_spec (h : store.Adds b.store n) (found : Substatements) (p : Property) :
    ∃ b', textProperty store.size found p b = .ok () b' ∧
      Leaves store (n.setting p ((found.text? p.name).map .string)) b b' := by
  unfold textProperty
  obtain ⟨es, ha⟩ := argumentNamed_apply found p.name b
  rw [bind_apply, ha]
  cases found.text? p.name with
  | none => exact ⟨_, rfl, h, rfl, rfl, errors_prefix_reporting b es⟩
  | some a => exact ⟨_, rfl, h.modify _, rfl, rfl, errors_prefix_reporting b es⟩

/-- A status that is none is told. -/
theorem statusProperty_spec (h : store.Adds b.store n) (found : Substatements) :
    ∃ b', statusProperty store.size found b = .ok () b' ∧
      Leaves store (n.setting .status (found.value? .status)) b b' ∧
        ∀ d r text e, found.named "status" = d :: r → d.argument = some text →
          Refused d (Argument.status text) False (.told e) → e ∈ b'.errors := by
  unfold statusProperty Substatements.value? Substatements.text?
  cases hfound : found.named Property.status.name with
  | nil =>
    have hfound : found.named "status" = [] := hfound
    rw [hfound]
    exact ⟨b, rfl, ⟨h, rfl, rfl, List.prefix_refl _⟩, by simp⟩
  | cons d r =>
    have hfound : found.named "status" = d :: r := hfound
    rw [hfound]
    dsimp only [List.head?_cons, Option.bind_some]
    rw [bind_apply, argument_apply]
    cases ha : d.argument with
    | none =>
      refine ⟨_, rfl, ⟨h, rfl, rfl, errors_prefix_reporting b _⟩, ?_⟩
      rintro d r text e ⟨⟩ ha'
      rw [ha] at ha'
      cases ha'
    | some text =>
      dsimp only [Option.bind_some]
      rw [bind_apply, Argument.status, Property.value?]
      cases hstatus : Status.named? text with
      | some v =>
        refine ⟨_, rfl, ⟨h.modify _, rfl, rfl, List.prefix_refl _⟩, ?_⟩
        rintro d r text' e ⟨⟩ ha' ⟨h⟩
        rw [ha] at ha'
        cases ha'
        rw [Argument.status, hstatus] at h
        cases h
      | none =>
        refine ⟨_, rfl, ⟨h, rfl, rfl, errors_prefix_reporting b _⟩, ?_⟩
        rintro d r text' e ⟨⟩ ha' ⟨h⟩
        rw [ha] at ha'
        cases ha'
        rw [Argument.status, hstatus] at h
        cases h
        exact mem_errors_reporting b _

/-- The type that was added has all properties of its typedef, and nothing else of it is changed. -/
theorem properties_spec (h : store.Adds b.store n) (found : Substatements) :
    ∃ n' b', properties store.size found b = .ok () b' ∧ Leaves store n' b b' ∧
      n' = { n with overrides := n'.overrides } ∧
        (∀ p, n'.override? p = (found.value? p).or (n.override? p)) ∧
          ∀ d r text e, found.named "status" = d :: r → d.argument = some text →
            Refused d (Argument.status text) False (.told e) → e ∈ b'.errors := by
  obtain ⟨b₁, h₁, hl₁⟩ := textProperty_spec h found .default
  obtain ⟨b₂, h₂, hl₂⟩ := textProperty_spec hl₁.adds found .description
  obtain ⟨b₃, h₃, hl₃⟩ := textProperty_spec hl₂.adds found .reference
  obtain ⟨b₄, h₄, hl₄⟩ := textProperty_spec hl₃.adds found .units
  obtain ⟨b₅, h₅, hl₅, htold⟩ := statusProperty_spec hl₄.adds found
  refine ⟨_, b₅, ?_, (((hl₁.trans hl₂).trans hl₃).trans hl₄).trans hl₅, ?_, ?_, htold⟩
  · simp only [properties, bind_apply, h₁, h₂, h₃, h₄, h₅]
  · iterate 5 apply TypeNode.setting_eq
    rfl
  · intro p
    by_cases hp : p = .status
    · subst hp
      simp [TypeNode.override?_setting_self]
    · rw [found.value?_of_ne hp]
      cases p with
      | status => exact absurd rfl hp
      | _ => simp [TypeNode.override?_setting_self]

/-! ### Checking the default -/

theorem defaultOf_eq_string {d : Statement} {r : List Statement} {text : String} (base : TypeId)
    (hd : found.named "default" = d :: r) (ha : d.argument = some text) :
    defaultOf store base found = .string text := by
  rw [defaultOf, Substatements.text?, hd, List.head?_cons, Option.bind_some, ha]

/-- The flaws of a default are those of its reading. -/
theorem defaultFlaw_iff {s : Statement} {base : TypeId} {rs : List Restriction} {c : Codec}
    {x : Flaw} (hc : store.Reads base c) :
    DefaultFlaw store s base rs found x ↔
      (c.parseValue (defaultOf store base found) = .ok none ∧ ∃ d r text,
        found.named "default" = d :: r ∧ d.argument = some text ∧
          x = .told (.argumentParserError d (.notALiteral (.string text) (store.rootName base)))) ∨
      ((∃ e, c.parseValue (defaultOf store base found) = .error e) ∧ x = .fatal) ∨
      ∃ v q, c.parseValue (defaultOf store base found) = .ok (some v) ∧
        TypeStore.ReachedBy v (rs ++ store.allRestrictions base) q ∧
          (q.allows v = .ok false ∧ x = .told (.invalidDefault (some s.origin) q) ∨
            (∃ f, q.allows v = .error f) ∧ x = .fatal) := by
  have hparse (text : String) : c.parseValue (.string text) = c.parse text := by cases c <;> rfl
  constructor
  · rintro (⟨hd, ha, hc', h⟩ | ⟨hc', hv, hq, h⟩ | ⟨hc', hd, h⟩ | ⟨hc', hv, hq, h⟩)
    all_goals rw [hc.unique hc']
    · rw [defaultOf_eq_string base hd ha, ← hc.unique hc', hparse, hc.unique hc']
      exact .inl ⟨h, _, _, _, hd, ha, rfl⟩
    · exact .inr (.inr ⟨_, _, hv, hq, .inl ⟨h, rfl⟩⟩)
    · exact .inr (.inl ⟨(Codec.parseValue_eq_error_iff _ _).2 ⟨_, hd, h⟩, rfl⟩)
    · exact .inr (.inr ⟨_, _, hv, hq, .inr ⟨⟨_, h⟩, rfl⟩⟩)
  · rintro (⟨h, d, r, text, hd, ha, rfl⟩ | ⟨h, rfl⟩ | ⟨v, q, hv, hq, ⟨h, rfl⟩ | ⟨⟨f, h⟩, rfl⟩⟩)
    · rw [defaultOf_eq_string base hd ha, hparse] at h
      exact .notALiteral hd ha hc h
    · obtain ⟨text, hd, hlong⟩ := (Codec.parseValue_eq_error_iff _ _).1 h
      exact .overflow hc hd hlong
    · exact .refused hc hv hq h
    · exact .inverted hc hv hq h

/-- A default that is no literal has its own statement, or is not told. -/
theorem defaultFlaw_of_none {s : Statement} {base : TypeId} {rs : List Restriction} {c : Codec}
    {x : Flaw} (hc : store.Reads base c)
    (hv : c.parseValue (defaultOf store base found) = .ok none) :
    DefaultFlaw store s base rs found x ↔
      ∃ d r text, found.named "default" = d :: r ∧ d.argument = some text ∧
        x = .told (.argumentParserError d (.notALiteral (.string text) (store.rootName base))) := by
  rw [defaultFlaw_iff hc]
  simp [hv]

/-- A default that is a literal is refused by one restriction at most. -/
theorem of_defaultFlaw_literal {s : Statement} {base : TypeId} {rs : List Restriction} {c : Codec}
    {x : Flaw} {v : Value} {q? : Option Restriction} (hc : store.Reads base c)
    (hv : c.parseValue (defaultOf store base found) = .ok (some v))
    (hr : TypeStore.refusal? v (rs ++ store.allRestrictions base) = .ok q?)
    (h : DefaultFlaw store s base rs found x) :
    ∃ q, q? = some q ∧ x = .told (.invalidDefault (some s.origin) q) := by
  rw [defaultFlaw_iff hc] at h
  simp only [hv, false_and, false_or, reduceCtorEq, Except.ok.injEq, Option.some.injEq,
    exists_false, exists_and_left, exists_eq_left'] at h
  obtain ⟨q, hq, ⟨hfalse, rfl⟩ | ⟨⟨g, hg⟩, -⟩⟩ := h
  · rw [TypeStore.refusal?_eq_some hq hfalse] at hr
    exact ⟨q, (Except.ok.inj hr).symm, rfl⟩
  · obtain ⟨e, he⟩ := TypeStore.refusal?_eq_error.2 ⟨q, g, hq, hg⟩
    rw [hr] at he
    cases he

theorem checkDefault_apply {id : TypeId} (found : Substatements)
    (hne : b.store.property id .default ≠ .none) :
    checkDefault id found b =
      match b.store.parseValue id (b.store.property id .default) with
      | .error f => .error (.type f) b
      | .ok none =>
        match found.named "default" with
        | [] => .ok () b
        | s :: _ => .ok () (b.reporting [.argumentParserError s
          (.notALiteral (b.store.property id .default) (b.store.rootName id))])
      | .ok (some _) =>
        match b.store.defaultViolation? id with
        | .error f => .error (.type f) b
        | .ok none => .ok () b
        | .ok (some r) => .ok () (b.reporting [.invalidDefault (b.store.get id).origin r]) := by
  unfold checkDefault
  simp only [bind_apply, get_apply]
  generalize b.store.property id .default = d at hne ⊢
  cases d with
  | none => exact absurd rfl hne
  | _ =>
    cases b.store.parseValue id _ with
    | error f => rfl
    | ok v? =>
      cases v? with
      | none => cases found.named "default" <;> rfl
      | some v =>
        simp only [ofType_ok, bind_apply]
        cases b.store.defaultViolation? id with
        | error f => rfl
        | ok r? => cases r? <;> rfl

section

variable {s : Statement} {base : TypeId} {rs : List Restriction} {c : Codec}

/-- A default that is no literal is told at its own statement. -/
theorem tells_unread (hc : store.Reads base c)
    (hv : c.parseValue (defaultOf store base found) = .ok none) :
    Tells (match found.named "default" with
      | [] => .ok () b
      | d :: _ => .ok () (b.reporting [.argumentParserError d
        (.notALiteral (defaultOf store base found) (store.rootName base))]))
      b (DefaultFlaw store s base rs found) := by
  cases hfound : found.named "default" with
  | nil =>
    refine tells_nothing (List.prefix_refl _) fun x hx => ?_
    obtain ⟨d, r, text, hd, -⟩ := (defaultFlaw_of_none hc hv).1 hx
    simp [hfound] at hd
  | cons d r =>
    refine tells_one fun x hx => ?_
    obtain ⟨d', r', text, hd, ha, rfl⟩ := (defaultFlaw_of_none hc hv).1 hx
    rw [defaultOf_eq_string base hd ha]
    rw [hfound] at hd
    cases hd
    rfl

/-- A default that is a literal is told with the first restriction that refuses it. -/
theorem tells_refusal {v : Value} (hc : store.Reads base c)
    (hv : c.parseValue (defaultOf store base found) = .ok (some v)) :
    Tells (match TypeStore.refusal? v (rs ++ store.allRestrictions base) with
      | .error f => .error (.type f) b
      | .ok none => .ok () b
      | .ok (some q) => .ok () (b.reporting [.invalidDefault (some s.origin) q]))
      b (DefaultFlaw store s base rs found) := by
  cases hr : TypeStore.refusal? v (rs ++ store.allRestrictions base) with
  | error f =>
    obtain ⟨q, g, hq, hg⟩ := TypeStore.refusal?_eq_error.1 ⟨f, hr⟩
    exact .inverted hc hv hq hg
  | ok q? =>
    have hflaw {x : Flaw} := of_defaultFlaw_literal (s := s) (x := x) hc hv hr
    cases q? with
    | none =>
      refine tells_nothing (List.prefix_refl _) fun x hx => ?_
      obtain ⟨q, hq, -⟩ := hflaw hx
      cases hq
    | some q =>
      refine tells_one fun x hx => ?_
      obtain ⟨q', ⟨⟩, rfl⟩ := hflaw hx
      rfl

theorem tells_checkDefault (h : store.Adds b.store n) (hbase : n.base = some base)
    (hnature : n.nature = .derived) (hrs : n.restrictions = rs) (horigin : n.origin = some s.origin)
    (hdefault : n.override? .default = (found.text? "default").map .string)
    (hc : store.Reads base c) :
    Tells (checkDefault store.size found b) b (DefaultFlaw store s base rs found) := by
  have hreads := h.reads hnature hbase hc
  have hproperty : b.store.property store.size .default = defaultOf store base found := by
    rw [h.property hbase hc, hdefault, defaultOf]
    cases found.text? "default" <;> rfl
  by_cases hnone : defaultOf store base found = .none
  · have hread : c.parseValue (defaultOf store base found) = .ok none := by
      rw [hnone, Codec.parseValue_of_not_text rfl]
    unfold checkDefault
    simp only [bind_apply, get_apply, hproperty, hnone]
    refine tells_nothing (List.prefix_refl _) fun x hx => ?_
    obtain ⟨d, r, text, hd, ha, -⟩ := (defaultFlaw_of_none hc hread).1 hx
    rw [defaultOf_eq_string base hd ha] at hnone
    cases hnone
  rw [checkDefault_apply _ (hproperty ▸ hnone), TypeStore.parseValue_of_reads hreads, hproperty]
  cases hv : c.parseValue (defaultOf store base found) with
  | error e => exact (defaultFlaw_iff hc).2 (.inr (.inl ⟨⟨e, hv⟩, rfl⟩))
  | ok v? =>
    cases v? with
    | none =>
      simp only [Except.mapError, h.rootName hbase hc]
      exact tells_unread hc hv
    | some v =>
      have hviolation : b.store.defaultViolation? store.size =
          TypeStore.refusal? v (rs ++ store.allRestrictions base) := by
        have hread := (TypeStore.parseValue_eq_ok hreads).2 (hproperty.symm ▸ hv)
        rw [TypeStore.defaultViolation?_eq hread, h.allRestrictions hbase hc, hrs]
      simp only [Except.mapError, hviolation, TypeStore.get_eq h.node, horigin]
      exact tells_refusal hc hv

end

/-- The check of a default changes nothing, and reports only on that default. -/
theorem reports_checkDefault (id : TypeId) (found : Substatements) :
    Reports (·.AboutDefault) (checkDefault id found) := by
  apply reports_bind reports_get
  intro _ b _ _
  dsimp only
  split
  · exact reports_pure ()
  next d row _ =>
  apply reports_bind (reports_ofType _)
  intro _ v? _ _
  cases v? with
  | none =>
    dsimp only
    split
    · exact reports_pure ()
    · exact reports_addError (.notALiteral ..)
  | some v =>
    apply reports_bind (reports_ofType _)
    intro _ r? _ _
    cases r? with
    | none => exact reports_pure ()
    | some r => exact reports_addError (.refused ..)

end Build
end YangSchema
