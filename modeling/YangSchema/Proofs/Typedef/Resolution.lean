import YangSchema.Proofs.Typedef.Report
import YangSchema.Proofs.Typedef.TypedefFlaw

/-!
# What building a type can do

Each step of the builder that succeeds goes one of a few ways, told here once with all that is known
on each: what was found, what was configured, and which state is left.
-/
namespace YangSchema

namespace TypeStore

def Unconfigured (s : TypeStore) (id : TypeId) : Prop :=
  (s.get id).nature = .decimal64 none

theorem unconfigured_iff {s : TypeStore} {id : TypeId} :
    ((s.get id).isDecimal64 && (s.get id).scale?.isNone) = true ↔ s.Unconfigured id := by
  unfold Unconfigured TypeNode.isDecimal64 TypeNode.scale?
  cases (s.get id).nature with
  | derived => simp
  | primitive c => simp
  | decimal64 k => cases k <;> simp

def decimalNode (digits : Nat) : TypeNode :=
  { primitiveNode .decimal64 with nature := .decimal64 (some ⟨digits⟩) }

def withDigits (s : TypeStore) (id : TypeId) (digits : Nat) : TypeStore :=
  s.modify id fun n => { n with nature := .decimal64 (some ⟨digits⟩) }

/-- A decimal64 that needs its fraction digits is in the store. -/
theorem Unconfigured.exists_get? {s : TypeStore} {id : TypeId} (h : s.Unconfigured id) :
    ∃ n, s.get? id = some n ∧ n.nature = .decimal64 none := by
  unfold Unconfigured get at h
  cases hn : s.get? id with
  | none =>
    rw [hn] at h
    cases h
  | some n =>
    rw [hn] at h
    exact ⟨n, rfl, h⟩

theorem nature_withDigits {s : TypeStore} {id : TypeId} (h : s.Unconfigured id) (digits : Nat) :
    ((s.withDigits id digits).get id).nature = .decimal64 (some ⟨digits⟩) := by
  obtain ⟨n, hn, -⟩ := h.exists_get?
  have hget : (s.withDigits id digits).get? id =
      some { n with nature := .decimal64 (some ⟨digits⟩) } := by
    rw [withDigits, get?_modify, if_pos rfl, hn, Option.map_some]
  rw [get_eq hget]

end TypeStore

namespace Build

variable {tree : StatementTree} {s t : Statement} {base id : TypeId} {b b' : TypeBuilder}
  {text : String} {found : Substatements}

/-- A name is found among the types that are known, or a decimal64 is made for it. -/
inductive Found (b : TypeBuilder) : Option TypeId → TypeBuilder → Prop
  | missing : Found b none b
  | known {id : TypeId} (h : b.Known id) : Found b (some id) b
  | fresh : Found b (some b.store.size)
    { b with store := b.store.add (TypeStore.primitiveNode .decimal64) }

theorem found_of_primitive? {name : String} {r : Option TypeId}
    (h : primitive? name b = .ok r b') : Found b r b' := by
  unfold primitive? at h
  simp only [bind_apply, get_apply, TypeStore.primitive?] at h
  cases hi : Primitive.shared.findIdx? (·.name = name) with
  | some i =>
    rw [hi] at h
    cases h
    exact .known (.shared (List.findIdx?_eq_some_iff_getElem.1 hi).1)
  | none =>
    rw [hi] at h
    by_cases hd : name = Primitive.decimal64.name
    · simp only [if_pos hd] at h
      cases h
      exact .fresh
    · simp only [if_neg hd] at h
      cases h
      exact .missing

theorem found_of_lookup {name : TypeName} {r : Option TypeId} (h : lookup name b = .ok r b') :
    Found b r b' := by
  unfold lookup at h
  simp only [bind_apply, get_apply, ite_apply] at h
  split at h
  · cases hl : b.typedefs.lookup (b.scope.qualify name.name) with
    | some id =>
      rw [hl] at h
      cases h
      exact .known (.typedef (mem_of_lookup hl))
    | none =>
      simp only [hl, ite_apply] at h
      split at h
      · exact found_of_primitive? h
      · cases h
        exact .missing
  · cases hn : b.scope.importOf? name.qualifier with
    | none =>
      rw [hn] at h
      cases h
      exact .missing
    | some n =>
      rw [hn] at h
      cases hl : b.scope.external.lookup ⟨n, name.name⟩ with
      | none =>
        simp only [hl, pure_apply] at h
        cases h
        exact .missing
      | some id =>
        simp only [hl, pure_apply] at h
        cases h
        exact .known (.external (mem_of_lookup hl))

/-- A type statement names a type that is found, or that is reported. -/
inductive Names (b : TypeBuilder) : Option TypeId → TypeBuilder → Prop
  | refused (es : List SchemaError) : Names b none (b.reporting es)
  | found {id : TypeId} {b' : TypeBuilder} (h : Found b (some id) b') : Names b (some id) b'

theorem names_of_baseOf {r : Option TypeId} (h : baseOf t text b = .ok r b') : Names b r b' := by
  unfold baseOf at h
  simp only [bind_apply, get_apply, ite_apply] at h
  split at h
  · cases hl : lookup (.of text) b with
    | error f d =>
      rw [hl] at h
      cases h
    | ok id? d =>
      have hfound := found_of_lookup hl
      rw [hl] at h
      cases id? with
      | none =>
        cases hfound
        cases h
        exact .refused _
      | some id =>
        cases h
        exact .found hfound
  · cases h
    exact .refused _

/-- A base is ready for use, and is given no fraction digits, or it needs them and is given them. -/
inductive Readied (b : TypeBuilder) (found : Substatements) (base : TypeId) :
    Option Unit → TypeBuilder → Prop
  | refused (es : List SchemaError) : Readied b found base none (b.reporting es)
  | ready (h : ¬ b.store.Unconfigured base) :
    Readied b found base (some ())
      (b.reporting ((found.named "fraction-digits").head?.toList.map .unexpectedStatement))
  | configured {d : Statement} {text : String} {digits : Nat} (h : b.store.Unconfigured base)
    (hd : (found.named "fraction-digits").head? = some d) (ha : d.argument = some text)
    (hdigits : Argument.fractionDigits text = .ok digits) :
    Readied b found base (some ()) { b with store := b.store.withDigits base digits }

theorem readied_of_fractionDigits {r : Option Unit} (h : fractionDigits t found base b = .ok r b') :
    Readied b found base r b' := by
  unfold fractionDigits at h
  simp only [bind_apply, get_apply] at h
  cases hfound : found.named "fraction-digits" with
  | nil =>
    simp only [hfound, ite_apply] at h
    split at h
    · cases h
      exact .refused _
    · next hready =>
      cases h
      have hr : Readied b found base _ _ := .ready (hready ∘ TypeStore.unconfigured_iff.2)
      simpa [hfound] using hr
  | cons d row =>
    have hd : (found.named "fraction-digits").head? = some d := by rw [hfound, List.head?_cons]
    simp only [hfound, ite_apply] at h
    split at h
    · next hbare =>
      have hbare := TypeStore.unconfigured_iff.1 hbare
      rw [bind_apply, argument_apply] at h
      cases ha : d.argument with
      | none =>
        rw [ha] at h
        cases h
        exact .refused _
      | some text =>
        simp only [ha, bind_apply] at h
        cases hdigits : Argument.fractionDigits text with
        | error e =>
          cases e with
          | fault f =>
            rw [hdigits, read_fault] at h
            cases h
            exact .refused _
          | numeral f =>
            rw [hdigits, read_numeral] at h
            cases h
        | ok digits =>
          have hbounds := Argument.bounds_of_fractionDigits hdigits
          have hint : (1 : Int) ≤ digits ∧ (digits : Int) ≤ 18 := by omega
          simp only [hdigits, read_ok, bind_apply, get_apply, TypeStore.configure, if_pos hint,
            ofType_ok, setStore_apply, pure_apply] at h
          cases h
          exact .configured hbare hd ha hdigits
    · next hready =>
      cases h
      have hr : Readied b found base _ _ := .ready (hready ∘ TypeStore.unconfigured_iff.2)
      rw [hfound] at hr
      exact hr

/-- A type statement gives nothing, or a base with the restrictions below it. -/
inductive Resolves (tree : StatementTree) (t : Statement) (b : TypeBuilder) :
    Option (TypeId × List Restriction) → TypeBuilder → Prop
  | refused (es : List SchemaError) : Resolves tree t b none (b.reporting es)
  | unready {base : TypeId} {b₁ : TypeBuilder} (hbase : Names b (some base) b₁)
    (es : List SchemaError) : Resolves tree t b none (b₁.reporting es)
  | resolved {text : String} {base : TypeId} {rs : List Restriction} {b₁ b₂ b₃ : TypeBuilder}
    (ha : t.argument = some text) (hbase : baseOf t text b = .ok (some base) b₁)
    (hdigits : fractionDigits t (below tree Allowed.inType t) base
      (b₁.reporting (below tree Allowed.inType t).errors) = .ok (some ()) b₂)
    (hrs : restrictions tree base (restricting (below tree Allowed.inType t)) b₂ = .ok rs b₃) :
    Resolves tree t b (some (base, rs)) b₃

theorem resolves_of_resolve {r : Option (TypeId × List Restriction)}
    (h : resolve tree t b = .ok r b') : Resolves tree t b r b' := by
  unfold resolve at h
  rw [bind_apply, argument_apply] at h
  cases ha : t.argument with
  | none =>
    rw [ha] at h
    cases h
    exact .refused _
  | some text =>
    rw [ha] at h
    dsimp only at h
    obtain ⟨base?, b₁, hbase, h⟩ := bind_eq_ok.1 h
    cases base? with
    | none =>
      cases h
      cases names_of_baseOf hbase with
      | refused es => exact .refused es
    | some base =>
      dsimp only at h
      rw [bind_apply, substatements_apply] at h
      obtain ⟨usable, b₃, hdigits, h⟩ := bind_eq_ok.1 h
      cases usable with
      | none =>
        cases h
        cases readied_of_fractionDigits hdigits with
        | refused es =>
          rw [TypeBuilder.reporting_reporting]
          exact .unready (names_of_baseOf hbase) _
      | some _ =>
        obtain ⟨rs, b₄, hrs, h⟩ := bind_eq_ok.1 h
        cases h
        exact .resolved ha hbase hdigits hrs

/-- A type that was added with nothing set is told the properties of its typedef. Nothing else of it
is changed, and no other type. -/
theorem leaves_of_properties {n : TypeNode} (hn : n.overrides = [])
    (h : properties b.store.size found { b with store := b.store.add n } = .ok () b') :
    ∃ n', Leaves b.store n' b b' ∧ n' = { n with overrides := n'.overrides } ∧
      ∀ p, n'.override? p = found.value? p := by
  obtain ⟨n', d, hd, hl, hn', hset, -⟩ :=
    properties_spec (b := { b with store := b.store.add n }) (TypeStore.adds_add b.store n) found
  cases hd.symm.trans h
  refine ⟨n', ⟨hl.adds, hl.scope, hl.typedefs, hl.errors⟩, hn', fun p => ?_⟩
  rw [hset p, TypeNode.override?, hn, List.lookup_nil, Option.or_none]

/-- A typedef is left out, or its type is added, told its properties, checked and entered. -/
inductive Defines (tree : StatementTree) (s : Statement) (b : TypeBuilder) :
    Option TypeId → TypeBuilder → Prop
  | refused (es : List SchemaError) : Defines tree s b none (b.reporting es)
  | unresolved {t : Statement} {b' : TypeBuilder}
    (h : resolve tree t (b.reporting (below tree Allowed.inTypedef s).errors) = .ok none b') :
    Defines tree s b none b'
  | defined {name : String} {t : Statement} {row : List Statement} {base : TypeId}
    {rs : List Restriction} {b₁ b₂ b₃ : TypeBuilder} (log : List LogLine)
    (ha : s.argument = some name) (hname : Primitive.named? name = none)
    (hfree : b.typedefs.lookup (b.scope.qualify name) = none)
    (ht : (below tree Allowed.inTypedef s).named "type" = t :: row)
    (hresolve : resolve tree t (b.reporting (below tree Allowed.inTypedef s).errors) =
      .ok (some (base, rs)) b₁)
    (hproperties : properties b₁.store.size (below tree Allowed.inTypedef s)
      { b₁ with store := b₁.store.add { name := b.scope.qualify name, base := some base,
                                        restrictions := rs, origin := some s.origin } } =
      .ok () b₂)
    (hdefault : checkDefault b₁.store.size (below tree Allowed.inTypedef s) b₂ = .ok () b₃) :
    Defines tree s b (some b₁.store.size)
      { b₃ with typedefs := b₃.typedefs ++ [(b.scope.qualify name, b₁.store.size)], log }

theorem shadowed?_eq_none {name : String} (h : shadowed? name b = .ok none b') :
    b' = b ∧ b.typedefs.lookup (b.scope.qualify name) = none ∧ Primitive.named? name = none := by
  unfold shadowed? at h
  simp only [bind_apply, get_apply] at h
  cases hl : b.typedefs.lookup (b.scope.qualify name) with
  | some id =>
    rw [hl] at h
    cases h
  | none =>
    cases hp : Primitive.named? name with
    | some p =>
      rw [hl, hp] at h
      cases h
    | none =>
      rw [hl, hp] at h
      cases h
      exact ⟨rfl, rfl, rfl⟩

theorem defines_of_defineType {name : String} {r : Option TypeId} (ha : s.argument = some name)
    (hname : Primitive.named? name = none)
    (hfree : b.typedefs.lookup (b.scope.qualify name) = none)
    (h : defineType tree s (b.scope.qualify name) b = .ok r b') : Defines tree s b r b' := by
  unfold defineType at h
  rw [bind_apply, substatements_apply] at h
  dsimp only at h
  cases ht : (below tree Allowed.inTypedef s).named "type" with
  | nil =>
    simp only [ht, reject_apply, TypeBuilder.reporting_reporting] at h
    cases h
    exact .refused _
  | cons t row =>
    rw [ht] at h
    dsimp only at h
    obtain ⟨resolved, b₁, hresolve, h⟩ := bind_eq_ok.1 h
    cases resolved with
    | none =>
      cases h
      exact .unresolved hresolve
    | some resolved =>
      obtain ⟨base, rs⟩ := resolved
      obtain ⟨_, _, hadd, h⟩ := bind_eq_ok.1 h
      cases hadd
      obtain ⟨_, b₂, hproperties, h⟩ := bind_eq_ok.1 h
      obtain ⟨_, b₃, hdefault, h⟩ := bind_eq_ok.1 h
      cases h
      exact .defined _ ha hname hfree ht hresolve hproperties hdefault

theorem defines_of_addTypedef {i : StatementId} {r : Option TypeId}
    (h : addTypedef tree i b = .ok r b') : ∃ s, tree.get i = .ok s ∧ Defines tree s b r b' := by
  unfold addTypedef at h
  rw [bind_apply] at h
  cases hs : tree.get i with
  | error f =>
    rw [hs] at h
    cases h
  | ok s =>
    refine ⟨s, rfl, ?_⟩
    rw [hs, ofTree_ok] at h
    dsimp only at h
    rw [bind_apply, argument_apply] at h
    cases ha : s.argument with
    | none =>
      rw [ha] at h
      cases h
      exact .refused _
    | some name =>
      rw [ha] at h
      dsimp only at h
      obtain ⟨r?, b₀, hshadowed, hdefine⟩ := bind_eq_ok.1 h
      obtain ⟨_, hsame⟩ := shadowed?_apply name b
      cases hsame.symm.trans hshadowed
      cases r? with
      | some shadowed =>
        cases hdefine
        exact .refused _
      | none =>
        obtain ⟨-, hfree, hname⟩ := shadowed?_eq_none hshadowed
        exact defines_of_defineType ha hname hfree hdefine

end Build
end YangSchema
