import YangSchema.Proofs.Typedef.RestrictionFlaw
import YangSchema.Proofs.Types.Reads

/-!
# Flawed type statements

A builder knows only types that read, and makes a decimal64 anew for each use. A type statement that
names one is fatal for fraction digits with too many digits; then come the restrictions.
-/
namespace YangSchema
namespace TypeBuilder

variable {b b' b'' : TypeBuilder}

/-- The types that can be named again and again: the built-in ones that all types share, and the
typedefs of the scope and of other modules. -/
inductive Known (b : TypeBuilder) : TypeId → Prop
  | shared {i : TypeId} (h : i < Primitive.shared.length) : Known b i
  | typedef {name : QualifiedName} {id : TypeId} (h : (name, id) ∈ b.typedefs) : Known b id
  | external {name : QualifiedName} {id : TypeId} (h : (name, id) ∈ b.scope.external) : Known b id

def Sound (b : TypeBuilder) : Prop :=
  ∀ ⦃id⦄, b.Known id → ∃ c, b.store.Reads id c

structure Stays (b b' : TypeBuilder) : Prop where
  scope : b'.scope = b.scope
  typedefs : b'.typedefs = b.typedefs
  store : b.store.Grows b'.store

theorem Stays.refl (b : TypeBuilder) : Stays b b :=
  ⟨rfl, rfl, .refl _⟩

theorem Stays.trans (h : Stays b b') (h' : Stays b' b'') : Stays b b'' :=
  ⟨h'.scope.trans h.scope, h'.typedefs.trans h.typedefs, h.store.trans h'.store⟩

theorem stays_reporting (b : TypeBuilder) (es : List SchemaError) : Stays b (b.reporting es) :=
  ⟨rfl, rfl, .refl _⟩

theorem Known.of_stays {id : TypeId} (hid : b'.Known id) (h : Stays b b') : b.Known id := by
  cases hid with
  | shared hi => exact .shared hi
  | typedef hq => exact .typedef (h.typedefs ▸ hq)
  | external hq => exact .external (h.scope ▸ hq)

theorem Sound.stays (hb : b.Sound) (h : Stays b b') : b'.Sound := by
  intro id hid
  obtain ⟨c, hc⟩ := hb (hid.of_stays h)
  exact ⟨c, hc.grows h.store⟩

theorem exists_codec_of_mem_shared {p : Primitive} (hp : p ∈ Primitive.shared) :
    ∃ c, (TypeStore.primitiveNode p).codec? = some c := by
  have hne : p ≠ .decimal64 := by
    rintro rfl
    exact absurd hp (by decide)
  cases p with
  | decimal64 => exact absurd rfl hne
  | _ => exact ⟨_, rfl⟩

/-- At the start nothing is known but the built-in types that all types share. -/
theorem exists_of_known_initial {scope : Scope} (h : scope.external = []) {id : TypeId}
    (hid : Known { scope } id) :
    ∃ p ∈ Primitive.shared, TypeStore.initial.get? id = some (TypeStore.primitiveNode p) := by
  cases hid with
  | shared hi => exact ⟨_, List.getElem_mem hi, by simp [TypeStore.initial, TypeStore.get?, hi]⟩
  | typedef hq => exact absurd hq List.not_mem_nil
  | external hq =>
    rw [h] at hq
    exact absurd hq List.not_mem_nil

theorem sound_initial {scope : Scope} (h : scope.external = []) : Sound { scope } := by
  intro id hid
  obtain ⟨p, hp, hn⟩ := exists_of_known_initial h hid
  obtain ⟨c, hc⟩ := exists_codec_of_mem_shared hp
  exact ⟨c, .own hn rfl hc⟩

end TypeBuilder

namespace TypeStore

/-- A type that can be put below another, if need be after it is given fraction digits. -/
def Nameable (s : TypeStore) (id : TypeId) : Prop :=
  (∃ c, s.Reads id c) ∨ s.IsBare id

theorem needsDigits_iff {s : TypeStore} {id : TypeId} (h : s.Nameable id) :
    ((s.get id).isDecimal64 && (s.get id).scale?.isNone) = true ↔ s.IsBare id := by
  obtain ⟨c, hc⟩ | hbare := h
  · refine iff_of_false ?_ (not_isBare_of_reads hc)
    cases hc with
    | own hn hb hc =>
      rw [get_eq hn]
      unfold TypeNode.codec? at hc
      split at hc
      · next hnature => simp [TypeNode.isDecimal64, hnature]
      · next hnature => simp [TypeNode.scale?, hnature]
      · cases hc
      · cases hc
    | derived hn hd =>
      rw [get_eq hn]
      simp [TypeNode.isDecimal64, hd]
  · refine iff_of_true ?_ hbare
    rw [get_eq hbare]
    rfl

end TypeStore

/-- A builder finds types that are known, and bare ones. -/
theorem TypeBuilder.Sound.nameable {b b' : TypeBuilder} (hb : b.Sound) (h : b.Stays b')
    {id : TypeId} (hid : b.Known id ∨ b'.store.IsBare id) : b'.store.Nameable id := by
  obtain hknown | hbare := hid
  · obtain ⟨c, hc⟩ := hb hknown
    exact .inl ⟨c, hc.grows h.store⟩
  · exact .inr hbare

namespace Build
open TypeBuilder

variable {tree : StatementTree} {t s : Statement} {base : TypeId} {text : String}
  {found : Substatements} {b b' : TypeBuilder}

theorem primitive?_spec (b : TypeBuilder) (name : String) :
    ∃ r b', primitive? name b = .ok r b' ∧ b.errors = b'.errors ∧ b.Stays b' ∧
      ∀ id ∈ r, b.Known id ∨ b'.store.IsBare id := by
  unfold primitive?
  simp only [bind_apply, get_apply, TypeStore.primitive?]
  cases hi : Primitive.shared.findIdx? (·.name = name) with
  | some i =>
    refine ⟨some i, b, rfl, rfl, .refl b, fun id hid => ?_⟩
    obtain rfl := Option.mem_some.1 hid
    exact .inl (.shared (List.findIdx?_eq_some_iff_getElem.1 hi).1)
  | none =>
    by_cases hd : name = Primitive.decimal64.name
    · simp only [if_pos hd]
      refine ⟨_, _, rfl, rfl, ⟨rfl, rfl, TypeStore.grows_add _⟩, fun id hid => ?_⟩
      obtain rfl := Option.mem_some.1 hid
      exact .inr (TypeStore.adds_add _ _).node
    · simp only [if_neg hd]
      exact ⟨none, b, rfl, rfl, .refl b, by simp⟩

theorem mem_of_lookup {α β : Type} [BEq α] [LawfulBEq α] {a : α} {v : β} {row : List (α × β)}
    (h : row.lookup a = some v) : (a, v) ∈ row := by
  obtain ⟨l₁, l₂, rfl, -⟩ := List.lookup_eq_some_iff.1 h
  exact List.mem_append_right _ List.mem_cons_self

theorem lookup_spec (b : TypeBuilder) (name : TypeName) :
    ∃ r b', lookup name b = .ok r b' ∧ b.errors = b'.errors ∧ b.Stays b' ∧
      ∀ id ∈ r, b.Known id ∨ b'.store.IsBare id := by
  unfold lookup
  simp only [bind_apply, get_apply, ite_apply]
  split
  · cases hl : b.typedefs.lookup (b.scope.qualify name.name) with
    | some id =>
      refine ⟨some id, b, rfl, rfl, .refl b, fun i hi => ?_⟩
      obtain rfl := Option.mem_some.1 hi
      exact .inl (.typedef (mem_of_lookup hl))
    | none =>
      simp only [ite_apply]
      split
      · exact primitive?_spec b name.name
      · exact ⟨none, b, rfl, rfl, .refl b, by simp⟩
  · cases b.scope.importOf? name.qualifier with
    | some n =>
      refine ⟨_, b, rfl, rfl, .refl b, fun i hi => ?_⟩
      exact .inl (.external (mem_of_lookup (Option.mem_def.1 hi)))
    | none => exact ⟨none, b, rfl, rfl, .refl b, by simp⟩

theorem baseOf_spec (b : TypeBuilder) (t : Statement) (text : String) :
    ∃ r b', baseOf t text b = .ok r b' ∧ b.errors <+: b'.errors ∧ b.Stays b' ∧
      ∀ id ∈ r, b.Known id ∨ b'.store.IsBare id := by
  unfold baseOf
  simp only [bind_apply, get_apply, ite_apply]
  split
  · obtain ⟨r, b', h, herrors, hstays, hid⟩ := lookup_spec b (.of text)
    rw [h]
    cases r with
    | some id => exact ⟨some id, b', rfl, herrors ▸ List.prefix_refl _, hstays, hid⟩
    | none =>
      refine ⟨none, _, rfl, ?_, hstays.trans (stays_reporting b' _), by simp⟩
      rw [herrors]
      exact errors_prefix_reporting b' _
  · exact ⟨none, _, rfl, errors_prefix_reporting b _, stays_reporting b _, by simp⟩

inductive FractionFlaw (found : Substatements) (store : TypeStore) (base : TypeId) : Flaw → Prop
  | mk {d : Statement} {r : List Statement} {text : String} {x : Flaw}
      (hbare : store.IsBare base) (hd : found.named "fraction-digits" = d :: r)
      (ha : d.argument = some text)
      (h : Refused d (Argument.fractionDigits text) (LongNumeral text.toList) x) :
      FractionFlaw found store base x

theorem fractionFlaw_iff {d : Statement} {row : List Statement} (hbare : b.store.IsBare base)
    (hfound : found.named "fraction-digits" = d :: row) (ha : d.argument = some text) (x : Flaw) :
    FractionFlaw found b.store base x ↔
      Refused d (Argument.fractionDigits text) (LongNumeral text.toList) x := by
  constructor
  · rintro ⟨-, hd, ha', h⟩
    rw [hfound] at hd
    cases hd
    rw [ha] at ha'
    cases ha'
    exact h
  · exact .mk hbare hfound ha

theorem not_fractionFlaw_of_argument {d : Statement} {row : List Statement}
    (hfound : found.named "fraction-digits" = d :: row) (ha : d.argument = none) (x : Flaw) :
    ¬ FractionFlaw found b.store base x := by
  rintro ⟨-, hd, ha', -⟩
  rw [hfound] at hd
  cases hd
  rw [ha] at ha'
  cases ha'

/-- Fraction digits that a decimal64 needs make it readable. -/
theorem configure_spec {d : Statement} (hbare : b.store.IsBare base) (text : String)
    {next : Option Nat → Build (Option Unit)} (hnone : next none = pure none)
    (hsome : ∀ n, next (some n) = do
      setStore (← ofType ((← get).store.configure base n))
      return some ()) :
    Tells ((read d (Argument.fractionDigits text) >>= next) b) b
        (Refused d (Argument.fractionDigits text) (LongNumeral text.toList)) ∧
      ∀ r b', (read d (Argument.fractionDigits text) >>= next) b = .ok r b' →
        b.Stays b' ∧ (r = some () → ∃ c, b'.store.Reads base c) := by
  have hread := tells_read (s := d) (Argument.isTooLong_fractionDigits text) b
  cases hdigits : Argument.fractionDigits text with
  | error e =>
    rw [hdigits] at hread
    cases e with
    | fault f =>
      simp only [bind_apply, read_fault, hnone, pure_apply]
      refine ⟨hread, ?_⟩
      rintro r b' ⟨⟩
      exact ⟨stays_reporting b _, by simp⟩
    | numeral f =>
      simp only [bind_apply, read_numeral]
      exact ⟨hread, by simp⟩
  | ok n =>
    rw [hdigits] at hread
    obtain ⟨store, hstore, hgrows, hreads⟩ :=
      TypeStore.reads_configure hbare (Argument.bounds_of_fractionDigits hdigits)
    simp only [bind_apply, read_ok, hsome, get_apply, hstore, ofType_ok, setStore_apply, pure_apply]
    refine ⟨hread, ?_⟩
    rintro r b' ⟨⟩
    exact ⟨⟨rfl, rfl, hgrows⟩, fun _ => ⟨_, hreads⟩⟩

theorem fractionDigits_spec (hbase : b.store.Nameable base) (t : Statement)
    (found : Substatements) :
    Tells (fractionDigits t found base b) b (FractionFlaw found b.store base) ∧
      ∀ r b', fractionDigits t found base b = .ok r b' →
        b.Stays b' ∧ (r = some () → ∃ c, b'.store.Reads base c) := by
  have hneeds := TypeStore.needsDigits_iff hbase
  unfold fractionDigits
  simp only [bind_apply, get_apply]
  cases hfound : found.named "fraction-digits" with
  | nil =>
    have hnot (x : Flaw) : ¬ FractionFlaw found b.store base x := by
      rintro ⟨-, hd, -⟩
      rw [hfound] at hd
      cases hd
    simp only [ite_apply]
    split
    · refine ⟨tells_nothing (errors_prefix_reporting b _) hnot, ?_⟩
      rintro r b' ⟨⟩
      exact ⟨stays_reporting b _, by simp⟩
    · next hready =>
      refine ⟨tells_nothing (List.prefix_refl _) hnot, ?_⟩
      rintro r b' ⟨⟩
      exact ⟨.refl b, fun _ => hbase.resolve_right (hready ∘ hneeds.2)⟩
  | cons d row =>
    simp only [ite_apply]
    split
    · next hbare =>
      rw [bind_apply, argument_apply]
      cases ha : d.argument with
      | none =>
        refine ⟨tells_nothing (errors_prefix_reporting b _)
          (not_fractionFlaw_of_argument hfound ha), ?_⟩
        rintro r b' ⟨⟩
        exact ⟨stays_reporting b _, by simp⟩
      | some text =>
        have hiff := fractionFlaw_iff (hneeds.1 hbare) hfound ha
        refine And.imp_left (fun h => h.congr fun x => (hiff x).symm)
          (configure_spec (hneeds.1 hbare) text ?_ ?_)
        · rfl
        · exact fun _ => rfl
    · next hready =>
      refine ⟨tells_nothing (errors_prefix_reporting b _) ?_, ?_⟩
      · rintro x ⟨hbare, -⟩
        exact hready (hneeds.2 hbare)
      · rintro r b' ⟨⟩
        exact ⟨stays_reporting b _, fun _ => hbase.resolve_right (hready ∘ hneeds.2)⟩

/-- What is wrong with the arguments below a type statement, as the builder comes to them. -/
inductive TypeFlaw (tree : StatementTree) (t : Statement) (b : TypeBuilder) : Flaw → Prop
  | digits {text : String} {base : TypeId} {found : Substatements} {b₁ b₂ : TypeBuilder} {x : Flaw}
      (ha : t.argument = some text) (hbase : baseOf t text b = .ok (some base) b₁)
      (hfound : substatements tree Allowed.inType t b₁ = .ok found b₂)
      (h : FractionFlaw found b₂.store base x) : TypeFlaw tree t b x
  | restriction {text : String} {base : TypeId} {found : Substatements} {b₁ b₂ b₃ : TypeBuilder}
      {s : Statement} {x : Flaw} (ha : t.argument = some text)
      (hbase : baseOf t text b = .ok (some base) b₁)
      (hfound : substatements tree Allowed.inType t b₁ = .ok found b₂)
      (hdigits : fractionDigits t found base b₂ = .ok (some ()) b₃) (hs : s ∈ restricting found)
      (h : RestrictionFlaw b₃.scope.runtime b₃.store base s x) : TypeFlaw tree t b x

/-- Fraction digits come before restrictions, which are built if the type can be used then. -/
theorem restrict_spec {b₀ : TypeBuilder} {F : Flaw → Prop} (tree : StatementTree) (t : Statement)
    (found : Substatements) {next : Option Unit → Build (Option (TypeId × List Restriction))}
    (hnone : next none = pure none)
    (hsome : next (some ()) = (do return some (base, ← restrictions tree base (restricting found))))
    (hbase : b.store.Nameable base) (herrors : b₀.errors <+: b.errors) (hstays₀ : b₀.Stays b)
    (hF : ∀ x, F x ↔ FractionFlaw found b.store base x ∨
      ∃ b', fractionDigits t found base b = .ok (some ()) b' ∧
        ∃ s ∈ restricting found, RestrictionFlaw b'.scope.runtime b'.store base s x) :
    Tells ((fractionDigits t found base >>= next) b) b₀ F ∧
      ∀ r b', (fractionDigits t found base >>= next) b = .ok r b' →
        b₀.Stays b' ∧ ∀ base' rs, r = some (base', rs) → ∃ c, b'.store.Reads base' c := by
  obtain ⟨htells, hok⟩ := fractionDigits_spec hbase t found
  constructor
  · refine Tells.mono (Tells.congr ?_ fun x => (hF x).symm) herrors
    refine htells.bind .inl fun usable b₃ h => ?_
    cases usable with
    | none =>
      refine ⟨Flawless, ?_, fun hx => absurd hx (not_flawless _), ?_⟩
      · rw [hnone]
        exact tells_nothing (List.prefix_refl _) not_flawless
      · rintro x (hx | ⟨b₃', h', -⟩)
        · exact .inl hx
        · rw [h] at h'
          cases h'
    | some _ =>
      refine ⟨fun x => ∃ s ∈ restricting found,
        RestrictionFlaw b₃.scope.runtime b₃.store base s x, ?_, fun hx => .inr ⟨b₃, h, hx⟩, ?_⟩
      · rw [hsome]
        refine (tells_restrictions tree base _ b₃).bind_left fun rs b' _ => ?_
        exact tells_nothing (List.prefix_refl _) not_flawless
      · rintro x (hx | ⟨b₃', h', hx⟩)
        · exact .inl hx
        · rw [h] at h'
          cases h'
          exact .inr hx
  · intro r b' h
    obtain ⟨usable, b₃, hdigits, hrest⟩ := bind_eq_ok.1 h
    obtain ⟨hstays, hreads⟩ := hok usable b₃ hdigits
    cases usable with
    | none =>
      rw [hnone] at hrest
      cases hrest
      exact ⟨hstays₀.trans hstays, by simp⟩
    | some _ =>
      rw [hsome] at hrest
      obtain ⟨rs, b₄, hrs, hpure⟩ := bind_eq_ok.1 hrest
      obtain ⟨es, rfl, -⟩ := reports_restrictions tree base _ b₃ rs b₄ hrs
      cases hpure
      refine ⟨(hstays₀.trans hstays).trans (stays_reporting b₃ es), ?_⟩
      rintro base' rs' ⟨⟩
      exact hreads rfl

theorem resolve_spec (hb : b.Sound) (tree : StatementTree) (t : Statement) :
    Tells (resolve tree t b) b (TypeFlaw tree t b) ∧
      ∀ r b', resolve tree t b = .ok r b' →
        b.Stays b' ∧ ∀ base rs, r = some (base, rs) → ∃ c, b'.store.Reads base c := by
  unfold resolve
  rw [bind_apply, argument_apply]
  cases ha : t.argument with
  | none =>
    refine ⟨tells_nothing (errors_prefix_reporting b _) ?_, ?_⟩
    · rintro x (⟨ha', -⟩ | ⟨ha', -⟩)
      all_goals simp [ha] at ha'
    · rintro r b' ⟨⟩
      exact ⟨stays_reporting b _, by simp⟩
  | some text =>
    obtain ⟨base?, b₁, hbase, herrors, hstays, hknown⟩ := baseOf_spec b t text
    dsimp only
    rw [bind_apply, hbase]
    cases base? with
    | none =>
      refine ⟨tells_nothing herrors ?_, ?_⟩
      · rintro x (⟨ha', hbase', -⟩ | ⟨ha', hbase', -⟩)
        all_goals
          rw [ha] at ha'
          cases ha'
          rw [hbase] at hbase'
          cases hbase'
      · rintro r b' ⟨⟩
        exact ⟨hstays, by simp⟩
    | some base =>
      dsimp only
      rw [bind_apply, substatements_apply]
      have hsub := substatements_apply b₁ tree Allowed.inType t
      generalize Substatements.of Allowed.inType (tree.childStatements t) = found at hsub ⊢
      have hnameable₂ : (b₁.reporting found.errors).store.Nameable base :=
        hb.nameable hstays (hknown base rfl)
      have hstays₂ := hstays.trans (stays_reporting b₁ found.errors)
      have herrors₂ := herrors.trans (errors_prefix_reporting b₁ found.errors)
      refine restrict_spec tree t found ?_ ?_ hnameable₂ herrors₂ hstays₂ fun x => ⟨?_, ?_⟩
      · rfl
      · rfl
      · rintro (⟨ha', hbase', hsub', hx⟩ | ⟨ha', hbase', hsub', hdigits, hs, hx⟩)
        all_goals
          rw [ha] at ha'
          cases ha'
          rw [hbase] at hbase'
          cases hbase'
          rw [hsub] at hsub'
          cases hsub'
        · exact .inl hx
        · exact .inr ⟨_, hdigits, _, hs, hx⟩
      · rintro (hx | ⟨b₃, hdigits, s, hs, hx⟩)
        · exact .digits ha hbase hsub hx
        · exact .restriction ha hbase hsub hdigits hs hx

end Build
end YangSchema
