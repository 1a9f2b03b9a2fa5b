import YangSchema.Proofs.Typedef.DefaultFlaw

/-!
# Flawed typedefs

A typedef is built from its type statement, then its properties, then its default. A row of typedefs
is built one after the other, and each can be named by those that come later.
-/
namespace YangSchema
namespace Build
open TypeBuilder

/-- The builder comes to the type statement of a typedef that has a name and hides no type. -/
structure Enters (tree : StatementTree) (s : Statement) (b : TypeBuilder) (found : Substatements)
    (t : Statement) (b' : TypeBuilder) : Prop where
  free : ∃ name, s.argument = some name ∧ shadowed? name b = .ok none b
  below : substatements tree Allowed.inTypedef s b = .ok found b'
  first : ∃ r, found.named "type" = t :: r

/-- What is wrong with the arguments of a typedef, as the builder comes to them. -/
inductive TypedefFlaw (tree : StatementTree) (s : Statement) (b : TypeBuilder) : Flaw → Prop
  | type {found : Substatements} {t : Statement} {b₁ : TypeBuilder} {x : Flaw}
      (hs : Enters tree s b found t b₁) (h : TypeFlaw tree t b₁ x) : TypedefFlaw tree s b x
  | status {found : Substatements} {t d : Statement} {r : List Statement} {base : TypeId}
      {rs : List Restriction} {text : String} {b₁ b₂ : TypeBuilder} {x : Flaw}
      (hs : Enters tree s b found t b₁) (ht : resolve tree t b₁ = .ok (some (base, rs)) b₂)
      (hd : found.named "status" = d :: r) (ha : d.argument = some text)
      (h : Refused d (Argument.status text) False x) : TypedefFlaw tree s b x
  | default {found : Substatements} {t : Statement} {base : TypeId} {rs : List Restriction}
      {b₁ b₂ : TypeBuilder} {x : Flaw} (hs : Enters tree s b found t b₁)
      (ht : resolve tree t b₁ = .ok (some (base, rs)) b₂)
      (h : DefaultFlaw b₂.store s base rs found x) : TypedefFlaw tree s b x

variable {tree : StatementTree} {s t : Statement} {b b₁ b₂ b' : TypeBuilder}
  {found : Substatements} {base : TypeId} {rs : List Restriction}

theorem shadowed?_apply (name : String) (b : TypeBuilder) :
    ∃ r, shadowed? name b = .ok r b := by
  unfold shadowed?
  simp only [bind_apply, get_apply]
  cases b.typedefs.lookup (b.scope.qualify name) with
  | some id => exact ⟨_, rfl⟩
  | none =>
    cases Primitive.named? name with
    | some p => exact ⟨_, rfl⟩
    | none => exact ⟨none, rfl⟩

theorem known_register {id i : TypeId} {name : QualifiedName} {log : List LogLine}
    (hi : TypeBuilder.Known { b with typedefs := b.typedefs ++ [(name, id)], log } i) :
    b.Known i ∨ i = id := by
  cases hi with
  | shared hi => exact .inl (.shared hi)
  | typedef hq =>
    obtain hq | hq := List.mem_append.1 hq
    · exact .inl (.typedef hq)
    · cases List.mem_singleton.1 hq
      exact .inr rfl
  | external hq => exact .inl (.external hq)

/-- The names of a builder read when a type has been entered that does. -/
theorem sound_register {id : TypeId} {c : Codec} (hb : b.Sound) (hc : b.store.Reads id c)
    (name : QualifiedName) (base : TypeId) :
    ∃ b', register name id base b = .ok () b' ∧ b'.errors = b.errors ∧ b'.Sound := by
  refine ⟨_, rfl, rfl, fun i hi => ?_⟩
  obtain hi | rfl := known_register hi
  · exact hb hi
  · exact ⟨c, hc⟩

/-- What comes after the type statement: a type is added, told its properties, checked and
entered. -/
theorem define_spec {c : Codec} (hb : b.Sound) (hc : b.store.Reads base c) (s : Statement)
    (name : QualifiedName) (found : Substatements) (rs : List Restriction) :
    let m : Build (Option TypeId) := do
      let id ← addType { name, base := some base, restrictions := rs, origin := some s.origin }
      properties id found
      checkDefault id found
      register name id base
      return some id
    Tells (m b) b (fun x => DefaultFlaw b.store s base rs found x ∨ ∃ d r text,
        found.named "status" = d :: r ∧ d.argument = some text ∧
          Refused d (Argument.status text) False x) ∧
      ∀ r b', m b = .ok r b' → b'.Sound := by
  intro m
  obtain ⟨n, b₁, hproperties, hl, hn, hset, hstatus⟩ :=
    properties_spec (b := { b with store := b.store.add _ }) (TypeStore.adds_add b.store
      { name, base := some base, restrictions := rs, origin := some s.origin }) found
  have hbase : n.base = some base := by rw [hn]
  have hnature : n.nature = .derived := by rw [hn]
  have hdefault : n.override? .default = (found.text? "default").map .string := by
    rw [hset .default, found.value?_of_ne (by simp)]
    exact Option.or_none
  have htells : Tells (checkDefault b.store.size found b₁) b₁
      (DefaultFlaw b.store s base rs found) :=
    tells_checkDefault hl.adds hbase hnature (by rw [hn]) (by rw [hn]) hdefault hc
  have hstays : b.Stays b₁ := ⟨hl.scope, hl.typedefs, hl.adds.grows⟩
  have hreads := hl.adds.reads hnature hbase hc
  simp only [m, bind_apply, addType_apply, hproperties]
  cases hcheck : checkDefault b.store.size found b₁ with
  | error f b₂ =>
    rw [hcheck] at htells
    exact ⟨.inl htells, by simp⟩
  | ok u b₂ =>
    rw [hcheck] at htells
    obtain ⟨hnot, hprefix, htold⟩ := tells_ok.1 htells
    obtain ⟨es, rfl, -⟩ := reports_checkDefault _ _ b₁ u b₂ hcheck
    have hsound := (hb.stays hstays).stays (stays_reporting b₁ es)
    obtain ⟨b₃, hregister, herrors, hb₃⟩ := sound_register hsound hreads name base
    simp only [hregister, pure_apply]
    constructor
    · refine tells_ok.2 ⟨?_, ?_, fun e he => ?_⟩
      · rintro (hx | ⟨d, r, text, -, -, hx⟩)
        · exact hnot hx
        · exact not_refused_fatal hx
      · rw [herrors]
        exact hl.errors.trans hprefix
      · rw [herrors]
        obtain he | ⟨d, r, text, hd, ha, he⟩ := he
        · exact htold e he
        · exact hprefix.subset (hstatus d r text e hd ha he)
    · rintro r b' ⟨⟩
      exact hb₃

/-- The flaws of a typedef once its sub-statements are known. -/
theorem typedefFlaw_iff {x : Flaw} (hs : Enters tree s b found t b₁) :
    TypedefFlaw tree s b x ↔ TypeFlaw tree t b₁ x ∨
      ∃ base rs b₂, resolve tree t b₁ = .ok (some (base, rs)) b₂ ∧
        (DefaultFlaw b₂.store s base rs found x ∨ ∃ d r text, found.named "status" = d :: r ∧
          d.argument = some text ∧ Refused d (Argument.status text) False x) := by
  have hunique {found' : Substatements} {t' : Statement} {b₁' : TypeBuilder}
      (hs' : Enters tree s b found' t' b₁') : found' = found ∧ t' = t ∧ b₁' = b₁ := by
    have hbelow := hs'.below
    rw [hs.below] at hbelow
    cases hbelow
    obtain ⟨r, hr⟩ := hs.first
    obtain ⟨r', hr'⟩ := hs'.first
    rw [hr] at hr'
    cases hr'
    exact ⟨rfl, rfl, rfl⟩
  constructor
  · rintro (⟨hs', h⟩ | ⟨hs', ht, hd, ha, h⟩ | ⟨hs', ht, h⟩)
    all_goals obtain ⟨rfl, rfl, rfl⟩ := hunique hs'
    · exact .inl h
    · exact .inr ⟨_, _, _, ht, .inr ⟨_, _, _, hd, ha, h⟩⟩
    · exact .inr ⟨_, _, _, ht, .inl h⟩
  · rintro (h | ⟨base, rs, b₂, ht, h | ⟨d, r, text, hd, ha, h⟩⟩)
    · exact .type hs h
    · exact .default hs ht h
    · exact .status hs ht hd ha h

theorem not_typedefFlaw (h : ∀ found t b₁, ¬ Enters tree s b found t b₁) (x : Flaw) :
    ¬ TypedefFlaw tree s b x := by
  rintro (⟨hs, -⟩ | ⟨hs, -⟩ | ⟨hs, -⟩)
  all_goals exact h _ _ _ hs

/-- The type statement is resolved, and if it can be, the type is added below what it names. -/
theorem resolveAndDefine_spec (hs : Enters tree s b found t b₁) (hb : b.Sound)
    (name : QualifiedName) {next : Option (TypeId × List Restriction) → Build (Option TypeId)}
    (hnone : next none = pure none)
    (hsome : ∀ base rs, next (some (base, rs)) = (do
      let id ← addType { name, base := some base, restrictions := rs, origin := some s.origin }
      properties id found
      checkDefault id found
      register name id base
      return some id)) :
    Tells ((resolve tree t >>= next) b₁) b (TypedefFlaw tree s b) ∧
      ∀ r b', (resolve tree t >>= next) b₁ = .ok r b' → b'.Sound := by
  have hstart : b₁ = b.reporting found.errors := by
    have hbelow := hs.below
    rw [substatements_apply] at hbelow
    cases hbelow
    rfl
  have hb₁ : b₁.Sound := hstart ▸ hb.stays (stays_reporting b _)
  have herrors₁ : b.errors <+: b₁.errors := hstart ▸ errors_prefix_reporting b _
  have hflaw {x : Flaw} : TypedefFlaw tree s b x ↔ _ := typedefFlaw_iff hs
  obtain ⟨htells, hok⟩ := resolve_spec hb₁ tree t
  constructor
  · refine (htells.bind (fun hx => hflaw.2 (.inl hx)) fun r? b₂ h => ?_).mono herrors₁
    obtain - | ⟨base, rs⟩ := r?
    · refine ⟨Flawless, ?_, fun hx => absurd hx (not_flawless _), fun x hx => ?_⟩
      · rw [hnone]
        exact tells_nothing (List.prefix_refl _) not_flawless
      · obtain hx | ⟨base, rs, b₂', h', -⟩ := hflaw.1 hx
        · exact .inl hx
        · rw [h] at h'
          cases h'
    · obtain ⟨hstays, hreads⟩ := hok _ b₂ h
      obtain ⟨c, hc⟩ := hreads base rs rfl
      rw [hsome]
      refine ⟨_, (define_spec (hb₁.stays hstays) hc s name found rs).1,
        fun hx => hflaw.2 (.inr ⟨base, rs, b₂, h, hx⟩), fun x hx => ?_⟩
      obtain hx | ⟨base', rs', b₂', h', hx⟩ := hflaw.1 hx
      · exact .inl hx
      · rw [h] at h'
        cases h'
        exact .inr hx
  · intro r b' hrun
    obtain ⟨r?, b₂, h, hrest⟩ := bind_eq_ok.1 hrun
    obtain ⟨hstays, hreads⟩ := hok _ b₂ h
    obtain - | ⟨base, rs⟩ := r?
    · rw [hnone] at hrest
      cases hrest
      exact hb₁.stays hstays
    · obtain ⟨c, hc⟩ := hreads base rs rfl
      rw [hsome] at hrest
      exact (define_spec (hb₁.stays hstays) hc s name found rs).2 r b' hrest

theorem defineType_spec (hb : b.Sound)
    (hfree : ∃ name, s.argument = some name ∧ shadowed? name b = .ok none b)
    (name : QualifiedName) :
    Tells (defineType tree s name b) b (TypedefFlaw tree s b) ∧
      ∀ r b', defineType tree s name b = .ok r b' → b'.Sound := by
  unfold defineType
  rw [bind_apply, substatements_apply]
  have hbelow := substatements_apply b tree Allowed.inTypedef s
  generalize Substatements.of Allowed.inTypedef (tree.childStatements s) = found at hbelow ⊢
  dsimp only
  cases hfirst : found.named "type" with
  | nil =>
    have hnot (found' : Substatements) (t : Statement) (b₁ : TypeBuilder) :
        ¬ Enters tree s b found' t b₁ := by
      intro hs
      have hbelow' := hs.below
      rw [hbelow] at hbelow'
      cases hbelow'
      obtain ⟨r, hr⟩ := hs.first
      rw [hfirst] at hr
      cases hr
    refine ⟨tells_nothing ?_ (not_typedefFlaw hnot), ?_⟩
    · exact (errors_prefix_reporting b _).trans (errors_prefix_reporting _ _)
    · rintro r b' ⟨⟩
      exact (hb.stays (stays_reporting b _)).stays (stays_reporting _ _)
  | cons t r =>
    refine resolveAndDefine_spec ⟨hfree, hbelow, r, hfirst⟩ hb name ?_ ?_
    · rfl
    · exact fun _ _ => rfl

theorem addTypedef_spec (hb : b.Sound) (hs : tree.get s.id = .ok s) :
    Tells (addTypedef tree s.id b) b (TypedefFlaw tree s b) ∧
      ∀ r b', addTypedef tree s.id b = .ok r b' → b'.Sound := by
  unfold addTypedef
  rw [bind_apply, hs, ofTree_ok]
  dsimp only
  rw [bind_apply, argument_apply]
  cases ha : s.argument with
  | none =>
    have hnot (found : Substatements) (t : Statement) (b₁ : TypeBuilder) :
        ¬ Enters tree s b found t b₁ := by
      intro hs'
      obtain ⟨name, ha', -⟩ := hs'.free
      rw [ha] at ha'
      cases ha'
    refine ⟨tells_nothing (errors_prefix_reporting b _) (not_typedefFlaw hnot), ?_⟩
    rintro r b' ⟨⟩
    exact hb.stays (stays_reporting b _)
  | some name =>
    obtain ⟨r?, hshadowed⟩ := shadowed?_apply name b
    dsimp only
    rw [bind_apply, hshadowed]
    cases r? with
    | some r =>
      have hnot (found : Substatements) (t : Statement) (b₁ : TypeBuilder) :
          ¬ Enters tree s b found t b₁ := by
        intro hs'
        obtain ⟨name', ha', hfree⟩ := hs'.free
        rw [ha] at ha'
        cases ha'
        rw [hshadowed] at hfree
        cases hfree
      refine ⟨tells_nothing (errors_prefix_reporting b _) (not_typedefFlaw hnot), ?_⟩
      rintro r b' ⟨⟩
      exact hb.stays (stays_reporting b _)
    | none =>
      dsimp only
      rw [bind_apply, get_apply]
      exact defineType_spec hb ⟨name, ha, hshadowed⟩ _

/-- What is wrong with a row of typedefs: with one of them, when those before it are built. -/
def RowFlaw (tree : StatementTree) (row : List Statement) (b : TypeBuilder) (x : Flaw) : Prop :=
  ∃ before s after ids b', row = before ++ s :: after ∧ addEach tree before b = .ok ids b' ∧
    TypedefFlaw tree s b' x

theorem rowFlaw_cons {row : List Statement} {r : Option TypeId} {x : Flaw}
    (h : addTypedef tree s.id b = .ok r b') :
    RowFlaw tree (s :: row) b x ↔ TypedefFlaw tree s b x ∨ RowFlaw tree row b' x := by
  constructor
  · rintro ⟨before, s', after, ids, b'', hrow, hbefore, hx⟩
    cases before with
    | nil =>
      obtain ⟨rfl, rfl⟩ := List.cons.inj hrow
      cases hbefore
      exact .inl hx
    | cons q before =>
      obtain ⟨rfl, rfl⟩ := List.cons.inj hrow
      simp only [addEach, bind_apply, h] at hbefore
      cases hrest : addEach tree before b' with
      | error f d => simp [hrest] at hbefore
      | ok others d =>
        simp only [hrest, pure_apply] at hbefore
        cases hbefore
        exact .inr ⟨before, s', after, others, _, rfl, hrest, hx⟩
  · rintro (hx | ⟨before, s', after, ids, b'', rfl, hbefore, hx⟩)
    · exact ⟨[], s, row, [], b, rfl, rfl, hx⟩
    · refine ⟨s :: before, s', after, r.toList ++ ids, b'', rfl, ?_, hx⟩
      simp only [addEach, bind_apply, h, hbefore, pure_apply]

theorem addEach_spec {row : List Statement} (hb : b.Sound)
    (hrow : ∀ s ∈ row, tree.get s.id = .ok s) :
    Tells (addEach tree row b) b (RowFlaw tree row b) := by
  induction row generalizing b with
  | nil =>
    refine tells_nothing (List.prefix_refl _) ?_
    rintro x ⟨before, s, after, ids, b', h, -⟩
    simp at h
  | cons s row ih =>
    obtain ⟨hs, hrow⟩ := List.forall_mem_cons.1 hrow
    obtain ⟨htells, hok⟩ := addTypedef_spec hb hs
    refine htells.bind (fun hx => ⟨[], s, row, [], b, rfl, rfl, hx⟩) fun r b' h => ?_
    refine ⟨RowFlaw tree row b', ?_, fun hx => (rowFlaw_cons h).2 (.inr hx), fun x =>
      (rowFlaw_cons h).1⟩
    refine (ih (hok r b' h) hrow).bind_left fun others b'' _ => ?_
    exact tells_nothing (List.prefix_refl _) not_flawless

end Build
end YangSchema
