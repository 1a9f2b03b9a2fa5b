import YangSchema.Proofs.Typedef.Extends
import YangSchema.Statement.Parser

/-!
# Runs of a builder

A builder is asked for one thing after the other. Each time it adds errors, enters its own types
under new names, and leaves alone what could be built, found or named before.
-/
namespace YangSchema
namespace Build
open TypeBuilder

variable {tree : StatementTree} {s : Statement} {id : TypeId} {b b' b₁ : TypeBuilder}

theorem lookup_append_some {α β : Type} [BEq α] [LawfulBEq α] {row more : List (α × β)} {a : α}
    {v : β} (h : row.lookup a = some v) : (row ++ more).lookup a = some v := by
  rw [List.lookup_append, h]
  rfl

/-- A built-in type is found where it was, unless it is made anew. -/
theorem primitive?_again {name : String} (h : primitive? name b = .ok (some id) b₁)
    (b' : TypeBuilder) : (b₁ = b ∧ primitive? name b' = .ok (some id) b') ∨
      (name = Primitive.decimal64.name ∧ id = b.store.size ∧
        primitive? name b' = .ok (some b'.store.size)
          { b' with store := b'.store.add (TypeStore.primitiveNode .decimal64) }) := by
  unfold primitive? TypeStore.primitive? at h ⊢
  simp only [bind_apply, get_apply] at h ⊢
  cases hi : Primitive.shared.findIdx? (·.name = name) with
  | some i =>
    rw [hi] at h
    cases h
    exact .inl ⟨rfl, rfl⟩
  | none =>
    rw [hi] at h
    by_cases hd : name = Primitive.decimal64.name
    · simp only [if_pos hd] at h ⊢
      cases h
      exact .inr ⟨hd, rfl, rfl⟩
    · simp only [if_neg hd] at h
      cases h

theorem named?_of_primitive? {name : String} (h : primitive? name b = .ok (some id) b₁) :
    Primitive.named? name ≠ none := by
  have hall : ∃ p ∈ Primitive.all, p.name = name := by
    unfold primitive? TypeStore.primitive? at h
    simp only [bind_apply, get_apply] at h
    cases hi : Primitive.shared.findIdx? (·.name = name) with
    | some i =>
      obtain ⟨hlt, hname, -⟩ := List.findIdx?_eq_some_iff_getElem.1 hi
      exact ⟨_, List.mem_append_left _ (List.getElem_mem hlt), by simpa using hname⟩
    | none =>
      rw [hi] at h
      by_cases hd : name = Primitive.decimal64.name
      · exact ⟨.decimal64, by decide, hd.symm⟩
      · simp only [if_neg hd] at h
        cases h
  obtain ⟨p, hp, hname⟩ := hall
  intro hnone
  exact List.find?_eq_none.1 hnone p hp (by simpa using hname)

/-- A name that was found is found again: as the same type, or as another new decimal64. -/
theorem lookup_again {new : List (QualifiedName × TypeId)} {name : TypeName}
    (hx : Extends b new b') (h : lookup name b = .ok (some id) b₁) :
    (b₁ = b ∧ lookup name b' = .ok (some id) b') ∨
      (name = ⟨none, Primitive.decimal64.name⟩ ∧ id = b.store.size ∧
        lookup name b' = .ok (some b'.store.size)
          { b' with store := b'.store.add (TypeStore.primitiveNode .decimal64) }) := by
  unfold lookup at h ⊢
  simp only [bind_apply, get_apply, ite_apply, hx.scope, hx.typedefs] at h ⊢
  by_cases hown : b.scope.isOwn name.qualifier = true
  · simp only [if_pos hown] at h ⊢
    cases hl : b.typedefs.lookup (b.scope.qualify name.name) with
    | some i =>
      rw [hl] at h
      cases h
      rw [lookup_append_some hl]
      exact .inl ⟨rfl, rfl⟩
    | none =>
      simp only [hl, ite_apply] at h
      by_cases hq : name.qualifier.isNone = true
      · rw [if_pos hq] at h
        have hnew : new.lookup (b.scope.qualify name.name) = none := by
          refine List.lookup_eq_none_iff.2 fun e he => ?_
          obtain ⟨text, hkey, hnone⟩ := hx.names e he
          rw [hkey, bne_iff_ne]
          intro hequal
          cases hequal
          exact named?_of_primitive? h hnone
        rw [List.lookup_append, hl, hnew]
        simp only [Option.or_none, ite_apply, if_pos hq]
        rcases primitive?_again h b' with hsame | ⟨hname, hid, hfound⟩
        · exact .inl hsame
        · simp only [hx.scope, hx.typedefs] at hfound
          refine .inr ⟨?_, hid, hfound⟩
          obtain ⟨qualifier, name⟩ := name
          cases Option.isNone_iff_eq_none.1 hq
          cases hname
          rfl
      · rw [if_neg hq] at h
        cases h
  · simp only [if_neg hown] at h ⊢
    cases hn : b.scope.importOf? name.qualifier with
    | none =>
      rw [hn] at h
      cases h
    | some n =>
      simp only [hn, pure_apply] at h ⊢
      obtain ⟨hl, rfl⟩ := EStateM.Result.ok.inj h
      exact .inl ⟨rfl, by rw [hl]⟩

inductive Call where
  | addTypedef (tree : StatementTree) (id : StatementId)
  | addTypedefs (tree : StatementTree) (parent : StatementId)
  | buildType (tree : StatementTree) (id : StatementId) (name : Option QualifiedName)
  | lookup (name : TypeName)

namespace Call

def run : Call → Build (List TypeId)
  | addTypedef tree id => return (← Build.addTypedef tree id).toList
  | addTypedefs tree parent => Build.addTypedefs tree parent
  | buildType tree id name => return (← Build.buildType tree id name).toList
  | lookup name => return (← Build.lookup name).toList

def entered : Call → List TypeId → List TypeId
  | addTypedef _ _, ids => ids
  | addTypedefs _ _, ids => ids
  | _, _ => []

end Call

inductive Runs (b₀ : TypeBuilder) : TypeBuilder → Prop
  | start : Runs b₀ b₀
  | call {b b' : TypeBuilder} {c : Call} {ids : List TypeId} (h : Runs b₀ b)
    (hc : c.run b = .ok ids b') : Runs b₀ b'

theorem extends_of_buildType {i : StatementId} {name : Option QualifiedName} {r : Option TypeId}
    (hb : b.Ready) (h : buildType tree i name b = .ok r b') :
    Extends b [] b' ∧ b'.store.Grounded ∧ ∀ id, r = some id → id < b'.store.size := by
  unfold buildType at h
  obtain ⟨s, _, hs, hrest⟩ := bind_eq_ok.1 h
  obtain ⟨-, rfl⟩ := eq_of_ofTree hs
  obtain ⟨resolved, b₁, hresolve, h⟩ := bind_eq_ok.1 hrest
  obtain ⟨hextends, hgrounded, hcarries⟩ := extends_of_resolve hb hresolve
  cases resolved with
  | none =>
    cases h
    exact ⟨hextends, hgrounded, by simp⟩
  | some resolved =>
    obtain ⟨base, rs⟩ := resolved
    have hlt := (hcarries base rs rfl).lt_size hb hextends.store
    simp only [ite_apply] at h
    split at h
    · cases h
      refine ⟨hextends, hgrounded, ?_⟩
      rintro _ ⟨⟩
      exact hlt
    · obtain ⟨_, _, hget, h⟩ := bind_eq_ok.1 h
      cases hget
      obtain ⟨_, _, hadd, h⟩ := bind_eq_ok.1 h
      rw [addType_apply] at hadd
      cases hadd
      cases h
      have hadds := TypeStore.adds_add b₁.store
        { name := name.getD (b₁.store.get base).name, base := some base, restrictions := rs,
          origin := some s.origin }
      refine ⟨hextends.append (.of_adds hadds rfl rfl (List.prefix_refl _)), ?_, ?_⟩
      · apply hgrounded.adds hadds
        rintro _ ⟨⟩
        exact hlt
      · rintro _ ⟨⟩
        exact TypeStore.lt_size_of_get? hadds.node

/-- A call enters some of the types that it gives, and all of them are in the store. -/
theorem extends_of_call {c : Call} {ids : List TypeId} (hb : b.Ready) (h : c.run b = .ok ids b') :
    ∃ new, Extends b new b' ∧ new.map (·.2) = c.entered ids ∧ b'.Ready ∧
      ∀ id ∈ ids, id < b'.store.size := by
  have hentered {new : List (QualifiedName × TypeId)} (hx : Extends b new b')
      (hready : b'.Ready) (hids : new.map (·.2) = ids) : ∀ id ∈ ids, id < b'.store.size := by
    rintro id hid
    rw [← hids] at hid
    obtain ⟨e, he, rfl⟩ := List.mem_map.1 hid
    have hmem : e ∈ b'.typedefs := by
      rw [hx.typedefs]
      exact List.mem_append_right _ he
    exact (hready.known _ (.typedef hmem)).1
  cases c with
  | addTypedef tree i =>
    obtain ⟨r, _, hr, h⟩ := bind_eq_ok.1 h
    cases h
    have henlarges := enlarges_of_addTypedef hb hr
    obtain ⟨new, hx, hids⟩ := henlarges.exists_new
    have hready := henlarges.ready hb
    exact ⟨new, hx, hids, hready, hentered hx hready hids⟩
  | addTypedefs tree parent =>
    simp only [Call.run, addTypedefs] at h
    obtain ⟨s, _, hs, hrest⟩ := bind_eq_ok.1 h
    obtain ⟨-, rfl⟩ := eq_of_ofTree hs
    obtain ⟨new, hx, hids, hready⟩ := extends_of_addEach hb hrest
    exact ⟨new, hx, hids, hready, hentered hx hready hids⟩
  | buildType tree i name =>
    obtain ⟨r, _, hr, h⟩ := bind_eq_ok.1 h
    cases h
    obtain ⟨hx, hgrounded, hlt⟩ := extends_of_buildType hb hr
    exact ⟨[], hx, rfl, hb.extends_nil hx hgrounded, fun id hid => hlt id (by simpa using hid)⟩
  | lookup name =>
    obtain ⟨r, _, hr, h⟩ := bind_eq_ok.1 h
    cases h
    have hfound := found_of_lookup hr
    obtain ⟨hx, hgrounded⟩ := extends_of_found hb hfound
    refine ⟨[], hx, rfl, hb.extends_nil hx hgrounded, fun id hid => ?_⟩
    cases hfound with
    | missing => cases hid
    | known hknown =>
      obtain rfl : id = _ := by simpa using hid
      exact (hb.known _ hknown).1
    | fresh =>
      obtain rfl : id = _ := by simpa using hid
      exact TypeStore.lt_size_of_get? (TypeStore.adds_add b.store _).node

theorem ready_of_runs {b₀ : TypeBuilder} (h₀ : Starts b₀) (h : Runs b₀ b) : b.Ready := by
  induction h with
  | start => exact h₀.ready
  | call h hc ih =>
    obtain ⟨new, -, -, hready, -⟩ := extends_of_call ih hc
    exact hready

/-- What a call leaves behind. It adds errors and enters its own types under new names, and all that
could be built, found or named before is as it was. -/
structure Effect (c : Call) (ids : List TypeId) (b b' : TypeBuilder) : Prop where
  errors : b.errors <+: b'.errors
  table : ∃ new, b'.typedefs = b.typedefs ++ new ∧ new.map (·.2) = c.entered ids ∧
    (new.map (·.1)).Nodup ∧ ∀ e ∈ new, e.1 ∉ b.typedefs.map (·.1) ∧
      ∃ text, e.1 = b.scope.qualify text ∧ Primitive.named? text = none
  resolvable : ∀ id, b.Known id → id < b.store.size
  built : ∀ id ∈ ids, id < b'.store.size
  size : b.store.size ≤ b'.store.size
  same : ∀ id < b.store.size, b.store.Same b'.store id
  found : ∀ name id b₁, lookup name b = .ok (some id) b₁ →
    (b₁ = b ∧ lookup name b' = .ok (some id) b') ∨
      (name = ⟨none, Primitive.decimal64.name⟩ ∧ id = b.store.size ∧
        lookup name b' = .ok (some b'.store.size)
          { b' with store := b'.store.add (TypeStore.primitiveNode .decimal64) })

/-- Whatever a builder was asked for before, a call only extends its scope. -/
theorem effect_of_call {b₀ : TypeBuilder} (h₀ : Starts b₀) (h : Runs b₀ b) {c : Call}
    {ids : List TypeId} (hc : c.run b = .ok ids b') : Effect c ids b b' := by
  have hb := ready_of_runs h₀ h
  obtain ⟨new, hx, hids, hready, hbuilt⟩ := extends_of_call hb hc
  have hnames := hready.names
  rw [hx.typedefs, List.map_append, List.nodup_append] at hnames
  obtain ⟨-, hnodup, hdisjoint⟩ := hnames
  refine ⟨hx.errors, ⟨new, hx.typedefs, hids, hnodup, fun e he => ?_⟩, ?_, hbuilt, ?_, ?_, ?_⟩
  · refine ⟨fun hold => ?_, hx.names e he⟩
    exact hdisjoint _ hold _ (List.mem_map_of_mem he) rfl
  · exact fun id hid => (hb.known id hid).1
  · by_contra hlt
    exact absurd (hx.store.lt_size (Nat.lt_of_not_le hlt)) (Nat.lt_irrefl _)
  · intro id hid
    obtain ⟨row, hrow⟩ := hb.grounded id hid
    exact hx.store.same hrow
  · exact fun name id b₁ => lookup_again hx

/-- The same typedefs twice: what could be built stays, and then all of them are refused. -/
theorem effect_of_second_call :
    ∃ p b₁ b₂ ids₁ ids₂, parseDocument ("m \x7b typedef a \x7b type decimal64 \x7b " ++
        "fraction-digits 2; \x7d \x7d typedef b \x7b type c; \x7d " ++
        "typedef d \x7b type a; \x7d \x7d") {} = .ok p ∧
      Starts { scope := { namespaceOf := ⟨some "m", some "n"⟩ } } ∧
        (Call.addTypedefs p.tree 0).run { scope := { namespaceOf := ⟨some "m", some "n"⟩ } } =
          .ok ids₁ b₁ ∧ (Call.addTypedefs p.tree 0).run b₁ = .ok ids₂ b₂ ∧
            (ids₁.length, ids₂.length) = (2, 0) ∧
              Effect (.addTypedefs p.tree 0) ids₂ b₁ b₂ := by
  have hbuilt : ((parseDocument ("m \x7b typedef a \x7b type decimal64 \x7b " ++
      "fraction-digits 2; \x7d \x7d typedef b \x7b type c; \x7d " ++
      "typedef d \x7b type a; \x7d \x7d") {}).toOption.any fun p =>
        match (Call.addTypedefs p.tree 0).run
          { scope := { namespaceOf := ⟨some "m", some "n"⟩ } } with
        | .ok ids₁ b₁ => match (Call.addTypedefs p.tree 0).run b₁ with
          | .ok ids₂ _ => (ids₁.length, ids₂.length) = (2, 0)
          | .error _ _ => false
        | .error _ _ => false) = true := by
    decide +kernel
  obtain ⟨p, hp, hbuilt⟩ := Option.any_eq_true _ _ |>.1 hbuilt
  split at hbuilt
  · next ids₁ b₁ hrun₁ =>
    split at hbuilt
    · next ids₂ b₂ hrun₂ =>
      have hstarts : Starts { scope := { namespaceOf := ⟨some "m", some "n"⟩ } } :=
        ⟨rfl, .initial, by simp⟩
      exact ⟨p, b₁, b₂, ids₁, ids₂, toOption_eq_some.1 hp, hstarts, hrun₁, hrun₂,
        of_decide_eq_true hbuilt, effect_of_call hstarts (.call .start hrun₁) hrun₂⟩
    · cases hbuilt
  · cases hbuilt

end Build
end YangSchema
