import YangSchema.Proofs.Typedef.Resolution

/-!
# References with a prefix

A reference is divided at its last colon. What stands before it is looked for among the prefixes of
the scope, and what is found is a typedef of the scope or a type from outside, never a built-in type
by its bare name. Only where nothing stands before the colon, the reference is read as one without a
prefix.
-/
namespace YangSchema

variable {text : String} {q n : List Char}

theorem TypeName.of_append_colon (h : text.toList = q ++ ':' :: n) (hn : ':' ∉ n) :
    TypeName.of text =
      ⟨if q = [] then none else some (String.ofList q), String.ofList n⟩ := by
  have hname : ∀ c ∈ n.reverse, decide (c ≠ ':') = true := by
    intro c hc
    have : c ≠ ':' := by
      rintro rfl
      exact hn (List.mem_reverse.1 hc)
    simpa using this
  have hreverse : text.toList.reverse = n.reverse ++ ':' :: q.reverse := by simp [h]
  have htake : (text.toList.reverse.takeWhile (· ≠ ':')).reverse = n := by
    rw [hreverse, List.takeWhile_append_of_pos hname, List.takeWhile_cons_of_neg (by simp),
      List.append_nil, List.reverse_reverse]
  have hdrop : (text.toList.reverse.dropWhile (· ≠ ':')).drop 1 = q.reverse := by
    rw [hreverse, List.dropWhile_append_of_pos hname, List.dropWhile_cons_of_neg (by simp)]
    rfl
  simp only [TypeName.of, htake, hdrop]
  by_cases hq : q = []
  · simp [hq]
  · simp [hq]

/-- The type that a prefix and a name stand for: a typedef of the scope if the prefix is its own,
and otherwise a type from outside, in the namespace of an import. -/
inductive TypeBuilder.Refers (b : TypeBuilder) (qualifier name : String) : TypeId → Prop
  | own {id : TypeId} (hq : b.scope.qualifier = some qualifier)
    (h : b.typedefs.lookup (b.scope.qualify name) = some id) : Refers b qualifier name id
  | imported {id : TypeId} {m : Namespace} (hq : b.scope.qualifier ≠ some qualifier)
    (hm : b.scope.imports.lookup qualifier = some m)
    (h : b.scope.external.lookup ⟨m, name⟩ = some id) : Refers b qualifier name id

/-- The type that a name without a prefix stands for: a typedef of the scope, or else a built-in
type. -/
inductive TypeBuilder.RefersBare (b : TypeBuilder) (name : String) : TypeId → Prop
  | typedef {id : TypeId} (h : b.typedefs.lookup (b.scope.qualify name) = some id) :
    RefersBare b name id
  | builtIn {id : TypeId} {store : TypeStore}
    (hfree : b.typedefs.lookup (b.scope.qualify name) = none)
    (h : b.store.primitive? name = some (id, store)) : RefersBare b name id

namespace Build
open TypeBuilder

variable {tree : StatementTree} {t : Statement} {b b' : TypeBuilder} {id : TypeId}
  {qualifier name : String} {P : TypeId → Prop} {e : SchemaError}

/-- A reference is looked up to the type that has a property, and to none if no type has it. Then
nothing is changed. -/
structure LooksUp (r : TypeName) (b : TypeBuilder) (P : TypeId → Prop) : Prop where
  found : ∀ {id}, P id → ∃ b', lookup r b = .ok (some id) b'
  missing : (∀ id, ¬ P id) → lookup r b = .ok none b
  sound : ∀ {id b'}, lookup r b = .ok (some id) b' → P id

/-- A lookup that changes nothing. -/
theorem looksUp_of_eq {r : TypeName} (id? : Option TypeId) (h : lookup r b = .ok id? b)
    (hP : ∀ id, P id ↔ id? = some id) : LooksUp r b P where
  found {id} hid := ⟨b, by rw [h, (hP id).1 hid]⟩
  missing hnone := by
    cases id? with
    | none => exact h
    | some id => exact absurd ((hP id).2 rfl) (hnone id)
  sound {id b'} hid := by
    rw [h] at hid
    cases hid
    exact (hP id).2 rfl

theorem looksUp_qualified (b : TypeBuilder) (qualifier name : String) :
    LooksUp ⟨some qualifier, name⟩ b (b.Refers qualifier name) := by
  by_cases hq : b.scope.qualifier = some qualifier
  · refine looksUp_of_eq (b.typedefs.lookup (b.scope.qualify name)) ?_ fun id => ?_
    · simp only [lookup, bind_apply, get_apply, Scope.isOwn, hq, Option.isNone_some,
        Bool.false_or, decide_true, ite_apply, if_true]
      cases b.typedefs.lookup (b.scope.qualify name) <;> rfl
    · constructor
      · intro h
        cases h with
        | own _ h => exact h
        | imported hne => exact absurd hq hne
      · exact .own hq
  · refine looksUp_of_eq
      ((b.scope.imports.lookup qualifier).bind fun m => b.scope.external.lookup ⟨m, name⟩)
      ?_ fun id => ?_
    · simp only [lookup, bind_apply, get_apply, Scope.isOwn, Scope.importOf?, Option.isNone_some,
        Bool.false_or, decide_eq_true_eq, ite_apply, if_neg (Ne.symm hq), Option.bind_some]
      cases b.scope.imports.lookup qualifier <;> rfl
    · rw [Option.bind_eq_some_iff]
      constructor
      · intro h
        cases h with
        | own h => exact absurd h hq
        | imported _ hm h => exact ⟨_, hm, h⟩
      · rintro ⟨m, hm, h⟩
        exact .imported hq hm h

theorem lookup_bare (b : TypeBuilder) (name : String) :
    lookup ⟨none, name⟩ b =
      (b.typedefs.lookup (b.scope.qualify name)).elim (primitive? name b)
        fun id => .ok (some id) b := by
  simp only [lookup, bind_apply, get_apply, Scope.isOwn, Option.isNone_none, Bool.true_or, if_true]
  cases b.typedefs.lookup (b.scope.qualify name) <;> rfl

theorem primitive?_apply (b : TypeBuilder) (name : String) :
    primitive? name b =
      (b.store.primitive? name).elim (.ok none b) fun found =>
        .ok (some found.1) { b with store := found.2 } := by
  simp only [primitive?, bind_apply, get_apply]
  cases b.store.primitive? name <;> rfl

theorem looksUp_bare (b : TypeBuilder) (name : String) :
    LooksUp ⟨none, name⟩ b (b.RefersBare name) := by
  cases ht : b.typedefs.lookup (b.scope.qualify name) with
  | some i =>
    refine looksUp_of_eq (some i) (by rw [lookup_bare, ht]; rfl) fun id => ?_
    constructor
    · intro h
      cases h with
      | typedef h => rw [← ht, h]
      | builtIn hfree =>
        rw [ht] at hfree
        cases hfree
    · intro h
      exact .typedef (ht.trans h)
  | none =>
    have hlookup : lookup ⟨none, name⟩ b = primitive? name b := by
      rw [lookup_bare, ht]
      rfl
    cases hp : b.store.primitive? name with
    | none =>
      refine looksUp_of_eq none (by rw [hlookup, primitive?_apply, hp]; rfl) fun id => ?_
      constructor
      · intro h
        cases h with
        | typedef h =>
          rw [ht] at h
          cases h
        | builtIn _ h =>
          rw [hp] at h
          cases h
      · rintro ⟨⟩
    | some found =>
      -- A decimal64 is made anew, so that the store may change here.
      have heq : lookup ⟨none, name⟩ b = .ok (some found.1) { b with store := found.2 } := by
        rw [hlookup, primitive?_apply, hp]
        rfl
      have hi : b.RefersBare name found.1 := .builtIn ht hp
      constructor
      · intro id h
        cases h with
        | typedef h =>
          rw [ht] at h
          cases h
        | builtIn _ h =>
          cases hp.symm.trans h
          exact ⟨_, heq⟩
      · intro h
        exact absurd hi (h found.1)
      · intro id b' h
        cases heq.symm.trans h
        exact hi

def notFound (b : TypeBuilder) (t : Statement) (text : String) (qualifier : Option String) :
    SchemaError :=
  if b.scope.knowsPrefix qualifier then .unresolvedTypeRef t text
  else .unknownPrefix t (qualifier.getD "")

/-- A type statement has the type with a property as its base. If there is none, it is refused and
the report stands for that. -/
structure Follows (tree : StatementTree) (t : Statement) (text : String) (b : TypeBuilder)
    (P : TypeId → Prop) (e : SchemaError) : Prop where
  sound : ∀ {base rs b'}, resolve tree t b = .ok (some (base, rs)) b' → P base
  found : ∀ {base}, P base → ∃ b', baseOf t text b = .ok (some base) b'
  missing : (∀ base, ¬ P base) → resolve tree t b = .ok none (b.reporting [e])

theorem baseOf_of_found (hknown : b.scope.knowsPrefix (TypeName.of text).qualifier = true)
    (hlookup : lookup (.of text) b = .ok (some id) b') :
    baseOf t text b = .ok (some id) b' := by
  simp only [baseOf, bind_apply, get_apply, ite_apply, if_pos hknown, hlookup, pure_apply]

theorem baseOf_of_missing (hlookup : lookup (.of text) b = .ok none b) :
    baseOf t text b =
      .ok none (b.reporting [notFound b t text (TypeName.of text).qualifier]) := by
  by_cases hknown : b.scope.knowsPrefix (TypeName.of text).qualifier = true
  · simp only [baseOf, bind_apply, get_apply, ite_apply, if_pos hknown, hlookup, reject_apply,
      notFound]
  · simp only [baseOf, bind_apply, get_apply, ite_apply, if_neg hknown, reject_apply, notFound]

theorem lookup_of_baseOf (h : baseOf t text b = .ok (some id) b') :
    lookup (.of text) b = .ok (some id) b' := by
  unfold baseOf at h
  simp only [bind_apply, get_apply, ite_apply] at h
  split at h
  · obtain ⟨id?, b₁, hlookup, h⟩ := bind_eq_ok.1 h
    cases id? with
    | none => cases h
    | some i =>
      cases h
      exact hlookup
  · cases h

/-- Only a reference with a known prefix is looked up. -/
theorem follows_of_looksUp (tree : StatementTree) (ha : t.argument = some text)
    (h : LooksUp (.of text) b P)
    (hknown : ∀ {id}, P id → b.scope.knowsPrefix (TypeName.of text).qualifier = true) :
    Follows tree t text b P (notFound b t text (TypeName.of text).qualifier) where
  sound hresolve := by
    cases resolves_of_resolve hresolve with
    | @resolved text' _ _ b₁ _ _ ha' hbase =>
      obtain rfl := Option.some.inj (ha.symm.trans ha')
      exact h.sound (lookup_of_baseOf hbase)
  found hbase := by
    obtain ⟨b', hlookup⟩ := h.found hbase
    exact ⟨b', baseOf_of_found (hknown hbase) hlookup⟩
  missing hnone := by
    unfold resolve
    rw [bind_apply, argument_apply, ha]
    dsimp only
    rw [bind_apply, baseOf_of_missing (h.missing hnone)]
    rfl

theorem Refers.knowsPrefix (h : b.Refers qualifier name id) :
    b.scope.knowsPrefix (some qualifier) = true := by
  cases h with
  | own hq => simp [Scope.knowsPrefix, Scope.isOwn, hq]
  | imported _ hm => simp [Scope.knowsPrefix, Scope.importOf?, hm]

/-- A type statement with a colon in its argument. With a prefix before the last colon its base is
the type that prefix and name stand for, with none the one that the bare name stands for; what is
not found is reported. -/
theorem follows_of_colon (tree : StatementTree) (b : TypeBuilder) (ha : t.argument = some text)
    (htext : text.toList = q ++ ':' :: n) (hn : ':' ∉ n) :
    (q ≠ [] → Follows tree t text b (b.Refers (String.ofList q) (String.ofList n))
      (notFound b t text (some (String.ofList q)))) ∧
    (q = [] → Follows tree t text b (b.RefersBare (String.ofList n))
      (.unresolvedTypeRef t text)) := by
  have hof := TypeName.of_append_colon htext hn
  constructor
  · intro hq
    rw [if_neg hq] at hof
    have h := follows_of_looksUp tree ha
      (hof ▸ looksUp_qualified b (String.ofList q) (String.ofList n))
      fun h => by simpa only [hof] using Refers.knowsPrefix h
    rwa [hof] at h
  · intro hq
    rw [if_pos hq] at hof
    have h := follows_of_looksUp tree ha (hof ▸ looksUp_bare b (String.ofList n))
      fun _ => by rw [hof]; rfl
    rwa [hof] at h

def typeOf (text : String) : Statement :=
  { id := 0, name := "type", position := ⟨1, 1⟩, argument := some text }

def prefixed (qualifier : String) : TypeBuilder :=
  { scope := { namespaceOf := ⟨some "m", some "n"⟩, qualifier := some qualifier } }

theorem follows_of_own_int8 :
    "p:int8".toList = "p".toList ++ ':' :: "int8".toList ∧ ':' ∉ "int8".toList ∧
      "p".toList ≠ [] ∧ (∀ id, ¬ (prefixed "p").Refers "p" "int8" id) ∧
        resolve {} (typeOf "p:int8") (prefixed "p") =
          .ok none ((prefixed "p").reporting [.unresolvedTypeRef (typeOf "p:int8") "p:int8"]) := by
  have htext : "p:int8".toList = "p".toList ++ ':' :: "int8".toList := by decide
  have hn : ':' ∉ "int8".toList := by decide
  have hq : "p".toList ≠ [] := by decide
  have hnone : ∀ id, ¬ (prefixed "p").Refers "p" "int8" id := by
    intro id h
    cases h with
    | own _ h => cases h
    | imported hq => exact hq rfl
  have h := (follows_of_colon (t := typeOf "p:int8") {} (prefixed "p") rfl htext hn).1 hq
  exact ⟨htext, hn, hq, hnone, h.missing hnone⟩

/-- With nothing before the colon, the built-in type is found. -/
example :
    (match resolve {} (typeOf ":int8") (prefixed "p") with
    | .ok (some (base, _)) b => b.store.rootName base
    | _ => "") = "int8" := by
  decide

end Build
end YangSchema
