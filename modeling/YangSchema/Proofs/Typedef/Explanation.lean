import YangSchema.Proofs.Typedef.FaultReport

/-!
# Failures are explained

A typedef or a type statement of which no type is made is reported. Each report of building it, also
of a building that ends in a fault, is about the statement or one below it, or about the default of
the type that is made of it.
-/
namespace YangSchema
namespace Build

variable {α β : Type} {P Q : SchemaError → Prop} {tree : StatementTree} {s : Statement}
  {b b' : TypeBuilder} {i : StatementId} {id : TypeId}

/-- Whenever the step gives nothing, it has added errors of one sort behind those that are there. -/
def Explains (P : SchemaError → Prop) (m : Build (Option α)) : Prop :=
  ∀ b b', m b = .ok none b' → ∃ es, es ≠ [] ∧ Added P b es b'

theorem Explains.mono {m : Build (Option α)} (h : Explains P m) (hPQ : ∀ e, P e → Q e) :
    Explains Q m := by
  intro b b' hm
  obtain ⟨es, hne, hes⟩ := h b b' hm
  exact ⟨es, hne, hes.mono hPQ⟩

theorem explains_some (a : α) : Explains P (pure (some a)) := by
  rintro b b' ⟨⟩

theorem explains_reject {e : SchemaError} (h : P e) :
    Explains P (reject e : Build (Option α)) := by
  rintro b b' ⟨⟩
  exact ⟨[e], by simp, rfl, by simpa using h⟩

theorem explains_bind {m : Build α} {f : α → Build (Option β)} (hm : Appends P m)
    (hf : ∀ b a b', m b = .ok a b' → Explains P (f a)) : Explains P (m >>= f) := by
  intro b b' h
  obtain ⟨a, d, ha, hrest⟩ := bind_eq_ok.1 h
  obtain ⟨es, hes⟩ := hm b a d ha
  obtain ⟨fs, hne, hfs⟩ := hf b a d ha d b' hrest
  exact ⟨es ++ fs, by simp [hne], Added.append hes hfs⟩

/-- If the first of two steps gives nothing, neither does the second. -/
theorem explains_bind_option {m : Build (Option α)} {f : Option α → Build (Option β)}
    (hm : Appends P m) (hm' : Explains P m) (hnone : f none = pure none)
    (hsome : ∀ a, Explains P (f (some a))) : Explains P (m >>= f) := by
  intro b b' h
  obtain ⟨a?, d, ha, hrest⟩ := bind_eq_ok.1 h
  cases a? with
  | none =>
    rw [hnone] at hrest
    cases hrest
    exact hm' b _ ha
  | some a =>
    obtain ⟨es, hes⟩ := hm b _ d ha
    obtain ⟨fs, hne, hfs⟩ := hsome a d b' hrest
    exact ⟨es ++ fs, by simp [hne], Added.append hes hfs⟩

theorem explains_argument {q : Statement} (hq : tree.Within s q) :
    Explains (·.Local tree s) (argument q) := by
  unfold argument
  split
  · exact explains_some _
  · exact explains_reject (local_of_statement rfl (by rintro ⟨⟩) hq)

theorem explains_read {q : Statement} (hq : tree.Within s q) (x : Argument α) :
    Explains (·.Local tree s) (read q x) := by
  rcases x with (f | f) | a
  · exact explains_reject (local_of_statement rfl (by rintro ⟨⟩) hq)
  · rintro b b' ⟨⟩
  · exact explains_some a

theorem explains_baseOf (tree : StatementTree) (s : Statement) (text : String) :
    Explains (·.Local tree s) (baseOf s text) := by
  apply explains_bind appends_get
  intro _ b _ _
  split
  · apply explains_bind (appends_lookup _)
    intro _ id _ _
    split
    · exact explains_some _
    · exact explains_reject (local_of_statement rfl (by rintro ⟨⟩) .self)
  · exact explains_reject (local_of_statement rfl (by rintro ⟨⟩) .self)

theorem explains_fractionDigits (tree : StatementTree) (s : Statement) (base : TypeId) :
    Explains (·.Local tree s) (fractionDigits s (below tree Allowed.inType s) base) := by
  apply explains_bind appends_get
  intro _ b _ _
  dsimp only
  split
  · split
    · exact explains_reject (local_of_statement rfl (by rintro ⟨⟩) .self)
    · exact explains_some _
  next d row hd =>
  have hwithin : tree.Within s d := within_of_named (hd ▸ List.mem_cons_self)
  split
  · refine explains_bind_option (reports_argument hwithin).appends (explains_argument hwithin) rfl
      fun text => ?_
    refine explains_bind_option (reports_read hwithin _).appends (explains_read hwithin _) rfl
      fun digits => ?_
    apply explains_bind appends_get
    intro _ _ _ _
    apply explains_bind (reports_ofType _).appends
    intro _ store _ _
    apply explains_bind (appends_setStore store)
    intro _ _ _ _
    exact explains_some _
  · apply explains_bind
      (reports_addError (local_of_statement rfl (by rintro ⟨⟩) hwithin)).appends
    intro _ _ _ _
    exact explains_some _

theorem explains_resolve (tree : StatementTree) (s : Statement) :
    Explains (·.Local tree s) (resolve tree s) := by
  refine explains_bind_option (reports_argument .self).appends (explains_argument .self) rfl
    fun text => ?_
  refine explains_bind_option (appends_baseOf tree s text) (explains_baseOf tree s text) rfl
    fun base => ?_
  apply explains_bind (reports_substatements tree _ s).appends
  rintro _ _ _ ⟨⟩
  refine explains_bind_option (appends_fractionDigits tree s base)
    (explains_fractionDigits tree s base) rfl fun _ => ?_
  apply explains_bind (reports_restricting tree s base).appends
  intro _ _ _ _
  exact explains_some _

theorem Appends.mono {m : Build α} (h : Appends P m) (hPQ : ∀ e, P e → Q e) : Appends Q m := by
  intro b a b' hm
  obtain ⟨es, hes⟩ := h b a b' hm
  exact ⟨es, Added.mono hes hPQ⟩

theorem appends_shadowed? (name : String) : Appends P (shadowed? name) := by
  apply appends_of_errors_eq
  intro b r b' h
  obtain ⟨_, hsame⟩ := shadowed?_apply name b
  cases hsame.symm.trans h
  rfl

theorem appends_addType (n : TypeNode) : Appends P (addType n) := by
  apply appends_of_errors_eq
  rintro b id b' ⟨⟩
  rfl

theorem explains_defineType (tree : StatementTree) (s : Statement) (name : QualifiedName) :
    Explains (·.Local tree s) (defineType tree s name) := by
  apply explains_bind (reports_substatements tree _ s).appends
  rintro _ _ _ ⟨⟩
  split
  · exact explains_reject (local_of_statement rfl (by rintro ⟨⟩) .self)
  next t row ht =>
  have htype : t ∈ tree.childStatements s := mem_childStatements (ht ▸ List.mem_cons_self)
  refine explains_bind_option ((appends_resolve tree t).mono fun e he => he.below htype)
    ((explains_resolve tree t).mono fun e he => he.below htype) rfl fun resolved => ?_
  -- From here on a type is made.
  intro b b' h
  obtain ⟨_, _, -, h⟩ := bind_eq_ok.1 h
  obtain ⟨_, _, -, h⟩ := bind_eq_ok.1 h
  obtain ⟨_, _, -, h⟩ := bind_eq_ok.1 h
  obtain ⟨_, _, -, h⟩ := bind_eq_ok.1 h
  cases h

theorem explains_addTypedef (hs : tree.get i = .ok s) :
    Explains (·.Local tree s) (addTypedef tree i) := by
  unfold addTypedef
  rw [hs]
  refine explains_bind_option (m := argument s) (reports_argument .self).appends
    (explains_argument .self) rfl fun name => ?_
  apply explains_bind (appends_shadowed? name)
  intro _ r _ _
  cases r with
  | some r => exact explains_reject (local_of_statement rfl (by rintro ⟨⟩) .self)
  | none =>
    apply explains_bind appends_get
    intro _ _ _ _
    exact explains_defineType tree s _

theorem faultsAfter_defineType (tree : StatementTree) (s : Statement) (name : QualifiedName) :
    FaultsAfter (·.Local tree s) (defineType tree s name) := by
  apply faultsAfter_bind _ (reports_substatements tree _ s).appends
  · rintro _ _ _ ⟨⟩
    split
    · exact faultsAfter_reject _
    next t row ht =>
    have htype : t ∈ tree.childStatements s := mem_childStatements (ht ▸ List.mem_cons_self)
    apply faultsAfter_bind ((faultsAfter_resolve tree t).mono fun e he => he.below htype)
      ((appends_resolve tree t).mono fun e he => he.below htype)
    intro _ resolved _ _
    cases resolved with
    | none => exact faultsAfter_pure none
    | some resolved =>
      apply faultsAfter_bind (faultsAfter_of_ok fun b => ⟨_, _, rfl⟩) (appends_addType _)
      intro _ id _ _
      apply faultsAfter_bind (faultsAfter_properties tree s id) (appends_properties tree s id)
      intro _ _ _ _
      exact faultsAfter_bind_ok (faultsAfter_checkDefault id _) fun _ b => ⟨_, _, rfl⟩
  · exact faultsAfter_of_ok fun b => ⟨_, _, substatements_apply b tree _ s⟩

theorem faultsAfter_addTypedef (hs : tree.get i = .ok s) :
    FaultsAfter (·.Local tree s) (addTypedef tree i) := by
  unfold addTypedef
  rw [hs]
  refine faultsAfter_bind (m := argument s) (onlyReports_argument s).faultsAfter
    (reports_argument .self).appends fun _ name _ _ => ?_
  cases name with
  | none => exact faultsAfter_pure none
  | some name =>
    apply faultsAfter_bind _ (appends_shadowed? name)
    · intro _ r _ _
      cases r with
      | some r => exact faultsAfter_reject _
      | none =>
        apply faultsAfter_bind faultsAfter_get appends_get
        intro _ _ _ _
        exact faultsAfter_defineType tree s _
    · refine faultsAfter_of_ok fun b => ?_
      obtain ⟨r, hr⟩ := shadowed?_apply name b
      exact ⟨r, b, hr⟩

/-- Behind the resolution of the statement nothing fails and nothing is reported. -/
theorem exists_buildType_eq (hs : tree.get i = .ok s) (name : Option QualifiedName) :
    ∃ next : Option (TypeId × List Restriction) → Build (Option TypeId),
      buildType tree i name = resolve tree s >>= next ∧ next none = pure none ∧
        ∀ resolved b, ∃ id store, next (some resolved) b = .ok (some id) { b with store } := by
  unfold buildType
  rw [hs]
  refine ⟨_, rfl, rfl, ?_⟩
  rintro ⟨base, rs⟩ b
  dsimp only
  split
  · exact ⟨base, b.store, rfl⟩
  · exact ⟨_, _, rfl⟩

theorem explains_buildType (hs : tree.get i = .ok s) (name : Option QualifiedName) :
    Explains (·.Local tree s) (buildType tree i name) := by
  obtain ⟨next, hnext, hnone, hsome⟩ := exists_buildType_eq hs name
  rw [hnext]
  refine explains_bind_option (appends_resolve tree s) (explains_resolve tree s) hnone
    fun resolved => ?_
  intro b b' h
  obtain ⟨id, store, hid⟩ := hsome resolved b
  rw [hid] at h
  cases h

theorem faultsAfter_buildType (hs : tree.get i = .ok s) (name : Option QualifiedName) :
    FaultsAfter (·.Local tree s) (buildType tree i name) := by
  obtain ⟨next, hnext, hnone, hsome⟩ := exists_buildType_eq hs name
  rw [hnext]
  refine faultsAfter_bind_ok (faultsAfter_resolve tree s) fun resolved b => ?_
  cases resolved with
  | none =>
    rw [hnone]
    exact ⟨none, b, rfl⟩
  | some resolved =>
    obtain ⟨id, store, hid⟩ := hsome resolved b
    exact ⟨_, _, hid⟩

theorem appends_buildType (hs : tree.get i = .ok s) (name : Option QualifiedName) :
    Appends (·.Local tree s) (buildType tree i name) := by
  obtain ⟨next, hnext, hnone, hsome⟩ := exists_buildType_eq hs name
  rw [hnext]
  apply appends_bind (appends_resolve tree s)
  intro _ resolved _ _
  cases resolved with
  | none =>
    rw [hnone]
    exact appends_pure none
  | some resolved =>
    apply appends_of_errors_eq
    intro b r b' h
    obtain ⟨id, store, hid⟩ := hsome resolved b
    rw [hid] at h
    cases h
    rfl

theorem size_le_of_found {r : Option TypeId} (h : Found b r b') :
    b.store.size ≤ b'.store.size := by
  cases h with
  | missing => exact Nat.le_refl _
  | known => exact Nat.le_refl _
  | fresh =>
    rw [TypeStore.size_add]
    exact Nat.le_succ _

/-- Resolving a statement takes no type from the store. -/
theorem size_le_of_resolve {t : Statement} {base : TypeId} {rs : List Restriction}
    (h : resolve tree t b = .ok (some (base, rs)) b') : b.store.size ≤ b'.store.size := by
  cases resolves_of_resolve h with
  | resolved ha hbase hdigits hrs =>
    obtain ⟨es, rfl, -⟩ := reports_restrictions _ _ _ _ _ _ hrs
    cases names_of_baseOf hbase with
    | found hfound =>
      have hsize := size_le_of_found hfound
      cases readied_of_fractionDigits hdigits with
      | ready => exact hsize
      | configured =>
        change _ ≤ (TypeStore.withDigits _ _ _).size
        rw [TypeStore.withDigits, TypeStore.size_modify]
        exact hsize

inductive Request where
  | typedef
  | type (name : Option QualifiedName)

namespace Request

def run (r : Request) (tree : StatementTree) (i : StatementId) : Build (Option TypeId) :=
  match r with
  | typedef => addTypedef tree i
  | type name => buildType tree i name

/-- The error names the statement that the request is about or one below it, or it tells that the
default of the new type that was made of a typedef violates a restriction. -/
inductive About (r : Request) (tree : StatementTree) (i : StatementId) (b : TypeBuilder) :
    SchemaError → Prop
  | statement {s q : Statement} {e : SchemaError} (hs : tree.get i = .ok s)
    (hq : tree.Within s q) (he : e.statement? = some q) : About r tree i b e
  | default {s : Statement} {id : TypeId} {n : TypeNode} {v : Restriction} {b' : TypeBuilder}
    (hr : r = .typedef) (hs : tree.get i = .ok s) (hrun : r.run tree i b = .ok (some id) b')
    (hnew : b.store.get? id = none) (hn : b'.store.get? id = some n)
    (ho : n.origin = some s.origin)
    (hviolation : b'.store.defaultViolation? id = .ok (some v)) :
    About r tree i b (.invalidDefault n.origin v)

theorem about_of_local {r : Request} {e : SchemaError} (hs : tree.get i = .ok s)
    (h : e.Local tree s) : r.About tree i b e := by
  obtain ⟨-, q, hq, he⟩ := h
  exact .statement hs hq he

theorem about_of_addTypedef (h : addTypedef tree i b = .ok (some id) b') :
    ∃ es, Added (About .typedef tree i b) b es b' := by
  obtain ⟨s, hs, hdefines⟩ := defines_of_addTypedef h
  cases hdefines with
  | @defined name t row base rs b₁ b₂ b₃ log ha hname hfree ht hresolve hproperties hdefault =>
  obtain ⟨fs₁, hfs₁⟩ := (reports_substatements tree Allowed.inTypedef s).appends b _ _
    (substatements_apply b tree Allowed.inTypedef s)
  have htype : t ∈ tree.childStatements s := mem_childStatements (ht ▸ List.mem_cons_self)
  obtain ⟨fs₂, hfs₂⟩ := (appends_resolve tree t).mono (fun e he => he.below htype) _ _ _ hresolve
  obtain ⟨fs₃, hfs₃⟩ := appends_properties tree s _ _ _ _ hproperties
  -- Whatever is told before the default is checked is about a statement.
  have hearlier : Added (About .typedef tree i b) b (fs₁ ++ fs₂ ++ fs₃) b₂ :=
    (Added.append (Added.append hfs₁ hfs₂) hfs₃).mono fun e he => about_of_local hs he
  obtain ⟨n, hl, hn, -⟩ := leaves_of_properties rfl hproperties
  have ho : n.origin = some s.origin := by rw [hn]
  have hsize : b.store.size ≤ b₁.store.size :=
    size_le_of_resolve (b := b.reporting (below tree Allowed.inTypedef s).errors) hresolve
  have hnew : b.store.get? b₁.store.size = none := Array.getElem?_eq_none hsize
  obtain ⟨es, rfl, hreports⟩ := reportsDefault_of_checkDefault hdefault
  obtain ⟨es', hes', hdefaults⟩ := reports_checkDefault _ _ _ _ _ hdefault
  obtain rfl : es = es' :=
    List.append_cancel_left (congrArg TypeBuilder.errors hes')
  refine ⟨_, hearlier.append ⟨rfl, fun e he => ?_⟩⟩
  cases hdefaults e he with
  | refused type v =>
    obtain ⟨rfl, hviolation, -⟩ := (hreports.refused type v).1 he
    rw [TypeStore.get_eq hl.adds.node]
    exact .default rfl hs h hnew hl.adds.node ho hviolation
  | notALiteral d v root =>
    obtain ⟨hd, -⟩ := (hreports.notALiteral d v root).1 he
    have hmem : d ∈ tree.childStatements s := (List.mem_filter.1 (List.mem_of_head? hd)).1
    exact .statement hs (.child .self hmem) rfl

theorem explains_run (r : Request) (hs : tree.get i = .ok s) :
    Explains (·.Local tree s) (r.run tree i) :=
  match r with
  | typedef => explains_addTypedef hs
  | type name => explains_buildType hs name

theorem faultsAfter_run (r : Request) (hs : tree.get i = .ok s) :
    FaultsAfter (·.Local tree s) (r.run tree i) :=
  match r with
  | typedef => faultsAfter_addTypedef hs
  | type name => faultsAfter_buildType hs name

theorem about_of_some (r : Request) (hs : tree.get i = .ok s)
    (h : r.run tree i b = .ok (some id) b') : ∃ es, Added (r.About tree i b) b es b' := by
  cases r with
  | typedef => exact about_of_addTypedef h
  | type name =>
    obtain ⟨es, hes⟩ := appends_buildType hs name _ _ _ h
    exact ⟨es, Added.mono hes fun e he => about_of_local hs he⟩

/-- A request for a statement that is not in the tree faults. -/
theorem run_of_error (r : Request) {f : TreeFault} (hs : tree.get i = .error f) :
    r.run tree i b = .error (.tree f) b := by
  cases r with
  | typedef => simp only [run, addTypedef, hs, bind_apply, ofTree_error]
  | type name => simp only [run, buildType, hs, bind_apply, ofTree_error]

def final : EStateM.Result BuildFault TypeBuilder α → TypeBuilder
  | .ok _ b => b
  | .error _ b => b

/-- A request adds errors behind those that are there, however it ends, and at least one if nothing
is made. Each of them is about the statement of the request. -/
theorem explained (r : Request) (tree : StatementTree) (i : StatementId) (b : TypeBuilder) :
    ∃ es, (final (r.run tree i b)).errors = b.errors ++ es ∧
      (∀ b', r.run tree i b = .ok none b' → es ≠ []) ∧ ∀ e ∈ es, r.About tree i b e := by
  cases hs : tree.get i with
  | error f =>
    rw [run_of_error r hs]
    refine ⟨[], by simp [final], ?_, by simp⟩
    rintro b' ⟨⟩
  | ok s =>
    cases hrun : r.run tree i b with
    | error f b' =>
      obtain ⟨es, hes, habout⟩ := r.faultsAfter_run hs b f b' hrun
      refine ⟨es, hes, ?_, fun e he => about_of_local hs (habout e he)⟩
      rintro b' ⟨⟩
    | ok id? b' =>
      cases id? with
      | none =>
        obtain ⟨es, hne, hes, habout⟩ := r.explains_run hs b b' hrun
        exact ⟨es, hes, fun _ _ => hne, fun e he => about_of_local hs (habout e he)⟩
      | some id =>
        obtain ⟨es, hes, habout⟩ := r.about_of_some hs hrun
        refine ⟨es, hes, ?_, habout⟩
        rintro b' ⟨⟩

end Request
end Build
end YangSchema
