import YangSchema.Proofs.CommandLine.Host
import YangSchema.Proofs.CommandLine.Session
import YangSchema.Proofs.Module.Exported
import YangSchema.Proofs.Restriction.IntegerRange
import YangSchema.Proofs.Settings.Search

/-!
# The exit code of a check

A check exits with zero if the module can be used, exports the typedef, and every value is admitted
by it, but for a title that cannot be shown: the title of the table is markup, and its text is not
escaped as that of the cells is. The table has one row for each value, in their order.
-/
namespace YangSchema

namespace TypeStore

variable {s : TypeStore} {id : TypeId} {v : Value} {text : String}

/-- A text is a literal of a type, and all restrictions of its chain allow the value. -/
def Admits (s : TypeStore) (id : TypeId) (text : String) : Prop :=
  ∃ v, s.parse id text = .ok (some v) ∧ ∀ q ∈ s.allRestrictions id, q.allows v = .ok true

/-- Neither reading the text nor a restriction that is asked for its value faults. -/
def Tells (s : TypeStore) (id : TypeId) (text : String) : Prop :=
  ∃ v?, s.parse id text = .ok v? ∧ ∀ v, v? = some v → ∃ x?, s.violation? id v = .ok x?

/-- A row tells the text, and whether it is admitted. -/
theorem check_eq_ok {row : CheckRow} (h : s.check id text = .ok row) :
    row.value = text ∧ (row.valid = true ↔ s.Admits id text) := by
  rcases except_bind_eq_ok.1 h with ⟨v?, hparse, h⟩
  cases v? with
  | none =>
    cases h
    simp [Admits, hparse]
  | some v =>
    rcases except_bind_eq_ok.1 h with ⟨x?, hviolation, h⟩
    have hnone : s.violation? id v = .ok none ↔ ∀ q ∈ s.allRestrictions id, q.allows v = .ok true :=
      violation?_eq_none.trans refusal?_eq_none
    rw [hviolation] at hnone
    cases x? with
    | none =>
      cases h
      simpa [Admits, hparse] using hnone
    | some x =>
      cases h
      simpa [Admits, hparse] using hnone

theorem admits_of_check (h : (s.check id text).toOption.any (·.valid) = true) :
    s.Admits id text := by
  cases hrow : s.check id text with
  | error f => simp [hrow, Except.toOption] at h
  | ok row =>
    simp only [hrow, Except.toOption, Option.any_some] at h
    exact (check_eq_ok hrow).2.1 h

theorem exists_check (h : s.Tells id text) : ∃ row, s.check id text = .ok row := by
  rcases h with ⟨v?, hparse, hviolation⟩
  unfold check
  cases v? with
  | none => exact ⟨_, except_bind_eq_ok.2 ⟨none, hparse, rfl⟩⟩
  | some v =>
    rcases hviolation v rfl with ⟨x?, hx⟩
    cases x? <;>
      exact ⟨_, except_bind_eq_ok.2 ⟨some v, hparse, except_bind_eq_ok.2 ⟨_, hx, rfl⟩⟩⟩

theorem Admits.tells (h : s.Admits id text) : s.Tells id text := by
  rcases h with ⟨v, hparse, hallows⟩
  refine ⟨some v, hparse, ?_⟩
  rintro w ⟨⟩
  exact ⟨none, violation?_eq_none.2 (refusal?_eq_none.2 hallows)⟩

/-- The rows of a check: they tell the values in their order, and whether a type admits them. -/
def RowsOf (s : TypeStore) (id : TypeId) (values : List String) (rows : List CheckRow) : Prop :=
  List.Forall₂ (fun v row => row.value = v ∧ (row.valid = true ↔ s.Admits id v)) values rows

variable {values : List String} {rows : List CheckRow}

theorem rowsOf_of_mapM (h : values.mapM (s.check id) = .ok rows) : s.RowsOf id values rows :=
  (mapM_eq_ok_iff.1 h).imp fun _ _ hrow => check_eq_ok hrow

theorem RowsOf.all_valid_iff (h : s.RowsOf id values rows) :
    rows.all (·.valid) = true ↔ ∀ v ∈ values, s.Admits id v := by
  induction h with
  | nil => simp
  | cons hrow hrows ih =>
    rw [List.all_cons, Bool.and_eq_true, ih, hrow.2, List.forall_mem_cons]

end TypeStore

namespace CommandLine

/-- A document is a module without schema errors, which exports a type under a local name. -/
structure Exports (runtime : Runtime) (p : Parsed) (name : String) (built : BuiltModule)
    (m : YangModule) (id : TypeId) : Prop where
  builds : BuiltModule.of runtime p.tree none = .ok built
  errors : built.errors = []
  module : built.module = some m
  type : ∃ e ∈ m.exported, e.1.name = name ∧ e.2 = id

section
variable {runtime : Runtime} {p : Parsed} {name : String} {built built' : BuiltModule}
  {m m' : YangModule} {id id' : TypeId}

theorem Exports.typeNamed? (h : Exports runtime p name built m id) : m.typeNamed? name = some id :=
  (YangModule.typeNamed?_eq_some (BuiltModule.nodup_exported_names h.builds h.module)).2 h.type

theorem Exports.unique (h : Exports runtime p name built m id)
    (h' : Exports runtime p name built' m' id') : built = built' ∧ m = m' ∧ id = id' := by
  have hbuilt : built = built' := Except.ok.inj (h.builds.symm.trans h'.builds)
  subst hbuilt
  have hm : m = m' := Option.some.inj (h.module.symm.trans h'.module)
  subst hm
  exact ⟨rfl, rfl, Option.some.inj (h.typeNamed?.symm.trans h'.typeNamed?)⟩

end

/-- The title of the table of a check. It is read as markup. -/
def title (m : YangModule) (name : String) : String :=
  m.name ++ ":" ++ name

/-- A record tells a text, and whether it is valid. -/
def RecordTells (text : String) (valid : Prop) (fields : List (String × JsonValue)) : Prop :=
  fields.lookup "value" = some (.string text) ∧
    ∃ b : Bool, fields.lookup "valid" = some (.bool b) ∧ (b = true ↔ valid)

/-- The cells of a row tell a text, and whether it is valid. -/
def CellsTell (host : Host) (text : String) (valid : Prop) (cells : List String) : Prop :=
  cells[0]? = some (host.escape text) ∧
    ∃ cell, cells[1]? = some cell ∧
      (valid ∧ host.shown cell = .ok "yes" ∨ ¬ valid ∧ host.shown cell = .ok "no")

namespace Session

variable {α β ε : Type} {host : Host} {p : Parsed} {name : String} {values : List String}
  {built : BuiltModule} {m : YangModule} {id : TypeId} {rows : List TypeStore.CheckRow}
  {r : Report}

theorem on_mapM (cause : ε → Crash) (f : α → Except ε β) (row : List α) (r : Report) :
    (row.mapM fun a => orCrash cause (f a) : Session Id (List β)).on r = match row.mapM f with
      | .ok bs => (.ok bs, r)
      | .error e => (.error (.crashed (cause e)), r) := by
  induction row with
  | nil => rfl
  | cons a row ih =>
    rw [List.mapM_cons, List.mapM_cons, on_bind, on_orCrash]
    cases f a with
    | error e => rfl
    | ok b =>
      simp only [on_bind, ih, on_pure]
      cases row.mapM f <;> rfl

/-- A session that ends with a failure does not succeed. -/
theorem on_bind_fail (s : Session Id α) (r : Report) :
    ∃ stop r', (s >>= fun _ => (fail : Session Id β)).on r = (.error stop, r') := by
  rw [on_bind]
  cases s.on r with
  | mk x r' =>
    cases x with
    | ok a => exact ⟨.failed, r', rfl⟩
    | error stop => exact ⟨stop, r', rfl⟩

/-! ### Rows -/

def writeRows (host : Host) (m : YangModule) (name : String) (asJson : Bool)
    (rows : List TypeStore.CheckRow) : Session Id Unit := do
  let shown := if asJson then host.json (.array (rows.map (.object ∘ record)))
    else host.table (table host (title m name) rows)
  write (← orCrash .console shown)

/-- What a report has printed of a check: a row for each value, in their order, that tells the value
and whether a type admits it. Nothing is printed of a table whose title cannot be shown. -/
inductive Prints (host : Host) (m : YangModule) (name : String) (s : TypeStore) (id : TypeId)
    (values : List String) : Bool → Report → Prop
  | json {records : List (List (String × JsonValue))} {r : Report}
    (hrows : List.Forall₂ (fun v row => RecordTells v (s.Admits id v) row) values records)
    (h : host.json (.array (records.map .object)) = .ok r.output) :
    Prints host m name s id values true r
  | table {t : Table} {r : Report} (htitle : t.title = title m name)
    (hcolumns : t.columns.take 2 = ["Value", "Valid"])
    (hrows : List.Forall₂ (fun v cells => CellsTell host v (s.Admits id v) cells) values t.rows)
    (h : host.table t = .ok r.output) : Prints host m name s id values false r
  | unshown {f : String} {r : Report} (htitle : host.shown (title m name) = .error f)
    (h : r.output = "") (hc : r.crash = some (.console f)) :
    Prints host m name s id values false r

/-- The rows can be written: as data, or under a title that can be shown. -/
def Writable (host : Host) (m : YangModule) (name : String) (asJson : Bool) : Prop :=
  asJson = true ∨ host.Shows (title m name)

theorem shows_body (hhost : host.Lawful) (heading : String) (rows : List TypeStore.CheckRow) :
    ∀ s ∈ (table host heading rows).body, host.Shows s := by
  simp only [Table.body, table, List.forall_mem_append, List.mem_flatten, List.mem_map]
  refine ⟨?_, ?_⟩
  · intro s hs
    apply hhost.shows_text
    revert s
    decide
  · rintro s ⟨_, ⟨row, -, rfl⟩, hs⟩
    simp only [List.mem_cons, List.not_mem_nil, or_false] at hs
    rcases hs with rfl | rfl | rfl
    · exact hhost.shows_escape _
    · split
      · exact ⟨_, hhost.shown_green⟩
      · exact ⟨_, hhost.shown_red⟩
    · exact hhost.shows_escape _

theorem isRecord_record (row : TypeStore.CheckRow) : IsRecord (record row) := by
  simp [IsRecord, record]

theorem exists_json (hhost : host.Lawful) (rows : List TypeStore.CheckRow) :
    ∃ out, host.json (.array (rows.map (.object ∘ record))) = .ok out := by
  rw [← List.map_map]
  apply hhost.json
  simp only [List.mem_map]
  rintro _ ⟨row, -, rfl⟩
  exact isRecord_record row

theorem prints_json (hrows : built.store.RowsOf id values rows)
    (h : host.json (.array (rows.map (.object ∘ record))) = .ok r.output) :
    Prints host m name built.store id values true r := by
  rw [← List.map_map] at h
  refine .json (List.forall₂_map_right_iff.2 (List.Forall₂.imp ?_ hrows)) h
  rintro v row ⟨rfl, hvalid⟩
  exact ⟨rfl, _, rfl, hvalid⟩

theorem prints_table (hhost : host.Lawful) (hrows : built.store.RowsOf id values rows)
    (h : host.table (table host (title m name) rows) = .ok r.output) :
    Prints host m name built.store id values false r := by
  refine .table rfl rfl (List.forall₂_map_right_iff.2 (List.Forall₂.imp ?_ hrows)) h
  rintro v row ⟨rfl, hvalid⟩
  refine ⟨rfl, _, rfl, ?_⟩
  by_cases hv : row.valid = true
  · rw [if_pos hv]
    exact .inl ⟨hvalid.1 hv, hhost.shown_green⟩
  · rw [if_neg hv]
    exact .inr ⟨mt hvalid.2 hv, hhost.shown_red⟩

/-- The rows are written whole, or not at all because of the title. -/
theorem on_writeRows (hhost : host.Lawful) (asJson : Bool) (hr : r.output = "")
    (hrows : built.store.RowsOf id values rows) :
    (∃ out, Writable host m name asJson ∧
      (∀ r' : Report, r'.output = out → Prints host m name built.store id values asJson r') ∧
      (writeRows host m name asJson rows).on r = (.ok (), { r with output := out })) ∨
    ∃ f, ¬ Writable host m name asJson ∧
      (∀ r' : Report, r'.output = "" → r'.crash = some (.console f) →
        Prints host m name built.store id values asJson r') ∧
      (writeRows host m name asJson rows).on r = (.error (.crashed (.console f)), r) := by
  cases asJson with
  | true =>
    left
    rcases exists_json hhost rows with ⟨out, hout⟩
    refine ⟨out, .inl rfl, ?_, by simp [writeRows, hout, hr]⟩
    rintro r' rfl
    exact prints_json hrows hout
  | false =>
    have hbody := shows_body hhost (title m name) rows
    cases htitle : host.shown (title m name) with
    | ok text =>
      left
      have hshown : host.Shows (title m name) := ⟨text, htitle⟩
      rcases (hhost.table_iff _).2 ⟨hshown, hbody⟩ with ⟨out, hout⟩
      refine ⟨out, .inr hshown, ?_, by simp [writeRows, hout, hr]⟩
      rintro r' rfl
      exact prints_table hhost hrows hout
    | error f =>
      right
      have hfault := hhost.table_error _ f htitle hbody
      refine ⟨f, ?_, fun _ h hc => .unshown htitle h hc, by simp [writeRows, hfault]⟩
      simp [Writable, Host.Shows, htitle]

/-! ### Checks -/

/-- The rows of a check are made first, and then written. -/
theorem on_check (h : Exports host.runtime p name built m id) (asJson : Bool) (values : List String)
    (r : Report) : ∃ ns, (check host p asJson name values).on r =
      match values.mapM (built.store.check id) with
      | .error f => (.error (.crashed (.type f)), r.noting ns)
      | .ok rows => (writeRows host m name asJson rows >>= fun _ =>
          if rows.all (·.valid) then pure () else fail).on (r.noting ns) := by
  unfold check
  rw [h.builds]
  refine ⟨built.log.map .log, ?_⟩
  simp only [on_bind, on_pure, on_log, h.module, h.errors, h.typeNamed?, on_mapM]
  cases values.mapM (built.store.check id) with
  | error f => rfl
  | ok rows =>
    have htitle : s!"{m.name}:{name}" = title m name := rfl
    simp only [writeRows, on_bind, on_orCrash, htitle]
    generalize (if asJson then _ else _ : Except String String) = shown
    cases shown <;> rfl

/-- A check succeeds only on a module without schema errors that exports the typedef. -/
theorem exports_of_check {r' : Report} (h : (check host p asJson name values).on r = (.ok (), r')) :
    ∃ built m id, Exports host.runtime p name built m id := by
  unfold check at h
  cases hb : BuiltModule.of host.runtime p.tree none with
  | error broken => simp [hb] at h
  | ok built =>
    simp only [hb, on_bind, on_pure, on_log] at h
    split at h
    · next module hm he =>
      cases ht : module.typeNamed? name with
      | none => simp [ht] at h
      | some id =>
        have hexported := (YangModule.typeNamed?_eq_some
          (BuiltModule.nodup_exported_names hb hm)).1 ht
        exact ⟨built, module, id, hb, he, hm, hexported⟩
    · next errors hne =>
      rcases on_bind_fail (schemaErrors host built.errors) (r.noting (built.log.map .log)) with
        ⟨stop, r', hstop⟩
      rw [h] at hstop
      cases hstop

/-- What the report of a check on a module with the typedef tells. -/
theorem ended_check (hhost : host.Lawful) (h : Exports host.runtime p name built m id)
    (asJson : Bool) (values : List String) (hcode : r.exitCode = 0) (hout : r.output = "") :
    let final := Report.ended ((check host p asJson name values).on r)
    (final.exitCode = 0 ∨ final.exitCode = 1) ∧
      (final.exitCode = 0 ↔ (∀ v ∈ values, built.store.Admits id v) ∧
        Writable host m name asJson) ∧
      ((∀ v ∈ values, built.store.Tells id v) →
        Prints host m name built.store id values asJson final) := by
  rcases on_check h asJson values r with ⟨ns, hcheck⟩
  dsimp only
  rw [hcheck]
  cases hrows : values.mapM (built.store.check id) with
  | error f =>
    -- A value that is not told stops the check before there is a row.
    have huntold : ¬ ∀ v ∈ values, built.store.Tells id v := by
      intro htold
      rcases exists_mapM fun v hv => TypeStore.exists_check (htold v hv) with ⟨rows, hok⟩
      rw [hrows] at hok
      cases hok
    refine ⟨.inr rfl, ?_, fun htold => absurd htold huntold⟩
    simp only [Report.ended, Nat.one_ne_zero, false_iff, not_and]
    intro hadmits
    exact absurd (fun v hv => (hadmits v hv).tells) huntold
  | ok rows =>
    have hrowsOf := TypeStore.rowsOf_of_mapM hrows
    have hvalid := hrowsOf.all_valid_iff
    simp only [on_bind]
    rcases on_writeRows (m := m) hhost asJson (r := r.noting ns) hout hrowsOf with
      ⟨out, hwritable, hprints, hwrite⟩ | ⟨f, hunwritable, hprints, hwrite⟩
    · rw [hwrite]
      by_cases hall : rows.all (·.valid) = true
      · simp only [hall, if_true]
        refine ⟨.inl hcode, ?_, fun _ => hprints _ rfl⟩
        simpa [Report.ended, Report.noting, hcode, hwritable] using hvalid.1 hall
      · simp only [hall]
        refine ⟨.inr rfl, ?_, fun _ => hprints _ rfl⟩
        simpa [Report.ended, hwritable] using mt hvalid.2 hall
    · rw [hwrite]
      refine ⟨.inr rfl, ?_, fun _ => hprints _ hout rfl⟩
      simp [Report.ended, hunwritable]

variable {fs : FileSystem Id} {c : Command}

/-- A check without a document, or without the typedef, exits with one. -/
theorem ended_without_typedef (htask : c.task = .check name values)
    (h : ∀ p built m id, Parses host fs c p → ¬ Exports host.runtime p name built m id) :
    (Report.ended ((run host fs c).on {})).exitCode = 1 := by
  apply Report.exitCode_ended
  intro r hr
  rcases on_run_cases host fs c {} with ⟨p, hp⟩ | ⟨e, he⟩ | ⟨m, ns, -, hstop⟩
  · rcases on_run_of_parses hp {} with ⟨ns, hrun⟩
    rw [hrun, perform, htask] at hr
    rcases exports_of_check hr with ⟨built, m, id, hexports⟩
    exact h p built m id hp hexports
  · rcases on_run_of_breaks he {} with ⟨ns, hrun⟩
    rw [hrun] at hr
    cases hr
  · rw [hstop] at hr
    cases hr

theorem Parses.unique {p p' : Parsed} (h : Parses host fs c p) (h' : Parses host fs c p') :
    p = p' := by
  rcases h with ⟨l, text, hl, htext, hparse⟩
  rcases h' with ⟨l', text', hl', htext', hparse'⟩
  have hsettings : l = l' := Except.ok.inj (hl.symm.trans hl')
  have htexts : text = text' := Except.ok.inj (htext.symm.trans htext')
  subst hsettings htexts
  exact Except.ok.inj (hparse.symm.trans hparse')

end Session

variable {host : Host} {arguments : List String} {verbose : Bool} {c : Command} {name : String}
  {values : List String}

end CommandLine
end YangSchema
