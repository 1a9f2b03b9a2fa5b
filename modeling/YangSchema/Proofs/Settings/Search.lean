import Mathlib.Tactic.SplitIfs
import YangSchema.Files.Tree
import YangSchema.Outcome
import YangSchema.Settings.Load

/-!
# Finding settings

Which settings file is loaded, and which faults a search meets: those of the accesses, and those of
the text of the file. A file system does not read the bytes that it gives, so bytes that are no text
are a fault of reading the text alone.
-/
namespace YangSchema

/-- A file system gives bytes and does not read them: none of its faults is one of decoding. -/
structure FileSystem.GivesBytes (fs : FileSystem Id) : Prop where
  isDirectory (path : Path) (f : Utf8.Fault) : (fs.isDirectory path).run ≠ .error (.undecodable f)
  holds (path : Path) (f : Utf8.Fault) : (fs.holds path).run ≠ .error (.undecodable f)
  read (path : Path) (f : Utf8.Fault) : (fs.read path).run ≠ .error (.undecodable f)
  resolve (path : Path) (f : Utf8.Fault) : (fs.resolve path).run ≠ .error (.undecodable f)

namespace FileSystem

variable {fs : FileSystem Id} {path : Path}

theorem run_readText (fs : FileSystem Id) (path : Path) :
    (fs.readText path).run = (match (fs.read path).run with
      | .error f => .error f
      | .ok bytes => match Utf8.decode bytes with
        | .error f => .error (.undecodable f)
        | .ok s => .ok (String.ofList (Text.Line.unify s)) : Except FileFault String) := by
  unfold readText
  rw [ExceptT.run_bind]
  cases (fs.read path).run with
  | error f => rfl
  | ok bytes =>
    dsimp only [bind]
    cases Utf8.decode bytes <;> rfl

/-- A text is not read if its bytes are not, or if they are no text. -/
theorem readText_eq_error {f : FileFault} :
    (fs.readText path).run = .error f ↔ (fs.read path).run = .error f ∨
      ∃ bytes g, (fs.read path).run = .ok bytes ∧ Utf8.decode bytes = .error g ∧
        f = .undecodable g := by
  rw [run_readText]
  constructor
  · intro h
    cases hread : (fs.read path).run with
    | error g =>
      simp only [hread] at h
      cases h
      exact .inl rfl
    | ok bytes =>
      simp only [hread] at h
      right
      cases hdecode : Utf8.decode bytes with
      | error g =>
        simp only [hdecode] at h
        cases h
        exact ⟨bytes, g, rfl, hdecode, rfl⟩
      | ok s =>
        simp only [hdecode] at h
        cases h
  · rintro (hread | ⟨bytes, g, hread, hdecode, rfl⟩)
    · simp only [hread]
    · simp only [hread, hdecode]

theorem GivesBytes.readText_eq_undecodable (hfs : fs.GivesBytes) {f : Utf8.Fault} :
    (fs.readText path).run = .error (.undecodable f) ↔
      ∃ bytes, (fs.read path).run = .ok bytes ∧ Utf8.decode bytes = .error f := by
  rw [readText_eq_error]
  simp [hfs.read path f]

theorem readText_eq_nullCharacter :
    (fs.readText path).run = .error .nullCharacter ↔
      (fs.read path).run = .error .nullCharacter := by
  rw [readText_eq_error]
  simp

end FileSystem

namespace FileTree

variable {t : FileTree} {path : Path} {f : Utf8.Fault}

theorem follow_ne_undecodable (here : Place) (parts : List String) :
    t.follow path here parts ≠ .error (.undecodable f) := by
  induction parts generalizing here with
  | nil => simp [follow]
  | cons part parts ih =>
    unfold follow
    split_ifs <;> first | exact ih _ | simp

theorem find_ne_undecodable : t.find path ≠ .error (.undecodable f) := by
  unfold find
  split_ifs
  · simp
  · simp
  · exact follow_ne_undecodable _ _

theorem placed_ne_undecodable (test : Place → Bool) :
    t.placed path test ≠ .error (.undecodable f) := by
  unfold placed
  split <;> simp

theorem read_ne_undecodable : t.read path ≠ .error (.undecodable f) := by
  unfold read
  cases hfind : t.find path with
  | error g =>
    rintro h
    cases h
    exact find_ne_undecodable hfind
  | ok place =>
    simp only [bind, Except.bind, pure, Except.pure, throw, throwThe, MonadExceptOf.throw]
    split_ifs
    · simp
    · split <;> simp

theorem resolve_ne_undecodable : t.resolve path ≠ .error (.undecodable f) := by
  unfold resolve
  split_ifs <;> simp

/-- The system of a tree gives bytes. -/
theorem givesBytes (t : FileTree) : t.system.GivesBytes where
  isDirectory _ _ := placed_ne_undecodable _
  holds _ _ := placed_ne_undecodable _
  read _ _ := read_ne_undecodable
  resolve _ _ := resolve_ne_undecodable

theorem isDirectory_ne_true (h : (t.isDirectory path).toOption = some false) :
    (t.system.isDirectory path).run ≠ .ok true := by
  intro htrue
  have hboth : (.ok false : Except FileFault Bool) = .ok true :=
    (toOption_eq_some.1 h).symm.trans htrue
  cases hboth

end FileTree

namespace ParserSettings

variable {α β : Type} {runtime : Runtime} {fs : FileSystem Id} {path : Path} {text : String}

/-- If there is a fault it is one of the entries of a text, and none of a file or of its depth. -/
def Textual (x : Except LoadFault α) : Prop :=
  ∀ e, x = .error e → (∃ f, e = .numeral f) ∨ ∃ f, e = .config f

theorem Textual.bind {x : Except LoadFault α} {g : α → Except LoadFault β}
    (hx : Textual x) (hg : ∀ a, Textual (g a)) : Textual (x >>= g) := by
  cases x with
  | error e =>
    intro e' h
    cases h
    exact hx e rfl
  | ok a => exact hg a

theorem textual_config (f : ConfigFault) : Textual (.error (.config f) : Except LoadFault α) := by
  intro e h
  cases h
  exact .inr ⟨f, rfl⟩

theorem textual_refuse (fault : String → ConfigFault) (v : Toml.Value) :
    Textual (refuse fault v : Except LoadFault α) := by
  unfold refuse
  intro e h
  cases hshown : v.shown with
  | ok s =>
    rw [hshown] at h
    exact textual_config _ e h
  | error f =>
    rw [hshown] at h
    cases h
    exact .inl ⟨f, rfl⟩

theorem textual_ok (a : α) : Textual (Except.ok a) := by
  intro e h
  cases h

theorem textual_ofEntries (entries : List (String × Toml.Value)) :
    Textual (ofEntries path entries) := by
  unfold ofEntries
  -- Every setting is read in the continuation of the one before, so the last is settled first.
  extract_lets read
  have hread (table : List (String × Toml.Value)) : Textual (read table) := by
    unfold read
    extract_lets width
    have hwidth (policy : IdentifierPolicy) : Textual (width policy) := by
      unfold width
      split
      · apply textual_ok
      · split
        · split
          · apply textual_ok
          · exact (textual_refuse _ _).bind fun _ => textual_ok _
        · exact (textual_refuse _ _).bind fun _ => textual_ok _
    split
    · apply hwidth
    · split
      · apply hwidth
      · exact (textual_refuse _ _).bind hwidth
  split
  · exact hread []
  · exact hread _
  · exact textual_config _

/-- A text that nests too deeply is not read, and no other text has this fault. -/
theorem ofText_cases (runtime : Runtime) (path : Path) (text : String) :
    (runtime.refusesToml text = true ∧ ofText runtime path text = .error .tooDeep) ∨
      (runtime.refusesToml text = false ∧ Textual (ofText runtime path text)) := by
  unfold ofText
  cases runtime.refusesToml text with
  | true => exact .inl ⟨rfl, rfl⟩
  | false =>
    refine .inr ⟨rfl, ?_⟩
    rw [if_neg (by simp)]
    split
    · exact textual_config _
    · intro e h
      cases h
      exact .inl ⟨_, rfl⟩
    · exact textual_ofEntries _

theorem ofText_eq_tooDeep :
    ofText runtime path text = .error .tooDeep ↔ runtime.refusesToml text = true := by
  rcases ofText_cases runtime path text with ⟨hdeep, h⟩ | ⟨hflat, h⟩
  · exact iff_of_true h hdeep
  · refine iff_of_false (fun he => ?_) (by simp [hflat])
    rcases h _ he with ⟨f, hf⟩ | ⟨f, hf⟩ <;> cases hf

theorem ofText_ne_file (f : FileFault) : ofText runtime path text ≠ .error (.file f) := by
  rcases ofText_cases runtime path text with ⟨-, h⟩ | ⟨-, h⟩
  · simp [h]
  · intro he
    rcases h _ he with ⟨f, hf⟩ | ⟨f, hf⟩ <;> cases hf

/-- What comes of asking the file system. -/
theorem run_ask (x : Access Id α) (g : α → Search Id β) :
    ((x.adapt .file >>= g).run : Except LoadFault β) = match (x.run : Except FileFault α) with
      | .ok a => (g a).run
      | .error f => .error (.file f) := by
  rw [ExceptT.run_bind, ExceptT.run_adapt]
  cases x.run <;> rfl

theorem load_eq (runtime : Runtime) (fs : FileSystem Id) (path : Path) :
    (load runtime fs path).run = (match (fs.readText path).run with
      | .ok text => (ofText runtime path text).map fun s => ⟨s, some path⟩
      | .error f => .error (.file f) : Except LoadFault LoadedSettings) := by
  unfold load
  rw [run_ask]
  cases (fs.readText path).run with
  | error f => rfl
  | ok text =>
    dsimp only
    cases ofText runtime path text <;> rfl

/-- Loading fails where the text is not read, or where it gives no settings. -/
theorem load_eq_error {e : LoadFault} :
    (load runtime fs path).run = .error e ↔ (∃ f, (fs.readText path).run = .error f ∧ e = .file f) ∨
      ∃ text, (fs.readText path).run = .ok text ∧ ofText runtime path text = .error e := by
  rw [load_eq]
  constructor
  · intro h
    cases htext : (fs.readText path).run with
    | error f =>
      simp only [htext] at h
      cases h
      exact .inl ⟨f, rfl, rfl⟩
    | ok text =>
      simp only [htext] at h
      refine .inr ⟨text, rfl, ?_⟩
      cases hsettings : ofText runtime path text with
      | error e' =>
        rw [hsettings] at h
        cases h
        rfl
      | ok s =>
        rw [hsettings] at h
        cases h
  · rintro (⟨f, htext, rfl⟩ | ⟨text, htext, hsettings⟩)
    · simp only [htext]
    · simp only [htext, hsettings, Except.map]

theorem load_eq_file {f : FileFault} :
    (load runtime fs path).run = .error (.file f) ↔ (fs.readText path).run = .error f := by
  rw [load_eq_error]
  constructor
  · rintro (⟨g, htext, hg⟩ | ⟨text, -, hsettings⟩)
    · cases hg
      exact htext
    · exact absurd hsettings (ofText_ne_file f)
  · intro htext
    exact .inl ⟨f, htext, rfl⟩

/-- The faults that are none of a file are those of its text. -/
theorem load_eq_of_text {e : LoadFault} (he : ∀ f, e ≠ .file f) :
    (load runtime fs path).run = .error e ↔
      ∃ text, (fs.readText path).run = .ok text ∧ ofText runtime path text = .error e := by
  rw [load_eq_error]
  simp [he]

/-- The settings files that are looked for from a place on, the nearest first. -/
def candidates (fs : FileSystem Id) (start : Path) : Except FileFault (List Path) := do
  let directory := if ← (fs.isDirectory start).run then start else start.parent
  let above := (← (fs.resolve directory).run).parents
  return (directory :: above).map (·.child fileName)

theorem candidates_ne_undecodable (hfs : fs.GivesBytes) (start : Path) (f : Utf8.Fault) :
    candidates fs start ≠ .error (.undecodable f) := by
  intro h
  rcases except_bind_eq_error.1 h with hdirectory | ⟨yes, -, h⟩
  · exact hfs.isDirectory start f hdirectory
  · rcases except_bind_eq_error.1 h with hresolve | ⟨directory, -, h⟩
    · exact hfs.resolve _ f hresolve
    · cases h

theorem find_eq (runtime : Runtime) (fs : FileSystem Id) (start : Path) :
    (find runtime fs start).run = (match candidates fs start with
      | .ok paths => (loadFirst runtime fs paths).run
      | .error f => .error (.file f) : Except LoadFault LoadedSettings) := by
  unfold find candidates
  rw [run_ask]
  cases (fs.isDirectory start).run with
  | error f => rfl
  | ok yes =>
    dsimp only
    rw [run_ask]
    dsimp only [bind, Except.bind]
    cases (fs.resolve (if yes then start else start.parent)).run <;> rfl

theorem loadFirst_cons (runtime : Runtime) (fs : FileSystem Id) (path : Path) (paths : List Path) :
    (loadFirst runtime fs (path :: paths)).run = (match (fs.holds path).run with
      | .ok true => (load runtime fs path).run
      | .ok false => (loadFirst runtime fs paths).run
      | .error f => .error (.file f) : Except LoadFault LoadedSettings) := by
  rw [loadFirst, run_ask]
  cases (fs.holds path).run with
  | error f => rfl
  | ok yes => cases yes <;> rfl

/-- A path is the first of a row that is there. -/
def First (fs : FileSystem Id) (paths : List Path) (path : Path) : Prop :=
  ∃ before after, paths = before ++ path :: after ∧
    (∀ p ∈ before, (fs.holds p).run = .ok false) ∧ (fs.holds path).run = .ok true

theorem loadFirst_of_first {paths : List Path} (h : First fs paths path) :
    (loadFirst runtime fs paths).run = (load runtime fs path).run := by
  rcases h with ⟨before, after, rfl, hbefore, hpath⟩
  induction before with
  | nil => rw [List.nil_append, loadFirst_cons, hpath]
  | cons p before ih =>
    rw [List.forall_mem_cons] at hbefore
    rw [List.cons_append, loadFirst_cons, hbefore.1]
    exact ih hbefore.2

/-- A row of settings files has a first one, or there is none, or one cannot be looked for. -/
theorem loadFirst_cases (runtime : Runtime) (fs : FileSystem Id) (paths : List Path) :
    (∃ path, First fs paths path) ∨ (loadFirst runtime fs paths).run = .ok {} ∨
      ∃ p f, (fs.holds p).run = .error f ∧ (loadFirst runtime fs paths).run = .error (.file f) := by
  induction paths with
  | nil => exact .inr (.inl rfl)
  | cons p paths ih =>
    rw [loadFirst_cons]
    cases hp : (fs.holds p).run with
    | error f => exact .inr (.inr ⟨p, f, hp, rfl⟩)
    | ok there =>
      cases there with
      | true => exact .inl ⟨p, [], paths, rfl, by simp, hp⟩
      | false =>
        rcases ih with ⟨path, before, after, rfl, hbefore, hpath⟩ | hrest
        · left
          refine ⟨path, p :: before, after, rfl, ?_, hpath⟩
          exact List.forall_mem_cons.2 ⟨hp, hbefore⟩
        · exact .inr hrest

end ParserSettings
end YangSchema
