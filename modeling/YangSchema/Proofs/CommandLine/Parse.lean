import YangSchema.Proofs.CommandLine.Host
import YangSchema.Proofs.CommandLine.Session
import YangSchema.Proofs.Settings.Search
import YangSchema.Proofs.Statement.RoundTrip

/-!
# The ends of a parse

A parse writes the canonical text of its document, or tells why there is none. Bytes that are no
text, names that no file can have, and settings whose numbers are too long or whose arrays nest too
deeply are told by no message: they break the command off. So does a tab that is too wide.
-/
namespace YangSchema.CommandLine

open ParserSettings (First candidates)

variable {host : Host} {fs : FileSystem Id} {arguments : List String} {verbose : Bool}
  {c : Command} {path : Path} {x : Crash}

/-- The settings file that applies to a command: the one that it names, or else the nearest to its
file. -/
inductive Applies (fs : FileSystem Id) (c : Command) : Path → Prop
  | named {name : String} (h : c.config = some name) : Applies fs c (Path.ofText name)
  | nearest {source path : Path} {paths : List Path} (h : c.config = none)
    (hsource : (fs.resolve (Path.ofText c.file)).run = .ok source)
    (hpaths : candidates fs source.parent = .ok paths) (hfirst : First fs paths path) :
    Applies fs c path

/-- The faults of a command on its files that are told by no message. -/
inductive Unexpected (host : Host) (fs : FileSystem Id) (c : Command) : Crash → Prop
  /-- A path on the way to the settings holds the null character. -/
  | settingsPath (h : Session.search host fs c = .error (.file .nullCharacter)) :
    Unexpected host fs c (.file .nullCharacter)
  /-- The bytes of the settings file are no text. -/
  | settingsBytes {path : Path} {bytes : List UInt8} {f : Utf8.Fault} (h : Applies fs c path)
    (hread : (fs.read path).run = .ok bytes) (hdecode : Utf8.decode bytes = .error f) :
    Unexpected host fs c (.file (.undecodable f))
  /-- A whole number of the settings file has too many digits. -/
  | numeral {path : Path} {text : String} {f : Text.Numeral.Fault} (h : Applies fs c path)
    (htext : (fs.readText path).run = .ok text)
    (hnumeral : ParserSettings.ofText host.runtime path text = .error (.numeral f)) :
    Unexpected host fs c (.numeral f)
  /-- The settings file nests too deeply to be read. -/
  | tooDeep {path : Path} {text : String} (h : Applies fs c path)
    (htext : (fs.readText path).run = .ok text) (hdeep : host.runtime.refusesToml text = true) :
    Unexpected host fs c .tooDeep
  /-- The path of the file holds the null character. -/
  | path {l : LoadedSettings} (hl : Session.search host fs c = .ok l)
    (h : (fs.read (Path.ofText c.file)).run = .error .nullCharacter) :
    Unexpected host fs c (.file .nullCharacter)
  /-- The bytes of the file are no text. -/
  | bytes {l : LoadedSettings} {bytes : List UInt8} {f : Utf8.Fault}
    (hl : Session.search host fs c = .ok l) (hread : (fs.read (Path.ofText c.file)).run = .ok bytes)
    (hdecode : Utf8.decode bytes = .error f) : Unexpected host fs c (.file (.undecodable f))
  /-- A string of the file begins a line with tabs that are wider than any text. -/
  | tooWide {l : LoadedSettings} {text : String} {p : Position}
    (hl : Session.search host fs c = .ok l)
    (htext : (fs.readText (Path.ofText c.file)).run = .ok text)
    (h : parseDocument text l.settings = .error ⟨.tooWide, p⟩) :
    Unexpected host fs c (.limit .tooWide)

/-- How a parse ends on the files of a system. -/
inductive ParseEnd (host : Host) (fs : FileSystem Id) (c : Command) (verbose : Bool) :
    Report → Prop
  /-- The canonical text is written. Escape sequences in it are left out. -/
  | rendered {p : Parsed} {text : String} {r : Report} (hp : Session.Parses host fs c p)
    (htext : p.tree.render none = .ok text) (hcode : r.exitCode = 0)
    (hout : r.output = host.echo text) (hplain : '\x1b' ∉ text.toList → r.output = text)
    (hcrash : r.crash = none) : ParseEnd host fs c verbose r
  /-- The last notice tells why there is no document. -/
  | refused {m : String} {r : Report} (hm : Session.IsComplaint m) (hcode : r.exitCode = 1)
    (hout : r.output = "") (hcrash : r.crash = none)
    (htold : (r.shownNotices verbose).getLast? = some (.message (m ++ "\n"))) :
    ParseEnd host fs c verbose r
  /-- A fault breaks the command off. -/
  | broken {x : Crash} {r : Report} (hx : Unexpected host fs c x) (hcode : r.exitCode = 1)
    (hout : r.output = "") (hcrash : r.crash = some x) : ParseEnd host fs c verbose r

namespace Session

theorem search_of_applies (h : Applies fs c path) :
    search host fs c = (ParserSettings.load host.runtime fs path).run := by
  unfold search
  cases h with
  | named h => rw [h]
  | nearest h hsource hpaths hfirst =>
    rw [h, ParserSettings.run_ask, hsource]
    dsimp only
    rw [ParserSettings.find_eq, hpaths, ← ParserSettings.loadFirst_of_first hfirst]

/-- A search loads the settings file that applies, or there is none, or the file system fails. -/
theorem search_cases (hfs : fs.GivesBytes) (c : Command) :
    (∃ path, Applies fs c path) ∨ search host fs c = .ok {} ∨
      ∃ f, (∀ g, f ≠ .undecodable g) ∧ search host fs c = .error (.file f) := by
  cases hconfig : c.config with
  | some name => exact .inl ⟨_, .named hconfig⟩
  | none =>
    unfold search
    rw [hconfig, ParserSettings.run_ask]
    cases hsource : (fs.resolve (Path.ofText c.file)).run with
    | error f =>
      refine .inr (.inr ⟨f, ?_, rfl⟩)
      rintro g rfl
      exact hfs.resolve _ g hsource
    | ok source =>
      dsimp only
      rw [ParserSettings.find_eq]
      cases hpaths : candidates fs source.parent with
      | error f =>
        refine .inr (.inr ⟨f, ?_, rfl⟩)
        rintro g rfl
        exact ParserSettings.candidates_ne_undecodable hfs _ g hpaths
      | ok paths =>
        rcases ParserSettings.loadFirst_cases host.runtime fs paths with
          ⟨path, hfirst⟩ | hnone | ⟨p, f, hholds, hload⟩
        · exact .inl ⟨path, .nearest hconfig hsource hpaths hfirst⟩
        · exact .inr (.inl hnone)
        · refine .inr (.inr ⟨f, ?_, hload⟩)
          rintro g rfl
          exact hfs.holds _ g hholds

theorem unexpected_of_settings {f : FileFault} (hfs : fs.GivesBytes)
    (h : search host fs c = .error (.file f)) (hf : f.isSystem = false) :
    Unexpected host fs c (.file f) := by
  cases f with
  | nullCharacter => exact .settingsPath h
  | undecodable g =>
    -- Only the bytes of the file that is loaded are read, so the fault is theirs.
    rcases search_cases hfs c with ⟨path, hpath⟩ | hnone | ⟨f, hf, herror⟩
    · rw [search_of_applies hpath, ParserSettings.load_eq_file,
        hfs.readText_eq_undecodable] at h
      rcases h with ⟨bytes, hread, hdecode⟩
      exact .settingsBytes hpath hread hdecode
    · rw [hnone] at h
      cases h
    · rw [herror] at h
      cases h
      exact absurd rfl (hf g)
  | _ => cases hf

/-- A fault of the settings that is none of a file is one of the text that applies. -/
theorem exists_text_of_settings {e : LoadFault} (hfs : fs.GivesBytes) (he : ∀ f, e ≠ .file f)
    (h : search host fs c = .error e) :
    ∃ path text, Applies fs c path ∧ (fs.readText path).run = .ok text ∧
      ParserSettings.ofText host.runtime path text = .error e := by
  rcases search_cases hfs c with ⟨path, hpath⟩ | hnone | ⟨f, -, herror⟩
  · rw [search_of_applies hpath, ParserSettings.load_eq_of_text he] at h
    rcases h with ⟨text, htext, hfault⟩
    exact ⟨path, text, hpath, htext, hfault⟩
  · rw [hnone] at h
    cases h
  · rw [herror] at h
    cases h
    exact absurd rfl (he f)

theorem search_of_text {e : LoadFault} {text : String} (he : ∀ f, e ≠ .file f)
    (h : Applies fs c path) (htext : (fs.readText path).run = .ok text)
    (hfault : ParserSettings.ofText host.runtime path text = .error e) :
    search host fs c = .error e := by
  rw [search_of_applies h, ParserSettings.load_eq_of_text he]
  exact ⟨text, htext, hfault⟩

/-- On a system that gives bytes, the faults that break a command off are those that are not
expected. -/
theorem breaks_iff (hfs : fs.GivesBytes) : Breaks host fs c x ↔ Unexpected host fs c x := by
  constructor
  · intro h
    cases h with
    | settings h hf => exact unexpected_of_settings hfs h hf
    | numeral h =>
      rcases exists_text_of_settings hfs (by simp) h with ⟨path, text, hpath, htext, hfault⟩
      exact .numeral hpath htext hfault
    | tooDeep h =>
      rcases exists_text_of_settings hfs (by simp) h with ⟨path, text, hpath, htext, hfault⟩
      exact .tooDeep hpath htext (ParserSettings.ofText_eq_tooDeep.1 hfault)
    | @text l f hl h hf =>
      cases f with
      | nullCharacter => exact .path hl (FileSystem.readText_eq_nullCharacter.1 h)
      | undecodable g =>
        rcases hfs.readText_eq_undecodable.1 h with ⟨bytes, hread, hdecode⟩
        exact .bytes hl hread hdecode
      | _ => cases hf
    | @limit l text e hl htext h he =>
      rcases e with ⟨fault, p⟩
      cases fault with
      | tooWide => exact .tooWide hl htext h
      | _ => cases he
  · intro h
    cases h with
    | settingsPath h => exact .settings h rfl
    | settingsBytes h hread hdecode =>
      apply Breaks.settings _ rfl
      rw [search_of_applies h, ParserSettings.load_eq_file, hfs.readText_eq_undecodable]
      exact ⟨_, hread, hdecode⟩
    | numeral h htext hnumeral => exact .numeral (search_of_text (by simp) h htext hnumeral)
    | tooDeep h htext hdeep =>
      exact .tooDeep (search_of_text (by simp) h htext (ParserSettings.ofText_eq_tooDeep.2 hdeep))
    | path hl h => exact .text hl (FileSystem.readText_eq_nullCharacter.2 h) rfl
    | bytes hl hread hdecode =>
      exact .text hl (hfs.readText_eq_undecodable.2 ⟨_, hread, hdecode⟩) rfl
    | tooWide hl htext h => exact .limit hl htext h rfl

/-- What is left out of a message is none of its first words. -/
theorem IsComplaint.echoed {m : String} (hhost : host.Lawful) (h : IsComplaint m) :
    IsComplaint (host.echo m) := by
  cases h with
  | config told =>
    rw [hhost.echo_append _ _ (by decide)]
    exact .config _
  | unreadable told =>
    rw [hhost.echo_append _ _ (by decide)]
    exact .unreadable _
  | syntaxError told =>
    rw [hhost.echo_append _ _ (by decide)]
    exact .syntaxError _

/-- A message that is told last is shown last. -/
theorem shownNotices_noting_said (r : Report) (ns : List Notice) (m : String) (verbose : Bool) :
    ((r.noting (ns ++ [.said host m])).shownNotices verbose).getLast? =
      some (.message (host.echo m ++ "\n")) := by
  simp [Report.shownNotices, Report.noting, Notice.said, ← List.append_assoc]

theorem exists_render_of_parses {p : Parsed} (h : Parses host fs c p) :
    ∃ out, p.tree.render none = .ok out := by
  rcases h with ⟨l, text, -, -, hparse⟩
  rcases exists_of_parseDocument hparse with ⟨s, -, hs⟩
  exact ⟨_, by rw [hs, SyntaxTree.render_arena]⟩

theorem ended_of_parses {p : Parsed} {text : String} (hp : Parses host fs c p)
    (htext : p.tree.render none = .ok text) (htask : c.task = .parse) (hdata : c.asJson = false) :
    ∃ ns, Report.ended ((run host fs c).on {}) =
      ({ output := host.echo text } : Report).noting ns := by
  rcases on_run_of_parses hp {} with ⟨ns, hrun⟩
  refine ⟨ns, ?_⟩
  rw [hrun]
  simp [perform, htask, writeStatements, hdata, htext, Report.ended, Report.noting]

theorem ended_of_breaks (h : Breaks host fs c x) :
    ∃ ns, Report.ended ((run host fs c).on {}) =
      ({ exitCode := 1, crash := some x } : Report).noting ns := by
  rcases on_run_of_breaks h {} with ⟨ns, hrun⟩
  exact ⟨ns, by rw [hrun]; rfl⟩

/-- A parse writes the canonical text, or is refused, or is broken off. -/
theorem parseEnd_ended (hhost : host.Lawful) (hfs : fs.GivesBytes) (htask : c.task = .parse)
    (hdata : c.asJson = false) (verbose : Bool) :
    ParseEnd host fs c verbose (Report.ended ((run host fs c).on {})) := by
  rcases on_run_cases host fs c {} with ⟨p, hp⟩ | ⟨x, hx⟩ | ⟨m, ns, hm, hrun⟩
  · rcases exists_render_of_parses hp with ⟨text, htext⟩
    rcases ended_of_parses hp htext htask hdata with ⟨ns, hended⟩
    rw [hended]
    exact .rendered hp htext rfl rfl hhost.echo_eq_self rfl
  · rcases ended_of_breaks hx with ⟨ns, hended⟩
    rw [hended]
    exact .broken ((breaks_iff hfs).1 hx) rfl rfl rfl
  · rw [hrun]
    exact .refused (hm.echoed hhost) rfl rfl rfl (shownNotices_noting_said {} ns m verbose)

end Session

end YangSchema.CommandLine
