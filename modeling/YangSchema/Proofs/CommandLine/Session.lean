import YangSchema.CommandLine.Session
import YangSchema.Outcome

/-!
# What a session gives

On files that are a value, a session is a function of the report so far. Both commands begin with
the settings and the document. Where there is no document they stop: with a message, or with a fault
for which there is none. Nothing is assumed of the host.
-/
namespace YangSchema.CommandLine

namespace Report

def noting (r : Report) (ns : List Notice) : Report :=
  { r with notices := r.notices ++ ns }

@[simp]
theorem noting_nil (r : Report) : r.noting [] = r := by
  simp [noting]

@[simp]
theorem noting_noting (r : Report) (ns ns' : List Notice) :
    (r.noting ns).noting ns' = r.noting (ns ++ ns') := by
  simp [noting]

def ended : Except Stop Unit × Report → Report
  | (.ok _, r) => r
  | (.error .failed, r) => { r with exitCode := 1 }
  | (.error (.crashed c), r) => { r with exitCode := 1, crash := some c }

theorem exitCode_ended {x : Except Stop Unit × Report} (h : ∀ r, x ≠ (.ok (), r)) :
    (ended x).exitCode = 1 := by
  rcases x with ⟨stop | _, r⟩
  · cases stop <;> rfl
  · exact absurd rfl (h r)

end Report

/-- What is told by a line on the error stream. -/
def Notice.said (host : Host) (s : String) : Notice :=
  .message (host.echo s ++ "\n")

namespace Session

variable {α β ε : Type} {host : Host} {fs : FileSystem Id} {r : Report}

def on (s : Session Id α) (r : Report) : Except Stop α × Report :=
  StateT.run (ExceptT.run s) r

@[simp]
theorem on_pure (a : α) (r : Report) : (pure a : Session Id α).on r = (.ok a, r) := rfl

@[simp]
theorem on_bind (s : Session Id α) (f : α → Session Id β) (r : Report) :
    (s >>= f).on r = match s.on r with
      | (.ok a, r) => (f a).on r
      | (.error e, r) => (.error e, r) := by
  unfold on ExceptT.run StateT.run
  simp only [bind, ExceptT.bind, ExceptT.mk, StateT.bind, ExceptT.bindCont]
  cases s r with
  | mk x r => cases x <;> rfl

@[simp]
theorem on_map (f : α → β) (s : Session Id α) (r : Report) :
    (f <$> s).on r = match s.on r with
      | (.ok a, r) => (.ok (f a), r)
      | (.error e, r) => (.error e, r) := by
  rw [← bind_pure_comp, on_bind]
  rfl

@[simp]
theorem on_tell (n : Notice) (r : Report) :
    (tell n : Session Id Unit).on r = (.ok (), r.noting [n]) :=
  rfl

@[simp]
theorem on_write (s : String) (r : Report) :
    (write s : Session Id Unit).on r = (.ok (), { r with output := r.output ++ s }) :=
  rfl

@[simp]
theorem on_fail (r : Report) : (fail : Session Id α).on r = (.error .failed, r) := rfl

@[simp]
theorem on_crash (c : Crash) (r : Report) :
    (crash c : Session Id α).on r = (.error (.crashed c), r) := rfl

@[simp]
theorem on_log (lines : List LogLine) (r : Report) :
    (log lines : Session Id Unit).on r = (.ok (), r.noting (lines.map .log)) := by
  induction lines generalizing r with
  | nil => simp [log]
  | cons l lines ih => simp_all [log]

@[simp]
theorem on_failWith (host : Host) (s : String) (r : Report) :
    (failWith host s : Session Id α).on r = (.error .failed, r.noting [.said host s]) := by
  simp [failWith, complain, Notice.said]

@[simp]
theorem on_orCrash (cause : ε → Crash) (x : Except ε α) (r : Report) :
    (orCrash cause x : Session Id α).on r = match x with
      | .ok a => (.ok a, r)
      | .error e => (.error (.crashed (cause e)), r) := by
  cases x <;> rfl

variable {c : Command}

def search (host : Host) (fs : FileSystem Id) (c : Command) : Except LoadFault LoadedSettings :=
  let found : ParserSettings.Search Id LoadedSettings :=
    match c.config with
    | some t => ParserSettings.load host.runtime fs (Path.ofText t)
    | none => do
      ParserSettings.find host.runtime fs (← (fs.resolve (Path.ofText c.file)).adapt .file).parent
  found.run

/-- The session in which a command comes to its document. -/
def document (host : Host) (fs : FileSystem Id) (c : Command) : Session Id Parsed := do
  statements host fs (Path.ofText c.file) (← settings host fs c.config (Path.ofText c.file))

/-- The file of a command is read, and parsed with the settings in force. -/
def Parses (host : Host) (fs : FileSystem Id) (c : Command) (p : Parsed) : Prop :=
  ∃ l text, search host fs c = .ok l ∧ (fs.readText (Path.ofText c.file)).run = .ok text ∧
    parseDocument text l.settings = .ok p

/-- Faults of the settings or of the file for which there is no message. -/
inductive Breaks (host : Host) (fs : FileSystem Id) (c : Command) : Crash → Prop
  | settings {f : FileFault} (h : search host fs c = .error (.file f)) (hf : f.isSystem = false) :
    Breaks host fs c (.file f)
  | numeral {f : Text.Numeral.Fault} (h : search host fs c = .error (.numeral f)) :
    Breaks host fs c (.numeral f)
  | tooDeep (h : search host fs c = .error .tooDeep) : Breaks host fs c .tooDeep
  | text {l : LoadedSettings} {f : FileFault} (hl : search host fs c = .ok l)
    (h : (fs.readText (Path.ofText c.file)).run = .error f) (hf : f.isSystem = false) :
    Breaks host fs c (.file f)
  | limit {l : LoadedSettings} {text : String} {e : SyntaxError} (hl : search host fs c = .ok l)
    (htext : (fs.readText (Path.ofText c.file)).run = .ok text)
    (h : parseDocument text l.settings = .error e) (he : e.fault.isLimit = true) :
    Breaks host fs c (.limit e.fault)

/-- The message of a command that has no document. -/
inductive IsComplaint : String → Prop
  | config (told : String) : IsComplaint ("Config error: " ++ told)
  | unreadable (told : String) : IsComplaint ("Cannot read " ++ told)
  | syntaxError (told : String) : IsComplaint ("Parse error: " ++ told)

/-- What a command does with what the search for its settings has found. -/
theorem settings_eq (host : Host) (fs : FileSystem Id) (c : Command) :
    settings host fs c.config (Path.ofText c.file) = match search host fs c with
      | .ok l => do
        log (l.log.toOption.getD [])
        return l.settings
      | .error (.config f) => failWith host ("Config error: " ++ f.message)
      | .error (.file f) =>
        if f.isSystem then failWith host ("Cannot read config: " ++ f.message)
        else crash (.file f)
      | .error (.numeral f) => crash (.numeral f)
      | .error .tooDeep => crash .tooDeep := rfl

variable {l : LoadedSettings} {s : ParserSettings} {file : Path} {text : String} {e : SyntaxError}

def refusal (host : Host) (file : Path) (text : String) (e : SyntaxError) : Session Id α :=
  if e.fault.isLimit then crash (.limit e.fault)
  else failWith host ("Parse error: " ++ e.report file.text text)

/-- What a command does with what reading its file has given. -/
theorem statements_eq (host : Host) (fs : FileSystem Id) (file : Path) (s : ParserSettings) :
    statements host fs file s = do
      log [parsingLine file.text]
      match (fs.readText file).run with
      | .error f =>
        if f.isSystem then failWith host ("Cannot read " ++ file.text ++ ": " ++ f.message)
        else crash (.file f)
      | .ok text =>
        match parseStatement text s with
        | .error e => refusal host file text e
        | .ok p =>
          log [p.logLine file.text]
          match p.asDocument with
          | .error e => refusal host file text e
          | .ok p => return p := rfl

theorem on_statements_parsed {p : Parsed} (htext : (fs.readText file).run = .ok text)
    (hparse : parseDocument text s = .ok p) (r : Report) :
    ∃ ns, (statements host fs file s).on r = (.ok p, r.noting ns) := by
  rcases except_bind_eq_ok.1 hparse with ⟨q, hq, hp⟩
  refine ⟨[.log (parsingLine file.text), .log (q.logLine file.text)], ?_⟩
  simp [statements_eq, htext, hq, hp]

/-- A text that is no document is refused after some lines for the log. -/
theorem on_statements_refused (htext : (fs.readText file).run = .ok text)
    (hparse : parseDocument text s = .error e) (r : Report) :
    ∃ ns, (statements host fs file s).on r = (refusal host file text e).on (r.noting ns) := by
  unfold parseDocument at hparse
  cases hq : parseStatement text s with
  | error e' =>
    rw [hq] at hparse
    cases hparse
    refine ⟨[.log (parsingLine file.text)], ?_⟩
    simp [statements_eq, htext, hq]
  | ok q =>
    rw [hq] at hparse
    have hp : q.asDocument = .error e := hparse
    refine ⟨[.log (parsingLine file.text), .log (q.logLine file.text)], ?_⟩
    simp [statements_eq, htext, hq, hp]

theorem on_refusal_of_limit (he : e.fault.isLimit = true) (r : Report) :
    (refusal host file text e : Session Id α).on r = (.error (.crashed (.limit e.fault)), r) := by
  rw [refusal, if_pos he, on_crash]

theorem on_refusal (he : e.fault.isLimit = false) (r : Report) :
    (refusal host file text e : Session Id α).on r =
      (.error .failed, r.noting [.said host ("Parse error: " ++ e.report file.text text)]) := by
  rw [refusal, if_neg (by simp [he]), on_failWith]

theorem document_of_settings (h : search host fs c = .ok l) (r : Report) :
    ∃ ns, (document host fs c).on r =
      (statements host fs (Path.ofText c.file) l.settings).on (r.noting ns) := by
  unfold document
  rw [settings_eq, h]
  exact ⟨(l.log.toOption.getD []).map .log, by simp⟩

theorem document_of_refused (hl : search host fs c = .ok l)
    (htext : (fs.readText (Path.ofText c.file)).run = .ok text)
    (hparse : parseDocument text l.settings = .error e) (r : Report) :
    ∃ ns, (document host fs c).on r =
      (refusal host (Path.ofText c.file) text e).on (r.noting ns) := by
  rcases document_of_settings hl r with ⟨ns, hns⟩
  rcases on_statements_refused htext hparse (r.noting ns) with ⟨ns', hns'⟩
  exact ⟨ns ++ ns', by rw [hns, hns', Report.noting_noting]⟩

theorem document_of_parses {p : Parsed} (h : Parses host fs c p) (r : Report) :
    ∃ ns, (document host fs c).on r = (.ok p, r.noting ns) := by
  rcases h with ⟨l, text, hsettings, htext, hparse⟩
  rcases document_of_settings hsettings r with ⟨ns, hns⟩
  rcases on_statements_parsed htext hparse (r.noting ns) with ⟨ns', hns'⟩
  exact ⟨ns ++ ns', by rw [hns, hns', Report.noting_noting]⟩

theorem document_of_breaks {x : Crash} (h : Breaks host fs c x) (r : Report) :
    ∃ ns, (document host fs c).on r = (.error (.crashed x), r.noting ns) := by
  cases h with
  | settings h hf => exact ⟨[], by simp [document, settings_eq, h, hf]⟩
  | numeral h => exact ⟨[], by simp [document, settings_eq, h]⟩
  | tooDeep h => exact ⟨[], by simp [document, settings_eq, h]⟩
  | text hl h hf =>
    rcases document_of_settings hl r with ⟨ns, hns⟩
    refine ⟨ns ++ [.log (parsingLine (Path.ofText c.file).text)], ?_⟩
    rw [hns, statements_eq]
    simp [h, hf]
  | limit hl htext h he =>
    rcases document_of_refused hl htext h r with ⟨ns, hns⟩
    exact ⟨ns, by rw [hns, on_refusal_of_limit he]⟩

/-- A command comes to its document, or a fault breaks it off, or it stops with a message. -/
theorem document_cases (host : Host) (fs : FileSystem Id) (c : Command) (r : Report) :
    (∃ p, Parses host fs c p) ∨ (∃ x, Breaks host fs c x) ∨
      ∃ m ns, IsComplaint m ∧
        (document host fs c).on r = (.error .failed, r.noting (ns ++ [.said host m])) := by
  cases hsettings : search host fs c with
  | error f =>
    cases f with
    | numeral f => exact .inr (.inl ⟨_, .numeral hsettings⟩)
    | tooDeep => exact .inr (.inl ⟨_, .tooDeep hsettings⟩)
    | config f =>
      refine .inr (.inr ⟨_, [], .config f.message, ?_⟩)
      simp [document, settings_eq, hsettings]
    | file f =>
      cases hf : f.isSystem with
      | false => exact .inr (.inl ⟨_, .settings hsettings hf⟩)
      | true =>
        refine .inr (.inr ⟨_, [], .unreadable ("config: " ++ f.message), ?_⟩)
        simp [document, settings_eq, hsettings, hf, ← String.append_assoc]
  | ok l =>
    cases htext : (fs.readText (Path.ofText c.file)).run with
    | error f =>
      cases hf : f.isSystem with
      | false => exact .inr (.inl ⟨_, .text hsettings htext hf⟩)
      | true =>
        rcases document_of_settings hsettings r with ⟨ns, hns⟩
        let file := (Path.ofText c.file).text
        refine .inr (.inr ⟨_, ns ++ [.log (parsingLine file)],
          .unreadable (file ++ ": " ++ f.message), ?_⟩)
        rw [hns]
        simp [statements_eq, htext, hf, file, String.append_assoc]
    | ok text =>
      cases hparse : parseDocument text l.settings with
      | ok p => exact .inl ⟨p, l, text, hsettings, htext, hparse⟩
      | error e =>
        cases he : e.fault.isLimit with
        | true => exact .inr (.inl ⟨_, .limit hsettings htext hparse he⟩)
        | false =>
          rcases document_of_refused hsettings htext hparse r with ⟨ns, hns⟩
          refine .inr (.inr ⟨_, ns, .syntaxError (e.report (Path.ofText c.file).text text), ?_⟩)
          rw [hns, on_refusal he, Report.noting_noting]

def perform (host : Host) (c : Command) (p : Parsed) : Session Id Unit :=
  match c.task with
  | .parse => writeStatements host p c.asJson
  | .check name values => check host p c.asJson name values

theorem on_run (host : Host) (fs : FileSystem Id) (c : Command) (r : Report) :
    (run host fs c).on r = match (document host fs c).on r with
      | (.ok p, r) => (perform host c p).on r
      | (.error e, r) => (.error e, r) := by
  have hrun : run host fs c = document host fs c >>= perform host c := (bind_assoc _ _ _).symm
  rw [hrun, on_bind]
  cases (document host fs c).on r with
  | mk x r => cases x <;> rfl

theorem on_run_of_parses {p : Parsed} (h : Parses host fs c p) (r : Report) :
    ∃ ns, (run host fs c).on r = (perform host c p).on (r.noting ns) := by
  rcases document_of_parses h r with ⟨ns, hns⟩
  exact ⟨ns, by rw [on_run, hns]⟩

theorem on_run_of_breaks {x : Crash} (h : Breaks host fs c x) (r : Report) :
    ∃ ns, (run host fs c).on r = (.error (.crashed x), r.noting ns) := by
  rcases document_of_breaks h r with ⟨ns, hns⟩
  exact ⟨ns, by rw [on_run, hns]⟩

/-- A command performs its task, or a fault breaks it off, or it stops with a message. -/
theorem on_run_cases (host : Host) (fs : FileSystem Id) (c : Command) (r : Report) :
    (∃ p, Parses host fs c p) ∨ (∃ x, Breaks host fs c x) ∨
      ∃ m ns, IsComplaint m ∧
        (run host fs c).on r = (.error .failed, r.noting (ns ++ [.said host m])) := by
  rcases document_cases host fs c r with hparses | hbreaks | ⟨m, ns, hm, hns⟩
  · exact .inl hparses
  · exact .inr (.inl hbreaks)
  · exact .inr (.inr ⟨m, ns, hm, by rw [on_run, hns]⟩)

theorem report_eq (s : Session Id Unit) : s.report = Report.ended (s.on {}) := by
  change (match s.on {} with
    | (.ok _, r) => pure r
    | (.error .failed, r) => pure { r with exitCode := 1 }
    | (.error (.crashed c), r) => pure { r with exitCode := 1, crash := some c } : Id Report) = _
  unfold Report.ended
  split <;> rfl

end Session

variable {host : Host} {fs : FileSystem Id} {arguments : List String} {verbose : Bool} {c : Command}

/-- A command line that asks for a command on a file runs it, and its report is what the session
gives. -/
theorem run_eq_finished (h : host.request? arguments = some (.run verbose c))
    (hfile : (fs.isDirectory (Path.ofText c.file)).run ≠ .ok true) :
    run host fs arguments =
      Outcome.finished verbose (Report.ended ((Session.run host fs c).on {})) := by
  unfold run
  rw [h]
  dsimp only [bind]
  split
  · next hd => exact absurd hd hfile
  · rw [Session.report_eq]
    rfl

end YangSchema.CommandLine
