import YangSchema.Proofs.Lexer.Outcome
import YangSchema.Statement.Parser

/-!
# The grammar of statements

`statement := (identifier ':')? identifier (ws1 string)? ws (';' | '{' ws statement* '}') ws`, read
by one function for each symbol that calls itself for the statements of a block. An optional part
that does not match leaves the cursor where it was; an error inside of a part is final. There is no
stack and no arena here: the result is a tree of headers.
-/
namespace YangSchema

/-- A statement as the grammar sees it: its header and the statements of its block. -/
inductive SyntaxTree where
  | node (header : Header) (block : List SyntaxTree)

namespace Grammar

def optional {α : Type} (part : Scan (Option α)) : Scan (Option α) := fun c =>
  match part c with
  | .ok (some a) d => .ok (some a) d
  | .ok none _ => .ok none c
  | .error e d => .error e d

/-- `identifier ':'` -/
def qualifier (policy : IdentifierPolicy) : Scan (Option String) := do
  if ← Scan.atIdentifier policy then
    let name ← Scan.readIdentifier policy
    if (← Scan.current?) = some ':' then
      Scan.forward 1
      return some name
    else return none
  else return none

/-- `ws1 string` -/
def argument (settings : ParserSettings) : Scan (Option String) := do
  if ← Scan.skipSpace then Scan.readString? settings else return none

/-- `(identifier ':')? identifier (ws1 string)? ws` -/
def header (settings : ParserSettings) : Scan Header := do
  let position := (← get).position
  let qualifier ← optional (qualifier settings.identifierPolicy)
  let name ← Scan.readIdentifier settings.identifierPolicy
  let argument ← optional (argument settings)
  let _ ← Scan.skipSpace
  return { name, position, qualifier, argument }

theorem optional_argument (settings : ParserSettings) :
    optional (argument settings) = Scan.readArgument? settings := by
  funext c
  simp only [optional, argument, Scan.readArgument?, bind_apply]
  cases hs : Scan.skipSpace c with
  | error e d => rfl
  | ok taken d =>
    cases taken with
    | false =>
      obtain rfl := Scan.eq_of_skipSpace_false hs
      rfl
    | true =>
      simp only [if_true]
      rcases Scan.readString? settings d with ⟨_ | a, f⟩ | ⟨e, f⟩ <;> rfl

/-- Where no identifier can start, none is read. -/
theorem readIdentifier_of_not_mayStart {policy : IdentifierPolicy} {c : Cursor}
    (h : c.current?.any (Shape.mayStart policy) = false) :
    Scan.readIdentifier policy c = .error ⟨.identifierExpected c.current?, c.position⟩ c := by
  simp [Scan.readIdentifier, h]

theorem gap_of_mayStart {policy : IdentifierPolicy} {ch : Char} (r : List Char)
    (h : Shape.mayStart policy ch = true) : Shape.gap (ch :: r) = .none := by
  have hspace : Shape.isSpace ch = false := by
    refine Bool.eq_false_iff.2 fun hs => ?_
    simp only [Shape.isSpace, Bool.or_eq_true, decide_eq_true_eq] at hs
    obtain ((rfl | rfl) | rfl) | rfl := hs <;>
      cases policy <;> simp [Shape.mayStart, Shape.isIdentifierStart] at h
  have hslash : ch ≠ '/' := by
    rintro rfl
    cases policy <;> simp [Shape.mayStart, Shape.isIdentifierStart] at h
  simp [Shape.gap, hspace, hslash]

/-- A name after the part before a colon is what is read after the colon, if there is one. -/
theorem optional_qualifier_name (policy : IdentifierPolicy) :
    (do return (← optional (qualifier policy), ← Scan.readIdentifier policy)) =
      Scan.readKeyword policy := by
  funext c
  simp only [optional, qualifier, Scan.readKeyword, bind_apply, Scan.atIdentifier_apply,
    ite_apply, Scan.current?_apply, Scan.forward_apply, pure_apply]
  cases ha : c.current?.any (Shape.mayStart policy) with
  | false => simp [readIdentifier_of_not_mayStart ha]
  | true =>
    cases hr : Scan.readIdentifier policy c with
    | error e d => rfl
    | ok name d =>
      by_cases hc : d.current? = some ':'
      · simp [hc]
      · simp [hc, hr]

theorem header_eq_readHeader (settings : ParserSettings) :
    header settings = Scan.readHeader settings := by
  funext c
  have hk := congrFun (optional_qualifier_name settings.identifierPolicy) c
  simp only [bind_apply] at hk
  simp only [header, Scan.readHeader, optional_argument, bind_apply, get_apply]
  rw [← hk]
  cases optional (qualifier settings.identifierPolicy) c with
  | error e d => rfl
  | ok q d =>
    simp only
    cases Scan.readIdentifier settings.identifierPolicy d <;> rfl

theorem mayStart_of_readHeader {settings : ParserSettings} {c d : Cursor} {h : Header}
    (hh : Scan.readHeader settings c = .ok h d) :
    c.current?.any (Shape.mayStart settings.identifierPolicy) = true := by
  rw [← Bool.not_eq_false]
  intro hc
  simp [Scan.readHeader, Scan.readKeyword, readIdentifier_of_not_mayStart hc] at hh

/-- The character that is looked at first is looked at by the header again. -/
theorem readChild_eq_ok {settings : ParserSettings} {c d : Cursor} {keyword : String} {h : Header}
    {opens : Bool} :
    Scan.readChild settings keyword c = .ok (h, opens) d ↔
      ∃ e, Scan.readHeader settings c = .ok h e ∧
        Scan.readTerminator h.keyword e = .ok opens d := by
  unfold Scan.readChild
  simp only [bind_eq_ok, Scan.current?_eq_ok]
  constructor
  · rintro ⟨_, _, ⟨rfl, rfl⟩, hr⟩
    split at hr
    · simp only [bind_eq_ok, pure_eq_ok] at hr
      obtain ⟨_, e, hh, _, _, hm, hk, rfl⟩ := hr
      cases hk
      exact ⟨e, hh, hm⟩
    · exact absurd hr Scan.fail_ne_ok
  · rintro ⟨e, hh, hm⟩
    refine ⟨_, _, ⟨rfl, rfl⟩, ?_⟩
    rw [if_pos (mayStart_of_readHeader hh)]
    simp only [bind_eq_ok, pure_eq_ok]
    exact ⟨h, e, hh, opens, d, hm, rfl, rfl⟩

/-- The outcome of a reading from a cursor, which has gone forward if it succeeds. -/
structure Taken (c : Cursor) (α : Type) where
  outcome : EStateM.Result SyntaxError Cursor α
  forward : ∀ {a : α} {d : Cursor}, outcome = .ok a d → d.rest.length < c.rest.length

namespace Taken

variable {c : Cursor} {α β : Type}

def andThen (r : Taken c α)
    (next : α → (d : Cursor) → d.rest.length < c.rest.length → Taken d β) : Taken c β where
  outcome :=
    match h : r.outcome with
    | .ok a d => (next a d (r.forward h)).outcome
    | .error e d => .error e d
  forward h := by
    split at h
    · next hr => exact Nat.lt_trans ((next _ _ _).forward h) (r.forward hr)
    · simp at h

def map (f : α → β) (r : Taken c α) : Taken c β where
  outcome :=
    match r.outcome with
    | .ok a d => .ok (f a) d
    | .error e d => .error e d
  forward h := by
    split at h
    · next hr =>
      cases h
      exact r.forward hr
    · simp at h

def fail (fault : SyntaxFault) : Taken c α where
  outcome := .error ⟨fault, c.position⟩ c
  forward h := by simp at h

theorem andThen_of_ok {r : Taken c α} {a : α} {d : Cursor} (h : r.outcome = .ok a d)
    (next : α → (d : Cursor) → d.rest.length < c.rest.length → Taken d β) :
    (r.andThen next).outcome = (next a d (r.forward h)).outcome := by
  cases r
  cases h
  rfl

theorem andThen_of_error {r : Taken c α} {e : SyntaxError} {d : Cursor}
    (h : r.outcome = .error e d)
    (next : α → (d : Cursor) → d.rest.length < c.rest.length → Taken d β) :
    (r.andThen next).outcome = .error e d := by
  cases r
  cases h
  rfl

theorem map_of_ok {r : Taken c α} {a : α} {d : Cursor} (h : r.outcome = .ok a d) (f : α → β) :
    (r.map f).outcome = .ok (f a) d := by
  cases r
  cases h
  rfl

theorem map_of_error {r : Taken c α} {e : SyntaxError} {d : Cursor} (h : r.outcome = .error e d)
    (f : α → β) : (r.map f).outcome = .error e d := by
  cases r
  cases h
  rfl

end Taken

theorem exists_of_map_ok {α β : Type} {c d : Cursor} {r : Taken c α} {f : α → β} {b : β}
    (h : (r.map f).outcome = .ok b d) : ∃ a, r.outcome = .ok a d ∧ f a = b := by
  simp only [Taken.map] at h
  split at h
  · next hr =>
    cases h
    exact ⟨_, hr, rfl⟩
  · simp at h

theorem error_of_map_error {α β : Type} {c d : Cursor} {r : Taken c α} {f : α → β} {e : SyntaxError}
    (h : (r.map f).outcome = .error e d) : r.outcome = .error e d := by
  simp only [Taken.map] at h
  split at h
  · simp at h
  · next hr =>
    cases h
    exact hr

def leading (settings : ParserSettings) (c : Cursor) : Taken c Header where
  outcome := header settings c
  forward h := Scan.length_lt_of_readHeader (header_eq_readHeader settings ▸ h)

/-- One character and white space: what a punctuation mark takes. -/
def pass : Scan Unit := do
  Scan.forward 1
  let _ ← Scan.skipSpace

/-- A punctuation mark, which is at the cursor, and the white space behind it. -/
def mark (c : Cursor) (present : c.rest ≠ []) : Taken c Unit where
  outcome := pass c
  forward h := Scan.length_lt_of_closeBlock present h

mutual

/-- `header (';' | '{' ws statement* '}') ws` -/
def statement (settings : ParserSettings) (c : Cursor) : Taken c SyntaxTree :=
  (leading settings c).andThen fun h d _hd =>
    match _hr : d.rest with
    | ';' :: _ => (mark d (by simp [_hr])).map fun _ => .node h []
    | '\x7b' :: _ => (mark d (by simp [_hr])).andThen fun _ e _he =>
        (block settings h.keyword e).map (.node h)
    | _ => .fail (.terminatorExpected h.keyword d.current?)
termination_by (c.rest.length, 0)

/-- `statement* '}' ws`, in the block of a keyword. -/
def block (settings : ParserSettings) (keyword : String) (c : Cursor) :
    Taken c (List SyntaxTree) :=
  if c.current?.any (Shape.mayStart settings.identifierPolicy) then
    (statement settings c).andThen fun s d _hd =>
      (block settings keyword d).map (s :: ·)
  else
    match _hr : c.rest with
    | '\x7d' :: _ => (mark c (by simp [_hr])).map fun _ => []
    | _ => .fail (.statementExpected keyword c.current?)
termination_by (c.rest.length, 1)

end

section Cases

variable {settings : ParserSettings} {c d e : Cursor} {h : Header} {r : List Char}

theorem statement_of_header_error {fault : SyntaxError}
    (hh : header settings c = .error fault d) :
    (statement settings c).outcome = .error fault d := by
  rw [statement]
  exact Taken.andThen_of_error (r := leading settings c) hh _

theorem statement_of_semicolon (hh : header settings c = .ok h d) (hr : d.rest = ';' :: r) :
    (statement settings c).outcome = ((fun _ => SyntaxTree.node h []) <$> pass) d := by
  rw [statement, Taken.andThen_of_ok (r := leading settings c) hh]
  split
  · rw [map_apply]
    cases hp : pass d with
    | ok _ e => exact Taken.map_of_ok (r := mark d _) hp _
    | error fault e => exact Taken.map_of_error (r := mark d _) hp _
  · simp_all
  · simp_all

theorem statement_of_brace (hh : header settings c = .ok h d) (hr : d.rest = '\x7b' :: r) :
    (statement settings c).outcome =
      match pass d with
      | .ok _ e => ((block settings h.keyword e).map (SyntaxTree.node h)).outcome
      | .error fault e => .error fault e := by
  rw [statement, Taken.andThen_of_ok (r := leading settings c) hh]
  split
  · simp_all
  · split
    · next hp => exact Taken.andThen_of_ok (r := mark d _) hp _
    · next hp => exact Taken.andThen_of_error (r := mark d _) hp _
  · simp_all

theorem statement_of_no_mark (hh : header settings c = .ok h d) (hs : d.current? ≠ some ';')
    (hb : d.current? ≠ some '\x7b') :
    (statement settings c).outcome =
      .error ⟨.terminatorExpected h.keyword d.current?, d.position⟩ d := by
  rw [statement, Taken.andThen_of_ok (r := leading settings c) hh]
  split
  · simp_all [Cursor.current?]
  · simp_all [Cursor.current?]
  · rfl

variable {keyword : String}

theorem block_of_statement
    (hc : c.current?.any (Shape.mayStart settings.identifierPolicy) = true) :
    (block settings keyword c).outcome =
      match (statement settings c).outcome with
      | .ok s d => ((block settings keyword d).map (s :: ·)).outcome
      | .error fault d => .error fault d := by
  rw [block, if_pos hc]
  split
  · next hs => exact Taken.andThen_of_ok hs _
  · next hs => exact Taken.andThen_of_error hs _

theorem block_of_brace (hc : c.current?.any (Shape.mayStart settings.identifierPolicy) = false)
    (hr : c.rest = '\x7d' :: r) :
    (block settings keyword c).outcome = ((fun _ => []) <$> pass) c := by
  rw [block, if_neg (by simp [hc])]
  split
  · rw [map_apply]
    cases hp : pass c with
    | ok _ e => exact Taken.map_of_ok (r := mark c _) hp _
    | error fault e => exact Taken.map_of_error (r := mark c _) hp _
  · simp_all

theorem block_of_neither (hc : c.current?.any (Shape.mayStart settings.identifierPolicy) = false)
    (hb : c.current? ≠ some '\x7d') :
    (block settings keyword c).outcome =
      .error ⟨.statementExpected keyword c.current?, c.position⟩ c := by
  rw [block, if_neg (by simp [hc])]
  split
  · simp_all [Cursor.current?]
  · rfl

end Cases

end Grammar
end YangSchema
