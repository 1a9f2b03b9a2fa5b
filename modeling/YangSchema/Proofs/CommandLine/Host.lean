import YangSchema.CommandLine.Plain
import YangSchema.Proofs.Console.Shown

/-!
# Hosts that can be relied on

What the commands take for granted of the libraries that write for them. Text without markup is
written as it is but for escape sequences. Text is markup only by its brackets, escaped text is
none, and a table is written if its texts can be shown. Records of texts and truth values can be
written as data. A console that is no terminal is such a host.
-/
namespace YangSchema.CommandLine

def Table.body (t : Table) : List String :=
  t.columns ++ t.rows.flatten

def IsRecord (fields : List (String × JsonValue)) : Prop :=
  ∀ f ∈ fields, (∃ s, f.2 = .string s) ∨ ∃ b, f.2 = .bool b

namespace Host

def Shows (host : Host) (s : String) : Prop :=
  ∃ t, host.shown s = .ok t

structure Lawful (host : Host) : Prop where
  echo_empty : host.echo "" = ""
  /-- What stands in front of the first escape character is written as it is. -/
  echo_append (s t : String) (h : '\x1b' ∉ s.toList) : host.echo (s ++ t) = s ++ host.echo t
  /-- A text without an opening bracket has no tags. -/
  shows_text (s : String) (h : '[' ∉ s.toList) : host.Shows s
  shows_escape (s : String) : host.Shows (host.escape s)
  shown_green : host.shown "[green]yes[/green]" = .ok "yes"
  shown_red : host.shown "[red]no[/red]" = .ok "no"
  table_iff (t : Table) :
    (∃ out, host.table t = .ok out) ↔ host.Shows t.title ∧ ∀ s ∈ t.body, host.Shows s
  /-- A title that cannot be shown is the fault of a table that has no other. -/
  table_error (t : Table) (f : String) (htitle : host.shown t.title = .error f)
    (hbody : ∀ s ∈ t.body, host.Shows s) : host.table t = .error f
  json (records : List (List (String × JsonValue))) (h : ∀ r ∈ records, IsRecord r) :
    ∃ out, host.json (.array (records.map .object)) = .ok out

variable {host : Host} {s : String}

theorem Lawful.echo_eq_self (hhost : host.Lawful) (hs : '\x1b' ∉ s.toList) : host.echo s = s := by
  have h := hhost.echo_append s "" hs
  rwa [String.append_empty, hhost.echo_empty, String.append_empty] at h

variable {width : Nat} {t : Table} {α : Type}

@[simp]
theorem ofMarkup_ok (a : α) : ofMarkup (.ok a) = .ok a :=
  rfl

@[simp]
theorem ofMarkup_error (f : Console.MarkupFault) :
    ofMarkup (.error f : Except Console.MarkupFault α) = .error f.message :=
  rfl

theorem shows_plain_iff : (plain width).Shows s ↔ Console.IsShown s := by
  unfold Shows Console.IsShown
  change (∃ t, ofMarkup ((Console.Markup.shown s.toList).map String.ofList) = .ok t) ↔ _
  cases Console.Markup.shown s.toList <;> simp [Except.map]

theorem shown_plain {text : String}
    (h : (Console.Markup.shown s.toList).toOption = some text.toList) :
    (plain width).shown s = .ok text := by
  rw [toOption_eq_some] at h
  change ofMarkup ((Console.Markup.shown s.toList).map String.ofList) = _
  rw [h]
  simp [Except.map]

theorem forall_body_iff : (∀ s ∈ t.body, (plain width).Shows s) ↔
    (∀ s ∈ t.columns, Console.IsShown s) ∧ ∀ cells ∈ t.rows, ∀ s ∈ cells, Console.IsShown s := by
  simp only [shows_plain_iff, Table.body, List.forall_mem_append, List.mem_flatten]
  apply and_congr_right'
  exact ⟨fun h cells hcells s hs => h s ⟨cells, hcells, hs⟩,
    fun h s ⟨cells, hcells, hs⟩ => h cells hcells s hs⟩

theorem table_plain (width : Nat) (t : Table) :
    (plain width).table t = ofMarkup ((Console.Table.lines width t).map joinLines) := rfl

theorem lawful_plain (width : Nat) : (plain width).Lawful where
  echo_empty := rfl
  echo_append _ t h := Console.withoutSequences_append h t
  shows_text _ h := shows_plain_iff.2 (Console.Markup.exists_shown_of_notMem h)
  shows_escape s := by
    rw [shows_plain_iff]
    change ∃ t, Console.Markup.shown (String.ofList (Console.Markup.escape s.toList)).toList = .ok t
    rw [String.toList_ofList]
    exact Console.Markup.exists_shown_escape s.toList
  shown_green := shown_plain (by decide +kernel)
  shown_red := shown_plain (by decide +kernel)
  table_iff t := by
    rw [shows_plain_iff, forall_body_iff, ← Console.Table.exists_lines_iff width, table_plain]
    cases Console.Table.lines width t <;> simp [Except.map]
  table_error t f htitle hbody := by
    rw [forall_body_iff] at hbody
    change ofMarkup ((Console.Markup.shown t.title.toList).map String.ofList) = .error f at htitle
    cases hshown : Console.Markup.shown t.title.toList with
    | ok text =>
      rw [hshown] at htitle
      cases htitle
    | error fault =>
      rw [hshown] at htitle
      rw [table_plain, Console.Table.lines_of_unshown hshown hbody.1 hbody.2]
      exact htitle
  json _ _ := ⟨_, rfl⟩

end Host
end YangSchema.CommandLine
