import YangSchema.Proofs.Typedef.Resolution
import YangSchema.Statement.Parser

/-!
# What is declared is built

If a typedef is built and nothing is reported, then nothing that it declares was left out: each of
its restrictions, with what is noted on it, and each of its properties is found in the type.
-/
namespace YangSchema

/-- The value that a property has of an argument: the text, or the status of that name. -/
inductive Property.Holds : Property → String → Value → Prop
  | text {p : Property} (hp : p ≠ .status) (text : String) : Holds p text (.string text)
  | status (x : Status) : Holds .status x.name (.status x)

theorem Property.holds_of_value? {p : Property} {text : String} {v : Value}
    (h : p.value? text = some v) : p.Holds text v := by
  cases p with
  | status =>
    obtain ⟨x, hx, rfl⟩ := Option.map_eq_some_iff.1 h
    obtain rfl : x.name = text := by simpa using List.find?_some hx
    exact .status x
  | _ =>
    cases h
    exact .text (by simp) text

namespace StatementTree

variable {tree : StatementTree} {allowed : List Allowed} {s : Statement} {keyword : String}

/-- The children without a qualifier have one of some keywords, and those with one that may stand
`once` do not stand twice. -/
structure Obeys (tree : StatementTree) (once many : List String) (s : Statement) : Prop where
  known : ∀ c ∈ tree.childStatements s, c.qualifier = none → c.name ∈ once ++ many
  once : ∀ keyword ∈ once, (tree.childrenNamed s keyword).length ≤ 1

theorem obeys_of_below {once many : List String}
    (hallowed : ∀ a ∈ allowed, a.keyword ∈ once ++ many)
    (honce : ∀ k ∈ once, allowed.find? (·.keyword = k) = some ⟨k, false⟩)
    (h : (Build.below tree allowed s).errors = []) : tree.Obeys once many s := by
  obtain ⟨hknown, hsingle⟩ := Substatements.complete_of h
  constructor
  · intro c hc hq
    obtain ⟨a, ha⟩ := Option.isSome_iff_exists.1 (hknown c hc hq)
    have hname : a.keyword = c.name := by simpa using List.find?_some ha
    exact hname ▸ hallowed a (List.mem_of_find?_eq_some ha)
  · intro k hk
    exact hsingle k _ (honce k hk) rfl

/-- All children with an allowed keyword are kept, if nothing is reported. -/
theorem named_below {a : Allowed} (h : (Build.below tree allowed s).errors = [])
    (ha : allowed.find? (·.keyword = keyword) = some a) :
    (Build.below tree allowed s).named keyword = tree.childrenNamed s keyword :=
  Substatements.named_eq_row h ha

theorem name_of_mem {c : Statement} (h : c ∈ tree.childrenNamed s keyword) : c.name = keyword :=
  (Substatements.mem_row.1 h).2.1

end StatementTree

namespace Build

variable {α β : Type} {tree : StatementTree} {s t q : Statement} {base id : TypeId}
  {b d b' : TypeBuilder} {allowed : List Allowed} {keyword : String}

/-! ### Steps without a report -/

theorem argument_quiet {a? : Option String} (h : argument s b = .ok a? b) :
    ∃ a, s.argument = some a ∧ a? = some a := by
  rw [argument_apply] at h
  cases ha : s.argument with
  | none =>
    simp [ha] at h
  | some a =>
    rw [ha] at h
    cases h
    exact ⟨a, rfl, rfl⟩

theorem argumentNamed_quiet {found : Substatements} {text? : Option String}
    (h : argumentNamed found keyword b = .ok text? b) : text? = found.text? keyword ∧
      ∀ d, (found.named keyword).head? = some d → ∃ text, d.argument = some text := by
  unfold argumentNamed at h
  unfold Substatements.text?
  cases hfound : found.named keyword with
  | nil =>
    rw [hfound] at h
    cases h
    exact ⟨rfl, by simp⟩
  | cons d row =>
    rw [hfound] at h
    obtain ⟨text, hd, rfl⟩ := argument_quiet h
    refine ⟨hd.symm, ?_⟩
    rintro _ ⟨⟩
    exact ⟨text, hd⟩

/-- A keyword that may stand once stands once or not at all, and says what its first child says. -/
theorem writes_text? {a : Allowed} (hbelow : (below tree allowed s).errors = [])
    (ha : allowed.find? (·.keyword = keyword) = some a) (hmany : a.many = false)
    (h : ∀ d, ((below tree allowed s).named keyword).head? = some d →
      ∃ text, d.argument = some text) :
    tree.Writes s keyword ((below tree allowed s).text? keyword) := by
  have honce : (tree.childrenNamed s keyword).length ≤ 1 :=
    (Substatements.complete_of hbelow).2 keyword a ha hmany
  unfold StatementTree.Writes Substatements.text?
  rw [StatementTree.named_below hbelow ha] at h ⊢
  match tree.childrenNamed s keyword, honce, h with
  | [], _, _ => rfl
  | [d], _, h =>
    obtain ⟨text, hd⟩ := h d rfl
    simp [hd]

theorem writes_of_argumentNamed {a : Allowed} {text? : Option String}
    (hbelow : (below tree allowed s).errors = [])
    (ha : allowed.find? (·.keyword = keyword) = some a) (hmany : a.many = false)
    (h : argumentNamed (below tree allowed s) keyword b = .ok text? b) :
    tree.Writes s keyword text? := by
  obtain ⟨rfl, hargument⟩ := argumentNamed_quiet h
  exact writes_text? hbelow ha hmany hargument

/-! ### Restrictions -/

inductive Imposes (store : TypeStore) (base : TypeId) (q : Statement) (text : String) :
    Condition → Prop
  | range {lower upper : Binary64} {parts : List (Interval Binary64)} (hname : q.name = "range")
    (hlimits : store.numericLimits? base = some (lower, upper))
    (h : Argument.range text lower upper (store.isInteger base) = .ok parts) :
    Imposes store base q text (.range parts)
  | length {parts : List (Interval Int)} (hname : q.name = "length")
    (hroot : store.rootName base = "string" ∨ store.rootName base = "binary")
    (h : Argument.length text = .ok parts) : Imposes store base q text (.length parts)
  | pattern {p : PatternText} (hname : q.name = "pattern")
    (hroot : store.rootName base = "string") (h : p.text = text) :
    Imposes store base q text (.pattern p)

/-- The notes have all that is written below a restricting statement. -/
structure Annotates (tree : StatementTree) (q : Statement) (n : Notes) : Prop where
  obeys : tree.Obeys ["error-message", "error-app-tag", "description", "reference"] [] q
  errorMessage : tree.Writes q "error-message" n.errorMessage
  errorAppTag : tree.Writes q "error-app-tag" n.errorAppTag
  description : tree.Writes q "description" n.description
  reference : tree.Writes q "reference" n.reference
  origin : n.origin = some q.origin

structure Restricts (tree : StatementTree) (store : TypeStore) (base : TypeId) (q : Statement)
    (r : Restriction) : Prop where
  condition : ∃ text, q.argument = some text ∧ Imposes store base q text r.condition
  notes : Annotates tree q r.notes

theorem annotates_of_notes {n : Notes} (h : notes tree q b = .ok n b) : Annotates tree q n := by
  obtain ⟨_, _, hfound, h⟩ := bind_eq_ok.1 h
  rw [substatements_apply] at hfound
  cases hfound
  obtain ⟨errorMessage, b₁, h₁, h⟩ := bind_eq_ok.1 h
  obtain ⟨errorAppTag, b₂, h₂, h⟩ := bind_eq_ok.1 h
  obtain ⟨description, b₃, h₃, h⟩ := bind_eq_ok.1 h
  obtain ⟨reference, b₄, h₄, h⟩ := bind_eq_ok.1 h
  obtain ⟨es₁, rfl, -⟩ := reports_argumentNamed _ _ _ _ h₁
  obtain ⟨es₂, rfl, -⟩ := reports_argumentNamed _ _ _ _ h₂
  obtain ⟨es₃, rfl, -⟩ := reports_argumentNamed _ _ _ _ h₃
  obtain ⟨es₄, rfl, -⟩ := reports_argumentNamed _ _ _ _ h₄
  injection h with hn hb
  simp only [TypeBuilder.reporting_reporting, TypeBuilder.reporting_eq_self,
    List.append_eq_nil_iff, List.append_assoc] at hb
  obtain ⟨hbelow, rfl, rfl, rfl, rfl⟩ := hb
  simp only [hbelow, TypeBuilder.reporting_nil] at h₁ h₂ h₃ h₄
  subst hn
  exact {
    obeys := StatementTree.obeys_of_below (by decide) (by decide) hbelow
    errorMessage := writes_of_argumentNamed hbelow rfl rfl h₁
    errorAppTag := writes_of_argumentNamed hbelow rfl rfl h₂
    description := writes_of_argumentNamed hbelow rfl rfl h₃
    reference := writes_of_argumentNamed hbelow rfl rfl h₄
    origin := rfl }

/-- What comes last: the notes are read, and the condition is built. -/
theorem finish_quiet {c : Except RestrictionFault Condition} {r? : Option Restriction}
    (h : (do restrictionOf q (← notes tree q) c : Build _) b = .ok r? b) :
    ∃ condition n, c = .ok condition ∧ r? = some ⟨condition, n⟩ ∧ Annotates tree q n := by
  obtain ⟨n, hn, h⟩ :=
    (reports_notes tree q).quiet (fun n => reports_restrictionOf tree q n c) h
  cases c with
  | error f =>
    rw [restrictionOf_error] at h
    split at h
    · cases h
    · simp at h
  | ok condition =>
    cases h
    exact ⟨condition, n, rfl, rfl, annotates_of_notes hn⟩

/-- A restriction that is built without a report is the one that is asked for. -/
theorem restricts_of_range {text : String} {r? : Option Restriction} (hname : q.name = "range")
    (ha : q.argument = some text) (h : range tree q base text b = .ok r? b) :
    ∃ r, r? = some r ∧ Restricts tree b.store base q r := by
  unfold range at h
  simp only [bind_apply, get_apply] at h
  cases hlimits : b.store.numericLimits? base with
  | none => simp [hlimits] at h
  | some l =>
    obtain ⟨lower, upper⟩ := l
    simp only [hlimits, bind_apply] at h
    cases hread : Argument.range text lower upper (b.store.isInteger base) with
    | error e => rcases e with f | f <;> simp [hread] at h
    | ok parts =>
      simp only [hread, read_ok] at h
      obtain ⟨condition, n, hc, rfl, hn⟩ := finish_quiet h
      unfold Condition.ofRanges at hc
      split at hc
      · cases hc
      · cases hc
        exact ⟨_, rfl, ⟨text, ha, .range hname hlimits hread⟩, hn⟩

theorem restricts_of_length {text : String} {r? : Option Restriction} (hname : q.name = "length")
    (ha : q.argument = some text) (h : length tree q base text b = .ok r? b) :
    ∃ r, r? = some r ∧ Restricts tree b.store base q r := by
  unfold length at h
  simp only [bind_apply, get_apply, ite_apply] at h
  split at h
  · next hroot =>
    cases hread : Argument.length text with
    | error e => rcases e with f | f <;> simp [hread] at h
    | ok parts =>
      simp only [bind_apply, hread, read_ok] at h
      obtain ⟨condition, n, hc, rfl, hn⟩ := finish_quiet h
      have hcondition : condition = .length parts := by
        unfold Condition.ofLengths at hc
        split at hc
        · cases hc
        · split at hc
          · cases hc
          · exact (Except.ok.inj hc).symm
      subst hcondition
      exact ⟨_, rfl, ⟨text, ha, .length hname (by simpa using hroot) hread⟩, hn⟩
  · simp at h

theorem restricts_of_pattern {text : String} {r? : Option Restriction} (hname : q.name = "pattern")
    (ha : q.argument = some text) (h : pattern tree q base text b = .ok r? b) :
    ∃ r, r? = some r ∧ Restricts tree b.store base q r := by
  unfold pattern at h
  simp only [bind_apply, get_apply, ite_apply] at h
  split at h
  · next hroot =>
    obtain ⟨condition, n, hc, rfl, hn⟩ := finish_quiet h
    unfold Condition.ofPattern at hc
    split at hc
    · next p hp =>
      cases hc
      exact ⟨_, rfl, ⟨text, ha, .pattern hname hroot (PatternText.text_eq_of_ok hp)⟩, hn⟩
    · cases hc
  · simp at h

theorem restricts_of_restriction {r? : Option Restriction}
    (hname : q.name ∈ ["range", "length", "pattern"])
    (h : restriction tree base q b = .ok r? b) :
    ∃ r, r? = some r ∧ Restricts tree b.store base q r := by
  unfold restriction at h
  rw [bind_apply, argument_apply] at h
  cases ha : q.argument with
  | none => simp [ha] at h
  | some text =>
    simp only [ha, ite_apply] at h
    split at h
    · next hrange => exact restricts_of_range hrange ha h
    next hrange =>
    split at h
    · next hlength => exact restricts_of_length hlength ha h
    next hlength =>
    split at h
    · next hpattern => exact restricts_of_pattern hpattern ha h
    next hpattern =>
    simp [hrange, hlength, hpattern] at hname

/-- Every statement of the row has its restriction. -/
theorem restricts_of_restrictions {row : List Statement} {rs : List Restriction}
    (hrow : ∀ q ∈ row, q.name ∈ ["range", "length", "pattern"])
    (h : restrictions tree base row b = .ok rs b) :
    List.Forall₂ (Restricts tree b.store base) row rs := by
  induction row generalizing rs with
  | nil =>
    cases h
    exact .nil
  | cons q row ih =>
    obtain ⟨hq, hrow⟩ := List.forall_mem_cons.1 hrow
    have hrest := reports_restrictions tree base row
    obtain ⟨first, hfirst, h⟩ := (reports_restriction tree base q).quiet
      (fun _ => reports_bind hrest fun _ _ _ _ => reports_pure _) h
    obtain ⟨others, d, hothers, h⟩ := bind_eq_ok.1 h
    cases h
    obtain ⟨r, rfl, hr⟩ := restricts_of_restriction hq hfirst
    exact .cons hr (ih hrow hothers)

/-! ### Types -/

/-- A type statement names a base, which has the fraction digits that are asked for. The
restrictions are those below the statement: ranges, then lengths, then patterns. -/
structure Describes (tree : StatementTree) (t : Statement) (b : TypeBuilder) (store : TypeStore)
    (base : TypeId) (rs : List Restriction) : Prop where
  obeys : tree.Obeys ["range", "length", "fraction-digits"] ["pattern"] t
  named : ∃ text b₁, t.argument = some text ∧ baseOf t text b = .ok (some base) b₁
  digits : ∀ d ∈ tree.childrenNamed t "fraction-digits", ∃ text digits,
    d.argument = some text ∧ Argument.fractionDigits text = .ok digits ∧
      (store.get base).nature = .decimal64 (some ⟨digits⟩)
  restrictions : List.Forall₂ (Restricts tree store base)
    (tree.childrenNamed t "range" ++ tree.childrenNamed t "length" ++
      tree.childrenNamed t "pattern") rs

/-- A number of fraction digits that is given without a report is that of the base. -/
theorem digits_of_fractionDigits (hbelow : (below tree Allowed.inType t).errors = [])
    (h : fractionDigits t (below tree Allowed.inType t) base b = .ok (some ()) b')
    (he : b'.errors = b.errors) {d : Statement}
    (hd : d ∈ tree.childrenNamed t "fraction-digits") :
    ∃ text digits, d.argument = some text ∧ Argument.fractionDigits text = .ok digits ∧
      (b'.store.get base).nature = .decimal64 (some ⟨digits⟩) := by
  have hnamed : (below tree Allowed.inType t).named "fraction-digits" =
      tree.childrenNamed t "fraction-digits" :=
    StatementTree.named_below hbelow rfl
  have honce : (tree.childrenNamed t "fraction-digits").length ≤ 1 :=
    (Substatements.complete_of hbelow).2 _ ⟨"fraction-digits", false⟩ rfl rfl
  have hread := readied_of_fractionDigits h
  match hrow : tree.childrenNamed t "fraction-digits", honce with
  | [], _ =>
    rw [hrow] at hd
    cases hd
  | [first], _ =>
    rw [hrow] at hd hnamed
    obtain rfl := List.mem_singleton.1 hd
    cases hread with
    | ready hready =>
      rw [hnamed] at he
      simp [TypeBuilder.reporting] at he
    | configured hbare hfirst ha hdigits =>
      rw [hnamed] at hfirst
      cases hfirst
      exact ⟨_, _, ha, hdigits, TypeStore.nature_withDigits hbare _⟩

/-- A type statement that is resolved without a report is resolved in full. -/
theorem describes_of_resolve {rs : List Restriction}
    (h : resolve tree t b = .ok (some (base, rs)) b') (he : b'.errors = b.errors) :
    Describes tree t b b'.store base rs := by
  cases resolves_of_resolve h with
  | @resolved text _ _ b₁ b₂ _ ha hbase hdigits hrs =>
  have h₁ := (appends_baseOf tree t text).isPrefix hbase
  have h₂ := errors_prefix_reporting b₁ (below tree Allowed.inType t).errors
  have h₃ := (appends_fractionDigits tree t base).isPrefix hdigits
  obtain ⟨es, rfl, -⟩ := reports_restrictions tree base _ b₂ rs b' hrs
  obtain ⟨he₂, he⟩ := errors_eq_of_isPrefix (h₁.trans h₂)
    (h₃.trans (errors_prefix_reporting b₂ es)) he
  obtain ⟨-, hbelow⟩ := errors_eq_of_isPrefix h₁ h₂ he₂
  obtain ⟨hequal, he⟩ := errors_eq_of_isPrefix h₃ (errors_prefix_reporting b₂ es) he
  have hbelow : (below tree Allowed.inType t).errors = [] := List.append_right_eq_self.1 hbelow
  obtain rfl : es = [] := List.append_right_eq_self.1 he
  rw [TypeBuilder.reporting_nil] at hrs ⊢
  have hnamed {keyword : String} {a : Allowed}
      (ha : Allowed.inType.find? (·.keyword = keyword) = some a) :=
    StatementTree.named_below hbelow ha
  refine ⟨StatementTree.obeys_of_below (by decide) (by decide) hbelow, ⟨text, b₁, ha, hbase⟩,
    ?_, ?_⟩
  · intro d hmem
    exact digits_of_fractionDigits hbelow hdigits hequal hmem
  · unfold restricting at hrs
    rw [hnamed rfl, hnamed rfl, hnamed rfl] at hrs
    refine restricts_of_restrictions (fun q hq => ?_) hrs
    rcases List.mem_append.1 hq with hq | hq
    · rcases List.mem_append.1 hq with hq | hq
      · simp [StatementTree.name_of_mem hq]
      · simp [StatementTree.name_of_mem hq]
    · simp [StatementTree.name_of_mem hq]

/-! ### Properties -/

/-- The first statement of a property has an argument that the property can take. -/
def Tellable (found : Substatements) (p : Property) : Prop :=
  ∀ d, (found.named p.name).head? = some d →
    ∃ text v, d.argument = some text ∧ p.value? text = some v

theorem tellable_of_textProperty {p : Property} (hp : p ≠ .status)
    (h : textProperty id (below tree allowed s) p b = .ok () b') (he : b'.errors = b.errors) :
    Tellable (below tree allowed s) p := by
  obtain ⟨text?, d, hargument, h⟩ := bind_eq_ok.1 h
  obtain ⟨es, rfl, -⟩ := reports_argumentNamed _ _ _ _ hargument
  have hes : b'.errors = b.errors ++ es := by
    cases text? with
    | none =>
      cases h
      rfl
    | some text =>
      cases h
      rfl
  obtain rfl : es = [] := List.append_right_eq_self.1 (hes.symm.trans he)
  rw [TypeBuilder.reporting_nil] at hargument
  intro d hd
  obtain ⟨text, ha⟩ := (argumentNamed_quiet hargument).2 d hd
  refine ⟨text, .string text, ha, ?_⟩
  cases p with
  | status => exact absurd rfl hp
  | _ => rfl

theorem tellable_of_statusProperty {found : Substatements}
    (h : statusProperty id found b = .ok () b') (he : b'.errors = b.errors) :
    Tellable found .status := by
  intro d hd
  obtain ⟨row, hrow⟩ : ∃ row, found.named "status" = d :: row :=
    List.head?_eq_some_iff.1 hd
  unfold statusProperty at h
  rw [hrow] at h
  dsimp only at h
  rw [bind_apply, argument_apply] at h
  cases ha : d.argument with
  | none =>
    rw [ha] at h
    cases h
    simp [TypeBuilder.reporting] at he
  | some text =>
    simp only [ha, bind_apply, Argument.status] at h
    cases hstatus : Status.named? text with
    | none =>
      rw [hstatus] at h
      cases h
      simp at he
    | some v => exact ⟨text, .status v, rfl, by rw [Property.value?, hstatus]; rfl⟩

theorem tellable_of_properties (h : properties id (below tree Allowed.inTypedef s) b = .ok () b')
    (he : b'.errors = b.errors) (p : Property) : Tellable (below tree Allowed.inTypedef s) p := by
  obtain ⟨_, b₁, h₁, h⟩ := bind_eq_ok.1 h
  obtain ⟨_, b₂, h₂, h⟩ := bind_eq_ok.1 h
  obtain ⟨_, b₃, h₃, h⟩ := bind_eq_ok.1 h
  obtain ⟨_, b₄, h₄, h₅⟩ := bind_eq_ok.1 h
  have hle₁ := (appends_textProperty tree s id _).isPrefix h₁
  have hle₂ := (appends_textProperty tree s id _).isPrefix h₂
  have hle₃ := (appends_textProperty tree s id _).isPrefix h₃
  have hle₄ := (appends_textProperty tree s id _).isPrefix h₄
  have hle₅ := (appends_statusProperty tree s id).isPrefix h₅
  obtain ⟨he₁, he⟩ := errors_eq_of_isPrefix hle₁ (hle₂.trans (hle₃.trans (hle₄.trans hle₅))) he
  obtain ⟨he₂, he⟩ := errors_eq_of_isPrefix hle₂ (hle₃.trans (hle₄.trans hle₅)) he
  obtain ⟨he₃, he⟩ := errors_eq_of_isPrefix hle₃ (hle₄.trans hle₅) he
  obtain ⟨he₄, he₅⟩ := errors_eq_of_isPrefix hle₄ hle₅ he
  cases p with
  | default => exact tellable_of_textProperty (by simp) h₁ he₁
  | description => exact tellable_of_textProperty (by simp) h₂ he₂
  | reference => exact tellable_of_textProperty (by simp) h₃ he₃
  | units => exact tellable_of_textProperty (by simp) h₄ he₄
  | status => exact tellable_of_statusProperty h₅ he₅

/-- A property that can be told has a value if its statement is there, and no value otherwise. -/
theorem Tellable.rel {found : Substatements} {p : Property} (h : Tellable found p) :
    Option.Rel p.Holds (found.text? p.name) (found.value? p) := by
  unfold Substatements.value? Substatements.text?
  cases hd : (found.named p.name).head? with
  | none => exact .none
  | some d =>
    obtain ⟨text, v, ha, hv⟩ := h d hd
    rw [Option.bind_some, ha, Option.bind_some, hv]
    exact .some (Property.holds_of_value? hv)

theorem Tellable.writes {p : Property} {a : Allowed} (h : Tellable (below tree allowed s) p)
    (hbelow : (below tree allowed s).errors = [])
    (ha : allowed.find? (·.keyword = p.name) = some a) (hmany : a.many = false) :
    tree.Writes s p.name ((below tree allowed s).text? p.name) := by
  refine writes_text? hbelow ha hmany fun d hd => ?_
  obtain ⟨text, -, hd, -⟩ := h d hd
  exact ⟨text, hd⟩

/-! ### Typedefs -/

/-- A type has all that its typedef declares: its name, its base with the restrictions on it, and
each of its properties, which it has by itself if and only if there is a statement for it. -/
structure Declares (tree : StatementTree) (s : Statement) (b : TypeBuilder) (n : TypeNode) :
    Prop where
  obeys :
    tree.Obeys ["type", "default", "description", "reference", "status", "units"] [] s
  name : ∃ text, s.argument = some text ∧ n.name = b.scope.qualify text
  type : ∃ t base b', tree.childrenNamed s "type" = [t] ∧ n.base = some base ∧
    resolve tree t b = .ok (some (base, n.restrictions)) b' ∧
      Describes tree t b b'.store base n.restrictions
  property : ∀ p : Property, ∃ text?, tree.Writes s p.name text? ∧
    Option.Rel p.Holds text? (n.override? p)
  origin : n.origin = some s.origin

/-- A typedef that is built without a report has all that it declares. -/
theorem declares_of_addTypedef {i : StatementId}
    (h : addTypedef tree i b = .ok (some id) b') (he : b'.errors = b.errors) :
    ∃ s n, tree.get i = .ok s ∧ b'.store.get? id = some n ∧ Declares tree s b n := by
  obtain ⟨s, hs, hdefines⟩ := defines_of_addTypedef h
  cases hdefines with
  | @defined name t row base rs b₁ b₂ b₃ log ha hname hfree ht hresolve hproperties hdefault =>
  have hproperty (p : Property) :
      Allowed.inTypedef.find? (·.keyword = p.name) = some ⟨p.name, false⟩ := by
    cases p <;> decide
  obtain ⟨n, hl, hn, hset⟩ := leaves_of_properties rfl hproperties
  obtain ⟨es, rfl, -⟩ := reports_checkDefault _ _ _ _ _ hdefault
  have hle₁ := errors_prefix_reporting b (below tree Allowed.inTypedef s).errors
  have hle₂ := (appends_resolve tree t).isPrefix hresolve
  have hle₃ := (appends_properties tree s _).isPrefix hproperties
  have hle₄ := errors_prefix_reporting b₂ es
  obtain ⟨hbelow, he⟩ := errors_eq_of_isPrefix hle₁ (hle₂.trans (hle₃.trans hle₄)) he
  obtain ⟨he₂, he⟩ := errors_eq_of_isPrefix hle₂ (hle₃.trans hle₄) he
  obtain ⟨he₃, -⟩ := errors_eq_of_isPrefix hle₃ hle₄ he
  have hbelow : (below tree Allowed.inTypedef s).errors = [] := List.append_right_eq_self.1 hbelow
  have hobeys : tree.Obeys ["type", "default", "description", "reference", "status", "units"] []
      s := StatementTree.obeys_of_below (by decide) (by decide) hbelow
  have hdescribes := describes_of_resolve hresolve he₂
  rw [hbelow, TypeBuilder.reporting_nil] at hresolve hdescribes
  have htype : tree.childrenNamed s "type" = [t] := by
    rw [StatementTree.named_below hbelow rfl] at ht
    have honce := hobeys.once "type" (by decide)
    rw [ht] at honce ⊢
    rw [List.eq_nil_of_length_eq_zero (Nat.le_zero.1 (Nat.le_of_succ_le_succ honce))]
  have hrs : n.restrictions = rs := by rw [hn]
  refine ⟨s, n, hs, hl.adds.node, ?_⟩
  exact {
    obeys := hobeys
    name := ⟨name, ha, by rw [hn]⟩
    type := ⟨t, base, b₁, htype, by rw [hn], hrs ▸ hresolve, hrs ▸ hdescribes⟩
    property p := by
      have htell := tellable_of_properties hproperties he₃ p
      refine ⟨_, htell.writes hbelow (hproperty p) rfl, ?_⟩
      rw [hset p]
      exact htell.rel
    origin := by rw [hn] }

/-- A typedef with a range that is annotated, and with a status. -/
theorem declares_of_annotated :
    ∃ p id b', parseDocument ("typedef t \x7b type int8 \x7b range 1..5 " ++
        "\x7b error-message no; \x7d \x7d default 3; status deprecated; \x7d") {} = .ok p ∧
      addTypedef p.tree 0 { scope := { namespaceOf := ⟨some "m", some "n"⟩ } } =
        .ok (some id) b' ∧ b'.errors = [] ∧ ∃ s n, p.tree.get 0 = .ok s ∧
          b'.store.get? id = some n ∧
            Declares p.tree s { scope := { namespaceOf := ⟨some "m", some "n"⟩ } } n := by
  have hbuilt : ((parseDocument ("typedef t \x7b type int8 \x7b range 1..5 " ++
      "\x7b error-message no; \x7d \x7d default 3; status deprecated; \x7d") {}).toOption.any
        fun p => match addTypedef p.tree 0
          { scope := { namespaceOf := ⟨some "m", some "n"⟩ } } with
        | .ok (some _) b' => b'.errors.isEmpty
        | .ok none _ => false
        | .error _ _ => false) = true := by
    decide +kernel
  obtain ⟨p, hp, hbuilt⟩ := Option.any_eq_true _ _ |>.1 hbuilt
  split at hbuilt
  · next id b' hadd =>
    have he : b'.errors = [] := by simpa using hbuilt
    exact ⟨p, id, b', toOption_eq_some.1 hp, hadd, he, declares_of_addTypedef hadd he⟩
  · cases hbuilt
  · cases hbuilt

end Build
end YangSchema
