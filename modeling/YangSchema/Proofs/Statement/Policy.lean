import YangSchema.Proofs.Statement.Readable
import YangSchema.Proofs.Statement.Remainder

/-!
# Policies for identifiers

A policy is asked about the identifiers of a text, and about nothing else in it. So a text that was
read under one policy is read in the same way under every other that allows its identifiers, and the
legacy policy allows less than the other one: no identifier that it allows begins with "xml".
-/
namespace YangSchema

namespace Scan

def legacyForbidden : List Char :=
  ['X', 'x', 'M', 'm', 'L', 'l']

variable {name : List Char} {ch : Char}

theorem mayStart_legacy_iff :
    Shape.mayStart .legacy ch = true ↔
      Shape.mayStart .yang ch = true ∧ ch ∉ legacyForbidden := by
  simp [Shape.mayStart, legacyForbidden]

theorem eq_or_eq_of_toLower_eq (h : ch.toLower = 'x') : ch = 'x' ∨ ch = 'X' := by
  unfold Char.toLower at h
  split at h
  · have hval := congrArg Char.val h
    refine .inr (Char.ext ?_)
    simp only at hval ⊢
    grind
  · exact .inl h

theorem isReserved_of_not_forbidden (h : ∀ ch ∈ name.head?, ch ∉ legacyForbidden) :
    Shape.isReserved .yang name = false := by
  rw [Shape.isReserved, decide_eq_false_iff_not]
  intro hxml
  cases name with
  | nil => simp at hxml
  | cons ch r =>
    rw [List.take_succ_cons, List.map_cons, List.cons.injEq] at hxml
    refine h ch rfl ?_
    obtain rfl | rfl := eq_or_eq_of_toLower_eq hxml.1 <;> decide

/-- The names of the legacy policy are those of the other one that begin with another letter. -/
theorem isName_legacy_iff :
    IsName .legacy name ↔ IsName .yang name ∧ ∀ ch ∈ name.head?, ch ∉ legacyForbidden := by
  constructor
  · intro h
    have hstart : ∀ ch ∈ name.head?,
        Shape.mayStart .yang ch = true ∧ ch ∉ legacyForbidden := fun ch hch =>
      mayStart_legacy_iff.1 (by simpa [Option.mem_def.1 hch] using h.start)
    have hforbidden := fun ch hch => (hstart ch hch).2
    refine ⟨⟨?_, h.chars, isReserved_of_not_forbidden hforbidden⟩, hforbidden⟩
    cases name with
    | nil => exact absurd h.start (by simp)
    | cons ch r => exact (hstart ch rfl).1
  · rintro ⟨h, hforbidden⟩
    refine ⟨?_, h.chars, rfl⟩
    cases name with
    | nil => exact absurd h.start (by simp)
    | cons ch r => exact mayStart_legacy_iff.2 ⟨h.start, hforbidden ch rfl⟩

variable {settings : ParserSettings} {P Q policy : IdentifierPolicy} {tabWidth : Int} {c d : Cursor}

theorem readIdentifier_of_isName {name : String} (h : readIdentifier P c = .ok name d)
    (hname : IsName Q name.toList) : readIdentifier Q c = .ok name d := by
  have hpast := past_of_readIdentifier h
  have hread := readIdentifier_name hpast.rest hname (endsName_of_readIdentifier h)
  rwa [String.ofList_toList, ← hpast.stop] at hread

def identifiers (qualifier : Option String) (name : String) : List String :=
  qualifier.toList ++ [name]

def Permitted (policy : IdentifierPolicy) (qualifier : Option String) (name : String) : Prop :=
  ∀ word ∈ identifiers qualifier name, IsName policy word.toList

theorem permitted_iff {qualifier : Option String} {name : String} :
    Permitted policy qualifier name ↔
      (∀ q, qualifier = some q → IsName policy q.toList) ∧ IsName policy name.toList := by
  simp [Permitted, identifiers, or_imp, forall_and]

theorem readKeyword_of_permitted {qualifier : Option String} {name : String}
    (h : readKeyword P c = .ok (qualifier, name) d) (hpermitted : Permitted Q qualifier name) :
    readKeyword Q c = .ok (qualifier, name) d := by
  obtain ⟨hqualifier, hname⟩ := permitted_iff.1 hpermitted
  unfold readKeyword at h ⊢
  simp only [bind_eq_ok, current?_eq_ok] at h
  obtain ⟨first, e, hfirst, _, _, ⟨rfl, rfl⟩, h⟩ := h
  by_cases hcolon : e.current? = some ':'
  · rw [if_pos hcolon] at h
    simp only [bind_eq_ok, forward_eq_ok, pure_eq_ok] at h
    obtain ⟨_, _, rfl, second, _, hsecond, hk, rfl⟩ := h
    cases hk
    have hfirst' := readIdentifier_of_isName hfirst (hqualifier first rfl)
    have hsecond' := readIdentifier_of_isName hsecond hname
    simp [hfirst', hcolon, hsecond']
  · rw [if_neg hcolon, pure_eq_ok] at h
    obtain ⟨hk, rfl⟩ := h
    cases hk
    simp [readIdentifier_of_isName hfirst hname, hcolon]

theorem readHeader_of_permitted {header : Header} (h : readHeader ⟨P, tabWidth⟩ c = .ok header d)
    (hpermitted : Permitted Q header.qualifier header.name) :
    readHeader ⟨Q, tabWidth⟩ c = .ok header d := by
  have hargument : readArgument? ⟨Q, tabWidth⟩ = readArgument? ⟨P, tabWidth⟩ := rfl
  unfold readHeader at h ⊢
  simp only [bind_eq_ok, get_eq_ok, pure_eq_ok] at h
  obtain ⟨_, _, ⟨rfl, rfl⟩, ⟨q, name⟩, _, hkeyword, a, _, ha, b, _, hskip, rfl, rfl⟩ := h
  simp [hargument, readKeyword_of_permitted hkeyword hpermitted, ha, hskip]

theorem readChild_of_permitted {block : String} {header : Header} {opens : Bool}
    (h : readChild ⟨P, tabWidth⟩ block c = .ok (header, opens) d)
    (hpermitted : Permitted Q header.qualifier header.name) :
    readChild ⟨Q, tabWidth⟩ block c = .ok (header, opens) d := by
  obtain ⟨e, hheader, hmark⟩ := Grammar.readChild_eq_ok.1 h
  exact Grammar.readChild_eq_ok.2 ⟨e, readHeader_of_permitted hheader hpermitted, hmark⟩

end Scan

namespace StatementTree
open Scan

variable {t : StatementTree} {policy : IdentifierPolicy}

def Permitted (policy : IdentifierPolicy) (t : StatementTree) : Prop :=
  ∀ ⦃id s⦄, t.get? id = some s → Scan.Permitted policy s.qualifier s.name

theorem permitted_modify (id : StatementId) {f : Statement → Statement}
    (hf : ∀ s, (f s).qualifier = s.qualifier ∧ (f s).name = s.name) :
    (t.modify id f).Permitted policy ↔ t.Permitted policy := by
  refine forall_congr' fun i => ?_
  rw [get?_modify]
  split
  · cases t.get? i <;> simp [hf]
  · rfl

theorem permitted_add (name : String) (position : Position) (qualifier argument : Option String) :
    (t.add name position qualifier argument).Permitted policy ↔
      t.Permitted policy ∧ Scan.Permitted policy qualifier name := by
  constructor
  · intro h
    exact ⟨fun id s hs => h (get?_add_of_get? hs ..), h (get?_add_size ..)⟩
  · rintro ⟨h, hnew⟩ id s hs
    rw [get?_add] at hs
    split at hs
    · cases hs
      exact hnew
    · exact h hs

theorem permitted_addBelow (parent : StatementId) (name : String) (position : Position)
    (qualifier argument : Option String) :
    (t.addBelow parent name position qualifier argument).Permitted policy ↔
      t.Permitted policy ∧ Scan.Permitted policy qualifier name := by
  refine (permitted_modify t.size (f := fun s => { s with parent := some parent }) ?_).trans <|
    (permitted_modify parent ?_).trans (permitted_add name position qualifier argument)
  · exact fun _ => ⟨rfl, rfl⟩
  · exact fun _ => ⟨rfl, rfl⟩

end StatementTree

namespace Scan

variable {settings : ParserSettings} {P Q policy : IdentifierPolicy} {tabWidth : Int} {c d : Cursor}
  {tree tree' : StatementTree} {blocks : List OpenBlock}

theorem permitted_of_readHeader {header : Header} (h : readHeader settings c = .ok header d) :
    Permitted settings.identifierPolicy header.qualifier header.name := by
  have hr := Grammar.readable_of_header ((congrFun (Grammar.header_eq_readHeader _) c).trans h)
  exact permitted_iff.2 ⟨hr.qualifier, hr.name⟩

theorem permitted_of_readChild {block : String} {header : Header} {opens : Bool}
    (h : readChild settings block c = .ok (header, opens) d) :
    Permitted settings.identifierPolicy header.qualifier header.name := by
  obtain ⟨_, hheader, -⟩ := Grammar.readChild_eq_ok.1 h
  exact permitted_of_readHeader hheader

/-- What was in the tree when the reading of blocks began is still there when it ends. -/
theorem permitted_of_readBlocks (h : readBlocks settings tree blocks c = .ok tree' d)
    (ht : tree'.Permitted policy) : tree.Permitted policy := by
  fun_induction readBlocks settings tree blocks c with
  | case1 =>
    cases h
    exact ht
  | case2 => cases h
  | case3 tree c block outer _ u d hclose ih => exact ih h
  | case4 => cases h
  | case5 tree c block outer _ header opens d hchild =>
    rename_i ih
    exact ((StatementTree.permitted_addBelow ..).1 (ih h)).1

theorem permitted_readBlocks (h : readBlocks settings tree blocks c = .ok tree' d)
    (ht : tree.Permitted settings.identifierPolicy) :
    tree'.Permitted settings.identifierPolicy := by
  fun_induction readBlocks settings tree blocks c with
  | case1 =>
    cases h
    exact ht
  | case2 => cases h
  | case3 tree c block outer _ u d hclose ih => exact ih h ht
  | case4 => cases h
  | case5 tree c block outer _ header opens d hchild child grown ih =>
    exact ih h ((StatementTree.permitted_addBelow ..).2 ⟨ht, permitted_of_readChild hchild⟩)

/-- Every statement that is read on the way is in the tree at the end, so the other policy allows it
already where it is read. -/
theorem readBlocks_of_permitted (h : readBlocks ⟨P, tabWidth⟩ tree blocks c = .ok tree' d)
    (ht : tree'.Permitted Q) : readBlocks ⟨Q, tabWidth⟩ tree blocks c = .ok tree' d := by
  fun_induction readBlocks ⟨P, tabWidth⟩ tree blocks c with
  | case1 =>
    rw [readBlocks]
    exact h
  | case2 => cases h
  | case3 tree c block outer hbrace u d hclose ih =>
    have hpass : Grammar.pass c = .ok () d := hclose
    rw [readBlocks_of_brace hbrace, hpass]
    exact ih h
  | case4 => cases h
  | case5 tree c block outer hbrace header opens d hchild child grown ih =>
    have hpermitted := ((StatementTree.permitted_addBelow ..).1 (permitted_of_readBlocks h ht)).2
    rw [readBlocks_of_child hbrace (readChild_of_permitted hchild hpermitted)]
    exact ih h

theorem permitted_rootOnly_iff {header : Header} :
    (SyntaxTree.rootOnly header).Permitted policy ↔
      Permitted policy header.qualifier header.name := by
  have hempty : ({} : StatementTree).Permitted policy := by
    intro id s hs
    simp [StatementTree.get?] at hs
  exact (StatementTree.permitted_add (t := {}) ..).trans (and_iff_right hempty)

theorem permitted_readStatement (h : readStatement settings c = .ok tree d) :
    tree.Permitted settings.identifierPolicy := by
  obtain ⟨header, e, hheader, h⟩ := bind_eq_ok.1 h
  obtain ⟨opens, f, hmark, hblocks⟩ := bind_eq_ok.1 h
  exact permitted_readBlocks hblocks (permitted_rootOnly_iff.2 (permitted_of_readHeader hheader))

theorem readStatement_of_permitted (h : readStatement ⟨P, tabWidth⟩ c = .ok tree d)
    (ht : tree.Permitted Q) : readStatement ⟨Q, tabWidth⟩ c = .ok tree d := by
  obtain ⟨header, e, hheader, h⟩ := bind_eq_ok.1 h
  obtain ⟨opens, f, hmark, hblocks⟩ := bind_eq_ok.1 h
  have hpermitted := permitted_rootOnly_iff.1 (permitted_of_readBlocks hblocks ht)
  exact bind_eq_ok.2 ⟨header, e, readHeader_of_permitted hheader hpermitted,
    bind_eq_ok.2 ⟨opens, f, hmark, readBlocks_of_permitted hblocks ht⟩⟩

end Scan

variable {text : String} {settings : ParserSettings} {P Q : IdentifierPolicy} {tabWidth : Int}
  {p : Parsed}

theorem permitted_of_parseStatement (h : parseStatement text settings = .ok p) :
    p.tree.Permitted settings.identifierPolicy := by
  obtain ⟨_, _, -, hread⟩ := parseStatement_eq_ok.1 h
  exact Scan.permitted_readStatement hread

theorem parseStatement_of_permitted (h : parseStatement text ⟨P, tabWidth⟩ = .ok p)
    (hp : p.tree.Permitted Q) : parseStatement text ⟨Q, tabWidth⟩ = .ok p := by
  obtain ⟨b, c, hskip, hread⟩ := parseStatement_eq_ok.1 h
  exact parseStatement_eq_ok.2 ⟨b, c, hskip, Scan.readStatement_of_permitted hread hp⟩

/-- Where two policies both allow the identifiers of a document, they read it in the same way. -/
theorem parseDocument_of_permitted (h : parseDocument text ⟨P, tabWidth⟩ = .ok p)
    (hp : p.tree.Permitted Q) : parseDocument text ⟨Q, tabWidth⟩ = .ok p := by
  obtain ⟨h, hend⟩ := parseDocument_eq_ok.1 h
  exact parseDocument_eq_ok.2 ⟨parseStatement_of_permitted h hp, hend⟩

/-- The legacy policy accepts a text exactly if the other policy does and no identifier of it begins
with one of six letters. The statements with all that is said of them, and the end of the reading,
are then the same. -/
theorem parseDocument_legacy_iff (text : String) (tabWidth : Int) (p : Parsed) :
    parseDocument text ⟨.legacy, tabWidth⟩ = .ok p ↔
      parseDocument text ⟨.yang, tabWidth⟩ = .ok p ∧
        ∀ id s, p.tree.get? id = some s → ∀ word ∈ Scan.identifiers s.qualifier s.name,
          ∀ ch ∈ word.toList.head?, ch ∉ Scan.legacyForbidden := by
  constructor
  · intro h
    have hlegacy := permitted_of_parseStatement (parseDocument_eq_ok.1 h).1
    have hyang : p.tree.Permitted .yang := fun id s hs word hword =>
      (Scan.isName_legacy_iff.1 (hlegacy hs word hword)).1
    refine ⟨parseDocument_of_permitted h hyang, fun id s hs word hword => ?_⟩
    exact (Scan.isName_legacy_iff.1 (hlegacy hs word hword)).2
  · rintro ⟨h, hletters⟩
    have hyang := permitted_of_parseStatement (parseDocument_eq_ok.1 h).1
    have hlegacy : p.tree.Permitted .legacy := fun id s hs word hword =>
      Scan.isName_legacy_iff.2 ⟨hyang hs word hword, hletters id s hs word hword⟩
    exact parseDocument_of_permitted h hlegacy

/-- There are texts that only one of the two policies accepts. -/
example : (parseDocument "max 1;" ⟨.yang, 8⟩).isOk = true ∧
    (parseDocument "max 1;" ⟨.legacy, 8⟩).isOk = false := by
  decide +kernel

end YangSchema
