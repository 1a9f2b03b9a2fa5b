import YangSchema.Proofs.Statement.DocumentOrder

/-!
# Trees are grown by calls

The tree of a text can be grown by the calls that trees offer. A statement is added when its header
was read, and is appended to the statement whose block is open before it is seen how it ends. Each
call checks what it is asked, and none of them is ever refused, whether the text is accepted in the
end or not. So the tree that is grown is the one that is read.
-/
namespace YangSchema

namespace StatementTree

variable {t : StatementTree} {p : Statement} {parent : StatementId}

/-- A statement that was just added is not above any other one. -/
theorem Wired.insertable_add (h : t.Wired) (hp : t.get? parent = some p) (name : String)
    (position : Position) (qualifier argument : Option String) :
    ∃ s, (t.add name position qualifier argument).insertable p t.size = .ok s := by
  have hadd := h.add name position qualifier argument
  have hnew := t.get?_add_size name position qualifier argument
  have hold := get?_add_of_get? hp name position qualifier argument
  obtain rfl := h.numbered hp
  refine ⟨_, (hadd.insertable_iff hold hnew).2 ⟨rfl, fun hbelow => ?_⟩⟩
  obtain ⟨k, hup⟩ := (hadd.mem_below hnew).1 hbelow
  rw [links_add] at hup
  exact absurd (h.climb_lt (lt_size_of_get? hp) hup) (Nat.lt_irrefl _)

theorem Wired.appendChild_add (h : t.Wired) (hp : t.get? parent = some p) (name : String)
    (position : Position) (qualifier argument : Option String) :
    (t.add name position qualifier argument).appendChild parent t.size =
      if Index.isWord p.children.length then
        .ok (t.addBelow parent name position qualifier argument)
      else .error .indexTooLarge := by
  obtain ⟨s, hs⟩ := h.insertable_add hp name position qualifier argument
  have hold := get?_add_of_get? hp name position qualifier argument
  rw [addBelow_eq hp]
  simp only [StatementTree.appendChild, StatementTree.insertChild, get_eq_ok.2 hold, hs, bind,
    Except.bind, insertPlace_natCast (Nat.le_refl _), List.insertIdx_length_self]
  split <;> rfl

theorem Wired.length_children_le (h : t.Wired) (hp : t.get? parent = some p) :
    p.children.length ≤ t.size := by
  have hnodup := h.sound.nodup parent
  have hlt : ∀ i ∈ t.links.children parent, i < t.size := fun i hi =>
    lt_size_of_parent ((h.sound.parent_iff i parent).2 hi)
  rw [links_children hp] at hnodup hlt
  have hrow := hnodup.subperm fun i hi => List.mem_range.2 (hlt i hi)
  simpa using hrow.length_le

/-- Appending what was just added is refused only of a tree that is too large for indices. -/
theorem Wired.appendChild_add_cases (h : t.Wired) (hp : parent < t.size) (name : String)
    (position : Position) (qualifier argument : Option String) :
    (t.add name position qualifier argument).appendChild parent t.size =
        .ok (t.addBelow parent name position qualifier argument) ∨
      (t.add name position qualifier argument).appendChild parent t.size = .error .indexTooLarge ∧
        Nat.pow 2 63 ≤ t.size := by
  obtain ⟨p, hget⟩ : ∃ p, t.get? parent = some p := ⟨_, Array.getElem?_eq_getElem hp⟩
  rw [h.appendChild_add hget]
  split
  · exact .inl rfl
  · next hword =>
    rw [isWord_natCast, Nat.not_lt] at hword
    exact .inr ⟨rfl, hword.trans (h.length_children_le hget)⟩

end StatementTree

/-- Why growing ends early: the text is refused, or a call on the tree is. -/
inductive GrowthFault where
  | text (e : SyntaxError)
  | call (f : TreeFault)
  deriving Repr, DecidableEq

abbrev Growth := EStateM GrowthFault Parsed

namespace Growth
open Scan

variable {α : Type}

def reading (m : Scan α) : Growth α := fun p =>
  match m p.stop with
  | .ok a d => .ok a { p with stop := d }
  | .error e d => .error (.text e) { p with stop := d }

def calling (f : StatementTree → Except TreeFault StatementTree) : Growth Unit := fun p =>
  match f p.tree with
  | .ok t => .ok () { p with tree := t }
  | .error e => .error (.call e) p

def header (settings : ParserSettings) : Growth OpenBlock := do
  let h ← reading (readHeader settings)
  let id := (← get).tree.size
  calling fun t => .ok (t.add h.name h.position h.qualifier h.argument)
  return ⟨id, h.keyword⟩

/-- A statement of an open block; `true` if it opens a block of its own. -/
def child (settings : ParserSettings) (block : OpenBlock) : Growth (OpenBlock × Bool) := do
  let found := (← get).stop.current?
  if found.any (Shape.mayStart settings.identifierPolicy) then
    let child ← header settings
    calling (·.appendChild block.id child.id)
    return (child, ← reading (readTerminator child.keyword))
  else reading (fail (.statementExpected block.keyword found))

variable {settings : ParserSettings} {block : OpenBlock} {p q : Parsed}

theorem reading_eq_ok {m : Scan α} {a : α} :
    reading m p = .ok a q ↔ m p.stop = .ok a q.stop ∧ q.tree = p.tree := by
  cases q
  unfold reading
  cases m p.stop <;> simp [and_assoc, and_comm, eq_comm]

theorem calling_eq_ok {f : StatementTree → Except TreeFault StatementTree} {u : Unit} :
    calling f p = .ok u q ↔ f p.tree = .ok q.tree ∧ q.stop = p.stop := by
  cases q
  unfold calling
  cases f p.tree <;> simp [eq_comm]

theorem length_lt_of_header {child : OpenBlock} (h : header settings p = .ok child q) :
    q.stop.rest.length < p.stop.rest.length := by
  unfold header at h
  simp only [bind_eq_ok, get_eq_ok, reading_eq_ok, calling_eq_ok, pure_eq_ok] at h
  obtain ⟨_, _, ⟨hread, -⟩, _, _, ⟨rfl, rfl⟩, _, _, ⟨-, hstop⟩, -, rfl⟩ := h
  exact hstop ▸ length_lt_of_readHeader hread

theorem length_lt_of_child {r : OpenBlock × Bool} (h : child settings block p = .ok r q) :
    q.stop.rest.length < p.stop.rest.length := by
  unfold child at h
  simp only [bind_eq_ok, get_eq_ok] at h
  obtain ⟨_, _, ⟨rfl, rfl⟩, h⟩ := h
  split at h
  · simp only [bind_eq_ok, reading_eq_ok, calling_eq_ok, pure_eq_ok] at h
    obtain ⟨_, _, hheader, _, _, ⟨-, hstop⟩, _, _, ⟨hmark, -⟩, -, rfl⟩ := h
    have hle := (suffix_of_readTerminator hmark).length_le
    rw [hstop] at hle
    exact Nat.lt_of_le_of_lt hle (length_lt_of_header hheader)
  · exact absurd (reading_eq_ok.1 h).1 fail_ne_ok

/-- Goes on until the open blocks, the innermost first, are closed. -/
def blocks (settings : ParserSettings) (row : List OpenBlock) (p : Parsed) :
    EStateM.Result GrowthFault Parsed Unit :=
  match row with
  | [] => .ok () p
  | block :: outer =>
    if _hc : p.stop.current? = some '\x7d' then
      match _h : reading closeBlock p with
      | .error e q => .error e q
      | .ok _ q => blocks settings outer q
    else
      match _h : child settings block p with
      | .error e q => .error e q
      | .ok (child, opens) q =>
        blocks settings (if opens then child :: block :: outer else block :: outer) q
termination_by p.stop.rest.length
decreasing_by
  · refine length_lt_of_closeBlock ?_ (reading_eq_ok.1 _h).1
    rintro hr
    simp [Cursor.current?, hr] at _hc
  · exact length_lt_of_child _h

def document (settings : ParserSettings) : Growth Unit := do
  let _ ← reading skipSpace
  let root ← header settings
  let opens ← reading (readTerminator root.keyword)
  blocks settings (if opens then [root] else [])
  calling fun t => .ok (t.setRoot (some root.id))

variable {t : StatementTree} {c : Cursor} {outer : List OpenBlock}

theorem blocks_of_brace (hc : p.stop.current? = some '\x7d') :
    blocks settings (block :: outer) p =
      (reading closeBlock >>= fun _ => blocks settings outer) p := by
  rw [blocks, dif_pos hc]
  refine Eq.trans ?_ (bind_apply (reading closeBlock) _ p).symm
  split <;> simp_all

theorem blocks_of_child (hc : p.stop.current? ≠ some '\x7d') :
    blocks settings (block :: outer) p =
      (child settings block >>= fun r =>
        blocks settings (if r.2 then r.1 :: block :: outer else block :: outer)) p := by
  rw [blocks, dif_neg hc]
  refine Eq.trans ?_ (bind_apply (child settings block) _ p).symm
  split <;> simp_all

theorem readBlocks_eq_of_brace (hc : c.current? = some '\x7d') :
    readBlocks settings t (block :: outer) c =
      (closeBlock >>= fun _ => readBlocks settings t outer) c := by
  rw [readBlocks, dif_pos hc]
  refine Eq.trans ?_ (bind_apply closeBlock _ c).symm
  split <;> simp_all

theorem readBlocks_eq_of_child (hc : c.current? ≠ some '\x7d') :
    readBlocks settings t (block :: outer) c =
      (readChild settings block.keyword >>= fun r =>
        readBlocks settings
          (t.addBelow block.id r.1.name r.1.position r.1.qualifier r.1.argument)
          (if r.2 then ⟨t.size, r.1.keyword⟩ :: block :: outer else block :: outer)) c := by
  rw [readBlocks, dif_neg hc]
  refine Eq.trans ?_ (bind_apply (readChild settings block.keyword) _ c).symm
  split <;> simp_all

/-- Growing ends as reading does, with results that fit or where the text is refused. There is one
other end, and only if a count is no index. -/
inductive Agrees {α β : Type} (count : Nat) (fit : α → Parsed → β → Cursor → Prop) :
    EStateM.Result GrowthFault Parsed α → EStateM.Result SyntaxError Cursor β → Prop
  | done {a : α} {p : Parsed} {b : β} {d : Cursor} (h : fit a p b d) :
      Agrees count fit (.ok a p) (.ok b d)
  | refused {e : SyntaxError} {p : Parsed} {d : Cursor} :
      Agrees count fit (.error (.text e) p) (.error e d)
  | tooLarge {p : Parsed} {r : EStateM.Result SyntaxError Cursor β} (h : Nat.pow 2 63 ≤ count) :
      Agrees count fit (.error (.call .indexTooLarge) p) r

section Agrees

variable {β γ δ : Type} {count : Nat} {fit : α → Parsed → β → Cursor → Prop}
  {fit' : γ → Parsed → δ → Cursor → Prop}

theorem Agrees.bind {m : Growth α} {f : α → Growth γ} {m' : Scan β} {f' : β → Scan δ}
    (h : Agrees count fit (m p) (m' c))
    (hf : ∀ a q b d, m' c = .ok b d → fit a q b d → Agrees count fit' (f a q) (f' b d)) :
    Agrees count fit' ((m >>= f) p) ((m' >>= f') c) := by
  rw [bind_apply, bind_apply]
  generalize m p = r at h
  generalize m' c = r' at h hf
  cases h with
  | done h => exact hf _ _ _ _ rfl h
  | refused => exact .refused
  | tooLarge h => exact .tooLarge h

/-- What is done to the tree at the end does not have to be read. -/
theorem Agrees.andThen {m : Growth α} {f : α → Growth γ} {fit' : γ → Parsed → β → Cursor → Prop}
    {r' : EStateM.Result SyntaxError Cursor β} (h : Agrees count fit (m p) r')
    (hf : ∀ a q b d, fit a q b d → ∃ g q', f a q = .ok g q' ∧ fit' g q' b d) :
    Agrees count fit' ((m >>= f) p) r' := by
  rw [bind_apply]
  generalize m p = r at h
  cases h with
  | done h =>
    obtain ⟨g, q', hg, h'⟩ := hf _ _ _ _ h
    simp only [hg]
    exact .done h'
  | refused => exact .refused
  | tooLarge h => exact .tooLarge h

theorem agrees_reading (count : Nat) (m : Scan α) (t : StatementTree) (c : Cursor) :
    Agrees count (fun a q b d => a = b ∧ q = ⟨t, d⟩) (reading m ⟨t, c⟩) (m c) := by
  unfold reading
  simp only
  cases m c with
  | ok a d => exact .done ⟨rfl, rfl⟩
  | error e d => exact .refused

theorem agrees_header (count : Nat) (settings : ParserSettings) (t : StatementTree) (c : Cursor) :
    Agrees count (fun child q h d => child = ⟨t.size, h.keyword⟩ ∧
        q = ⟨t.add h.name h.position h.qualifier h.argument, d⟩)
      (header settings ⟨t, c⟩) (readHeader settings c) :=
  (agrees_reading count (readHeader settings) t c).andThen fun a q h d hfit => by
    obtain ⟨rfl, rfl⟩ := hfit
    exact ⟨_, _, rfl, rfl, rfl⟩

/-- A statement that is grown below an open block is the one that is read. -/
theorem agrees_child (settings : ParserSettings) (c : Cursor) (h : t.Wired) (hb : block.id < t.size)
    (hcount : t.size ≤ count) :
    Agrees count (fun r q r' d => r = (⟨t.size, r'.1.keyword⟩, r'.2) ∧
        q = ⟨t.addBelow block.id r'.1.name r'.1.position r'.1.qualifier r'.1.argument, d⟩)
      (child settings block ⟨t, c⟩) (readChild settings block.keyword c) := by
  unfold child readChild
  rw [bind_apply, get_apply, bind_apply, current?_apply]
  simp only [ite_apply]
  split
  · refine (agrees_header count settings t c).bind fun a q hd d _ hfit => ?_
    obtain ⟨rfl, rfl⟩ := hfit
    rw [bind_apply]
    unfold calling
    obtain happend | ⟨happend, hlarge⟩ :=
      h.appendChild_add_cases hb hd.name hd.position hd.qualifier hd.argument
    · simp only [happend]
      refine (agrees_reading count (readTerminator hd.keyword) _ d).bind ?_
      rintro a q b e - ⟨rfl, rfl⟩
      exact .done ⟨rfl, rfl⟩
    · simp only [happend]
      exact .tooLarge (hlarge.trans hcount)
  · exact .refused

/-- The root is set in the end, and has no part in what is grown before. -/
theorem agrees_blocks {row : List OpenBlock} {t : StatementTree} {c : Cursor} (root : Option Int)
    (h : t.Wired) (hrow : ∀ b ∈ row, b.id < t.size) (hcount : t.size + c.rest.length ≤ count) :
    Agrees count (fun _ q t' d => t' = q.tree.setRoot root ∧ q.stop = d)
      (blocks settings row ⟨t, c⟩) (readBlocks settings (t.setRoot root) row c) := by
  cases row with
  | nil =>
    rw [blocks, readBlocks]
    exact .done ⟨rfl, rfl⟩
  | cons block outer =>
    obtain ⟨hblock, houter⟩ := List.forall_mem_cons.1 hrow
    by_cases hc : c.current? = some '\x7d'
    · rw [blocks_of_brace hc, readBlocks_eq_of_brace hc]
      refine (agrees_reading count closeBlock t c).bind fun _ _ _ d hclose hfit => ?_
      obtain ⟨rfl, rfl⟩ := hfit
      have hlt : d.rest.length < c.rest.length := by
        refine length_lt_of_closeBlock ?_ hclose
        rintro hr
        simp [Cursor.current?, hr] at hc
      exact agrees_blocks root h houter (by omega)
    · rw [blocks_of_child hc, readBlocks_eq_of_child hc]
      refine (agrees_child settings c h hblock (by omega)).bind fun _ _ r d hchild hfit => ?_
      obtain ⟨rfl, rfl⟩ := hfit
      have hlt := length_lt_of_readChild hchild
      have hsize := t.size_addBelow block.id r.1.name r.1.position r.1.qualifier r.1.argument
      refine agrees_blocks root (h.addBelow hblock ..) ?_ (by omega)
      rw [hsize]
      have hold : ∀ b ∈ block :: outer, b.id < t.size + 1 := fun b hb =>
        Nat.lt_succ_of_lt (hrow b hb)
      split
      · exact List.forall_mem_cons.2 ⟨Nat.lt_succ_self _, hold⟩
      · exact hold
termination_by c.rest.length

theorem agrees_document (settings : ParserSettings) (c : Cursor) :
    Agrees c.rest.length (fun _ q t d => q = ⟨t, d⟩) (document settings ⟨{}, c⟩)
      ((skipSpace >>= fun _ => readStatement settings) c) := by
  refine (agrees_reading _ skipSpace {} c).bind fun _ _ _ d hskip hfit => ?_
  obtain ⟨rfl, rfl⟩ := hfit
  refine (agrees_header _ settings {} d).bind fun _ _ hd e hheader hfit => ?_
  obtain ⟨rfl, rfl⟩ := hfit
  refine (agrees_reading _ (readTerminator hd.keyword) _ e).bind fun opens _ _ f hmark hfit => ?_
  obtain ⟨rfl, rfl⟩ := hfit
  have hspace := (suffix_of_skipSpace hskip).length_le
  have hlt := length_lt_of_readHeader hheader
  have hend := (suffix_of_readTerminator hmark).length_le
  have hroot := (StatementTree.wired_empty none).add hd.name hd.position hd.qualifier hd.argument
  refine (agrees_blocks (some 0) hroot ?_ ?_).andThen ?_
  · split <;> simp [StatementTree.size_add]
  · rw [StatementTree.size_add]
    simp only [StatementTree.size, List.size_toArray, List.length_nil]
    omega
  · rintro _ q t g ⟨rfl, rfl⟩
    exact ⟨(), _, rfl, rfl⟩

end Agrees

end Growth

def grow (text : String) (settings : ParserSettings) : Except GrowthFault Parsed :=
  match Growth.document settings ⟨{}, .ofText text⟩ with
  | .ok _ p => .ok p
  | .error e _ => .error e

/-- No call is refused while the tree of a text is grown, and the tree or the error is what reading
gives; only of more statements than there are indices can none be appended. A tree that was read has
a root with the number 0, the walk from it has every number once and in order, with the places going
up, and every other statement is below one with a smaller number. -/
theorem parsed_in_document_order (text : String) (settings : ParserSettings) :
    (grow text settings = (parseStatement text settings).mapError .text ∨
        grow text settings = .error (.call .indexTooLarge) ∧ Nat.pow 2 63 ≤ text.toList.length) ∧
      ∀ p, parseStatement text settings = .ok p → p.tree.InDocumentOrder := by
  refine ⟨?_, fun p => inDocumentOrder_of_parseStatement⟩
  have hagrees := Growth.agrees_document settings (.ofText text)
  rw [grow, parseStatement]
  generalize Growth.document settings ⟨{}, .ofText text⟩ = grown at hagrees ⊢
  generalize (Scan.skipSpace >>= fun _ => Scan.readStatement settings) (.ofText text) = read
    at hagrees ⊢
  cases hagrees with
  | done h =>
    subst h
    exact .inl rfl
  | refused => exact .inl rfl
  | tooLarge h => exact .inr ⟨rfl, h⟩

/-- A block within a block, on lines of their own, and the same without the last brace. -/
theorem parsed_in_document_order_of_blocks :
    (∃ p, parseStatement "m \x7b\n a \x7b b; \x7d\n c;\n\x7d" {} = .ok p ∧
        grow "m \x7b\n a \x7b b; \x7d\n c;\n\x7d" {} = .ok p ∧
        p.tree.positions = [⟨1, 1⟩, ⟨2, 2⟩, ⟨2, 6⟩, ⟨3, 2⟩] ∧ p.tree.InDocumentOrder) ∧
      ∃ e, parseStatement "m \x7b\n a \x7b b; \x7d\n c;\n" {} = .error e ∧
        grow "m \x7b\n a \x7b b; \x7d\n c;\n" {} = .error (.text e) := by
  constructor
  · obtain ⟨hgrow, horder⟩ := parsed_in_document_order "m \x7b\n a \x7b b; \x7d\n c;\n\x7d" {}
    have hpositions : (parseStatement "m \x7b\n a \x7b b; \x7d\n c;\n\x7d" {}).toOption.map
        (·.tree.positions) = some [⟨1, 1⟩, ⟨2, 2⟩, ⟨2, 6⟩, ⟨3, 2⟩] := by
      decide +kernel
    obtain ⟨p, hp, hpositions⟩ := Option.map_eq_some_iff.1 hpositions
    rw [toOption_eq_some] at hp
    obtain hgrow | ⟨-, hlarge⟩ := hgrow
    · exact ⟨p, hp, by rw [hgrow, hp]; rfl, hpositions, horder p hp⟩
    · exact absurd hlarge (by decide +kernel)
  · obtain ⟨hgrow, -⟩ := parsed_in_document_order "m \x7b\n a \x7b b; \x7d\n c;\n" {}
    have hrefused : (parseStatement "m \x7b\n a \x7b b; \x7d\n c;\n" {}).toOption = none := by
      decide +kernel
    cases hparse : parseStatement "m \x7b\n a \x7b b; \x7d\n c;\n" {} with
    | ok p =>
      rw [hparse] at hrefused
      cases hrefused
    | error e =>
      obtain hgrow | ⟨-, hlarge⟩ := hgrow
      · exact ⟨e, rfl, by rw [hgrow, hparse]; rfl⟩
      · exact absurd hlarge (by decide +kernel)

end YangSchema
