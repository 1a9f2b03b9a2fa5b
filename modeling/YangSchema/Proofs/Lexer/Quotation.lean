import YangSchema.Proofs.Lexer.Recognition

/-!
# Quoting and reading

A text in quotes is read back as itself exactly if it is settled: it has no carriage return, no
blanks before its line feeds, and no blanks but spaces at the start of its lines after the first.
Nothing else is ever read, so that quoting misses no text that reading can give.
-/
namespace YangSchema.Scan
open Dedent

/-- Padding and stripping give a text back only if it is settled. -/
theorem strip_pad_eq_iff (n : Nat) (tabWidth : Int) (value : List Char) :
    strip (pad n value) n tabWidth = value ↔ Settled value := by
  constructor
  · intro h
    rw [← h]
    exact settled_strip (pad n value) n tabWidth
  · exact strip_pad n tabWidth

/-- What is read is settled, and a text that is quoted for the column of the cursor is read back as
itself if and only if it is. Otherwise it is read as another text, or there is no room for what
stays of its layout. -/
theorem reads_quotation_iff_settled (settings : ParserSettings) :
    (∀ (c d : Cursor) (value : String), readString? settings c = .ok (some value) d →
      Settled value.toList) ∧
    ∀ (value : String) (c : Cursor) (r : List Char), 1 ≤ c.position.column →
      c.rest = (quoteArgument value c.position.column).toList ++ ';' :: r →
        ∃ d, d.rest = ';' :: r ∧
          ((∃ read, readString? settings c = .ok (some read) d ∧
              (read = value ↔ Settled value.toList)) ∨
            readString? settings c = .error ⟨.tooWide, d.position⟩ d ∧ ¬ Settled value.toList) := by
  constructor
  · intro c d value h
    exact settled_of_readString? h
  · intro value c r hcolumn hrest
    obtain ⟨n, hn⟩ := Int.eq_ofNat_of_zero_le (show 0 ≤ c.position.column by omega)
    have hquote : c.rest = StatementText.quote value.toList n ++ ([] ++ ';' :: r) := by
      rw [hrest, quoteArgument, String.toList_ofList, hn]
      rfl
    have hread := readString?_padded settings hquote (by simp) (.inl rfl)
    rw [map_withoutLayout_apply, hn] at hread
    refine ⟨_, Cursor.rest_advanceBy_length hquote, ?_⟩
    cases hstrip : strip? (pad n value.toList) n settings.tabWidth with
    | none =>
      rw [hstrip] at hread
      refine .inr ⟨hread, fun hsettled => ?_⟩
      rw [strip?_pad n settings.tabWidth hsettled] at hstrip
      cases hstrip
    | some text =>
      rw [hstrip] at hread
      refine .inl ⟨_, hread, ?_⟩
      rw [← strip_pad_eq_iff n settings.tabWidth value.toList, (strip?_eq_some.1 hstrip).2,
        ← String.toList_inj, String.toList_ofList]

/-- Of these lines the second one keeps its own spaces behind those of the column. -/
theorem reads_quotation_of_lines :
    ∃ d, readString? {} ⟨(quoteArgument "a\n  b" 3).toList ++ [';'], 2, ⟨1, 3⟩⟩ =
        .ok (some "a\n  b") d ∧ d.rest = [';'] ∧ Settled "a\n  b".toList := by
  have hsettled : Settled "a\n  b".toList := by
    have hlines : "a\n  b".toList.splitOn '\n' = [['a'], [' ', ' ', 'b']] := by decide +kernel
    have hblanks : [' ', ' ', 'b'].takeWhile Unicode.isBlank = [' ', ' '] := by decide +kernel
    constructor
    · decide +kernel
    · decide +kernel
    · rw [hlines]
      simp [hblanks]
  obtain ⟨hsettles, hreads⟩ := reads_quotation_iff_settled {}
  obtain ⟨d, hrest, ⟨read, hread, hiff⟩ | ⟨-, hnot⟩⟩ :=
    hreads "a\n  b" ⟨(quoteArgument "a\n  b" 3).toList ++ [';'], 2, ⟨1, 3⟩⟩ [] (by decide) rfl
  · obtain rfl := hiff.2 hsettled
    exact ⟨d, hread, hrest, hsettles _ _ _ hread⟩
  · exact absurd hsettled hnot

end YangSchema.Scan
