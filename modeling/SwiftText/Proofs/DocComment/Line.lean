import SwiftText.Proofs.DocComment

/-!
# The lines of a doc comment

Between its LFs a doc comment has one line for each line of the text, in order: the marker with the
line behind it, or the bare marker if the line is blank. Since a line has no LF and the indent has
none, the comment has as many LFs as the text, and its lines can be told apart again. What stands
behind the markers is then the text without its blank lines.

* `splitOn_render`: what lies between the LFs of a comment.
* `count_render`: a comment has as many LFs as the text.
* `dropPrefix?_line`: a line is found again behind its marker exactly if it is not blank.
* `lines_ofText`: the lines of a comment against those of the text.
-/

namespace SwiftText.DocComment

open Lines

variable {indent text p : List Char}

/-- What stands before the text in a line that is not blank. -/
def lead (indent : List Char) : List Char := indent ++ "/// ".toList

theorem newline_not_mem_lead (h : '\n' ∉ indent) : '\n' ∉ indent ++ marker := by
  simpa [marker] using h

theorem line_ne_nil (indent p : List Char) : line indent p ≠ [] := by
  unfold line
  split <;> simp [marker]

/-! ## Between the LFs -/

theorem lines_ne_nil (indent text : List Char) : lines indent text ≠ [] := by
  simpa [lines] using split_ne_nil text

theorem newline_not_mem_lines (h : '\n' ∉ indent) : ∀ l ∈ lines indent text, '\n' ∉ l := by
  intro l hl
  obtain ⟨p, hp, rfl⟩ := List.mem_map.1 hl
  exact newline_not_mem_line (newline_not_mem_lead h) (newline_not_mem_of_mem_split hp)

/-- **Between its LFs a comment has the lines of the text, each one with its marker.** -/
theorem splitOn_render (h : '\n' ∉ indent) (text : List Char) :
    (render indent text).splitOn '\n' = (pieces text).map (line indent) := by
  rw [render, splitOn_join (lines_ne_nil indent text) (newline_not_mem_lines h), lines,
    split_eq_pieces]

/-- **A comment has as many LFs as the text.** -/
theorem count_render (h : '\n' ∉ indent) (text : List Char) :
    (render indent text).count '\n' = text.count '\n' := by
  have hcount := count_join (lines_ne_nil indent text) (newline_not_mem_lines h)
  rw [lines, List.length_map, length_split] at hcount
  exact Nat.succ.inj hcount

/-- No line is empty, so a comment does not end with an LF. -/
theorem getLast?_render (h : '\n' ∉ indent) (text : List Char) :
    (render indent text).getLast? ≠ some '\n' := by
  intro hlast
  have hnil := nil_mem_splitOn_of_getLast? hlast
  rw [splitOn_render h] at hnil
  obtain ⟨p, -, hp⟩ := List.mem_map.1 hnil
  exact line_ne_nil indent p hp

/-! ## Behind the markers -/

/-- **A line is found again behind its marker exactly if it is not blank**: the bare marker is too
short to be one with a line behind it. -/
theorem dropPrefix?_line (indent p : List Char) :
    (line indent p).dropPrefix? (lead indent) =
      if p.all Unicode.isBlank then none else some p := by
  cases hblank : p.all Unicode.isBlank with
  | true =>
    rw [line_of_blank hblank, if_pos rfl, Option.eq_none_iff_forall_ne_some]
    intro s hs
    obtain ⟨lead', heq, hlead⟩ := List.dropPrefix?_eq_some_iff.1 hs
    have hlength := congrArg List.length heq
    rw [beq_iff_eq.1 hlead] at hlength
    simp [lead, marker] at hlength
  | false =>
    have hline : line indent p = lead indent ++ p := by simp [line_of_not_blank hblank, lead, marker]
    rw [hline, if_neg (by simp), List.dropPrefix?_append_of_beq p (beq_self_eq_true _)]

/-- **The lines that are not blank are found again**, in order. -/
theorem filterMap_dropPrefix?_lines (indent : List Char) (ps : List (List Char)) :
    (ps.map (line indent)).filterMap (·.dropPrefix? (lead indent)) =
      ps.filter fun p => !p.all Unicode.isBlank := by
  rw [List.filterMap_map, ← List.filterMap_eq_filter]
  refine List.filterMap_congr fun p _ => ?_
  rw [Function.comp_apply, dropPrefix?_line, Option.guard]
  cases p.all Unicode.isBlank <;> rfl

/-- **The lines of a doc comment.** With an indent without LF, a comment has as many LFs as the text
and ends with none; between them it has, in order, the marker with the line of the text behind it, or
the bare marker for a blank line; and without the markers it has the lines of the text that are not
blank. -/
theorem lines_ofText (text indent : String) (hindent : '\n' ∉ indent.toList) :
    (ofText text indent).toList.count '\n' = text.toList.count '\n' ∧
    (ofText text indent).toList.getLast? ≠ some '\n' ∧
    (ofText text indent).toList.splitOn '\n' = (pieces text.toList).map (fun p =>
      if p.all Unicode.isBlank then indent.toList ++ "///".toList
      else indent.toList ++ "/// ".toList ++ p) ∧
    ((ofText text indent).toList.splitOn '\n').filterMap
        (·.dropPrefix? (indent.toList ++ "/// ".toList)) =
      (pieces text.toList).filter fun p => !p.all Unicode.isBlank := by
  rw [ofText, String.toList_ofList, splitOn_render hindent]
  refine ⟨count_render hindent _, getLast?_render hindent _, ?_,
    filterMap_dropPrefix?_lines indent.toList _⟩
  refine List.map_congr_left fun p _ => ?_
  simp [line, marker]

/-- Of two CRs before an LF one stays, and so do a CR alone and one at the end of the text. -/
theorem lines_ofText_returns :
    '\n' ∉ "\r ".toList ∧
      (ofText "a\r\r\n \x1F\r\n\nb\rc\r" "\r ").toList.splitOn '\n' =
        ["\r /// a\r".toList, "\r ///".toList, "\r ///".toList, "\r /// b\rc\r".toList] := by
  have hindent : '\n' ∉ "\r ".toList := by decide
  obtain ⟨-, -, hlines, -⟩ := lines_ofText "a\r\r\n \x1F\r\n\nb\rc\r" "\r " hindent
  exact ⟨hindent, hlines.trans (by decide)⟩

end SwiftText.DocComment
