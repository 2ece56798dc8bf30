import Mathlib.Data.List.Basic
import SwiftText.Lines

/-!
# Lines and line feeds

The lines of a text are what lies between its LFs, less the CR right before an LF. The cut that finds
a CR with its LF in one step comes to the same as cutting at LF alone and looking at the end of each
piece afterwards: of several CRs before an LF only the last one goes, and one that stands alone or at
the end of the text stays.

* `newline_not_mem_of_mem_split`, `exists_of_return_mem_split`: which breaks a line may have in it.
* `pieces`: what lies between the LFs of a text, less one CR before each LF.
* `split_eq_pieces`: these are the lines of the text.
* `length_split`: there is one line more than there are LFs.
* `splitOn_join`: joined lines are found again between the LFs.
-/

namespace SwiftText.Lines

variable {c : Char} {s p : List Char}

/-! ## The characters of lines -/

theorem split_ne_nil (s : List Char) : split s ≠ [] := by
  fun_induction split s with
  | case4 c rest _ _ ih =>
    obtain ⟨l, ls, h⟩ := List.exists_cons_of_ne_nil ih
    rw [h]
    exact List.cons_ne_nil _ _
  | _ => exact List.cons_ne_nil _ _

/-- A character that is put in front of the first line comes into no other line. -/
theorem mem_of_mem_consFirst {c x : Char} {l : List Char} {ls : List (List Char)}
    (h : l ∈ consFirst c ls) (hx : x ∈ l) : x = c ∨ ∃ k ∈ ls, x ∈ k := by
  cases ls with
  | nil =>
    obtain rfl := List.mem_singleton.1 h
    exact Or.inl (List.mem_singleton.1 hx)
  | cons k ls =>
    rcases List.mem_cons.1 h with rfl | h
    · exact (List.mem_cons.1 hx).imp id fun hx => ⟨k, List.mem_cons_self, hx⟩
    · exact Or.inr ⟨l, List.mem_cons_of_mem k h, hx⟩

theorem newline_not_mem_of_mem_split {s l : List Char} (h : l ∈ split s) : '\n' ∉ l := by
  fun_induction split s generalizing l with
  | case1 =>
    obtain rfl := List.mem_singleton.1 h
    exact List.not_mem_nil
  | case2 rest ih =>
    rcases List.mem_cons.1 h with rfl | h
    · exact List.not_mem_nil
    · exact ih h
  | case3 rest ih =>
    rcases List.mem_cons.1 h with rfl | h
    · exact List.not_mem_nil
    · exact ih h
  | case4 c rest _ hc ih =>
    intro hn
    rcases mem_of_mem_consFirst h hn with rfl | ⟨k, hk, hn⟩
    · exact hc rfl
    · exact ih hk hn

/-- A CR in a line of a text has no LF right after it in the text. -/
theorem exists_of_return_mem_split {s l : List Char} (h : l ∈ split s) (hr : '\r' ∈ l) :
    ∃ q r, s = q ++ '\r' :: r ∧ r.head? ≠ some '\n' := by
  fun_induction split s generalizing l with
  | case1 =>
    obtain rfl := List.mem_singleton.1 h
    cases hr
  | case2 rest ih =>
    rcases List.mem_cons.1 h with rfl | h
    · cases hr
    · obtain ⟨q, r, rfl, hhead⟩ := ih h hr
      exact ⟨'\r' :: '\n' :: q, r, rfl, hhead⟩
  | case3 rest ih =>
    rcases List.mem_cons.1 h with rfl | h
    · cases hr
    · obtain ⟨q, r, rfl, hhead⟩ := ih h hr
      exact ⟨'\n' :: q, r, rfl, hhead⟩
  | case4 c rest hpair hc ih =>
    rcases mem_of_mem_consFirst h hr with rfl | ⟨k, hk, hr⟩
    · refine ⟨[], rest, rfl, fun hhead => ?_⟩
      obtain ⟨rest', hrest⟩ := List.head?_eq_some_iff.1 hhead
      exact hpair rest' rfl hrest
    · obtain ⟨q, r, rfl, hhead⟩ := ih hk hr
      exact ⟨c :: q, r, rfl, hhead⟩

/-! ## Between the LFs -/

/-- A piece of a text without the CR at its end, if there is one. -/
def dropReturn (p : List Char) : List Char := if p.getLast? = some '\r' then p.dropLast else p

/-- The pieces of a text, all but the last one without the CR at the end. -/
def dropReturns : List (List Char) → List (List Char)
  | [] => []
  | [p] => [p]
  | p :: q :: ps => dropReturn p :: dropReturns (q :: ps)

/-- What lies between the LFs of a text, less the CR right before each LF. -/
def pieces (s : List Char) : List (List Char) := dropReturns (s.splitOn '\n')

theorem dropReturns_cons {q : List Char} {ps : List (List Char)} :
    dropReturns (p :: q :: ps) = dropReturn p :: dropReturns (q :: ps) := rfl

/-! ## Counting -/

theorem length_splitOn (s : List Char) : (s.splitOn '\n').length = s.count '\n' + 1 := by
  induction s with
  | nil => rfl
  | cons c s ih =>
    rw [List.splitOn_cons_eq_if_modifyHead, List.count_cons]
    split <;> simp [ih]

theorem length_dropReturns (ps : List (List Char)) : (dropReturns ps).length = ps.length := by
  induction ps with
  | nil => rfl
  | cons p ps ih =>
    cases ps with
    | nil => rfl
    | cons q ps =>
      rw [dropReturns_cons, List.length_cons, ih]
      rfl

theorem length_pieces (s : List Char) : (pieces s).length = s.count '\n' + 1 := by
  rw [pieces, length_dropReturns, length_splitOn]

/-! ## The cut in one step -/

/-- A character in front of a piece does not change what is dropped, unless it is itself the CR at the
end. -/
theorem dropReturn_cons (h : p ≠ [] ∨ c ≠ '\r') : dropReturn (c :: p) = c :: dropReturn p := by
  cases p with
  | nil => simpa [dropReturn] using h
  | cons d p =>
    rw [dropReturn, dropReturn, List.getLast?_cons_cons, List.dropLast_cons_cons]
    split <;> rfl

/-- Only a text that starts with an LF has nothing before its first one. -/
theorem exists_of_splitOn_eq_nil_cons {q : List Char} {ps : List (List Char)}
    (h : s.splitOn '\n' = [] :: q :: ps) : ∃ rest, s = '\n' :: rest := by
  have hjoin : ['\n'].intercalate (s.splitOn '\n') = s := List.intercalate_splitOn '\n'
  rw [h, List.intercalate_cons_cons, List.nil_append] at hjoin
  exact ⟨_, hjoin.symm⟩

/-- **A character that ends no line and starts no break goes to the first piece.** -/
theorem pieces_cons (hc : c ≠ '\n') (hpair : ∀ rest, c = '\r' → s ≠ '\n' :: rest) :
    pieces (c :: s) = consFirst c (pieces s) := by
  rw [pieces, pieces, List.splitOn_cons_eq_if_modifyHead, if_neg (by simpa using hc)]
  obtain ⟨p, ps, hs⟩ := List.exists_cons_of_ne_nil (List.splitOn_ne_nil '\n' s)
  rw [hs, List.modifyHead_cons]
  cases ps with
  | nil => rfl
  | cons q ps =>
    have hkept : p ≠ [] ∨ c ≠ '\r' := by
      by_contra! h
      obtain ⟨rfl, rfl⟩ := h
      obtain ⟨rest, hrest⟩ := exists_of_splitOn_eq_nil_cons hs
      exact hpair rest rfl hrest
    rw [dropReturns_cons, dropReturn_cons hkept, dropReturns_cons, consFirst]

theorem pieces_newline_cons (s : List Char) : pieces ('\n' :: s) = [] :: pieces s := by
  obtain ⟨p, ps, hs⟩ := List.exists_cons_of_ne_nil (List.splitOn_ne_nil '\n' s)
  rw [pieces, pieces, List.splitOn_cons_eq_if_modifyHead, if_pos (by simp), hs]
  rfl

theorem pieces_return_newline_cons (s : List Char) :
    pieces ('\r' :: '\n' :: s) = [] :: pieces s := by
  obtain ⟨p, ps, hs⟩ := List.exists_cons_of_ne_nil (List.splitOn_ne_nil '\n' s)
  rw [pieces, pieces, List.splitOn_cons_eq_if_modifyHead, if_neg (by simp),
    List.splitOn_cons_eq_if_modifyHead, if_pos (by simp), hs]
  rfl

/-- **The lines of a text are what lies between its LFs, less one CR before each.** -/
theorem split_eq_pieces (s : List Char) : split s = pieces s := by
  fun_induction split s with
  | case1 => rfl
  | case2 rest ih => rw [pieces_return_newline_cons, ih]
  | case3 rest ih => rw [pieces_newline_cons, ih]
  | case4 c rest hpair hc ih => rw [pieces_cons hc hpair, ih]

theorem length_split (s : List Char) : (split s).length = s.count '\n' + 1 := by
  rw [split_eq_pieces, length_pieces]

/-! ## Joined lines -/

theorem splitOn_join {ls : List (List Char)} (hne : ls ≠ []) (h : ∀ l ∈ ls, '\n' ∉ l) :
    (join ls).splitOn '\n' = ls :=
  List.splitOn_intercalate '\n' h hne

/-- Joined lines have one LF less than there are lines. -/
theorem count_join {ls : List (List Char)} (hne : ls ≠ []) (h : ∀ l ∈ ls, '\n' ∉ l) :
    (join ls).count '\n' + 1 = ls.length := by
  rw [← length_splitOn, splitOn_join hne h]

/-- A text that ends with an LF has nothing after its last one. -/
theorem nil_mem_splitOn_of_getLast? (h : s.getLast? = some '\n') : [] ∈ s.splitOn '\n' := by
  obtain ⟨t, rfl⟩ := List.getLast?_eq_some_iff.1 h
  rw [List.splitOn_append_cons_self]
  simp

end SwiftText.Lines
