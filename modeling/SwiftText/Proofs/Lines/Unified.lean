import Mathlib.Data.List.Infix
import SwiftText.Proofs.Lines.Code

/-!
# Unified line breaks

The breaks of a text are unified when an LF takes the place of every CR LF and of every other CR:
what is left are its lines of code, with an LF between each and the next.

* `unified_return_newline`, `unified_return`, `unified_cons`: unified character by character.
* `unified_append`: breaks can be unified text by text, where none goes on from one to the next.
* `unified_of_return_not_mem`, `return_not_mem_unified`: a text without CRs stays as it is, and so
  nothing comes of unifying breaks twice.
* `dropFinalBreak`: a text without the LF at its end.
-/

namespace SwiftText.Lines

variable {c : Char} {s t r : List Char}

/-- A text with an LF in place of every CR LF and of every other CR. -/
def unified (s : List Char) : List Char := join (codeLines s)

theorem unified_return_newline (s : List Char) :
    unified ('\r' :: '\n' :: s) = '\n' :: unified s := by
  rw [unified, codeLines, join_nil_cons (codeLines_ne_nil s)]
  rfl

theorem unified_return (h : s.head? ≠ some '\n') : unified ('\r' :: s) = '\n' :: unified s := by
  rw [unified, codeLines, if_pos (Or.inr rfl), join_nil_cons (codeLines_ne_nil s)]
  · rfl
  · rintro r - rfl
    exact h rfl

theorem unified_cons (h : c ≠ '\r') : unified (c :: s) = c :: unified s := by
  rw [unified, codeLines]
  · split
    · next hbreak =>
      obtain rfl : c = '\n' := hbreak.resolve_right h
      rw [join_nil_cons (codeLines_ne_nil s)]
      rfl
    · rw [join_consFirst (codeLines_ne_nil s)]
      rfl
  · exact fun _ hc _ => h hc

/-- What a text starts with decides how its breaks are unified. -/
theorem unified_induction {motive : List Char → Prop} (nil : motive [])
    (pair : ∀ s, motive s → motive ('\r' :: '\n' :: s))
    (lone : ∀ s, s.head? ≠ some '\n' → motive s → motive ('\r' :: s))
    (other : ∀ c s, c ≠ '\r' → motive s → motive (c :: s)) (s : List Char) : motive s := by
  fun_induction codeLines s with
  | case1 => exact nil
  | case2 rest ih => exact pair rest ih
  | case3 c rest hpair hc ih =>
    by_cases hreturn : c = '\r'
    · subst hreturn
      refine lone rest (fun hhead => ?_) ih
      obtain ⟨r, hr⟩ := List.head?_eq_some_iff.1 hhead
      exact hpair r rfl hr
    · exact other c rest hreturn ih
  | case4 c rest hpair hc ih => exact other c rest (not_or.1 hc).2 ih

/-- No break goes on from a text to where there is no LF. -/
theorem unified_append (h : r.head? ≠ some '\n') : unified (t ++ r) = unified t ++ unified r := by
  induction t using unified_induction with
  | nil => rfl
  | pair s ih => rw [List.cons_append, List.cons_append, unified_return_newline, ih,
      unified_return_newline, List.cons_append]
  | lone s hs ih =>
    have hhead : (s ++ r).head? ≠ some '\n' := by
      cases s with
      | nil => exact h
      | cons d s => exact hs
    rw [List.cons_append, unified_return hhead, ih, unified_return hs, List.cons_append]
  | other c s hc ih => rw [List.cons_append, unified_cons hc, ih, unified_cons hc, List.cons_append]

theorem unified_append_of_return_not_mem (h : '\r' ∉ t) : unified (t ++ r) = t ++ unified r := by
  induction t with
  | nil => rfl
  | cons c t ih =>
    obtain ⟨hc, ht⟩ := not_or.1 (mt List.mem_cons.2 h)
    rw [List.cons_append, unified_cons (Ne.symm hc), ih ht, List.cons_append]

theorem unified_of_return_not_mem (h : '\r' ∉ s) : unified s = s := by
  have happend := unified_append_of_return_not_mem (r := []) h
  rwa [List.append_nil, show unified [] = [] from rfl, List.append_nil] at happend

theorem return_not_mem_unified (s : List Char) : '\r' ∉ unified s := by
  induction s using unified_induction with
  | nil => exact List.not_mem_nil
  | pair s ih => rw [unified_return_newline]; simp [ih]
  | lone s hs ih => rw [unified_return hs]; simp [ih]
  | other c s hc ih => rw [unified_cons hc]; simp [ih, Ne.symm hc]

theorem head?_unified (s : List Char) :
    (unified s).head? = s.head?.map fun c => if c = '\r' then '\n' else c := by
  induction s using unified_induction with
  | nil => rfl
  | pair s => rw [unified_return_newline]; rfl
  | lone s hs => rw [unified_return hs]; rfl
  | other c s hc => rw [unified_cons hc]; exact congrArg some (if_neg hc).symm

theorem getLast?_unified (s : List Char) :
    (unified s).getLast? = s.getLast?.map fun c => if c = '\r' then '\n' else c := by
  induction s using unified_induction with
  | nil => rfl
  | pair s ih =>
    rw [unified_return_newline, List.getLast?_cons, List.getLast?_cons, List.getLast?_cons, ih]
    cases s.getLast? <;> rfl
  | lone s hs ih =>
    rw [unified_return hs, List.getLast?_cons, List.getLast?_cons, ih]
    cases s.getLast? <;> rfl
  | other c s hc ih =>
    rw [unified_cons hc, List.getLast?_cons, List.getLast?_cons, ih]
    cases s.getLast? with
    | none => exact congrArg some (if_neg hc).symm
    | some d => rfl

/-! ## The break at the end -/

/-- A text without the LF at its end, if there is one. -/
def dropFinalBreak (s : List Char) : List Char :=
  if s.getLast? = some '\n' then s.dropLast else s

theorem dropFinalBreak_append_newline (s : List Char) : dropFinalBreak (s ++ ['\n']) = s := by
  simp [dropFinalBreak]

theorem dropFinalBreak_of_ne (h : s.getLast? ≠ some '\n') : dropFinalBreak s = s := if_neg h

/-- A text ends with an LF, and is without it what is left, or has none to drop. -/
theorem dropFinalBreak_cases (s : List Char) :
    s = dropFinalBreak s ++ ['\n'] ∨ dropFinalBreak s = s ∧ s.getLast? ≠ some '\n' := by
  by_cases h : s.getLast? = some '\n'
  · obtain ⟨t, rfl⟩ := List.getLast?_eq_some_iff.1 h
    rw [dropFinalBreak_append_newline]
    exact Or.inl rfl
  · exact Or.inr ⟨dropFinalBreak_of_ne h, h⟩

theorem dropFinalBreak_append (h : t.getLast? ≠ some '\n') :
    dropFinalBreak (t ++ r) = t ++ dropFinalBreak r := by
  cases r with
  | nil => rw [List.append_nil, dropFinalBreak_of_ne h, dropFinalBreak_of_ne (by simp),
      List.append_nil]
  | cons c r =>
    have hlast : (t ++ c :: r).getLast? = (c :: r).getLast? := by
      simp [List.getLast?_append, List.getLast?_cons]
    rw [dropFinalBreak, dropFinalBreak, hlast, List.dropLast_append_of_ne_nil (List.cons_ne_nil c r)]
    split <;> rfl

theorem isPrefix_dropFinalBreak (s : List Char) : dropFinalBreak s <+: s := by
  unfold dropFinalBreak
  split
  · exact List.dropLast_prefix s
  · exact List.prefix_rfl

end SwiftText.Lines
