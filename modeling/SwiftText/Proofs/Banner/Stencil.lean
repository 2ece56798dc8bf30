import SwiftText.Banner
import SwiftText.Proofs.Lines.Unified

/-!
# Templates that only name the module

A template may be nothing but text with placeholders in it where the name of the module goes. Its
texts have no opening mark of a tag in them, and none of them ends in the middle of one. When its
breaks are unified and the LF at its end is dropped, it is still such a template, and both can be done
text by text: no break begins in one text and goes on in another, since there is a placeholder
between them, and only the last text comes to the end.

* `Stencil`: the texts of such a template, with placeholders between them.
* `Stencil.fill`: the texts with something else in place of the placeholders.
* `Stencil.unified`: the same texts with unified breaks and without the LF at the end.
* `Stencil.source_unified`: that is the template with unified breaks and without the LF at its end.
-/

namespace SwiftText.Banner

open Lines (dropFinalBreak)

variable {c : Char} {s t r : List Char}

/-! ## Opening marks -/

/-- A text without the opening mark of a tag in it. -/
def NoMark (s : List Char) : Prop := ∀ c ∈ ['\x7b', '%', '#'], ¬ ['\x7b', c] <:+: s

instance (s : List Char) : Decidable (NoMark s) := List.decidableBAll _ _

/-- Whether a text starts with the opening mark of a tag. -/
def opens : List Char → Bool
  | '\x7b' :: c :: _ => c == '\x7b' || c == '%' || c == '#'
  | _ => false

theorem opens_cons (c : Char) (s : List Char) :
    opens (c :: s) = (c == '\x7b' && s.head?.any fun d => d == '\x7b' || d == '%' || d == '#') := by
  cases s with
  | nil => simp [opens]
  | cons d s =>
    by_cases hc : c = '\x7b'
    · subst hc
      rfl
    · simp [opens, hc]

theorem opens_cons_of_ne (h : c ≠ '\x7b') (s : List Char) : opens (c :: s) = false := by
  simp [opens_cons, h]

theorem opens_eq_false_iff (s : List Char) :
    opens s = false ↔ ∀ d ∈ ['\x7b', '%', '#'], ¬ ['\x7b', d] <+: s := by
  rcases s with _ | ⟨c, _ | ⟨d, s⟩⟩
  · simp [opens]
  · simp [opens]
  · have hprefix (e : Char) : ['\x7b', e] <+: c :: d :: s ↔ c = '\x7b' ∧ d = e := by
      simp [List.cons_prefix_cons, eq_comm]
    simp only [opens_cons, hprefix, List.head?_cons, Option.any_some]
    grind

theorem noMark_cons_iff : NoMark (c :: s) ↔ opens (c :: s) = false ∧ NoMark s := by
  rw [opens_eq_false_iff, NoMark, NoMark, ← forall₂_and]
  simp only [List.infix_cons_iff, not_or]

theorem NoMark.of_infix (h : NoMark t) (hs : s <:+: t) : NoMark s := fun d hd hmark =>
  h d hd (hmark.trans hs)

/-- A text that does not end in the middle of a mark does not hide the start of one. -/
theorem opens_cons_append (h : opens (c :: t) = false) (hbrace : (c :: t).getLast? ≠ some '\x7b')
    (r : List Char) : opens (c :: (t ++ r)) = false := by
  cases t with
  | nil => exact opens_cons_of_ne (by simpa using hbrace) r
  | cons d t => rwa [opens_cons] at h ⊢

/-- A unified break completes no mark. -/
theorem opens_cons_unified (h : opens (c :: s) = false) : opens (c :: Lines.unified s) = false := by
  rw [opens_cons] at h ⊢
  rw [Lines.head?_unified]
  cases hd : s.head? with
  | none => simp
  | some d =>
    by_cases hreturn : d = '\r'
    · simp [hreturn]
    · simpa [hd, hreturn] using h

/-- Where no mark is, none comes about when breaks are unified. -/
theorem NoMark.unified (h : NoMark s) : NoMark (Lines.unified s) := by
  induction s using Lines.unified_induction with
  | nil => exact h
  | pair s ih =>
    rw [Lines.unified_return_newline]
    exact noMark_cons_iff.2 ⟨opens_cons_of_ne (by decide) _,
      ih (noMark_cons_iff.1 (noMark_cons_iff.1 h).2).2⟩
  | lone s hs ih =>
    rw [Lines.unified_return hs]
    exact noMark_cons_iff.2 ⟨opens_cons_of_ne (by decide) _, ih (noMark_cons_iff.1 h).2⟩
  | other c s hc ih =>
    obtain ⟨hopens, hrest⟩ := noMark_cons_iff.1 h
    rw [Lines.unified_cons hc]
    exact noMark_cons_iff.2 ⟨opens_cons_unified hopens, ih hrest⟩

/-! ## Texts of a template -/

/-- A text of a template that has no tag in it. -/
structure Passage where
  chars : List Char
  noMark : NoMark chars

/-- A text that has no tag in it and does not end in the middle of an opening mark, so that a tag may
follow it. -/
structure Lead extends Passage where
  noBrace : chars.getLast? ≠ some '\x7b'

namespace Passage

/-- The text with unified breaks. -/
def unified (t : Passage) : Passage := ⟨Lines.unified t.chars, t.noMark.unified⟩

/-- The text without the LF at its end, if there is one. -/
def trimmed (t : Passage) : Passage :=
  ⟨dropFinalBreak t.chars, t.noMark.of_infix (Lines.isPrefix_dropFinalBreak t.chars).isInfix⟩

end Passage

/-- The text with unified breaks: its last character is the same, or an LF. -/
def Lead.unified (t : Lead) : Lead where
  toPassage := t.toPassage.unified
  noBrace := by
    rw [Passage.unified, Lines.getLast?_unified]
    intro hbrace
    obtain ⟨c, hc, heq⟩ := Option.map_eq_some_iff.1 hbrace
    split at heq
    · exact absurd heq (by decide)
    · exact t.noBrace (heq ▸ hc)

/-! ## Texts with placeholders -/

/-- Texts with a placeholder between each and the next. -/
inductive Stencil where
  | last (t : Passage)
  | before (t : Lead) (rest : Stencil)

/-- The tag that prints the name of the module. -/
def placeholder : List Char := "\x7b\x7b module_name \x7d\x7d".toList

theorem head?_placeholder : placeholder.head? = some '\x7b' := by decide

theorem getLast?_placeholder : placeholder.getLast? = some '\x7d' := by decide

theorem return_not_mem_placeholder : '\r' ∉ placeholder := by decide

namespace Stencil

/-- The texts with something in place of each placeholder. -/
def fill (x : List Char) : Stencil → List Char
  | last t => t.chars
  | before t rest => t.chars ++ (x ++ rest.fill x)

/-- The template that the texts and placeholders make up. -/
def source (l : Stencil) : List Char := l.fill placeholder

/-- The texts with unified breaks, the last one without the LF at its end. -/
def unified : Stencil → Stencil
  | last t => last t.unified.trimmed
  | before t rest => before t.unified rest.unified

/-- **The template of the unified texts** is the template with unified breaks and without the LF at
its end. -/
theorem source_unified (l : Stencil) :
    l.unified.source = dropFinalBreak (Lines.unified l.source) := by
  induction l with
  | last t => rfl
  | before t rest ih =>
    have hhead : (placeholder ++ rest.source).head? ≠ some '\n' := by
      simp [List.head?_append, head?_placeholder]
    have hlast : (Lines.unified t.chars ++ placeholder).getLast? ≠ some '\n' := by
      simp [List.getLast?_append, getLast?_placeholder]
    calc (before t rest).unified.source
        = Lines.unified t.chars ++ (placeholder ++ rest.unified.source) := rfl
      _ = (Lines.unified t.chars ++ placeholder) ++ dropFinalBreak (Lines.unified rest.source) := by
        rw [ih, List.append_assoc]
      _ = dropFinalBreak (Lines.unified t.chars ++ (placeholder ++ Lines.unified rest.source)) := by
        rw [← Lines.dropFinalBreak_append hlast, List.append_assoc]
      _ = dropFinalBreak (Lines.unified (t.chars ++ (placeholder ++ rest.source))) := by
        rw [Lines.unified_append hhead,
          Lines.unified_append_of_return_not_mem return_not_mem_placeholder]

/-- There is no CR in the template of the unified texts. -/
theorem return_not_mem_source_unified (l : Stencil) : '\r' ∉ l.unified.source := by
  rw [source_unified]
  exact fun h => Lines.return_not_mem_unified l.source
    ((Lines.isPrefix_dropFinalBreak _).subset h)

end Stencil

end SwiftText.Banner
