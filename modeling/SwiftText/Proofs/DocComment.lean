import SwiftText.DocComment
import SwiftText.Proofs.Lines.Break
import SwiftText.Proofs.Lines.Code

/-!
# What stays inside a doc comment

A doc comment is cut at LF, with a CR right before it taken along, but the lines of code that it
comes to also end at a CR alone. So a CR within a line of the text starts a line of code without a
marker, unless nothing but the break comes after it or the marker happens to come after it.

* `IsComment`: all lines of code are lines of the comment.
* `Sealed`: no line of the text has a CR that starts a line of code.
* `isComment_ofText_iff`: nothing leaves the comment exactly if the text is sealed, as it is if each
  CR stands right before an LF.
-/

namespace SwiftText

namespace DocComment

open Lines

/-- Whether all lines of code start with the marker of an indented doc comment. -/
def IsComment (indent s : List Char) : Prop := ∀ l ∈ codeLines s, indent ++ marker <+: l

instance (indent s : List Char) : Decidable (IsComment indent s) :=
  inferInstanceAs (Decidable (∀ l ∈ codeLines s, indent ++ marker <+: l))

/-- Whether no CR within a line of a text can start a line of code: it stands at the end of the
line, with another line after it, or the marker comes after it by itself. In a blank line nothing
matters, since it leaves the bare marker only. -/
def Sealed (indent text : List Char) : Prop :=
  ∀ p v, p :: v <:+ Lines.split text → p.all Unicode.isBlank = false →
    ∀ q r, p = q ++ '\r' :: r → (r = [] ∧ v ≠ []) ∨ indent ++ marker <+: r

variable {indent text p : List Char}

theorem line_of_blank (h : p.all Unicode.isBlank = true) : line indent p = indent ++ marker := by
  rw [line, if_pos h]

theorem line_of_not_blank (h : p.all Unicode.isBlank = false) :
    line indent p = indent ++ marker ++ ' ' :: p := by
  rw [line, if_neg (by simp [h])]

theorem isPrefix_line (indent p : List Char) : indent ++ marker <+: line indent p := by
  unfold line
  split
  · exact List.prefix_rfl
  · exact List.prefix_append _ _

theorem unbroken_lead (hindent : ∀ c ∈ indent, c = ' ' ∨ c = '\t') :
    Unbroken (indent ++ marker) := by
  have hne : ∀ x, x ≠ ' ' → x ≠ '\t' → x ≠ '/' → x ∉ indent ++ marker := by
    intro x hspace htab hslash hx
    rcases List.mem_append.1 hx with hx | hx
    · exact (hindent x hx).elim hspace htab
    · exact hslash (by simpa [marker] using hx)
  exact ⟨hne '\n' (by decide) (by decide) (by decide), hne '\r' (by decide) (by decide) (by decide)⟩

theorem newline_not_mem_line (hlead : '\n' ∉ indent ++ marker) (hp : '\n' ∉ p) :
    '\n' ∉ line indent p := by
  unfold line
  split
  · exact hlead
  · simpa [hp] using hlead

theorem exists_of_append_eq {c : Char} {s t q r : List Char} (hc : c ∉ s)
    (h : s ++ t = q ++ c :: r) : ∃ q', t = q' ++ c :: r := by
  rcases List.append_eq_append_iff.1 h with ⟨q', -, ht⟩ | ⟨s', hs, hr⟩
  · exact ⟨q', ht⟩
  · cases s' with
    | nil => exact ⟨[], hr.symm⟩
    | cons d s' =>
      obtain ⟨rfl, -⟩ := List.cons.inj hr
      exact absurd (by simp [hs]) hc

/-- A CR in a comment line is one of a line of text that is not blank. -/
theorem line_eq_append_return_iff (hlead : Unbroken (indent ++ marker)) (r : List Char) :
    (∃ q, line indent p = q ++ '\r' :: r) ↔
      p.all Unicode.isBlank = false ∧ ∃ q, p = q ++ '\r' :: r := by
  cases hblank : p.all Unicode.isBlank with
  | true =>
    rw [line_of_blank hblank]
    refine iff_of_false ?_ (by simp)
    rintro ⟨q, h⟩
    exact hlead.2 (by simp [h])
  | false =>
    rw [line_of_not_blank hblank]
    constructor
    · rintro ⟨q, h⟩
      rw [List.append_cons] at h
      exact ⟨rfl, exists_of_append_eq (by simpa using hlead.2) h⟩
    · rintro ⟨-, q, rfl⟩
      exact ⟨indent ++ marker ++ ' ' :: q, by simp⟩

/-- **Nothing leaves a comment exactly if the text is sealed.** -/
theorem isComment_render_iff (hlead : Unbroken (indent ++ marker)) (text : List Char) :
    IsComment indent (render indent text) ↔ Sealed indent text := by
  have hne : lines indent text ≠ [] := by simpa [lines] using split_ne_nil text
  have hnewline : ∀ l ∈ lines indent text, '\n' ∉ l := by
    intro l hl
    obtain ⟨p, hp, rfl⟩ := List.mem_map.1 hl
    exact newline_not_mem_line hlead.1 (newline_not_mem_of_mem_split hp)
  rw [IsComment, render, forall_mem_codeLines_join_iff hlead hne hnewline]
  constructor
  · intro h p v hp hblank q r hreturn
    obtain ⟨q', hq'⟩ := (line_eq_append_return_iff hlead r).2 ⟨hblank, q, hreturn⟩
    obtain ⟨-, h⟩ := h (line indent p) (v.map (line indent)) (hp.map (line indent))
    exact (h q' r hq').imp (fun h => ⟨h.1, by simpa using h.2⟩) id
  · intro h l v hl
    obtain ⟨w, hw, heq⟩ := List.suffix_map_iff.1 hl
    obtain ⟨p, w, rfl⟩ := List.exists_cons_of_ne_nil (l := w) (by rintro rfl; cases heq)
    obtain ⟨rfl, rfl⟩ := List.cons.inj heq
    refine ⟨isPrefix_line indent p, fun q r hreturn => ?_⟩
    obtain ⟨hblank, q', hq'⟩ := (line_eq_append_return_iff hlead r).1 ⟨q, hreturn⟩
    exact (h p w hw hblank q' r hq').imp (fun h => ⟨h.1, by simpa using h.2⟩) id

/-- A text is sealed if each CR stands right before an LF. -/
theorem sealed_of_forall_head? (h : ∀ q r, text = q ++ '\r' :: r → r.head? = some '\n') :
    Sealed indent text := by
  intro p v hp _ q r hreturn
  obtain ⟨q', r', htext, hhead⟩ :=
    exists_of_return_mem_split (hp.subset List.mem_cons_self) (l := p) (by simp [hreturn])
  exact absurd (h q' r' htext) hhead

/-- **Exactly when nothing leaves a doc comment.** All lines of code of the comment start with its
marker if and only if no CR within a line of the text starts a line of code, and so they do if each
CR of the text stands right before an LF. -/
theorem isComment_ofText_iff (text indent : String)
    (hindent : ∀ c ∈ indent.toList, c = ' ' ∨ c = '\t') :
    (IsComment indent.toList (ofText text indent).toList ↔ Sealed indent.toList text.toList) ∧
      ((∀ q r, text.toList = q ++ '\r' :: r → r.head? = some '\n') →
        IsComment indent.toList (ofText text indent).toList) := by
  have hiff := isComment_render_iff (unbroken_lead hindent) text.toList
  rw [ofText, String.toList_ofList]
  exact ⟨hiff, fun h => hiff.2 (sealed_of_forall_head? h)⟩

/-- A CR at the end of a line, one in a blank line and one with a marker after it start no line of
code; one at the end of the text does. -/
theorem isComment_ofText_iff_returns :
    (∀ c ∈ " \t".toList, c = ' ' ∨ c = '\t') ∧
      Sealed " \t".toList "a\r\r\n \r \nb\r \t///c".toList ∧ ¬Sealed " \t".toList "a\r".toList ∧
      (∀ q r, "a\r\nb".toList = q ++ '\r' :: r → r.head? = some '\n') ∧
      IsComment " \t".toList (ofText "a\r\nb" " \t").toList := by
  have hindent : ∀ c ∈ " \t".toList, c = ' ' ∨ c = '\t' := by simp
  have hpaired : ∀ q r, "a\r\nb".toList = q ++ '\r' :: r → r.head? = some '\n' := by
    intro q r h
    obtain ⟨-, -, -, rfl⟩ : ∃ x, q = 'a' :: x ∧ x = [] ∧ r = ['\n', 'b'] := by
      simpa [List.cons_eq_append_iff] using h
    rfl
  obtain ⟨hsealed, -⟩ := isComment_ofText_iff "a\r\r\n \r \nb\r \t///c" " \t" hindent
  obtain ⟨hopen, -⟩ := isComment_ofText_iff "a\r" " \t" hindent
  obtain ⟨-, hcomment⟩ := isComment_ofText_iff "a\r\nb" " \t" hindent
  refine ⟨hindent, hsealed.1 ?_, fun h => ?_, hpaired, hcomment hpaired⟩
  · decide
  · exact absurd (hopen.2 h) (by decide)

/-- A CR within a line lets the rest of the line out of the comment. -/
theorem not_isComment_ofText_return :
    ofText "a\rb" "" = "/// a\rb" ∧ ¬IsComment "".toList (ofText "a\rb" "").toList := by
  decide

end DocComment

end SwiftText
