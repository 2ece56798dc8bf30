import SwiftText.Proofs.Identifier.Character
import SwiftText.Proofs.Unicode.Ascii

/-!
# Module paths in ASCII

The identifier of a module path in ASCII can be read off the path without cutting it: the capitals
that the segments begin with are lowered again with the rest, so what is left is the letters and
digits of the path, all of them in small form. Only a path that is a reserved word letter for letter
goes another way, and is put between back quotes.

* `PathForms`: what the tables say of a character of ASCII.
* `smallForm`: the letters and digits of a text, in small form.
* `lower_scan_of_ascii`: the pass over a path, in lower case, is the small form of the path.
* `ofModule_of_ascii`: the identifier of a module path in ASCII.
-/

namespace SwiftText.Identifier

open Unicode Reserved

variable {c : Char} {s : List Char}

/-! ## Characters -/

/-- What the tables say of a character of ASCII: only letters and digits stay, and a letter put in
upper case comes to the same small letter. -/
structure PathForms (c : Char) : Prop where
  separates_eq : separatesModules c = !c.isAlphanum
  upperChar_eq : upperChar c = [c.toUpper]
  toUpper_lt : c.toUpper.toNat < 128
  toLower_toUpper : c.toUpper.toLower = c.toLower
  small : c.isAlphanum = true → c.toLower.isLower = true ∨ c.toLower.isDigit = true

theorem pathForms (h : c.toNat < 128) : PathForms c := by
  obtain ⟨h₁, h₂, h₃, h₄, h₅⟩ := forall_ascii
    (P := fun c => separatesModules c = !c.isAlphanum ∧ upperChar c = [c.toUpper] ∧
      c.toUpper.toNat < 128 ∧ c.toUpper.toLower = c.toLower ∧
      (c.isAlphanum = true → c.toLower.isLower = true ∨ c.toLower.isDigit = true))
    (by decide +kernel) h
  exact ⟨h₁, h₂, h₃, h₄, h₅⟩

/-! ## The small form -/

/-- The letters and digits of a text in ASCII, in order, each in small form. -/
def smallForm (s : List Char) : List Char := (s.filter Char.isAlphanum).map Char.toLower

theorem smallForm_cons_of_isAlphanum (h : c.isAlphanum = true) (s : List Char) :
    smallForm (c :: s) = c.toLower :: smallForm s := by
  rw [smallForm, List.filter_cons_of_pos h, List.map_cons, smallForm]

theorem smallForm_cons_of_not_isAlphanum (h : c.isAlphanum = false) (s : List Char) :
    smallForm (c :: s) = smallForm s := by
  rw [smallForm, List.filter_cons_of_neg (by simp [h]), smallForm]

theorem isLower_or_isDigit_of_mem_smallForm (h : ∀ c ∈ s, c.toNat < 128) {x : Char}
    (hx : x ∈ smallForm s) : x.isLower = true ∨ x.isDigit = true := by
  obtain ⟨c, hc, rfl⟩ := List.mem_map.1 hx
  obtain ⟨hmem, halnum⟩ := List.mem_filter.1 hc
  exact (pathForms (h c hmem)).small halnum

/-! ## The pass in lower case -/

theorem ascii_of_mem_scan (h : ∀ c ∈ s, c.toNat < 128) :
    ∀ x ∈ scan separatesModules false s, x.toNat < 128 := by
  intro x hx
  obtain ⟨c, hc, -, rfl | ⟨hupper, -⟩⟩ := mem_scan hx
  · exact h _ hc
  · rw [(pathForms (h c hc)).upperChar_eq, List.mem_singleton] at hupper
    exact hupper ▸ (pathForms (h c hc)).toUpper_lt

/-- The flag makes no difference, since a capital that it brings about is lowered again. -/
theorem map_toLower_scan (h : ∀ c ∈ s, c.toNat < 128) (after : Bool) :
    (scan separatesModules after s).map Char.toLower = smallForm s := by
  induction s generalizing after with
  | nil => rfl
  | cons c s ih =>
    obtain ⟨hc, hs⟩ := List.forall_mem_cons.1 h
    have forms := pathForms hc
    cases halnum : c.isAlphanum with
    | false =>
      have hsep : separatesModules c = true := by rw [forms.separates_eq, halnum, Bool.not_false]
      rw [scan_separator hsep, smallForm_cons_of_not_isAlphanum halnum]
      exact ih hs true
    | true =>
      have hsep : separatesModules c = false := by rw [forms.separates_eq, halnum, Bool.not_true]
      rw [smallForm_cons_of_isAlphanum halnum, ← ih hs false]
      cases after with
      | false => rw [scan_kept hsep, List.map_cons]
      | true =>
        rw [scan_capitalised hsep, forms.upperChar_eq, List.singleton_append, List.map_cons,
          forms.toLower_toUpper]

/-- **In lower case the pass over a path in ASCII is the small form of the path.** -/
theorem lower_scan_of_ascii (h : ∀ c ∈ s, c.toNat < 128) :
    lower (scan separatesModules false s) = smallForm s := by
  rw [lower_of_ascii (ascii_of_mem_scan h), map_toLower_scan h]

theorem ofModule_eq_smallForm {raw : String} (h : ∀ c ∈ raw.toList, c.toNat < 128)
    (hres : isReserved raw.toList = false) : ofModule raw = String.ofList (smallForm raw.toList) := by
  rw [← String.toList_inj, toList_ofModule, if_neg (by simp [hres]), String.toList_ofList]
  exact lower_scan_of_ascii h

/-! ## The identifier -/

/-- **The identifier of a module path in ASCII**: a reserved word is put in small letters between
back quotes, and of any other path the letters and digits are left, in order and in small form. So
that identifier is made of small letters and digits, and two such paths have the same one exactly if
they differ in separators and in case only. -/
theorem ofModule_of_ascii (raw : String) (hraw : ∀ c ∈ raw.toList, c.toNat < 128) :
    (isReserved raw.toList = true →
      ofModule raw = String.ofList (backquoted (raw.toList.map Char.toLower))) ∧
    (isReserved raw.toList = false →
      ofModule raw = String.ofList (smallForm raw.toList) ∧
      (∀ x ∈ (ofModule raw).toList, x.isLower = true ∨ x.isDigit = true) ∧
      ∀ other : String, (∀ c ∈ other.toList, c.toNat < 128) → isReserved other.toList = false →
        (ofModule other = ofModule raw ↔ smallForm other.toList = smallForm raw.toList)) := by
  constructor
  · intro hres
    rw [← String.toList_inj, toList_ofModule, if_pos hres, lower_of_ascii hraw,
      String.toList_ofList]
  · intro hres
    have hform := ofModule_eq_smallForm hraw hres
    refine ⟨hform, ?_, fun other hother hfree => ?_⟩
    · rw [hform, String.toList_ofList]
      exact fun x hx => isLower_or_isDigit_of_mem_smallForm hraw hx
    · rw [hform, ofModule_eq_smallForm hother hfree, String.ofList_inj]

/-- Separators and capitals make no difference to a path, but a reserved word is one only as it
stands. -/
theorem ofModule_of_ascii_protocol :
    (∀ c ∈ "_pro.TO-col2".toList, c.toNat < 128) ∧
      isReserved "_pro.TO-col2".toList = false ∧ ofModule "_pro.TO-col2" = "protocol2" ∧
      ofModule "Protocol 2" = ofModule "_pro.TO-col2" ∧
      (∀ c ∈ "Protocol".toList, c.toNat < 128) ∧ isReserved "Protocol".toList = true ∧
      ofModule "Protocol" = "\x60protocol\x60" := by
  have hraw : ∀ c ∈ "_pro.TO-col2".toList, c.toNat < 128 := by simp
  have hfree : isReserved "_pro.TO-col2".toList = false := by decide
  have hother : ∀ c ∈ "Protocol 2".toList, c.toNat < 128 := by simp
  have hword : ∀ c ∈ "Protocol".toList, c.toNat < 128 := by simp
  have hres : isReserved "Protocol".toList = true := by decide
  obtain ⟨hform, -, hsame⟩ := (ofModule_of_ascii "_pro.TO-col2" hraw).2 hfree
  have hquoted := (ofModule_of_ascii "Protocol" hword).1 hres
  refine ⟨hraw, hfree, hform.trans (by decide), ?_, hword, hres, hquoted.trans (by decide)⟩
  exact (hsame "Protocol 2" hother (by decide)).2 (by decide)

end SwiftText.Identifier
