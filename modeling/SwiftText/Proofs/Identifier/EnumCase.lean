import SwiftText.Proofs.Identifier.Character
import SwiftText.Proofs.Identifier.Keyword

/-!
# Case names are escaped

A label may come to a reserved word at four places: as it stands, in lower case, when its segments
are joined, and when its first character is lowered. The first two are caught when the name is
normalised, the others by the check at the end. In between a name in back quotes is passed on as it
is, which is right because no other name can start with a back quote: separators are dropped, and no
letter has a back quote in its upper-case or lower-case form.

* `isReserved_escape`: what has been checked is no bare reserved word.
* `startsQuoted_normalise`: a normalised name starts with a back quote only if it is a reserved word
  between back quotes.
* `ofLabelValue_text`: for texts the case name is a text.
* `ofLabelValue_escaped`: it is neither blank nor a bare reserved word.
-/

namespace SwiftText.Identifier

open Unicode Reserved

variable {s : List Char}

/-! ## Checked names -/

theorem isReserved_escape (s : List Char) : isReserved (escape s) = false := by
  unfold escape
  split
  · exact isReserved_backquoted s
  · next h => simpa using h

theorem escape_ne_nil (h : s ≠ []) : escape s ≠ [] := by
  unfold escape
  split
  · exact List.cons_ne_nil _ _
  · exact h

theorem withLead_ne_nil (lead : List Char) (h : s ≠ []) : withLead lead s ≠ [] := by
  unfold withLead
  split
  · exact List.append_ne_nil_of_right_ne_nil lead h
  · exact h

theorem decapitalise_ne_nil (h : s ≠ []) : decapitalise s ≠ [] := by
  cases s with
  | nil => exact absurd rfl h
  | cons c rest => exact List.append_ne_nil_of_left_ne_nil (lowerChar_ne_nil c) rest

/-! ## Back quotes -/

theorem startsQuoted_iff : startsQuoted s = true ↔ ∃ rest, s = '\x60' :: rest := by
  rw [startsQuoted, beq_iff_eq, List.head?_eq_some_iff]

/-- The pass drops every back quote and brings none about. -/
theorem backquote_not_mem_scan (s : List Char) : '\x60' ∉ scan separatesNames false s := by
  intro h
  have hsep : separatesNames '\x60' = true := rfl
  obtain ⟨c, -, hc, rfl | ⟨hx, -⟩⟩ := mem_scan h
  · exact absurd hsep (by simp [hc])
  · rw [← eq_backquote_of_mem_upperChar hx] at hsep
    exact absurd hsep (by simp [hc])

/-- **A normalised name starts with a back quote only if it is a reserved word between back
quotes.** -/
theorem startsQuoted_normalise (h : startsQuoted (normalise s) = true) :
    isReserved s = true ∧ normalise s = backquoted s := by
  cases hres : isReserved s with
  | true => exact ⟨rfl, normalise_of_isReserved hres⟩
  | false =>
    obtain ⟨rest, hrest⟩ := startsQuoted_iff.1 h
    rw [normalise_eq_scan hres] at hrest
    exact absurd (hrest ▸ List.mem_cons_self) (backquote_not_mem_scan s)

theorem startsQuoted_of_decapitalise (h : startsQuoted (decapitalise s) = true) :
    startsQuoted s = true := by
  cases s with
  | nil => exact h
  | cons c rest =>
    obtain ⟨x, u, hu⟩ := List.exists_cons_of_ne_nil (lowerChar_ne_nil c)
    obtain ⟨t, ht⟩ := startsQuoted_iff.1 h
    rw [decapitalise, hu, List.cons_append, List.cons.injEq] at ht
    have hmem : '\x60' ∈ lowerChar c := by
      rw [hu, ht.1]
      exact List.mem_cons_self
    exact startsQuoted_iff.2 ⟨rest, by rw [eq_backquote_of_mem_lowerChar hmem]⟩

theorem startsQuoted_of_withLead {lead : List Char} (hlead : startsQuoted lead = false)
    (h : startsQuoted (withLead lead s) = true) : startsQuoted s = true := by
  unfold withLead at h
  split at h
  · cases lead with
    | nil => exact h
    | cons c rest =>
      rw [startsQuoted, List.cons_append, List.head?_cons] at h
      rw [startsQuoted, List.head?_cons, h] at hlead
      cases hlead
  · exact h

/-- **A checked name starts with a back quote only where it was given one or is a reserved word
between back quotes.** -/
theorem startsQuoted_of_escape (h : startsQuoted (escape s) = true) :
    (isReserved s = true ∧ escape s = backquoted s) ∨ startsQuoted s = true := by
  cases hres : isReserved s with
  | true => exact Or.inl ⟨rfl, by rw [escape, if_pos hres]⟩
  | false =>
    rw [escape, hres] at h
    exact Or.inr h

/-! ## Case names -/

theorem applyLead_text (lead : String) (s : List Char) :
    applyLead (.text lead) s = .ok (withLead lead.toList s) := rfl

/-- For texts the case name is a text. -/
theorem ofLabelValue_text (raw emptyName lead : String) :
    ofLabelValue (.text raw) (.text emptyName) (.text lead) =
      .ok (.text (ofLabel raw emptyName lead)) := by
  rw [ofLabelValue]
  cases hstem : labelStem raw.toList with
  | none => rw [ofLabel_of_labelStem_eq_none hstem]
  | some name =>
    rw [← String.ofList_toList (s := ofLabel raw emptyName lead),
      toList_ofLabel_of_labelStem hstem]
    cases hquoted : startsQuoted name with
    | true => simp [hquoted]
    | false => simp [hquoted, applyLead_text, Except.map]

/-- A case name of its own is neither blank nor a bare reserved word. -/
theorem ofLabel_of_labelStem {raw : String} {name : List Char}
    (h : labelStem raw.toList = some name) (emptyName lead : String) :
    (ofLabel raw emptyName lead).toList ≠ [] ∧
      isReserved (ofLabel raw emptyName lead).toList = false := by
  obtain ⟨hname, hne⟩ := normalise_of_labelStem h
  rw [toList_ofLabel_of_labelStem h]
  cases hquoted : startsQuoted name with
  | true =>
    obtain ⟨-, hback⟩ := startsQuoted_normalise (hname ▸ hquoted)
    rw [if_pos rfl, ← hname, hback]
    exact ⟨List.cons_ne_nil _ _, isReserved_backquoted _⟩
  | false =>
    rw [if_neg (by simp)]
    exact ⟨escape_ne_nil (withLead_ne_nil _ (decapitalise_ne_nil hne)), isReserved_escape _⟩

/-- A case name of its own that starts with a back quote is a reserved word between back quotes. -/
theorem exists_backquoted_of_startsQuoted_ofLabel {raw emptyName lead : String} {name : List Char}
    (h : labelStem raw.toList = some name) (hlead : startsQuoted lead.toList = false)
    (hquoted : startsQuoted (ofLabel raw emptyName lead).toList = true) :
    ∃ w, isReserved w = true ∧ (ofLabel raw emptyName lead).toList = backquoted w := by
  obtain ⟨hname, -⟩ := normalise_of_labelStem h
  rw [toList_ofLabel_of_labelStem h] at hquoted ⊢
  split at hquoted
  · next hstart =>
    obtain ⟨hres, hback⟩ := startsQuoted_normalise (hname ▸ hstart)
    rw [if_pos hstart, ← hname]
    exact ⟨_, hres, hback⟩
  · next hstart =>
    rw [if_neg hstart]
    rcases startsQuoted_of_escape hquoted with ⟨hres, hback⟩ | hquoted
    · exact ⟨_, hres, hback⟩
    · exact absurd (startsQuoted_of_decapitalise (startsQuoted_of_withLead hlead hquoted)) hstart

/-- **The case name of a label is neither blank nor a bare reserved word**, if that holds of the
name for labels without one of their own; and it starts with a back quote only as a reserved word
between back quotes, unless the given texts start with one. -/
theorem ofLabelValue_escaped (raw emptyName lead : String) (hne : emptyName ≠ "")
    (hfree : isReserved emptyName.toList = false) :
    ∃ s, ofLabelValue (.text raw) (.text emptyName) (.text lead) = .ok (.text s) ∧
      s ≠ "" ∧ isReserved s.toList = false ∧
      (startsQuoted emptyName.toList = false → startsQuoted lead.toList = false →
        startsQuoted s.toList = true → ∃ w, isReserved w = true ∧ s.toList = backquoted w) := by
  refine ⟨_, ofLabelValue_text raw emptyName lead, ?_⟩
  cases hstem : labelStem raw.toList with
  | none =>
    rw [ofLabel_of_labelStem_eq_none hstem]
    refine ⟨hne, hfree, fun hempty _ hquoted => ?_⟩
    rw [hempty] at hquoted
    cases hquoted
  | some name =>
    obtain ⟨hnil, hbare⟩ := ofLabel_of_labelStem hstem emptyName lead
    refine ⟨fun hblank => hnil ?_, hbare, fun _ hlead hquoted => ?_⟩
    · rw [hblank, String.toList_empty]
    · exact exists_backquoted_of_startsQuoted_ofLabel hstem hlead hquoted

/-- `DID-SET` is lower-cased, joined to `didSet`, and only then a reserved word. -/
theorem ofLabelValue_escaped_didSet :
    "empty" ≠ "" ∧ isReserved "empty".toList = false ∧
      startsQuoted "empty".toList = false ∧ startsQuoted "N".toList = false ∧
      ∃ s, ofLabelValue (.text "DID-SET") (.text "empty") (.text "N") = .ok (.text s) ∧
        s ≠ "" ∧ isReserved s.toList = false ∧ startsQuoted s.toList = true ∧
        ∃ w, isReserved w = true ∧ s.toList = backquoted w := by
  have hne : "empty" ≠ "" := by decide
  have hfree : isReserved "empty".toList = false := by decide
  have hempty : startsQuoted "empty".toList = false := by decide
  have hlead : startsQuoted "N".toList = false := by decide
  obtain ⟨s, hs, hblank, hbare, hquoted⟩ := ofLabelValue_escaped "DID-SET" "empty" "N" hne hfree
  have hstart : startsQuoted s.toList = true := by
    rw [ofLabelValue_text, Except.ok.injEq, Value.text.injEq] at hs
    rw [← hs]
    decide
  exact ⟨hne, hfree, hempty, hlead, s, hs, hblank, hbare, hstart, hquoted hempty hlead hstart⟩

end SwiftText.Identifier
