import SwiftText.Identifier

/-!
# Camel case in one pass

Cutting a text into segments, capitalising all but the first and joining them comes to the same as
one pass over its characters: separators are dropped, a character right after one is put in upper
case, and any other character is kept.

* `camelCase_eq_scan`: the two agree.
* `scan_append`: the pass over a text goes on with the rest, knowing only whether the last character
  was a separator.
* `mem_scan`: what a character of the result comes from.
* `mem_scan_of_mem`, `mem_scan_of_infix`: what the characters of the text give.
* `normalise_eq_scan`: the identifier of a name that is no reserved word is such a pass.
-/

namespace SwiftText.Identifier

open Unicode

variable {separator : Char → Bool}

/-- The camel-case form of a text in one pass. The flag tells whether a separator comes right before
the text. -/
def scan (separator : Char → Bool) (after : Bool) : List Char → List Char
  | [] => []
  | c :: rest =>
    if separator c then scan separator true rest
    else (if after then upperChar c else [c]) ++ scan separator false rest

theorem scan_separator {c : Char} (h : separator c = true) (after : Bool) (rest : List Char) :
    scan separator after (c :: rest) = scan separator true rest := by
  simp [scan, h]

theorem scan_kept {c : Char} (h : separator c = false) (rest : List Char) :
    scan separator false (c :: rest) = c :: scan separator false rest := by
  simp [scan, h]

theorem scan_capitalised {c : Char} (h : separator c = false) (rest : List Char) :
    scan separator true (c :: rest) = upperChar c ++ scan separator false rest := by
  simp [scan, h]

/-! ## Segments and the pass -/

theorem camelCase_of_not_separator {c : Char} (h : separator c = false) (rest : List Char) :
    camelCase separator (c :: rest) = c :: camelCase separator rest := by
  simp [camelCase, segments, h]

/-- After a separator the first character that is none is put in upper case. -/
theorem camelCase_separator_cons {d c : Char} (hd : separator d = true) (hc : separator c = false)
    (rest : List Char) :
    camelCase separator (d :: c :: rest) = upperChar c ++ camelCase separator rest := by
  simp [camelCase, segments, hd, hc, capitalise]

theorem camelCase_separator_separator {d c : Char} (hd : separator d = true)
    (hc : separator c = true) (rest : List Char) :
    camelCase separator (d :: c :: rest) = camelCase separator (c :: rest) := by
  simp [camelCase, segments, hd, hc]

/-- **Cutting, capitalising and joining is one pass.** -/
theorem camelCase_eq_scan (separator : Char → Bool) :
    ∀ s : List Char, camelCase separator s = scan separator false s
  | [] => rfl
  | [c] => by
    cases hc : separator c with
    | true => simp [camelCase, segments, scan, hc, capitalise]
    | false => simp [camelCase, segments, scan, hc]
  | d :: c :: rest => by
    cases hd : separator d with
    | false =>
      rw [camelCase_of_not_separator hd, camelCase_eq_scan separator (c :: rest), scan_kept hd]
    | true =>
      rw [scan_separator hd]
      cases hc : separator c with
      | true =>
        rw [camelCase_separator_separator hd hc, camelCase_eq_scan separator (c :: rest),
          scan_separator hc, scan_separator hc]
      | false =>
        rw [camelCase_separator_cons hd hc, camelCase_eq_scan separator rest, scan_capitalised hc]

/-! ## The pass over parts of a text -/

/-- Whether the last character before a position is a separator; before the first one there is what
the flag says. -/
def endsApart (separator : Char → Bool) (after : Bool) (s : List Char) : Bool :=
  (s.getLast?.map separator).getD after

theorem endsApart_cons (after : Bool) (c : Char) (s : List Char) :
    endsApart separator after (c :: s) = endsApart separator (separator c) s := by
  cases s with
  | nil => rfl
  | cons d s => simp [endsApart, List.getLast?_cons]

theorem scan_append (after : Bool) (s t : List Char) :
    scan separator after (s ++ t) =
      scan separator after s ++ scan separator (endsApart separator after s) t := by
  induction s generalizing after with
  | nil => rfl
  | cons c s ih =>
    rw [List.cons_append, endsApart_cons]
    cases hc : separator c with
    | true => rw [scan_separator hc, scan_separator hc, ih true]
    | false => simp [scan, hc, ih false]

theorem scan_of_forall_separator {s : List Char} (h : ∀ c ∈ s, separator c = true) (after : Bool) :
    scan separator after s = [] := by
  induction s generalizing after with
  | nil => rfl
  | cons c s ih =>
    obtain ⟨hc, hs⟩ := List.forall_mem_cons.1 h
    rw [scan_separator hc]
    exact ih hs true

/-- A run of separators only leaves its trace in the flag. -/
theorem scan_separators_append {d : List Char} (hne : d ≠ []) (h : ∀ c ∈ d, separator c = true)
    (after : Bool) (s : List Char) : scan separator after (d ++ s) = scan separator true s := by
  induction d generalizing after with
  | nil => exact absurd rfl hne
  | cons c d ih =>
    obtain ⟨hc, hd⟩ := List.forall_mem_cons.1 h
    rw [List.cons_append, scan_separator hc]
    by_cases hnil : d = []
    · rw [hnil, List.nil_append]
    · exact ih hnil hd true

theorem scan_kept_append {u : List Char} (h : ∀ c ∈ u, separator c = false) (s : List Char) :
    scan separator false (u ++ s) = u ++ scan separator false s := by
  induction u with
  | nil => rfl
  | cons c u ih =>
    obtain ⟨hc, hu⟩ := List.forall_mem_cons.1 h
    rw [List.cons_append, scan_kept hc, ih hu, List.cons_append]

/-- A text without separators is kept. -/
theorem scan_of_forall_kept {s : List Char} (h : ∀ c ∈ s, separator c = false) :
    scan separator false s = s := by
  have hkept := scan_kept_append h []
  rwa [List.append_nil, scan, List.append_nil] at hkept

/-! ## Where the characters of the result come from -/

/-- **A character of the result is kept, or stands in the upper-case form of a character right after
a separator.** The induction carries the text read so far, whose last character sets the flag. -/
theorem mem_scan {x : Char} {s : List Char} (hx : x ∈ scan separator false s) :
    ∃ c ∈ s, separator c = false ∧
      (x = c ∨ x ∈ upperChar c ∧ ∃ d, separator d = true ∧ [d, c] <:+: s) := by
  suffices h : ∀ before, x ∈ scan separator (endsApart separator false before) s →
      ∃ c ∈ s, separator c = false ∧
        (x = c ∨ x ∈ upperChar c ∧ ∃ d, separator d = true ∧ [d, c] <:+: before ++ s) from h [] hx
  clear hx
  induction s with
  | nil => intro before hx; cases hx
  | cons c s ih =>
    intro before hx
    -- What the rest of the text gives, with `c` among the characters read.
    have hrest : x ∈ scan separator (separator c) s → _ := fun h =>
      ih (before ++ [c]) (by simpa [endsApart] using h)
    simp only [List.append_assoc, List.singleton_append] at hrest
    cases hc : separator c with
    | true =>
      rw [scan_separator hc] at hx
      obtain ⟨e, he, hrest⟩ := hrest (hc ▸ hx)
      exact ⟨e, List.mem_cons_of_mem c he, hrest⟩
    | false =>
      rw [scan, if_neg (by simp [hc]), List.mem_append] at hx
      rcases hx with hx | hx
      · refine ⟨c, List.mem_cons_self, hc, ?_⟩
        split at hx
        · next hafter =>
          refine Or.inr ⟨hx, ?_⟩
          rcases List.eq_nil_or_concat before with rfl | ⟨u, d, rfl⟩
          · cases hafter
          · exact ⟨d, by simpa [endsApart] using hafter, u, s, by simp⟩
        · exact Or.inl (List.mem_singleton.1 hx)
      · obtain ⟨e, he, hrest⟩ := hrest (hc ▸ hx)
        exact ⟨e, List.mem_cons_of_mem c he, hrest⟩

/-- A character that is no separator is in the result, itself or its upper-case form. -/
theorem mem_scan_of_mem {c : Char} {s : List Char} (h : c ∈ s) (hc : separator c = false)
    (after : Bool) :
    c ∈ scan separator after s ∨ ∀ x ∈ upperChar c, x ∈ scan separator after s := by
  obtain ⟨u, v, rfl⟩ := List.append_of_mem h
  rw [scan_append]
  cases endsApart separator after u with
  | true =>
    rw [scan_capitalised hc]
    exact Or.inr fun x hx => List.mem_append_right _ (List.mem_append_left _ hx)
  | false =>
    rw [scan_kept hc]
    exact Or.inl (List.mem_append_right _ List.mem_cons_self)

/-- Right after a separator, the whole upper-case form of a character is in the result. -/
theorem mem_scan_of_infix {d c x : Char} {s : List Char} (h : [d, c] <:+: s)
    (hd : separator d = true) (hc : separator c = false) (hx : x ∈ upperChar c) (after : Bool) :
    x ∈ scan separator after s := by
  obtain ⟨u, v, rfl⟩ := h
  rw [List.append_assoc, scan_append, List.cons_append, List.cons_append, scan_separator hd,
    List.nil_append, scan_capitalised hc]
  exact List.mem_append_right _ (List.mem_append_left _ hx)

/-- The result starts with what the first character that is no separator gives. -/
theorem scan_of_find? {c : Char} {s : List Char} (h : s.find? (fun c => !separator c) = some c) :
    ∃ rest, scan separator false s = c :: rest ∨ scan separator false s = upperChar c ++ rest := by
  obtain ⟨hc, u, v, rfl, hu⟩ := List.find?_eq_some_iff_append.1 h
  have hc' : separator c = false := by simpa using hc
  refine ⟨scan separator false v, ?_⟩
  rw [scan_append, scan_of_forall_separator (by simpa using hu), List.nil_append]
  cases endsApart separator false u with
  | true => exact Or.inr (scan_capitalised hc' v)
  | false => exact Or.inl (scan_kept hc' v)

theorem scan_of_find?_eq_none {s : List Char} (h : s.find? (fun c => !separator c) = none)
    (after : Bool) : scan separator after s = [] :=
  scan_of_forall_separator (by simpa using h) after

/-! ## Names -/

/-- Whether a character separates the segments of a name. -/
def separatesNames (c : Char) : Bool := !isWord c

theorem normalise_of_isReserved {s : List Char} (h : Reserved.isReserved s = true) :
    normalise s = backquoted s := by
  rw [normalise, if_pos h]

theorem normalise_eq_scan {s : List Char} (h : Reserved.isReserved s = false) :
    normalise s = scan separatesNames false s := by
  rw [normalise, if_neg (by simp [h])]
  exact camelCase_eq_scan separatesNames s

end SwiftText.Identifier
