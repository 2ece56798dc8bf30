import SwiftText.Identifier.EnumCase
import SwiftText.Identifier.ModuleName
import SwiftText.Proofs.Identifier.Scan
import SwiftText.Proofs.Reserved
import SwiftText.Proofs.Unicode.CaseMap

/-!
# The characters of normalised names

The separators are dropped before any letter changes its case, and the forms that letters then take
are not looked at again. Some of them have a combining mark, which is no identifier character. So a
normalised name may have such marks in it, in two ways only: a later segment starts with a letter of
`markedCapitals`, or a capital dotted `İ` is put in lower case.

* `IsIdentifier`: what a normalised name should be.
* `isWord_of_mem_scan`, `exists_mark_mem_scan`: the joined segments are identifier characters if and
  only if no later segment starts with a letter of the list.
* `isIdentifier_ofName_iff`, `isIdentifier_ofModule_iff`, `isIdentifier_ofLabel_iff`: for each kind
  of name, exactly when it is an identifier.
* `isIdentifier_iff`: the three together.
-/

namespace SwiftText.Identifier

open Unicode Reserved

variable {form : List Char → List Char} {separator : Char → Bool} {s : List Char}

/-- What a normalised name should be: a reserved word in some form between back quotes, or
identifier characters only. -/
def IsIdentifier (form : List Char → List Char) (s : List Char) : Prop :=
  (∃ w, isReserved w = true ∧ s = backquoted (form w)) ∨ ∀ c ∈ s, isWord c = true

/-- No segment after the first one starts with a letter whose upper-case form has combining marks in
it. -/
def UnmarkedStarts (separator : Char → Bool) (s : List Char) : Prop :=
  ∀ d c, [d, c] <:+: s → separator d = true → c.toNat ∉ markedCapitals

/-- The only character of an identifier that may be no identifier character is the back quote. -/
theorem IsIdentifier.eq_of_mem (h : IsIdentifier form s)
    (hform : ∀ w, isReserved w = true → ∀ c ∈ form w, isWord c = true) {x : Char} (hx : x ∈ s)
    (hword : isWord x = false) : x = '\x60' := by
  rcases h with ⟨w, hw, rfl⟩ | h
  · simp only [backquoted, List.cons_append, List.mem_cons, List.mem_append, List.not_mem_nil,
      or_false] at hx
    rcases hx with hx | hx | hx
    · exact hx
    · rw [hform w hw x hx] at hword
      cases hword
    · exact hx
  · rw [h x hx] at hword
    cases hword

/-- A kind of separators: what is none is an identifier character, and of these only the low line
may be one. -/
structure Separates (separator : Char → Bool) : Prop where
  isWord_of_not : ∀ c, separator c = false → isWord c = true
  not_of_isWord : ∀ c, isWord c = true → c ≠ '_' → separator c = false

theorem separates_names : Separates separatesNames where
  isWord_of_not c hc := by simpa [separatesNames] using hc
  not_of_isWord c hc _ := by simp [separatesNames, hc]

theorem separates_modules : Separates separatesModules where
  isWord_of_not c hc := by
    simp only [separatesModules, Bool.or_eq_false_iff, Bool.not_eq_false'] at hc
    exact hc.1
  not_of_isWord c hc hlow := by simp [separatesModules, hc, hlow]

/-! ## Reserved words -/

theorem Separates.not_of_isReserved (hsep : Separates separator) (h : isReserved s = true) {c : Char}
    (hc : c ∈ s) : separator c = false := by
  have hlow : c ≠ '_' := by
    rintro rfl
    exact absurd (isAlpha_of_isReserved h hc) (by decide)
  exact hsep.not_of_isWord c (isWord_of_isReserved h hc) hlow

/-- A reserved word has no separator in it. -/
theorem unmarkedStarts_of_isReserved (hsep : Separates separator) (h : isReserved s = true) :
    UnmarkedStarts separator s := by
  intro d c hnext hd
  rw [hsep.not_of_isReserved h (hnext.subset List.mem_cons_self)] at hd
  cases hd

theorem dottedI_not_mem_of_isReserved (h : isReserved s = true) : 'İ' ∉ s := fun hmem =>
  absurd (isAlpha_of_isReserved h hmem) (by decide)

theorem isWord_of_mem_id (w : List Char) (h : isReserved w = true) :
    ∀ c ∈ id w, isWord c = true := fun _ => isWord_of_isReserved h

theorem isWord_of_mem_lower (w : List Char) (h : isReserved w = true) :
    ∀ c ∈ lower w, isWord c = true := by
  rw [forall_mem_lower_isWord]
  intro c hc x hx
  refine isWord_of_mem_lowerChar (isWord_of_isReserved h hc) ?_ hx
  rintro rfl
  exact dottedI_not_mem_of_isReserved h hc

/-! ## The joined segments -/

theorem isWord_of_mem_scan (hsep : Separates separator) (h : UnmarkedStarts separator s) {x : Char}
    (hx : x ∈ scan separator false s) : isWord x = true := by
  obtain ⟨c, -, hc, rfl | ⟨hxc, d, hd, hnext⟩⟩ := mem_scan hx
  · exact hsep.isWord_of_not x hc
  · exact isWord_of_mem_upperChar (hsep.isWord_of_not c hc) (h d c hnext hd) hxc

/-- **A later segment that starts with a letter of the list leaves a mark**, one that lower-casing
does not change. -/
theorem exists_mark_mem_scan (hsep : Separates separator) {d c : Char} (hnext : [d, c] <:+: s)
    (hd : separator d = true) (hm : c.toNat ∈ markedCapitals) :
    ∃ x ∈ scan separator false s, isWord x = false ∧ x ≠ '\x60' ∧ lowerChar x = [x] := by
  obtain ⟨x, hx, hmark⟩ := exists_mark_of_mem_markedCapitals hm
  have hlow : c ≠ '_' := by
    rintro rfl
    exact absurd hm (by decide)
  have hc : separator c = false := hsep.not_of_isWord c (isWord_of_mem_markedCapitals hm) hlow
  exact ⟨x, mem_scan_of_infix hnext hd hc hx false, hmark⟩

/-! ## Names -/

theorem withLead_backquoted (lead s : List Char) :
    withLead lead (backquoted s) = backquoted s := by
  have hquote : isDigit '\x60' = false := rfl
  simp [withLead, startsWithDigit, backquoted, hquote]

theorem mem_withLead {x : Char} (lead : List Char) (hx : x ∈ s) : x ∈ withLead lead s := by
  unfold withLead
  split
  · exact List.mem_append_right lead hx
  · exact hx

theorem isWord_of_mem_withLead {lead : List Char} (hlead : ∀ c ∈ lead, isWord c = true)
    (hs : ∀ c ∈ s, isWord c = true) : ∀ c ∈ withLead lead s, isWord c = true := by
  unfold withLead
  split
  · exact List.forall_mem_append.2 ⟨hlead, hs⟩
  · exact hs

/-- **Exactly when the identifier of a name is one.** -/
theorem isIdentifier_ofName_iff (raw lead : String) (hlead : ∀ c ∈ lead.toList, isWord c = true) :
    IsIdentifier id (ofName raw lead).toList ↔ UnmarkedStarts separatesNames raw.toList := by
  rw [ofName, String.toList_ofList]
  cases hres : isReserved raw.toList with
  | true =>
    rw [normalise_of_isReserved hres, withLead_backquoted]
    exact iff_of_true (Or.inl ⟨raw.toList, hres, rfl⟩)
      (unmarkedStarts_of_isReserved separates_names hres)
  | false =>
    rw [normalise_eq_scan hres]
    constructor
    · intro h d c hnext hd hm
      obtain ⟨x, hx, hword, hquote, -⟩ := exists_mark_mem_scan separates_names hnext hd hm
      exact hquote (h.eq_of_mem isWord_of_mem_id (mem_withLead _ hx) hword)
    · intro h
      exact Or.inr (isWord_of_mem_withLead hlead fun x hx =>
        isWord_of_mem_scan separates_names h hx)

/-! ## Module names -/

theorem lower_backquoted {w : List Char} (h : 'Σ' ∉ w) :
    lower (backquoted w) = backquoted (lower w) := by
  have hquote : lowerChar '\x60' = ['\x60'] := rfl
  have hmem : 'Σ' ∉ backquoted w := by simp [backquoted, h]
  rw [lower_eq_flatMap hmem, lower_eq_flatMap h]
  simp [backquoted, hquote]

/-- Dots and low lines both separate, so flattening a path makes no difference to the pass. -/
theorem scan_flattenPath (after : Bool) (s : List Char) :
    scan separatesModules after (flattenPath s) = scan separatesModules after s := by
  have hdot : separatesModules '.' = true := rfl
  have hlow : separatesModules '_' = true := rfl
  induction s generalizing after with
  | nil => rfl
  | cons c s ih =>
    simp only [flattenPath, List.map_cons, beq_iff_eq] at ih ⊢
    by_cases hc : c = '.'
    · subst hc
      rw [if_pos rfl, scan_separator hlow, scan_separator hdot, ih]
    · simp only [hc, if_false, scan, ih]

/-- A path without a dot is flat. -/
theorem flattenPath_of_forall_ne (h : ∀ c ∈ s, c ≠ '.') : flattenPath s = s := by
  rw [flattenPath, List.map_congr_left (g := id) fun c hc => by simp [h c hc], List.map_id]

theorem flattenPath_of_isReserved (h : isReserved s = true) : flattenPath s = s := by
  refine flattenPath_of_forall_ne ?_
  rintro c hc rfl
  exact absurd (isAlpha_of_isReserved h hc) (by decide)

/-- A path that is a reserved word once it is flattened is one before. -/
theorem isReserved_of_flattenPath (h : isReserved (flattenPath s) = true) : isReserved s = true := by
  have hdot : ∀ c ∈ s, c ≠ '.' := by
    rintro c hc rfl
    have hlow : '_' ∈ flattenPath s := List.mem_map.2 ⟨'.', hc, rfl⟩
    exact absurd (isAlpha_of_isReserved h hlow) (by decide)
  rwa [flattenPath_of_forall_ne hdot] at h

/-- **The identifier of a module** is the path itself in back quotes, if it is a reserved word, and
its joined segments otherwise, in lower case. -/
theorem toList_ofModule (raw : String) :
    (ofModule raw).toList =
      if isReserved raw.toList then backquoted (lower raw.toList)
      else lower (scan separatesModules false raw.toList) := by
  rw [ofModule, String.toList_ofList, normaliseModule]
  cases hres : isReserved raw.toList with
  | true =>
    have hsigma : 'Σ' ∉ raw.toList := fun h => absurd (isAlpha_of_isReserved hres h) (by decide)
    simp only [flattenPath_of_isReserved hres, hres, if_true, lower_backquoted hsigma]
  | false =>
    have hflat : isReserved (flattenPath raw.toList) = false := by
      by_contra h
      rw [isReserved_of_flattenPath (by simpa using h)] at hres
      cases hres
    simp [hflat, camelCase_eq_scan, scan_flattenPath]

/-- **The joined segments in lower case are identifier characters** if no later one starts with a
letter of the list and there is no dotted `İ`. -/
theorem isWord_of_mem_lower_scan (hsep : Separates separator) (hmarks : UnmarkedStarts separator s)
    (hdotted : 'İ' ∉ s) : ∀ x ∈ lower (scan separator false s), isWord x = true := by
  rw [forall_mem_lower_isWord]
  intro x hx y hy
  refine isWord_of_mem_lowerChar (isWord_of_mem_scan hsep hmarks hx) ?_ hy
  rintro rfl
  obtain ⟨c, hc, -, rfl | ⟨hxc, -⟩⟩ := mem_scan hx
  · exact hdotted hc
  · exact hdotted (eq_dottedI_of_mem_upperChar hxc ▸ hc)

/-- A dotted `İ` is kept as it is by the pass, whatever comes before it. -/
theorem dottedI_mem_scan (hsep : Separates separator) (h : 'İ' ∈ s) :
    'İ' ∈ scan separator false s := by
  have hc : separator 'İ' = false := hsep.not_of_isWord 'İ' rfl (by decide)
  rcases mem_scan_of_mem h hc false with h | h
  · exact h
  · exact h 'İ' (by simp [upperChar_dottedI])

theorem isIdentifier_lower_scan_iff (hsep : Separates separator) :
    IsIdentifier lower (lower (scan separator false s)) ↔
      UnmarkedStarts separator s ∧ 'İ' ∉ s := by
  constructor
  · intro h
    -- In lower case a character gives identifier characters and back quotes only.
    have hall : ∀ x ∈ scan separator false s, ∀ y ∈ lowerChar x, isWord y = false → y = '\x60' :=
      (forall_mem_lower (P := fun y => isWord y = false → y = '\x60') (by decide) (by decide) _).1
        fun y hy => h.eq_of_mem isWord_of_mem_lower hy
    constructor
    · intro d c hnext hd hm
      obtain ⟨x, hx, hword, hquote, hlower⟩ := exists_mark_mem_scan hsep hnext hd hm
      exact hquote (hall x hx x (by simp [hlower]) hword)
    · intro hmem
      have hdot : '\u0307' ∈ lowerChar 'İ' := by simp [lowerChar_dottedI]
      exact absurd (hall 'İ' (dottedI_mem_scan hsep hmem) '\u0307' hdot rfl) (by decide)
  · rintro ⟨hmarks, hdotted⟩
    exact Or.inr (isWord_of_mem_lower_scan hsep hmarks hdotted)

/-- **Exactly when the identifier of a module is one.** -/
theorem isIdentifier_ofModule_iff (raw : String) :
    IsIdentifier lower (ofModule raw).toList ↔
      UnmarkedStarts separatesModules raw.toList ∧ 'İ' ∉ raw.toList := by
  rw [toList_ofModule]
  split
  · next hres =>
    exact iff_of_true (Or.inl ⟨raw.toList, hres, rfl⟩)
      ⟨unmarkedStarts_of_isReserved separates_modules hres, dottedI_not_mem_of_isReserved hres⟩
  · exact isIdentifier_lower_scan_iff separates_modules

/-! ## The first character in lower case -/

theorem mem_decapitalise {x : Char} (hx : x ∈ s) (hlower : lowerChar x = [x]) :
    x ∈ decapitalise s := by
  cases s with
  | nil => exact hx
  | cons c rest =>
    rcases List.mem_cons.1 hx with rfl | hx
    · exact List.mem_append_left _ (by simp [hlower])
    · exact List.mem_append_right _ hx

theorem isWord_of_mem_decapitalise (hs : ∀ c ∈ s, isWord c = true) (hi : s.head? ≠ some 'İ') :
    ∀ x ∈ decapitalise s, isWord x = true := by
  cases s with
  | nil => exact hs
  | cons c rest =>
    intro x hx
    have hc : c ≠ 'İ' := by
      rintro rfl
      exact hi rfl
    rcases List.mem_append.1 hx with hx | hx
    · exact isWord_of_mem_lowerChar (hs c List.mem_cons_self) hc hx
    · exact hs x (List.mem_cons_of_mem c hx)

theorem mem_escape {x : Char} (hx : x ∈ s) : x ∈ escape s := by
  unfold escape
  split
  · exact List.mem_cons_of_mem _ (List.mem_append_left _ hx)
  · exact hx

theorem isIdentifier_escape (hs : ∀ c ∈ s, isWord c = true) : IsIdentifier id (escape s) := by
  unfold escape
  split
  · next h => exact Or.inl ⟨s, h, rfl⟩
  · exact Or.inr hs

/-- The dotted `İ` is its own capital and the capital of nothing else. -/
theorem head?_scan_eq_dottedI_iff :
    (scan separatesNames false s).head? = some 'İ' ↔ s.find? isWord = some 'İ' := by
  have hsep : s.find? (fun c => !separatesNames c) = s.find? isWord := by
    congr 1
    funext c
    simp [separatesNames]
  cases hfind : s.find? isWord with
  | none => simp [scan_of_find?_eq_none (hsep.trans hfind)]
  | some c =>
    obtain ⟨rest, h | h⟩ := scan_of_find? (hsep.trans hfind)
    · simp [h]
    · rw [h, Option.some.injEq]
      constructor
      · intro hhead
        have hmem : 'İ' ∈ upperChar c := by
          obtain ⟨x, u, hu⟩ := List.exists_cons_of_ne_nil (upperChar_ne_nil c)
          rw [hu, List.cons_append, List.head?_cons, Option.some.injEq] at hhead
          rw [hu, hhead]
          exact List.mem_cons_self
        exact eq_dottedI_of_mem_upperChar hmem
      · rintro rfl
        rw [upperChar_dottedI]
        rfl

/-! ## Labels in all capitals -/

/-- The letters of the list are small letters. -/
theorem not_mem_markedCapitals_of_isAllCapitals {c : Char} (h : isAllCapitals s = true)
    (hc : c ∈ s) : c.toNat ∉ markedCapitals := by
  intro hm
  simp only [isAllCapitals, Bool.and_eq_true, Bool.not_eq_true', List.any_eq_false,
    Bool.or_eq_true, not_or, Bool.not_eq_true] at h
  have hlow := (h.2 c hc).1
  rw [isLowercase_of_mem_markedCapitals hm] at hlow
  cases hlow

theorem unmarkedStarts_of_isAllCapitals (h : isAllCapitals s = true) :
    UnmarkedStarts separator s := by
  intro d c hnext _
  have hc : c ∈ s := hnext.subset (List.mem_cons_of_mem d List.mem_cons_self)
  exact not_mem_markedCapitals_of_isAllCapitals h hc

/-- The text that the case name of a label is made of. -/
def labelText (raw : List Char) : List Char := if isAllCapitals raw then lower raw else raw

/-- A label in all capitals is lower-cased first, after which no letter of the list is left in it,
and no dotted `İ`. -/
theorem labelText_of_isAllCapitals {raw : List Char} (h : isAllCapitals raw = true) :
    ∀ c ∈ labelText raw, c.toNat ∉ markedCapitals ∧ c ≠ 'İ' := by
  rw [labelText, if_pos h, forall_mem_lower (by decide) (by decide)]
  intro c hc x hx
  constructor
  · intro hm
    obtain rfl := eq_of_mem_markedCapitals_lowerChar hm hx
    exact not_mem_markedCapitals_of_isAllCapitals h hc hm
  · rintro rfl
    exact dottedI_not_mem_lowerChar c hx

/-! ## The case name of a label -/

theorem toList_ofLabel_of_labelStem {raw emptyName lead : String} {name : List Char}
    (h : labelStem raw.toList = some name) :
    (ofLabel raw emptyName lead).toList =
      if startsQuoted name then name else escape (withLead lead.toList (decapitalise name)) := by
  delta ofLabel enumCase?
  rw [h, Option.map_some, String.toList_ofList]

theorem ofLabel_of_labelStem_eq_none {raw emptyName lead : String}
    (h : labelStem raw.toList = none) : ofLabel raw emptyName lead = emptyName := by
  delta ofLabel enumCase?
  rw [h, Option.map_none]

theorem labelStem_eq (raw : List Char) :
    labelStem raw =
      if normalise (labelText raw) = [] ∨ normalise (labelText raw) = ['_'] then none
      else some (normalise (labelText raw)) := rfl

theorem normalise_of_labelStem {raw name : List Char} (h : labelStem raw = some name) :
    normalise (labelText raw) = name ∧ name ≠ [] := by
  rw [labelStem_eq] at h
  split at h
  · cases h
  · next hne =>
    obtain rfl := Option.some.inj h
    exact ⟨rfl, fun hnil => hne (Or.inl hnil)⟩

theorem labelStem_of_mem {raw : List Char} {x : Char} (hx : x ∈ normalise (labelText raw))
    (hlow : x ≠ '_') : labelStem raw = some (normalise (labelText raw)) := by
  rw [labelStem_eq]
  refine if_neg ?_
  rintro (h | h)
  · rw [h] at hx
    cases hx
  · rw [h, List.mem_singleton] at hx
    exact hlow hx

/-- A mark that lower-casing does not change is still there in the case name. -/
theorem mem_ofLabel {raw emptyName lead : String} {x : Char}
    (hx : x ∈ normalise (labelText raw.toList)) (hword : isWord x = false)
    (hlower : lowerChar x = [x]) : x ∈ (ofLabel raw emptyName lead).toList := by
  have hlow : x ≠ '_' := by
    rintro rfl
    exact absurd hword (by decide)
  rw [toList_ofLabel_of_labelStem (labelStem_of_mem hx hlow)]
  split
  · exact hx
  · exact mem_escape (mem_withLead _ (mem_decapitalise hx hlower))

/-- A dotted `İ` at the start is lower-cased, which leaves its dot. -/
theorem dot_mem_ofLabel {raw emptyName lead : String} {rest : List Char}
    (h : normalise (labelText raw.toList) = 'İ' :: rest) :
    '\u0307' ∈ (ofLabel raw emptyName lead).toList := by
  have hmem : 'İ' ∈ normalise (labelText raw.toList) := h ▸ List.mem_cons_self
  rw [toList_ofLabel_of_labelStem (labelStem_of_mem hmem (by decide)), h,
    if_neg (by simp [startsQuoted])]
  refine mem_escape (mem_withLead _ ?_)
  simp [decapitalise, lowerChar_dottedI]

/-- **The case name is an identifier** if no later segment starts with a letter of the list and the
first identifier character is no dotted `İ`. -/
theorem isIdentifier_ofLabel_of_labelText {raw emptyName lead : String}
    (hempty : ∀ c ∈ emptyName.toList, isWord c = true)
    (hlead : ∀ c ∈ lead.toList, isWord c = true)
    (hmarks : UnmarkedStarts separatesNames (labelText raw.toList))
    (hdotted : (labelText raw.toList).find? isWord ≠ some 'İ') :
    IsIdentifier id (ofLabel raw emptyName lead).toList := by
  cases hstem : labelStem raw.toList with
  | none =>
    rw [ofLabel_of_labelStem_eq_none hstem]
    exact Or.inr hempty
  | some name =>
    obtain ⟨hname, -⟩ := normalise_of_labelStem hstem
    rw [toList_ofLabel_of_labelStem hstem]
    cases hres : isReserved (labelText raw.toList) with
    | true =>
      rw [normalise_of_isReserved hres] at hname
      rw [if_pos (by simp [← hname, startsQuoted, backquoted])]
      exact Or.inl ⟨_, hres, hname.symm⟩
    | false =>
      rw [normalise_eq_scan hres] at hname
      have hwords : ∀ x ∈ name, isWord x = true := by
        rw [← hname]
        exact fun x hx => isWord_of_mem_scan separates_names hmarks hx
      have hhead : name.head? ≠ some 'İ' := by
        rw [← hname]
        exact fun h => hdotted (head?_scan_eq_dottedI_iff.1 h)
      split
      · exact Or.inr hwords
      · exact isIdentifier_escape
          (isWord_of_mem_withLead hlead (isWord_of_mem_decapitalise hwords hhead))

/-- A marked letter after a separator leaves a mark in the case name as well. -/
theorem unmarkedStarts_of_isIdentifier_ofLabel {raw emptyName lead : String}
    (h : IsIdentifier id (ofLabel raw emptyName lead).toList)
    (htext : labelText raw.toList = raw.toList) : UnmarkedStarts separatesNames raw.toList := by
  cases hres : isReserved raw.toList with
  | true => exact unmarkedStarts_of_isReserved separates_names hres
  | false =>
    intro d c hnext hd hm
    obtain ⟨x, hx, hword, hquote, hlower⟩ := exists_mark_mem_scan separates_names hnext hd hm
    rw [← normalise_eq_scan hres, ← htext] at hx
    exact hquote (h.eq_of_mem isWord_of_mem_id (mem_ofLabel hx hword hlower) hword)

/-- A dotted `İ` at the start leaves its dot. -/
theorem find?_ne_of_isIdentifier_ofLabel {raw emptyName lead : String}
    (h : IsIdentifier id (ofLabel raw emptyName lead).toList)
    (htext : labelText raw.toList = raw.toList) : raw.toList.find? isWord ≠ some 'İ' := by
  intro hfind
  have hres : isReserved raw.toList = false := by
    by_contra hres
    exact dottedI_not_mem_of_isReserved (by simpa using hres) (List.mem_of_find?_eq_some hfind)
  obtain ⟨rest, hrest⟩ := List.head?_eq_some_iff.1 (head?_scan_eq_dottedI_iff.2 hfind)
  rw [← normalise_eq_scan hres, ← htext] at hrest
  exact absurd (h.eq_of_mem isWord_of_mem_id (dot_mem_ofLabel hrest) rfl) (by decide)

/-- **Exactly when the case name of a label is an identifier.** -/
theorem isIdentifier_ofLabel_iff (raw emptyName lead : String)
    (hempty : ∀ c ∈ emptyName.toList, isWord c = true)
    (hlead : ∀ c ∈ lead.toList, isWord c = true) :
    IsIdentifier id (ofLabel raw emptyName lead).toList ↔
      UnmarkedStarts separatesNames raw.toList ∧
        (isAllCapitals raw.toList = true ∨ raw.toList.find? isWord ≠ some 'İ') := by
  cases hcaps : isAllCapitals raw.toList with
  | true =>
    have htext := labelText_of_isAllCapitals hcaps
    refine iff_of_true (isIdentifier_ofLabel_of_labelText hempty hlead ?_ ?_)
      ⟨unmarkedStarts_of_isAllCapitals hcaps, Or.inl rfl⟩
    · exact fun d c hnext _ => (htext c (hnext.subset (by simp))).1
    · exact fun h => (htext 'İ' (List.mem_of_find?_eq_some h)).2 rfl
  | false =>
    have htext : labelText raw.toList = raw.toList := by simp [labelText, hcaps]
    constructor
    · intro h
      exact ⟨unmarkedStarts_of_isIdentifier_ofLabel h htext,
        Or.inr (find?_ne_of_isIdentifier_ofLabel h htext)⟩
    · rintro ⟨hmarks, hdotted⟩
      have hdotted := hdotted.resolve_left (by simp)
      rw [← htext] at hmarks hdotted
      exact isIdentifier_ofLabel_of_labelText hempty hlead hmarks hdotted

/-! ## The three kinds of names -/

/-- **Exactly when a normalised name is an identifier**, for the three kinds of names. -/
theorem isIdentifier_iff (raw emptyName lead : String)
    (hempty : ∀ c ∈ emptyName.toList, isWord c = true)
    (hlead : ∀ c ∈ lead.toList, isWord c = true) :
    (IsIdentifier id (ofName raw lead).toList ↔ UnmarkedStarts separatesNames raw.toList) ∧
      (IsIdentifier lower (ofModule raw).toList ↔
        UnmarkedStarts separatesModules raw.toList ∧ 'İ' ∉ raw.toList) ∧
      (IsIdentifier id (ofLabel raw emptyName lead).toList ↔
        UnmarkedStarts separatesNames raw.toList ∧
          (isAllCapitals raw.toList = true ∨ raw.toList.find? isWord ≠ some 'İ')) :=
  ⟨isIdentifier_ofName_iff raw lead hlead, isIdentifier_ofModule_iff raw,
    isIdentifier_ofLabel_iff raw emptyName lead hempty hlead⟩

/-- The letter `ΐ` after a separator: all three kinds of names have marks in them. -/
theorem isIdentifier_iff_marked :
    (∀ c ∈ "empty".toList, isWord c = true) ∧ (∀ c ∈ "_".toList, isWord c = true) ∧
      ¬ IsIdentifier id (ofName "-\u0390" "_").toList ∧
      ¬ IsIdentifier lower (ofModule "-\u0390").toList ∧
      ¬ IsIdentifier id (ofLabel "-\u0390" "empty" "_").toList := by
  have hempty : ∀ c ∈ "empty".toList, isWord c = true := List.all_eq_true.1 rfl
  have hlead : ∀ c ∈ "_".toList, isWord c = true := List.all_eq_true.1 rfl
  have hnext : ['-', '\u0390'] <:+: "-\u0390".toList := ⟨[], [], by decide⟩
  obtain ⟨hname, hmodule, hlabel⟩ := isIdentifier_iff "-\u0390" "empty" "_" hempty hlead
  refine ⟨hempty, hlead, fun h => ?_, fun h => ?_, fun h => ?_⟩
  · exact hname.1 h '-' '\u0390' hnext rfl (by decide)
  · exact (hmodule.1 h).1 '-' '\u0390' hnext rfl (by decide)
  · exact (hlabel.1 h).1 '-' '\u0390' hnext rfl (by decide)

/-- The upper-case form of `ΐ` ends in two combining marks, which stay in the name. -/
theorem not_isIdentifier_ofName_marked :
    ofName "-\u0390" = "\u0399\u0308\u0301" ∧ ¬ IsIdentifier id (ofName "-\u0390").toList := by
  have heq : ofName "-\u0390" = "\u0399\u0308\u0301" := by decide
  refine ⟨heq, fun h => ?_⟩
  have hmark : '\u0308' ∈ (ofName "-\u0390").toList := by
    rw [heq]
    decide
  exact absurd (h.eq_of_mem isWord_of_mem_id hmark rfl) (by decide)

end SwiftText.Identifier
