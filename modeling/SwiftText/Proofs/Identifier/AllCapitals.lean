import SwiftText.Proofs.Identifier.Nameless
import SwiftText.Proofs.Unicode.Ascii

/-!
# Labels in all capitals

The case name of a label of words in capitals, such as `DARK-RED`, is written down from its words:
the first one in small letters, each later one with its first character as it is and the rest in
small letters. What comes in between does not show: separators before the first word make a capital of
its first letter, which is lowered again in the end; a reserved word may be found in the label, in the
joined segments or after that, and is put between back quotes each time; and the label in small
letters, which is not lower-cased first, goes the same way.

* `CapitalWord`, `CapitalLabel`: such words, and such labels with their separators.
* `CapitalLabel.joined`: the camel-case form of the words.
* `labelText_text`, `labelText_small`: both spellings come to the same small letters.
* `decapitalise_scan_small`: the pass over these, with its first character in lower case, is the
  camel-case form.
* `ofLabelValue_capitalLabel`: the case name of the label in either spelling.
-/

namespace SwiftText.Identifier

open Unicode Reserved

variable {c : Char} {s : List Char}

/-! ## Characters -/

/-- Whether a character is a letter from `A` to `Z` or a digit from `0` to `9`. -/
def isCapital (c : Char) : Bool := c.isUpper || c.isDigit

/-- Whether a character of ASCII is no letter, no digit and no low line. -/
def separatesWords (c : Char) : Bool := c.toNat < 128 && !c.isAlphanum && c != '_'

theorem toNat_lt_of_isCapital (h : isCapital c = true) : c.toNat < 128 := by
  delta isCapital Char.isUpper Char.isDigit at h
  simp only [Bool.or_eq_true, Bool.and_eq_true, decide_eq_true_eq, ge_iff_le,
    UInt32.le_iff_toNat_le, Char.toNat_val] at h
  rcases h with ⟨-, h⟩ | ⟨-, h⟩
  · exact lt_of_le_of_lt h (by decide)
  · exact lt_of_le_of_lt h (by decide)

/-- What the tables say of a capital and of its small form. -/
structure CapitalForms (c : Char) : Prop where
  isNotSmall : (isLowercase c || isTitlecase c) = false
  isWord_small : isWord c.toLower = true
  small_ne_lowLine : c.toLower ≠ '_'
  upperChar_small : upperChar c.toLower = [c]
  lowerChar_small : lowerChar c.toLower = [c.toLower]

theorem capitalForms (h : isCapital c = true) : CapitalForms c := by
  obtain ⟨h₁, h₂, h₃, h₄, h₅⟩ := forall_ascii
    (P := fun c => isCapital c = true → (isLowercase c || isTitlecase c) = false ∧
      isWord c.toLower = true ∧ c.toLower ≠ '_' ∧ upperChar c.toLower = [c] ∧
      lowerChar c.toLower = [c.toLower])
    (by decide +kernel) (toNat_lt_of_isCapital h) h
  exact ⟨h₁, h₂, h₃, h₄, h₅⟩

theorem toNat_lt_of_separatesWords (h : separatesWords c = true) : c.toNat < 128 := by
  simp only [separatesWords, Bool.and_eq_true, decide_eq_true_eq] at h
  exact h.1.1

/-- What the tables say of a separator. -/
structure SeparatorForms (c : Char) : Prop where
  isNotSmall : (isLowercase c || isTitlecase c) = false
  separates : separatesNames c = true
  toLower_eq : c.toLower = c

theorem separatorForms (h : separatesWords c = true) : SeparatorForms c := by
  obtain ⟨h₁, h₂, h₃⟩ := forall_ascii
    (P := fun c => separatesWords c = true → (isLowercase c || isTitlecase c) = false ∧
      separatesNames c = true ∧ c.toLower = c)
    (by decide +kernel) (toNat_lt_of_separatesWords h) h
  exact ⟨h₁, h₂, h₃⟩

theorem separatesNames_of_separatesWords (h : ∀ c ∈ s, separatesWords c = true) :
    ∀ c ∈ s, separatesNames c = true := fun c hc => (separatorForms (h c hc)).separates

theorem map_toLower_of_separatesWords (h : ∀ c ∈ s, separatesWords c = true) :
    s.map Char.toLower = s := by
  conv_rhs => rw [← List.map_id s]
  exact List.map_congr_left fun c hc => (separatorForms (h c hc)).toLower_eq

/-! ## Words -/

/-- A word of letters from `A` to `Z` and digits. -/
structure CapitalWord where
  head : Char
  tail : List Char
  isCapital_of_mem : ∀ c ∈ head :: tail, isCapital c = true

namespace CapitalWord

/-- The word as it is written. -/
def text (w : CapitalWord) : List Char := w.head :: w.tail

/-- The word in small letters. -/
def small (w : CapitalWord) : List Char := w.text.map Char.toLower

/-- The word with its first character as it is and the rest in small letters. -/
def capitalised (w : CapitalWord) : List Char := w.head :: w.tail.map Char.toLower

variable (w : CapitalWord)

theorem isCapital_head : isCapital w.head = true := w.isCapital_of_mem _ List.mem_cons_self

theorem small_eq : w.small = w.head.toLower :: w.tail.map Char.toLower := rfl

theorem separatesNames_of_mem_small : ∀ c ∈ w.small, separatesNames c = false := by
  intro c hc
  obtain ⟨d, hd, rfl⟩ := List.mem_map.1 hc
  simp [separatesNames, (capitalForms (w.isCapital_of_mem d hd)).isWord_small]

/-- After a separator the pass gives back the first letter of a word. -/
theorem scan_true_small (t : List Char) :
    scan separatesNames true (w.small ++ t) = w.capitalised ++ scan separatesNames false t := by
  have hhead := w.separatesNames_of_mem_small w.head.toLower List.mem_cons_self
  have htail : ∀ c ∈ w.tail.map Char.toLower, separatesNames c = false := fun c hc =>
    w.separatesNames_of_mem_small c (List.mem_cons_of_mem _ hc)
  have hupper : upperChar w.head.toLower = [w.head] := (capitalForms w.isCapital_head).upperChar_small
  rw [small_eq, List.cons_append, scan_capitalised hhead, hupper, scan_kept_append htail]
  rfl

theorem decapitalise_small_append (t : List Char) : decapitalise (w.small ++ t) = w.small ++ t := by
  have hlower := (capitalForms w.isCapital_head).lowerChar_small
  rw [small_eq, List.cons_append, decapitalise, hlower]
  rfl

theorem decapitalise_capitalised_append (t : List Char) :
    decapitalise (w.capitalised ++ t) = w.small ++ t := by
  rw [capitalised, List.cons_append, decapitalise,
    lowerChar_of_ascii (toNat_lt_of_isCapital w.isCapital_head)]
  rfl

end CapitalWord

/-! ## Labels -/

/-- A label of words in capitals: runs of separators between them, and perhaps before the first and
after the last one. -/
structure CapitalLabel where
  before : List Char
  first : CapitalWord
  /-- The later words, each with the separators before it. -/
  others : List (List Char × CapitalWord)
  after : List Char
  before_separates : ∀ c ∈ before, separatesWords c = true
  others_separate : ∀ p ∈ others, p.1 ≠ [] ∧ ∀ c ∈ p.1, separatesWords c = true
  after_separates : ∀ c ∈ after, separatesWords c = true

namespace CapitalLabel

/-- The label with its words in some form. -/
def spelled (form : CapitalWord → List Char) (l : CapitalLabel) : List Char :=
  l.before ++ (form l.first ++ ((l.others.flatMap fun p => p.1 ++ form p.2) ++ l.after))

/-- The label as it is written. -/
def text (l : CapitalLabel) : List Char := l.spelled CapitalWord.text

/-- The camel-case form of the words: the first one in small letters, each later one with its first
character as it is. -/
def joined (l : CapitalLabel) : List Char :=
  l.first.small ++ l.others.flatMap fun p => p.2.capitalised

variable (l : CapitalLabel)

/-- A character of the label is one of a word or a separator. -/
theorem mem_text {c : Char} (hc : c ∈ l.text) : isCapital c = true ∨ separatesWords c = true := by
  simp only [text, spelled, List.mem_append, List.mem_flatMap] at hc
  rcases hc with hc | hc | ⟨p, hp, hc | hc⟩ | hc
  · exact Or.inr (l.before_separates c hc)
  · exact Or.inl (l.first.isCapital_of_mem c hc)
  · exact Or.inr ((l.others_separate p hp).2 c hc)
  · exact Or.inl (p.2.isCapital_of_mem c hc)
  · exact Or.inr (l.after_separates c hc)

theorem ascii_text : ∀ c ∈ l.text, c.toNat < 128 := fun _ hc =>
  (l.mem_text hc).elim toNat_lt_of_isCapital toNat_lt_of_separatesWords

theorem text_has_no_small : ∀ c ∈ l.text, (isLowercase c || isTitlecase c) = false := fun _ hc =>
  (l.mem_text hc).elim (fun h => (capitalForms h).isNotSmall) fun h => (separatorForms h).isNotSmall

/-! ### Small letters -/

/-- In small letters only the words change. -/
theorem map_toLower_text : l.text.map Char.toLower = l.spelled CapitalWord.small := by
  have hothers : (l.others.flatMap fun p => p.1 ++ p.2.text).map Char.toLower =
      l.others.flatMap fun p => p.1 ++ p.2.small := by
    rw [List.map_flatMap]
    refine List.flatMap_congr fun p hp => ?_
    rw [List.map_append, map_toLower_of_separatesWords (l.others_separate p hp).2,
      CapitalWord.small]
  simp only [text, spelled, List.map_append, hothers, CapitalWord.small,
    map_toLower_of_separatesWords l.before_separates,
    map_toLower_of_separatesWords l.after_separates]

/-- **The label is put in small letters**, whether it has letters or not. -/
theorem labelText_text : labelText l.text = l.spelled CapitalWord.small := by
  rw [← map_toLower_text, labelText]
  split
  · exact lower_of_ascii l.ascii_text
  · next hcaps =>
    exact (map_toLower_eq_self l.ascii_text l.text_has_no_small (by simpa using hcaps)).symm

/-- **In small letters it is left as it is.** -/
theorem labelText_small :
    labelText (l.text.map Char.toLower) = l.spelled CapitalWord.small := by
  rw [labelText, isAllCapitals_map_toLower l.ascii_text, map_toLower_text, if_neg (by simp)]

/-! ### The joined words -/

/-- The pass over the later words and what follows them. -/
theorem scan_others {others : List (List Char × CapitalWord)} {after : List Char}
    (hothers : ∀ p ∈ others, p.1 ≠ [] ∧ ∀ c ∈ p.1, separatesWords c = true)
    (hafter : ∀ c ∈ after, separatesWords c = true) :
    scan separatesNames false ((others.flatMap fun p => p.1 ++ p.2.small) ++ after) =
      others.flatMap fun p => p.2.capitalised := by
  induction others with
  | nil =>
    rw [List.flatMap_nil, List.nil_append, List.flatMap_nil]
    exact scan_of_forall_separator (separatesNames_of_separatesWords hafter) false
  | cons p others ih =>
    obtain ⟨⟨hne, hp⟩, hothers⟩ := List.forall_mem_cons.1 hothers
    rw [List.flatMap_cons, List.flatMap_cons, List.append_assoc, List.append_assoc,
      scan_separators_append hne (separatesNames_of_separatesWords hp), p.2.scan_true_small,
      ih hothers]

/-- **The pass over the label in small letters, with its first character in lower case**, gives the
joined words: separators before the first word make no difference. -/
theorem decapitalise_scan_small :
    decapitalise (scan separatesNames false (l.spelled CapitalWord.small)) = l.joined := by
  have hscan := scan_others l.others_separate l.after_separates
  have hbefore := separatesNames_of_separatesWords l.before_separates
  rw [spelled]
  by_cases hnil : l.before = []
  · rw [hnil, List.nil_append, scan_kept_append l.first.separatesNames_of_mem_small, hscan]
    exact l.first.decapitalise_small_append _
  · rw [scan_separators_append hnil hbefore, l.first.scan_true_small, hscan]
    exact l.first.decapitalise_capitalised_append _

/-- A label that is a reserved word in small letters is one word and comes to itself. -/
theorem joined_of_isReserved (h : isReserved (l.spelled CapitalWord.small) = true) :
    l.joined = l.spelled CapitalWord.small := by
  have hkept := separatesNames_of_isReserved h
  have hbefore : l.before = [] := by
    refine List.eq_nil_iff_forall_not_mem.2 fun c hc => ?_
    have hsep := separatesNames_of_separatesWords l.before_separates c hc
    rw [hkept c (by simp [spelled, hc])] at hsep
    cases hsep
  rw [← decapitalise_scan_small, scan_of_forall_kept hkept, spelled, hbefore, List.nil_append]
  exact l.first.decapitalise_small_append _

/-! ### The case name -/

theorem not_nameless_of_labelText (h : labelText s = l.spelled CapitalWord.small) :
    ¬ Nameless s := by
  have hforms := capitalForms l.first.isCapital_head
  have hmem : l.first.head.toLower ∈ l.spelled CapitalWord.small := by
    simp [spelled, CapitalWord.small_eq]
  rw [← nameless_labelText, h]
  exact not_nameless_of_mem hmem hforms.isWord_small hforms.small_ne_lowLine

/-- **The case name of any spelling of the label that comes to the same small letters.** -/
theorem ofLabelValue_of_labelText (h : labelText s = l.spelled CapitalWord.small)
    (emptyName : Value) :
    ofLabelValue (.text (String.ofList s)) emptyName (.text "") =
      .ok (.text (String.ofList (escape l.joined))) := by
  have hname : ¬ Nameless (String.ofList s).toList := by
    rw [String.toList_ofList]
    exact l.not_nameless_of_labelText h
  rw [ofLabelValue_of_not_nameless hname, Except.ok.injEq, Value.text.injEq, ← String.toList_inj,
    toList_ofLabel hname]
  simp only [String.toList_ofList, h, decapitalise_scan_small]
  cases hres : isReserved (l.spelled CapitalWord.small) with
  | true => rw [if_pos rfl, escape, l.joined_of_isReserved hres, if_pos hres]
  | false => simp [withLead]

end CapitalLabel

/-- **The case name of a label in all capitals** is the camel-case form of its words, between back
quotes exactly if that is a reserved word, and the label in small letters has the same case name. -/
theorem ofLabelValue_capitalLabel (l : CapitalLabel) (emptyName : Value) :
    ofLabelValue (.text (String.ofList l.text)) emptyName (.text "") =
        .ok (.text (String.ofList
          (if isReserved l.joined then backquoted l.joined else l.joined))) ∧
      ofLabelValue (.text (String.ofList (l.text.map Char.toLower))) emptyName (.text "") =
        .ok (.text (String.ofList
          (if isReserved l.joined then backquoted l.joined else l.joined))) :=
  ⟨l.ofLabelValue_of_labelText l.labelText_text emptyName,
    l.ofLabelValue_of_labelText l.labelText_small emptyName⟩

/-- The label `-DID SET`. -/
def didSet : CapitalLabel where
  before := ['-']
  first := ⟨'D', ['I', 'D'], List.all_eq_true.1 rfl⟩
  others := [([' '], ⟨'S', ['E', 'T'], List.all_eq_true.1 rfl⟩)]
  after := []
  before_separates := List.all_eq_true.1 rfl
  others_separate := List.forall_mem_singleton.2 ⟨List.cons_ne_nil _ _, List.all_eq_true.1 rfl⟩
  after_separates := List.all_eq_true.1 rfl

/-- Its words are joined to a reserved word. -/
theorem ofLabelValue_capitalLabel_didSet :
    ofLabelValue (.text "-DID SET") .null (.text "") = .ok (.text "\x60didSet\x60") ∧
      ofLabelValue (.text "-did set") .null (.text "") = .ok (.text "\x60didSet\x60") :=
  ofLabelValue_capitalLabel didSet .null

end SwiftText.Identifier
