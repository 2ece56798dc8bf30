import Mathlib.Tactic.SplitIfs
import SwiftText.Proofs.Literal.Lexer
import SwiftText.Proofs.Radix

/-!
# String literals read back

The number signs of a literal are counted by one pass over the text and its characters are escaped
by another. The two agree: in the written literal a quotation mark or a backslash that stands for
itself is never followed by as many number signs as the literal has around it.

* `poundRuns_of_isMark`: the scan for runs of number signs misses none.
* `escapeChar_cases`: a character is written as itself, and then it is no control, or as an escape
  sequence that reads back as it.
* `leadingPounds_escaped`: escaping keeps the run of number signs at the start of a text, also where
  the closing quotation mark comes right after it. With the count of `longestPounds` this is what
  makes the lexer pass over a mark that stands for itself.
* `string?_quotedWith`: the lexer reads a literal back with any sufficient number of number signs.
* `string?_quoted`: so it does with the number that is chosen, in both modes.
-/

namespace SwiftText.Literal

open Lexer

/-! ## Runs of number signs -/

@[simp] theorem leadingPounds_pound (s : List Char) :
    leadingPounds ('#' :: s) = leadingPounds s + 1 := by
  simp [leadingPounds]

theorem leadingPounds_of_ne {c : Char} (h : c ≠ '#') (s : List Char) :
    leadingPounds (c :: s) = 0 := by
  simp [leadingPounds, h]

theorem leadingPounds_fence (n : Nat) (s : List Char) :
    leadingPounds (List.replicate n '#' ++ s) = n + leadingPounds s := by
  induction n with
  | zero => simp
  | succ n ih => rw [List.replicate_succ, List.cons_append, leadingPounds_pound, ih]; omega

theorem poundRuns_of_not_isMark {c : Char} (h : isMark c = false) (s : List Char) :
    poundRuns 0 (c :: s) = poundRuns 0 s := by
  rw [poundRuns, if_neg (by simp [h])]

/-- A run of number signs has no mark in it, so nothing is missed by passing over it. -/
theorem poundRuns_of_le_leadingPounds {skip : Nat} {s : List Char} (h : skip ≤ leadingPounds s) :
    poundRuns skip s = poundRuns 0 s := by
  induction s generalizing skip with
  | nil => rw [poundRuns, poundRuns]
  | cons c s ih =>
    cases skip with
    | zero => rfl
    | succ skip =>
      by_cases hc : c = '#'
      · subst hc
        rw [leadingPounds_pound] at h
        rw [poundRuns, ih (by omega), poundRuns_of_not_isMark (by decide)]
      · rw [leadingPounds_of_ne hc] at h
        omega

/-- **No run hides another one**: the scan goes on only after the run that it has found, and still
finds the run after every mark. -/
theorem poundRuns_of_isMark {c : Char} (h : isMark c = true) (s : List Char) :
    poundRuns 0 (c :: s) = leadingPounds s :: poundRuns 0 s := by
  rw [poundRuns, if_pos h, poundRuns_of_le_leadingPounds (Nat.le_refl _)]

theorem longestPounds_cons (c : Char) (s : List Char) :
    longestPounds (c :: s) =
      if isMark c then max (leadingPounds s) (longestPounds s) else longestPounds s := by
  cases hc : isMark c with
  | false => rw [longestPounds, poundRuns_of_not_isMark hc]; rfl
  | true => rw [longestPounds, poundRuns_of_isMark hc]; rfl

theorem drop_fence (n : Nat) (s : List Char) : (List.replicate n '#' ++ s).drop n = s := by
  rw [List.drop_append_of_le_length (by simp), List.drop_replicate]
  simp

/-! ## One escaped character -/

theorem shortEscape?_cases {c letter : Char} (h : shortEscape? c = some letter) :
    (c = '\x00' ∧ letter = '0') ∨ (c = '\t' ∧ letter = 't') ∨ (c = '\n' ∧ letter = 'n') ∨
      (c = '\r' ∧ letter = 'r') := by
  unfold shortEscape? at h
  simp only [beq_iff_eq] at h
  split_ifs at h <;> cases h <;> simp_all

theorem escape?_letter {c letter : Char} (h : letter? letter = some c) (s : List Char) :
    escape? (letter :: s) = some (c, s) := by
  have hu : letter ≠ 'u' := by rintro rfl; cases h
  unfold escape?
  split <;> simp_all

theorem braced?_hex (c : Char) (s : List Char) :
    braced? (Decimal.hex c.toNat ++ '\x7d' :: s) = some (c, s) := by
  have hd : ∀ x ∈ Decimal.hex c.toNat, Radix.isDigitOf 16 x = true :=
    Radix.isDigitOf_of_mem_toDigits (by decide) (by decide) c.toNat
  have hend : Radix.isDigitOf 16 '\x7d' = false := by decide
  have htake : (Decimal.hex c.toNat ++ '\x7d' :: s).takeWhile (Radix.isDigitOf 16) =
      Decimal.hex c.toNat := by
    rw [List.takeWhile_append_of_pos hd]
    simp [hend]
  have hdrop : (Decimal.hex c.toNat ++ '\x7d' :: s).dropWhile (Radix.isDigitOf 16) =
      '\x7d' :: s := by
    rw [List.dropWhile_append_of_pos hd]
    simp [hend]
  have hvalue : Radix.ofDigits 16 (Decimal.hex c.toNat) = c.toNat :=
    Radix.ofDigits_toDigits (by decide) (by decide) _
  have hscalar : scalar? c.toNat = some c := by
    rw [scalar?, if_pos (show c.toNat.isValidChar from c.valid), Char.ofNat_toNat]
  unfold braced?
  rw [htake, hdrop]
  cases hc : Decimal.hex c.toNat with
  | nil => exact absurd hc Nat.toDigits_ne_nil
  | cons d digits =>
    rw [hc] at hvalue
    simp [hvalue, hscalar]

theorem isControl_of_isDigitOf {c : Char} (h : Radix.isDigitOf 16 c = true) :
    isControl c = false := by
  have := Radix.toNat_bounds_of_isDigitOf h
  simp only [isControl, Bool.or_eq_false_iff, decide_eq_false_iff_not, beq_eq_false_iff_ne]
  omega

/-- **How a character is written**: as itself, or as an escape sequence that stands for it. -/
theorem escapeChar_cases (n : Nat) (first : Bool) (c : Char) :
    (escapeChar n first c = [c] ∧ isControl c = false ∧ (isMark c = true → n ≠ 0) ∧
        (first = true → c ≠ '"')) ∨
      ∃ code, escapeChar n first c = '\\' :: (List.replicate n '#' ++ code) ∧
        (∀ s, escape? (code ++ s) = some (c, s)) ∧ ∀ x ∈ code, isControl x = false := by
  unfold escapeChar
  extract_lets escape
  split
  · next letter h =>
    refine Or.inr ⟨[letter], rfl, ?_⟩
    obtain ⟨rfl, rfl⟩ | ⟨rfl, rfl⟩ | ⟨rfl, rfl⟩ | ⟨rfl, rfl⟩ := shortEscape?_cases h <;>
      exact ⟨fun s => escape?_letter rfl s, by simp [isControl]⟩
  · next h =>
    split_ifs with hz hf hc
    · -- a mark without number signs around the literal
      obtain ⟨rfl, hm⟩ : n = 0 ∧ isMark c = true := by simpa using hz
      refine Or.inr ⟨[c], by simp, ?_⟩
      obtain rfl | rfl : c = '"' ∨ c = '\\' := by simpa [isMark] using hm
      all_goals exact ⟨fun s => escape?_letter rfl s, by simp [isControl]⟩
    · -- the quotation mark at the start of the text
      obtain ⟨-, rfl⟩ : (n ≠ 0 ∧ first = true) ∧ c = '"' := by simpa using hf
      exact Or.inr ⟨['"'], rfl, fun s => escape?_letter rfl s, by simp [isControl]⟩
    · refine Or.inr ⟨'u' :: '\x7b' :: Decimal.hex c.toNat ++ ['\x7d'], by simp [escape], ?_, ?_⟩
      · intro s
        simpa [escape?] using braced?_hex c s
      · intro x hx
        have hd := Radix.isDigitOf_of_mem_toDigits (b := 16) (by decide) (by decide) c.toNat
        simp only [List.cons_append, List.mem_cons, List.mem_append, List.not_mem_nil,
          or_false] at hx
        rcases hx with rfl | rfl | hx | rfl
        · decide
        · decide
        · exact isControl_of_isDigitOf (hd x hx)
        · decide
    · refine Or.inl ⟨rfl, by simpa using hc, ?_, ?_⟩
      · rintro hm rfl
        simp [hm] at hz
      · rintro rfl rfl
        simp_all [isMark]

/-! ## The inside of a literal -/

/-- Escaping keeps the run of number signs at the start of a text; what follows the text ends it. -/
theorem leadingPounds_escaped (n : Nat) (s u : List Char) :
    leadingPounds (s.flatMap (escapeChar n false) ++ '"' :: u) = leadingPounds s := by
  induction s with
  | nil => rw [List.flatMap_nil, List.nil_append, leadingPounds_of_ne (by decide)]; rfl
  | cons c s ih =>
    rw [List.flatMap_cons, List.append_assoc]
    by_cases hc : c = '#'
    · have hplain : escapeChar n false '#' = ['#'] := by simp [escapeChar, shortEscape?, isMark,
        isControl]
      rw [hc, hplain, List.singleton_append, leadingPounds_pound, leadingPounds_pound, ih]
    · rw [leadingPounds_of_ne hc]
      obtain ⟨h, -⟩ | ⟨code, h, -⟩ := escapeChar_cases n false c
      · rw [h, List.singleton_append, leadingPounds_of_ne hc]
      · rw [h, List.cons_append, leadingPounds_of_ne (by decide)]

/-- The lexer reads an escape sequence where all the number signs are there. -/
theorem body?_escape (n : Nat) {c : Char} {code : List Char}
    (h : ∀ s, escape? (code ++ s) = some (c, s)) (s : List Char) :
    body? n ('\\' :: (List.replicate n '#' ++ code) ++ s) =
      (body? n s).map fun (t, r) => (c :: t, r) := by
  have hle : n ≤ leadingPounds (List.replicate n '#' ++ (code ++ s)) := by
    rw [leadingPounds_fence]; omega
  rw [List.cons_append, List.append_assoc, body?, if_neg (by simp), if_pos ⟨rfl, hle⟩]
  split
  · next x after hx =>
    rw [drop_fence, h] at hx
    cases hx
    rfl
  · next hx =>
    rw [drop_fence, h] at hx
    cases hx

/-- The lexer passes over a character that stands for itself. -/
theorem body?_plain {n : Nat} {c : Char} {s : List Char} (hc : isControl c = false)
    (h : isMark c = true → leadingPounds s < n) :
    body? n (c :: s) = (body? n s).map fun (t, r) => (c :: t, r) := by
  have hmark : ¬(isMark c = true ∧ n ≤ leadingPounds s) := fun hm => by
    have := h hm.1
    omega
  have hq : ¬(c = '"' ∧ n ≤ leadingPounds s) := fun hq => hmark ⟨by simp [isMark, hq.1], hq.2⟩
  have hb : ¬(c = '\\' ∧ n ≤ leadingPounds s) := fun hb => hmark ⟨by simp [isMark, hb.1], hb.2⟩
  have hbreak : ¬(c = '\n' ∨ c = '\r') := by
    rintro (rfl | rfl) <;> cases hc
  rw [body?, if_neg hq, if_neg hb, if_neg hbreak]

/-- One written character is read as that character. A mark that stands for itself must not be
followed by all the number signs. -/
theorem body?_escapeChar {n : Nat} (first : Bool) {c : Char} {s : List Char}
    (h : isMark c = true → n ≠ 0 → leadingPounds s < n) :
    body? n (escapeChar n first c ++ s) = (body? n s).map fun (t, r) => (c :: t, r) := by
  obtain ⟨hplain, hc, hm, -⟩ | ⟨code, hcode, hread, -⟩ := escapeChar_cases n first c
  · rw [hplain, List.singleton_append]
    exact body?_plain hc fun hmark => h hmark (hm hmark)
  · rw [hcode]
    exact body?_escape n hread s

/-- The closing quotation mark. -/
theorem body?_close (n : Nat) (rest : List Char) :
    body? n ('"' :: (List.replicate n '#' ++ rest)) = some ([], rest) := by
  have hle : n ≤ leadingPounds (List.replicate n '#' ++ rest) := by rw [leadingPounds_fence]; omega
  rw [body?, if_pos ⟨rfl, hle⟩, drop_fence]

/-- Enough number signs for a text: more than follow any mark in it, unless there are none and every
mark is escaped. -/
def Suffices (n : Nat) (s : List Char) : Prop := n = 0 ∨ longestPounds s < n

theorem Suffices.tail {n : Nat} {c : Char} {s : List Char} (h : Suffices n (c :: s)) :
    Suffices n s := by
  refine h.imp_right fun h => Nat.lt_of_le_of_lt ?_ h
  rw [longestPounds_cons]
  split
  · exact Nat.le_max_right _ _
  · exact Nat.le_refl _

theorem Suffices.leadingPounds_lt {n : Nat} {c : Char} {s : List Char} (h : Suffices n (c :: s))
    (hc : isMark c = true) (hn : n ≠ 0) : leadingPounds s < n := by
  have hlt := h.resolve_left hn
  rw [longestPounds_cons, if_pos hc] at hlt
  exact Nat.lt_of_le_of_lt (Nat.le_max_left _ _) hlt

theorem suffices_poundCount (custom : Bool) (s : List Char) :
    Suffices (poundCount custom s) s := by
  unfold poundCount
  split
  · exact Or.inr (Nat.lt_succ_self _)
  · exact Or.inl rfl

theorem body?_escaped {n : Nat} {s : List Char} (h : Suffices n s) (rest : List Char) :
    body? n (s.flatMap (escapeChar n false) ++ '"' :: (List.replicate n '#' ++ rest)) =
      some (s, rest) := by
  induction s with
  | nil => exact body?_close n rest
  | cons c s ih =>
    rw [List.flatMap_cons, List.append_assoc, body?_escapeChar false, ih h.tail]
    · rfl
    · rw [leadingPounds_escaped]
      exact h.leadingPounds_lt

theorem body?_escapeText {n : Nat} {s : List Char} (h : Suffices n s) (rest : List Char) :
    body? n (escapeText n s ++ '"' :: (List.replicate n '#' ++ rest)) = some (s, rest) := by
  cases s with
  | nil => exact body?_close n rest
  | cons c s =>
    rw [escapeText, List.append_assoc, body?_escapeChar true, body?_escaped h.tail]
    · rfl
    · rw [leadingPounds_escaped]
      exact h.leadingPounds_lt

/-! ## Whole literals -/

/-- The inside of a literal never makes its opening quotation mark three of them. -/
theorem take_two_escapeText (n : Nat) (s : List Char) {u : List Char} (h : u.head? ≠ some '"') :
    (escapeText n s ++ '"' :: u).take 2 ≠ ['"', '"'] := by
  cases s with
  | nil =>
    cases u with
    | nil => simp [escapeText]
    | cons d u => simpa [escapeText] using h
  | cons c s =>
    rw [escapeText]
    obtain ⟨hc, -, -, hne⟩ | ⟨code, hcode, -⟩ := escapeChar_cases n true c
    · simp [hc, hne rfl]
    · simp [hcode]

/-- The lexer reads a literal back with any number of number signs that suffices. -/
theorem string?_quotedWith {n : Nat} {s : List Char} (h : Suffices n s) {rest : List Char}
    (hrest : rest.head? ≠ some '"') : string? (quotedWith n s ++ rest) = some (s, rest) := by
  have hfence : quotedWith n s ++ rest =
      List.replicate n '#' ++ '"' :: (escapeText n s ++ '"' :: (List.replicate n '#' ++ rest)) := by
    simp [quotedWith]
  have hhead : (List.replicate n '#' ++ rest).head? ≠ some '"' := by
    cases n with
    | zero => simpa using hrest
    | succ n => simp [List.replicate_succ]
  have hopen : leadingPounds (List.replicate n '#' ++
      '"' :: (escapeText n s ++ '"' :: (List.replicate n '#' ++ rest))) = n := by
    rw [leadingPounds_fence, leadingPounds_of_ne (by decide), Nat.add_zero]
  simp only [string?, hfence, hopen, drop_fence, take_two_escapeText n s hhead, if_false]
  exact body?_escapeText h rest

theorem isControl_of_mem_escapeChar {n : Nat} {first : Bool} {c x : Char}
    (h : x ∈ escapeChar n first c) : isControl x = false := by
  obtain ⟨hplain, hc, -⟩ | ⟨code, hcode, -, hx⟩ := escapeChar_cases n first c
  · rw [hplain, List.mem_singleton] at h
    exact h ▸ hc
  · rw [hcode, List.mem_cons, List.mem_append] at h
    rcases h with rfl | h | h
    · decide
    · rw [List.eq_of_mem_replicate h]; decide
    · exact hx x h

theorem isControl_of_mem_quotedWith {n : Nat} {s : List Char} {x : Char}
    (h : x ∈ quotedWith n s) : isControl x = false := by
  have hfence : ∀ y ∈ List.replicate n '#', isControl y = false := fun y hy => by
    rw [List.eq_of_mem_replicate hy]; decide
  have hinside : ∀ y ∈ escapeText n s, isControl y = false := fun y hy => by
    cases s with
    | nil => cases hy
    | cons c s =>
      rcases List.mem_append.1 hy with hy | hy
      · exact isControl_of_mem_escapeChar hy
      · obtain ⟨d, -, hd⟩ := List.mem_flatMap.1 hy
        exact isControl_of_mem_escapeChar hd
  simp only [quotedWith, List.mem_append, List.mem_cons] at h
  rcases h with (h | rfl | h) | rfl | h
  · exact hfence x h
  · decide
  · exact hinside x h
  · decide
  · exact hfence x h

/-- **A string literal reads back as its text** and leaves exactly what follows it, in both modes,
and it has no control in it. Only a quotation mark must not follow: after the literal of the empty
text it would open another kind of literal. -/
theorem string?_quoted (custom : Bool) (s rest : List Char) (hrest : rest.head? ≠ some '"') :
    string? (quoted custom s ++ rest) = some (s, rest) ∧
      ∀ c ∈ quoted custom s, 0x20 ≤ c.toNat ∧ c.toNat ≠ 0x7F := by
  refine ⟨string?_quotedWith (suffices_poundCount custom s) hrest, fun c hc => ?_⟩
  have := isControl_of_mem_quotedWith hc
  simp only [isControl, Bool.or_eq_false_iff, decide_eq_false_iff_not, beq_eq_false_iff_ne] at this
  omega

/-- A mark at the start, a run of number signs after a mark, and one right after the literal. -/
theorem string?_quoted_marks :
    ['#', ']'].head? ≠ some '"' ∧
      string? (quoted true ['"', '#', '\\', '#', '#', '\n', '"'] ++ ['#', ']']) =
        some (['"', '#', '\\', '#', '#', '\n', '"'], ['#', ']']) ∧
      ∀ c ∈ quoted true ['"', '#', '\\', '#', '#', '\n', '"'], 0x20 ≤ c.toNat ∧ c.toNat ≠ 0x7F :=
  ⟨by decide, string?_quoted true _ _ (by decide)⟩

end SwiftText.Literal
