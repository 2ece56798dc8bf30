import Mathlib.Algebra.Group.Nat.Defs
import Mathlib.Data.List.Induction

/-!
# Digits in bases up to sixteen

Numbers are written with ASCII digits and letters, the letters in either case. The digits that a
natural number is written with are digits of the base (`isDigitOf_of_mem_toDigits`), and the number
that they stand for is the one that was written (`ofDigits_toDigits`).
-/

namespace SwiftText.Radix

/-- The value of a digit in bases up to sixteen. -/
def digitValue? (c : Char) : Option Nat :=
  if '0' ≤ c ∧ c ≤ '9' then some (c.toNat - '0'.toNat)
  else if 'a' ≤ c ∧ c ≤ 'f' then some (c.toNat - 'a'.toNat + 10)
  else if 'A' ≤ c ∧ c ≤ 'F' then some (c.toNat - 'A'.toNat + 10)
  else none

/-- Whether a character is a digit of a base. -/
def isDigitOf (base : Nat) (c : Char) : Bool := (digitValue? c).any (· < base)

/-- The number whose digits have the given values. -/
def ofValues (base : Nat) (values : List Nat) : Nat := values.foldl (fun n d => n * base + d) 0

/-- The number that digits stand for in a base. -/
def ofDigits (base : Nat) (digits : List Char) : Nat :=
  ofValues base (digits.map fun c => (digitValue? c).getD 0)

theorem digitValue?_digitChar {n : Nat} (h : n < 16) : digitValue? n.digitChar = some n := by
  have all : ∀ m < 16, digitValue? m.digitChar = some m := by decide
  exact all n h

/-- Digits are printable characters of ASCII. -/
theorem toNat_bounds_of_isDigitOf {b : Nat} {c : Char} (h : isDigitOf b c = true) :
    48 ≤ c.toNat ∧ c.toNat ≤ 102 := by
  obtain ⟨d, hd, -⟩ := (Option.any_eq_true _ _).1 h
  unfold digitValue? at hd
  simp only [Char.le_def, UInt32.le_iff_toNat_le, Char.toNat_val] at hd
  simp only [Char.reduceToNat] at hd
  split at hd
  · omega
  split at hd
  · omega
  split at hd
  · omega
  · cases hd

theorem isDigitOf_digitChar {b n : Nat} (hb : b ≤ 16) (h : n < b) :
    isDigitOf b n.digitChar = true := by
  simp [isDigitOf, digitValue?_digitChar (Nat.lt_of_lt_of_le h hb), h]

theorem ofDigits_append_singleton (b : Nat) (digits : List Char) (c : Char) :
    ofDigits b (digits ++ [c]) = ofDigits b digits * b + (digitValue? c).getD 0 := by
  simp [ofDigits, ofValues]

theorem isDigitOf_of_mem_toDigits {b : Nat} (hb : 1 < b) (hb' : b ≤ 16) (n : Nat) :
    ∀ c ∈ Nat.toDigits b n, isDigitOf b c = true := by
  induction n using Nat.strongRecOn with
  | ind n ih =>
    rw [Nat.toDigits_eq_if hb]
    split
    · next h => simpa using isDigitOf_digitChar hb' h
    · next h =>
      intro c hc
      have hlt : n / b < n := Nat.div_lt_self (by omega) hb
      rcases List.mem_append.1 hc with hc | hc
      · exact ih _ hlt c hc
      · rw [List.mem_singleton.1 hc]
        exact isDigitOf_digitChar hb' (Nat.mod_lt n (by omega))

/-- **A number is what its digits stand for.** -/
theorem ofDigits_toDigits {b : Nat} (hb : 1 < b) (hb' : b ≤ 16) (n : Nat) :
    ofDigits b (Nat.toDigits b n) = n := by
  induction n using Nat.strongRecOn with
  | ind n ih =>
    rw [Nat.toDigits_eq_if hb]
    split
    · next h => simp [ofDigits, ofValues, digitValue?_digitChar (Nat.lt_of_lt_of_le h hb')]
    · next h =>
      have hlt : n / b < n := Nat.div_lt_self (by omega) hb
      have hmod : n % b < 16 := Nat.lt_of_lt_of_le (Nat.mod_lt n (by omega)) hb'
      rw [ofDigits_append_singleton, digitValue?_digitChar hmod, ih _ hlt, Nat.mul_comm]
      exact Nat.div_add_mod n b

/-! ## Digits of a text -/

theorem ofDigits_append (b : Nat) (s t : List Char) :
    ofDigits b (s ++ t) = ofDigits b s * b ^ t.length + ofDigits b t := by
  induction t using List.reverseRecOn with
  | nil => simp [ofDigits, ofValues]
  | append_singleton t c ih =>
    rw [← List.append_assoc, ofDigits_append_singleton, ofDigits_append_singleton, ih,
      List.length_append, List.length_singleton, Nat.pow_succ, Nat.add_mul, Nat.mul_assoc,
      Nat.add_assoc]

theorem ofDigits_replicate_zero (b n : Nat) : ofDigits b (List.replicate n '0') = 0 := by
  induction n with
  | zero => rfl
  | succ n ih =>
    rw [List.replicate_succ', ofDigits_append_singleton, ih, Nat.zero_mul]
    decide

theorem exists_digitValue?_of_isDigitOf {b : Nat} {c : Char} (h : isDigitOf b c = true) :
    ∃ d, digitValue? c = some d ∧ d < b := by
  obtain ⟨d, hd, hlt⟩ := (Option.any_eq_true _ _).1 h
  exact ⟨d, hd, of_decide_eq_true hlt⟩

theorem digitChar_of_digitValue? {c : Char} {d : Nat} (h : digitValue? c = some d) (hd : d < 10) :
    d.digitChar = c := by
  unfold digitValue? at h
  split at h
  · next hc =>
    have hall : ∀ n < 10, n.digitChar = Char.ofNat (n + 48) := by decide
    obtain rfl := Option.some.inj h
    simp only [Char.le_def, UInt32.le_iff_toNat_le, Char.toNat_val, Char.reduceToNat] at hc hd ⊢
    rw [hall _ hd, show c.toNat - 48 + 48 = c.toNat by omega, Char.ofNat_toNat]
  split at h
  · cases h
    omega
  split at h
  · cases h
    omega
  · cases h

theorem ofDigits_pos {digits : List Char} (h : ∀ c ∈ digits, isDigitOf 10 c = true)
    (hne : digits ≠ []) (hhead : digits.head? ≠ some '0') : 0 < ofDigits 10 digits := by
  obtain ⟨c, s, rfl⟩ := List.exists_cons_of_ne_nil hne
  obtain ⟨d, hd, hlt⟩ := exists_digitValue?_of_isDigitOf (h c List.mem_cons_self)
  have hpos : 0 < d := by
    refine Nat.pos_of_ne_zero fun hzero => hhead ?_
    subst hzero
    rw [List.head?_cons, ← digitChar_of_digitValue? hd hlt]
    rfl
  have hfirst : ofDigits 10 [c] = d := by simp [ofDigits, ofValues, hd]
  rw [← List.singleton_append, ofDigits_append, hfirst]
  exact Nat.add_pos_left (Nat.mul_pos hpos (Nat.pow_pos (by decide))) _

/-- **Digits are those of the number that they stand for**, if the first one is no zero. -/
theorem toDigits_ofDigits {digits : List Char} (h : ∀ c ∈ digits, isDigitOf 10 c = true)
    (hne : digits ≠ []) (hhead : digits.head? ≠ some '0') :
    Nat.toDigits 10 (ofDigits 10 digits) = digits := by
  induction digits using List.reverseRecOn with
  | nil => exact absurd rfl hne
  | append_singleton digits c ih =>
    obtain ⟨d, hd, hlt⟩ := exists_digitValue?_of_isDigitOf (h c (by simp))
    have hchar := digitChar_of_digitValue? hd hlt
    rw [ofDigits_append_singleton, hd, Nat.toDigits_eq_if (by decide)]
    rcases List.eq_nil_or_concat digits with rfl | ⟨_, _, hconcat⟩
    · simpa [ofDigits, ofValues, hlt] using hchar
    · have hdigits : ∀ x ∈ digits, isDigitOf 10 x = true := fun x hx =>
        h x (List.mem_append_left _ hx)
      have hnil : digits ≠ [] := by rw [hconcat]; simp
      have hfirst : digits.head? ≠ some '0' := by
        rwa [List.head?_append, List.head?_eq_some_head hnil, Option.some_or,
          ← List.head?_eq_some_head hnil] at hhead
      have hpos := ofDigits_pos hdigits hnil hfirst
      have hdiv : (ofDigits 10 digits * 10 + d) / 10 = ofDigits 10 digits := by omega
      have hmod : (ofDigits 10 digits * 10 + d) % 10 = d := by omega
      rw [Option.getD_some, if_neg (by omega), hdiv, hmod, ih hdigits hnil hfirst, hchar]

/-- The first digit of a number other than zero is no zero. -/
theorem head?_toDigits_ne_zero {n : Nat} (hn : 0 < n) :
    (Nat.toDigits 10 n).head? ≠ some '0' := by
  induction n using Nat.strongRecOn with
  | ind n ih =>
    rw [Nat.toDigits_eq_if (by decide)]
    split
    · next hlt =>
      have hall : ∀ m < 10, 0 < m → [m.digitChar].head? ≠ some '0' := by decide
      exact hall n hlt hn
    · next hge =>
      have hhead := ih (n / 10) (by omega) (by omega)
      have hne : Nat.toDigits 10 (n / 10) ≠ [] := Nat.toDigits_ne_nil
      rwa [List.head?_append, List.head?_eq_some_head hne, Option.some_or,
        ← List.head?_eq_some_head hne]

end SwiftText.Radix
