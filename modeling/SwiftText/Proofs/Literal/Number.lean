import Mathlib.Data.Nat.Factorization.Basic
import SwiftText.Proofs.Decimal.Shortest
import SwiftText.Proofs.Literal.Numeral

/-!
# The tokens of doubles

* `Double.IsToken`: how a double is written. The doubles that are not finite have names. A finite one
  is a numeral of its shortest decimal, with a sign in front if it is negative.
* `isToken_double`: literals of doubles are such tokens.
* `isToken_cases`: a token is a name, or it consists of characters of numbers, among them a point
  or the letter of an exponent, by which it is told apart from an integer.
-/

namespace SwiftText

/-- The token that a double is written with. -/
inductive Decimal.Double.IsToken (x : Decimal.Double) : List Char → Prop
  | nan (h : x.classify = .nan) : IsToken x "Double.nan".toList
  | infinity (h : x.classify = .infinite false) : IsToken x "Double.infinity".toList
  | negInfinity (h : x.classify = .infinite true) : IsToken x "-Double.infinity".toList
  | positive {m : ℕ} {q : ℤ} {edge : Bool} {d : Decimal.Scientific} {s : List Char}
      (h : x.classify = .finite false m q edge) (hd : Decimal.IsShortest d m q)
      (hs : Literal.IsNumeral s d.toRat) : IsToken x s
  | negative {m : ℕ} {q : ℤ} {edge : Bool} {d : Decimal.Scientific} {s : List Char}
      (h : x.classify = .finite true m q edge) (hd : Decimal.IsShortest d m q)
      (hs : Literal.IsNumeral s d.toRat) : IsToken x ('-' :: s)

namespace Literal

open Decimal (Double IsShortest Scientific)

/-! ## Literals of doubles -/

/-- The digits of a number without the zeros at its end are those of another number. -/
theorem exists_stripZeros_ofNat {n : ℕ} (hn : 0 < n) :
    ∃ c z, 0 < c ∧ ¬10 ∣ c ∧ n = c * 10 ^ z ∧ stripZeros (Decimal.ofNat n) = Decimal.ofNat c ∧
      (Decimal.ofNat n).length = (Decimal.ofNat c).length + z := by
  obtain ⟨z, c, hten, rfl⟩ := Nat.exists_eq_pow_mul_and_not_dvd hn.ne' 10 (by decide)
  have hc : 0 < c := Nat.pos_of_ne_zero fun hzero => hten (hzero ▸ dvd_zero 10)
  refine ⟨c, z, hc, hten, Nat.mul_comm _ _, ?_, ?_⟩
  · rw [Nat.mul_comm, ofNat_mul_ten_pow hc, stripZeros_append_replicate (getLast?_ofNat_ne hten)]
  · rw [Nat.mul_comm, ofNat_mul_ten_pow hc, List.length_append, List.length_replicate]

/-- **A finite double is written as a numeral of its shortest decimal.** -/
theorem exists_isNumeral_magnitude {m : ℕ} {q : ℤ} {edge : Bool} (h : Double.IsSignificand m q edge) :
    ∃ d : Scientific, IsShortest d m q ∧ IsNumeral (magnitude m q edge) d.toRat := by
  rcases Nat.eq_zero_or_pos m with rfl | hm
  · have hzero : Scientific.toRat ⟨0, 0⟩ = (0 : ℕ) := by simp [Scientific.toRat]
    refine ⟨⟨0, 0⟩, Decimal.isShortest_zero q, ?_⟩
    rw [hzero]
    exact IsNumeral.whole (n := 0) (by decide)
  · have haround := Decimal.isAround_interval hm q edge
    obtain ⟨k, hfound, hexponent⟩ := Decimal.Interval.exists_isFound haround (h.wide_interval hm)
    have hpos : 0 < (Decimal.interval m q edge).shortest.coefficient :=
      (Nat.pow_pos (by decide)).trans_le (hfound.coefficient_bounds haround).1
    obtain ⟨c, z, hc, hten, heq, hstrip, hlength⟩ := exists_stripZeros_ofNat hpos
    refine ⟨_, h.isShortest hm (heq ▸ hfound) hten, ?_⟩
    have hnumeral := isNumeral_layout hc hten
      ((Decimal.ofNat (Decimal.interval m q edge).shortest.coefficient).length +
        (Decimal.interval m q edge).shortest.exponent)
    rw [magnitude, if_neg (by simpa using hm.ne')]
    simp only [hstrip]
    convert hnumeral using 1
    rw [Scientific.toRat, hexponent, hlength]
    congr 2
    push_cast
    ring

/-- **The literal of a double is its token.** -/
theorem isToken_double (x : Double) : x.IsToken (double x) := by
  unfold double
  split
  · next h => exact .nan h
  · next h => exact .infinity h
  · next h => exact .negInfinity h
  · next h =>
    obtain ⟨d, hd, hs⟩ := exists_isNumeral_magnitude (Double.isSignificand_of_classify h)
    exact .positive h hd hs
  · next h =>
    obtain ⟨d, hd, hs⟩ := exists_isNumeral_magnitude (Double.isSignificand_of_classify h)
    exact .negative h hd hs

/-- The double next to a tenth. -/
example : double ⟨0x3FB999999999999A⟩ = "0.1".toList := by rfl

/-! ## The characters of tokens -/

/-- The characters of number tokens. -/
def isNumberChar (c : Char) : Bool :=
  c.isDigit || c == '-' || c == '+' || c == '.' || c == 'e'

/-- Whether a character tells a double from an integer. -/
def isPointOrExponent (c : Char) : Bool := c == '.' || c == 'e'

theorem isDigit_of_mem_ofNat {n : Nat} {c : Char} (h : c ∈ Decimal.ofNat n) : c.isDigit = true :=
  Nat.isDigit_of_mem_toDigits (by decide) (by decide) h

theorem isNumberChar_of_isDigit {c : Char} (h : c.isDigit = true) : isNumberChar c = true := by
  simp [isNumberChar, h]

theorem isNumberChar_of_isDigitOf {c : Char} (h : Radix.isDigitOf 10 c = true) :
    isNumberChar c = true := by
  obtain ⟨d, hd, hlt⟩ := Radix.exists_digitValue?_of_isDigitOf h
  have hall : ∀ d < 10, isNumberChar d.digitChar = true := by decide
  exact Radix.digitChar_of_digitValue? hd hlt ▸ hall d hlt

theorem IsExponent.isNumberChar {s : List Char} {e : ℤ} (h : IsExponent s e) :
    ∀ c ∈ s, isNumberChar c = true := by
  rcases h with ⟨hdigits, -, -, -⟩
  intro c hc
  simp only [List.mem_cons] at hc
  rcases hc with rfl | hc | hc
  · decide
  · split at hc <;> rw [hc] <;> decide
  · exact isNumberChar_of_isDigitOf (hdigits c hc)

/-- A token of a double: characters of numbers, among them a point or an exponent. -/
def IsDoubleToken (s : List Char) : Prop :=
  (∀ c ∈ s, isNumberChar c = true) ∧ s.any isPointOrExponent = true

theorem IsNumeral.isDoubleToken {s : List Char} {r : ℚ} (h : IsNumeral s r) : IsDoubleToken s := by
  have hwhole : ∀ n, ∀ c ∈ Decimal.ofNat n, isNumberChar c = true := fun n c hc =>
    isNumberChar_of_isDigit (isDigit_of_mem_ofNat hc)
  have hpoint : ∀ b, IsFraction b → ∀ c ∈ '.' :: b, isNumberChar c = true := fun b hb =>
    List.forall_mem_cons.2 ⟨rfl, fun c hc => isNumberChar_of_isDigitOf (hb.digits c hc)⟩
  cases h with
  | whole =>
    have hzero : ∀ c ∈ ['.', '0'], isNumberChar c = true := List.all_eq_true.1 rfl
    exact ⟨List.forall_mem_append.2 ⟨hwhole _, hzero⟩, by simp [isPointOrExponent]⟩
  | fractional hb =>
    exact ⟨List.forall_mem_append.2 ⟨hwhole _, hpoint _ hb⟩, by simp [isPointOrExponent]⟩
  | power _ _ hs =>
    refine ⟨List.forall_mem_append.2 ⟨hwhole _, hs.isNumberChar⟩, ?_⟩
    cases hs
    simp [isPointOrExponent]
  | scientific _ _ hb hs =>
    refine ⟨List.forall_mem_append.2 ⟨List.forall_mem_append.2 ⟨hwhole _, hpoint _ hb⟩,
      hs.isNumberChar⟩, ?_⟩
    simp [isPointOrExponent]

theorem IsDoubleToken.neg {s : List Char} (h : IsDoubleToken s) : IsDoubleToken ('-' :: s) := by
  refine ⟨fun c hc => ?_, ?_⟩
  · rcases List.mem_cons.1 hc with rfl | hc
    · decide
    · exact h.1 c hc
  · rw [List.any_cons, h.2, Bool.or_true]

/-- The doubles that have names. -/
def doubleNames : List (List Char) :=
  ["Double.nan".toList, "Double.infinity".toList, "-Double.infinity".toList]

/-- **The token of a double is a name or looks like a number.** -/
theorem isToken_cases {x : Double} {s : List Char} (h : x.IsToken s) :
    s ∈ doubleNames ∨ IsDoubleToken s := by
  cases h with
  | nan => exact Or.inl (by simp [doubleNames])
  | infinity => exact Or.inl (by simp [doubleNames])
  | negInfinity => exact Or.inl (by simp [doubleNames])
  | positive _ _ hs => exact Or.inr hs.isDoubleToken
  | negative _ _ hs => exact Or.inr hs.isDoubleToken.neg

end Literal

end SwiftText
