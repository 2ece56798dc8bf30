import SwiftText.Literal.Quoted
import SwiftText.Proofs.Radix

/-!
# A lexer for string literals

How Swift reads a string literal on one line, for any number of number signs around it.

* `escape?` reads what follows the backslash and the number signs of an escape sequence: a letter,
  a quotation mark, a backslash, or a code point in braces. Anything else, an interpolation among
  it, is refused.
* `body?` reads up to the closing quotation mark. A quotation mark or a backslash means something
  only if it is followed by all the number signs of the literal; else it stands for itself.
* `string?` reads a whole literal and returns the text that it stands for and what follows it. Three
  quotation marks open another kind of literal and are refused.
-/

namespace SwiftText.Literal.Lexer

/-! ## Escape sequences -/

/-- The character that an escape sequence of one letter stands for. -/
def letter? (c : Char) : Option Char :=
  if c = '0' then some '\x00'
  else if c = 't' then some '\t'
  else if c = 'n' then some '\n'
  else if c = 'r' then some '\r'
  else if c = '"' ∨ c = '\\' then some c
  else none

/-- The character with a number. -/
def scalar? (n : Nat) : Option Char := if n.isValidChar then some (Char.ofNat n) else none

/-- Reads hexadecimal digits up to a closing brace. -/
def braced? (s : List Char) : Option (Char × List Char) :=
  match s.takeWhile (Radix.isDigitOf 16), s.dropWhile (Radix.isDigitOf 16) with
  | d :: digits, '\x7d' :: rest => (scalar? (Radix.ofDigits 16 (d :: digits))).map (·, rest)
  | _, _ => none

/-- Reads the end of an escape sequence. -/
def escape? : List Char → Option (Char × List Char)
  | 'u' :: '\x7b' :: rest => braced? rest
  | c :: rest => (letter? c).map (·, rest)
  | [] => none

theorem braced?_length_lt {s r : List Char} {c : Char} (h : braced? s = some (c, r)) :
    r.length < s.length := by
  have hle := (List.dropWhile_suffix (Radix.isDigitOf 16) (l := s)).length_le
  unfold braced? at h
  split at h
  · next d digits rest _ hs =>
    obtain ⟨x, -, hx⟩ := Option.map_eq_some_iff.1 h
    cases hx
    rw [hs, List.length_cons] at hle
    omega
  · cases h

theorem escape?_length_lt {s r : List Char} {c : Char} (h : escape? s = some (c, r)) :
    r.length < s.length := by
  unfold escape? at h
  split at h
  · next rest =>
    have := braced?_length_lt h
    simp only [List.length_cons]
    omega
  · next x rest _ =>
    obtain ⟨y, -, hy⟩ := Option.map_eq_some_iff.1 h
    cases hy
    simp
  · cases h

/-! ## Literals -/

/-- Reads the inside of a literal with the given number of number signs, and its end. -/
def body? (pounds : Nat) : List Char → Option (List Char × List Char)
  | [] => none
  | c :: rest =>
    if c = '"' ∧ pounds ≤ leadingPounds rest then some ([], rest.drop pounds)
    else if c = '\\' ∧ pounds ≤ leadingPounds rest then
      match h : escape? (rest.drop pounds) with
      | some (x, after) =>
        have hafter : after.length < rest.length + 1 := by
          have := escape?_length_lt h
          rw [List.length_drop] at this
          omega
        (body? pounds after).map fun (s, r) => (x :: s, r)
      | none => none
    else if c = '\n' ∨ c = '\r' then none
    else (body? pounds rest).map fun (s, r) => (c :: s, r)
termination_by s => s.length
decreasing_by
  · exact hafter
  · exact Nat.lt_succ_self rest.length

/-- Reads a literal: the text that it stands for, and what follows it. -/
def string? (s : List Char) : Option (List Char × List Char) :=
  let pounds := leadingPounds s
  match s.drop pounds with
  | '"' :: rest => if rest.take 2 = ['"', '"'] then none else body? pounds rest
  | _ => none

end SwiftText.Literal.Lexer
