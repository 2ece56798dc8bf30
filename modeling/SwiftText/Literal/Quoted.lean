import SwiftText.Decimal

/-!
# String literals

A text between quotation marks. With custom delimiters, a text that has a quotation mark or a
backslash is put between number signs, one more than follow any of these marks in it, so that the
marks stand for themselves. Controls are always escaped.
-/

namespace SwiftText.Literal

/-- Whether a character is a quotation mark or a backslash. -/
def isMark (c : Char) : Bool := c == '"' || c == '\\'

/-- The number of number signs at the start of a text. -/
def leadingPounds (s : List Char) : Nat := (s.takeWhile (· == '#')).length

/-- The lengths of the runs of number signs right after a quotation mark or a backslash. The scan
passes over `skip` characters first, and over each run that it has found. -/
def poundRuns : Nat → List Char → List Nat
  | _, [] => []
  | skip + 1, _ :: rest => poundRuns skip rest
  | 0, c :: rest =>
    if isMark c then leadingPounds rest :: poundRuns (leadingPounds rest) rest
    else poundRuns 0 rest

/-- The length of the longest of these runs. -/
def longestPounds (s : List Char) : Nat := (poundRuns 0 s).foldr max 0

/-- The number of number signs around the literal of a text. -/
def poundCount (custom : Bool) (s : List Char) : Nat :=
  if custom && s.any isMark then longestPounds s + 1 else 0

/-- The letter of a control with an escape sequence of its own. -/
def shortEscape? (c : Char) : Option Char :=
  if c == '\x00' then some '0'
  else if c == '\t' then some 't'
  else if c == '\n' then some 'n'
  else if c == '\r' then some 'r'
  else none

/-- Whether a character is a control of ASCII. -/
def isControl (c : Char) : Bool := c.toNat < 0x20 || c.toNat == 0x7F

/-- A character inside a literal with the given number of number signs. The first character of the
text is escaped if it is a quotation mark, since three of them would open another kind of literal.
-/
def escapeChar (pounds : Nat) (first : Bool) (c : Char) : List Char :=
  let escape := '\\' :: List.replicate pounds '#'
  match shortEscape? c with
  | some letter => escape ++ [letter]
  | none =>
    if pounds == 0 && isMark c then ['\\', c]
    else if pounds != 0 && first && c == '"' then escape ++ [c]
    else if isControl c then escape ++ 'u' :: '\x7b' :: Decimal.hex c.toNat ++ ['\x7d']
    else [c]

/-- The inside of the literal of a text. -/
def escapeText (pounds : Nat) : List Char → List Char
  | [] => []
  | c :: rest => escapeChar pounds true c ++ rest.flatMap (escapeChar pounds false)

/-- The literal of a text with the given number of number signs. -/
def quotedWith (pounds : Nat) (s : List Char) : List Char :=
  let fence := List.replicate pounds '#'
  fence ++ '"' :: escapeText pounds s ++ '"' :: fence

/-- The literal of a text. -/
def quoted (custom : Bool) (s : List Char) : List Char := quotedWith (poundCount custom s) s

end SwiftText.Literal
