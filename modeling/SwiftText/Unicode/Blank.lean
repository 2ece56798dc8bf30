import SwiftText.Unicode.Run

/-!
# Blank characters

A blank character is one that leaves no mark: the white space characters of Unicode 14.0 together
with the four information separators.
-/

namespace SwiftText.Unicode

/-- The white space characters and the information separators. -/
def blankRuns : List Run :=
  [⟨0x9, 0xD, 1⟩, ⟨0x1C, 0x20, 1⟩, ⟨0x85, 0x85, 1⟩, ⟨0xA0, 0xA0, 1⟩, ⟨0x1680, 0x1680, 1⟩,
   ⟨0x2000, 0x200A, 1⟩, ⟨0x2028, 0x2029, 1⟩, ⟨0x202F, 0x202F, 1⟩, ⟨0x205F, 0x205F, 1⟩,
   ⟨0x3000, 0x3000, 1⟩]

/-- Whether a character is blank. -/
def isBlank (c : Char) : Bool := covers blankRuns c

end SwiftText.Unicode
