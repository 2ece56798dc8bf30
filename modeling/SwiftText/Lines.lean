/-!
# Lines

Cutting a text at its line breaks (LF, with a CR right before it taken along) and joining lines
with LF. A CR that stands alone breaks no line.
-/

namespace SwiftText.Lines

/-- Puts a character in front of the first line. -/
def consFirst (c : Char) : List (List Char) → List (List Char)
  | [] => [[c]]
  | line :: rest => (c :: line) :: rest

/-- The lines of a text; a text without a break is one line. -/
def split : List Char → List (List Char)
  | [] => [[]]
  | '\r' :: '\n' :: rest => [] :: split rest
  | '\n' :: rest => [] :: split rest
  | c :: rest => consFirst c (split rest)

/-- The lines with an LF between each and the next. -/
def join (lines : List (List Char)) : List Char := ['\n'].intercalate lines

end SwiftText.Lines
