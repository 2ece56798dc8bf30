import SwiftText.Fault
import SwiftText.Lines
import SwiftText.Unicode.Blank

/-!
# Doc comments

A text as a block of Swift doc comment lines. Every line of the text gives one line of the
comment; a blank one gives the bare marker.
-/

namespace SwiftText.DocComment

/-- The marker of a doc comment line. -/
def marker : List Char := ['/', '/', '/']

/-- The comment line of a line of text. -/
def line (indent text : List Char) : List Char :=
  if text.all Unicode.isBlank then indent ++ marker else indent ++ marker ++ ' ' :: text

/-- The comment lines of a text. -/
def lines (indent text : List Char) : List (List Char) := (Lines.split text).map (line indent)

/-- The doc comment of a text. -/
def render (indent text : List Char) : List Char := Lines.join (lines indent text)

/-- The doc comment of a text, indented. -/
def ofText (text indent : String) : String :=
  String.ofList (render indent.toList text.toList)

/-- The doc comment of a value that should be a text, indented by the text of any value that can be
written. -/
def ofValue (text indent : Value) : Except Fault Value :=
  match text with
  | .text s =>
    if indent.isWritable then .ok (.text (ofText s indent.display)) else .error .integerTooLong
  | v => .error (.notText v.typeName)

end SwiftText.DocComment
