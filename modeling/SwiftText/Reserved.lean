import SwiftText.Fault

/-!
# Reserved words

The words that Swift keeps for itself. A name that is one of them, letter for letter, is no plain
identifier and must stand between back quotes.
-/

namespace SwiftText.Reserved

/-- The words of declarations. -/
def declarationWords : List String :=
  ["actor", "associatedtype", "borrowing", "class", "consuming", "deinit", "enum", "extension",
   "fileprivate", "func", "import", "init", "inout", "internal", "let", "macro", "nonisolated",
   "open", "operator", "package", "private", "precedencegroup", "protocol", "public", "rethrows",
   "static", "struct", "subscript", "typealias", "var"]

/-- The words of statements. -/
def statementWords : List String :=
  ["break", "case", "catch", "continue", "default", "defer", "do", "else", "fallthrough", "for",
   "guard", "if", "in", "repeat", "return", "switch", "throw", "where", "while"]

/-- The words of expressions and types. -/
def expressionWords : List String :=
  ["Any", "any", "as", "async", "await", "false", "is", "nil", "self", "Self", "super", "throws",
   "true", "try"]

/-- The words that are reserved in some contexts only, and escaped in all. -/
def contextualWords : List String :=
  ["associativity", "convenience", "didSet", "dynamic", "final", "get", "indirect", "infix",
   "lazy", "left", "mutating", "none", "nonmutating", "optional", "override", "postfix",
   "precedence", "prefix", "Protocol", "required", "right", "set", "some", "Type", "unowned",
   "weak", "willSet"]

/-- The reserved words. -/
def words : List String :=
  declarationWords ++ statementWords ++ expressionWords ++ contextualWords

/-- The reserved words in the order of their code points. -/
def sortedWords : List String := words.mergeSort fun v w => decide (v ≤ w)

/-- Whether a text is a reserved word. -/
def isReserved (s : List Char) : Bool := words.contains (String.ofList s)

/-- Whether a value is a reserved word. Only a text is one; a value that cannot be looked up is a
fault. -/
def isReservedValue (v : Value) : Except Fault Bool :=
  if !v.isKey then .error (.notKey v.typeName)
  else match v with
    | .text s => .ok (isReserved s.toList)
    | _ => .ok false

end SwiftText.Reserved
