import SwiftText.Annotation
import SwiftText.Banner
import SwiftText.Decimal
import SwiftText.Decimal.Double
import SwiftText.Decimal.Shortest
import SwiftText.Declaration
import SwiftText.DocComment
import SwiftText.Fault
import SwiftText.Identifier
import SwiftText.Identifier.EnumCase
import SwiftText.Identifier.ModuleName
import SwiftText.Imports
import SwiftText.Lines
import SwiftText.Literal
import SwiftText.Literal.Number
import SwiftText.Literal.Quoted
import SwiftText.Options
import SwiftText.Registry
import SwiftText.Request
import SwiftText.Reserved
import SwiftText.Resolver
import SwiftText.Session
import SwiftText.Unicode.Blank
import SwiftText.Unicode.CaseIgnorable
import SwiftText.Unicode.CaseMap
import SwiftText.Unicode.Digit
import SwiftText.Unicode.LetterCase
import SwiftText.Unicode.Printable
import SwiftText.Unicode.Run
import SwiftText.Unicode.Word
import SwiftText.Value
import SwiftText.Value.Display
import SwiftText.Proofs.Literal.Lexer
import SwiftText.Proofs.Radix
import SwiftText.Proofs.Literal.Quoted
import SwiftText.Proofs.Decimal.Interval
import SwiftText.Proofs.Decimal.Rounding
import SwiftText.Proofs.Decimal.Shortest
import SwiftText.Proofs.Literal.Numeral
import SwiftText.Proofs.Literal.Number
import SwiftText.Proofs.Literal.Outcome
import SwiftText.Proofs.Literal.Reader
import SwiftText.Proofs.Unicode.CaseMap
import SwiftText.Proofs.Identifier.Scan
import SwiftText.Proofs.Reserved
import SwiftText.Proofs.Identifier.Character
import SwiftText.Proofs.Identifier.Keyword
import SwiftText.Proofs.Identifier.EnumCase
import SwiftText.Proofs.Unicode.SmallLetter
import SwiftText.Proofs.Identifier.ModuleName
import SwiftText.Proofs.Registry.Log
import SwiftText.Proofs.Session.Journal
import SwiftText.Proofs.Session.Entry
import SwiftText.Proofs.Session.Write
import SwiftText.Proofs.Session.Naming
import SwiftText.Proofs.Session.ModuleClass
import SwiftText.Proofs.Session.Resolver
import SwiftText.Proofs.Identifier.Adjacent
import SwiftText.Proofs.Declaration.GivenName
import SwiftText.Proofs.Lines.Code
import SwiftText.Proofs.DocComment
import SwiftText.Proofs.Session.Independence
import SwiftText.Proofs.Literal.Fence
import SwiftText.Proofs.Literal.Part
import SwiftText.Proofs.Literal.Failure
import SwiftText.Proofs.Literal.Mode
import SwiftText.Proofs.Identifier.Concatenation
import SwiftText.Proofs.Unicode.WordCase
import SwiftText.Proofs.Identifier.FixedPoint
import SwiftText.Proofs.Identifier.Nameless
import SwiftText.Proofs.Unicode.Ascii
import SwiftText.Proofs.Identifier.AllCapitals
import SwiftText.Proofs.Identifier.Lead
import SwiftText.Proofs.Identifier.AsciiPath
import SwiftText.Proofs.Lines.Break
import SwiftText.Proofs.DocComment.Line
import SwiftText.Proofs.Imports
import SwiftText.Proofs.Imports.Outcome
import SwiftText.Proofs.Lines.Unified
import SwiftText.Proofs.Banner.Stencil
import SwiftText.Proofs.Banner
import SwiftText.Proofs.Value.Field
import SwiftText.Proofs.Value.Equality
import SwiftText.Proofs.Value.Distinct
import SwiftText.Proofs.Declaration.Kind
import SwiftText.Proofs.Session.EqualAnnotations
import SwiftText.Proofs.Declaration.Edit
import SwiftText.Proofs.Session.Edit
import SwiftText.Proofs.Options.Entry
import SwiftText.Proofs.Options.Unknown
import SwiftText.Proofs.Options.Dictionary
import SwiftText.Proofs.Session.Assignment
