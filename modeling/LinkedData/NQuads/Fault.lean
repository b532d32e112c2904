import LinkedData.Text.Hex

/-!
# LinkedData.NQuads.Fault -- why a line is no statement

Every way in which a line can break the grammar, with the characters or numbers that the
report names. `Fault.message` is the only place where a report is worded.
-/

namespace LinkedData.NQuads

open LinkedData.Text

/-- The first thing that a line does wrong. -/
inductive Fault where
  /-- A fixed character is missing; the line holds another one there, or ends. -/
  | expected (wanted : Char) (found : Option Char)
  /-- No term starts with this character. -/
  | unexpected (found : Char)
  /-- The line ends where a term is due. -/
  | missingTerm
  | invalidInIri (found : Char)
  | unterminatedIri
  | emptyLabel
  | unterminatedLiteral
  | emptyLanguage
  | literalSubject
  | literalGraph
  /-- Something other than a comment follows the final dot. -/
  | contentAfterDot
  | unknownEscape (letter : Char)
  /-- An IRI ends in a backslash. -/
  | trailingBackslash
  /-- A literal ends in a backslash. -/
  | trailingLiteralBackslash
  /-- Too few hexadecimal digits follow; these were read. -/
  | incompleteEscape (digits : List Char)
  | invalidCodePoint (code : Nat)
  | missingLowSurrogate (high : Nat)
  | invalidLowSurrogate (low : Nat)
deriving DecidableEq, Repr

/-- A character between single quotes. -/
def Fault.singleQuoted (c : Char) : List Char :=
  ['\'', c, '\'']

/-- The report of a fault. -/
def Fault.message : Fault → List Char
  | .expected wanted found =>
    "expected ".toList ++ singleQuoted wanted ++ ", found ".toList ++
      (found.map singleQuoted).getD "end of line".toList
  | .unexpected c => "unexpected character ".toList ++ singleQuoted c
  | .missingTerm => "unexpected end of line".toList
  | .invalidInIri c => "invalid character ".toList ++ singleQuoted c ++ " in IRI".toList
  | .unterminatedIri => "unterminated IRI".toList
  | .emptyLabel => "empty blank node label".toList
  | .unterminatedLiteral => "unterminated string literal".toList
  | .emptyLanguage => "empty language tag".toList
  | .literalSubject => "literal in subject position".toList
  | .literalGraph => "literal in graph position".toList
  | .contentAfterDot => "unexpected content after '.'".toList
  | .unknownEscape c => "unknown escape sequence \\".toList ++ [c]
  | .trailingBackslash => "trailing backslash".toList
  | .trailingLiteralBackslash => "trailing backslash in literal".toList
  | .incompleteEscape digits => "incomplete escape \\".toList ++ digits
  | .invalidCodePoint n => "invalid code point ".toList ++ hexUpper 0 n
  | .missingLowSurrogate n => "expected low surrogate after \\u".toList ++ hexUpper 4 n
  | .invalidLowSurrogate n => "invalid low surrogate \\u".toList ++ hexUpper 4 n

/-- A fault and the number of its line, counted from one. -/
structure LineFault where
  line : Nat
  fault : Fault
deriving DecidableEq, Repr

/-- The report of a fault with its line number. -/
def LineFault.message (e : LineFault) : String :=
  "line " ++ toString e.line ++ ": " ++ String.ofList e.fault.message

end LinkedData.NQuads
