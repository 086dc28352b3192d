import DocSearch.Text.Quoted

/- What can be wrong with the text of an index, and where: an offset in bytes, a line and a column in
characters. -/
namespace DocSearch.Literal

structure Position where
  offset : Nat
  line : Nat
  column : Nat
deriving DecidableEq, Repr

def byteLength (s : List Char) : Nat := (String.ofList s).utf8ByteSize

def Position.afterReading (before : List Char) : Position where
  offset := byteLength before
  line := before.count '\n' + 1
  column := (before.reverse.takeWhile (· ≠ '\n')).length + 1

def Position.ofRest (source rest : List Char) : Position :=
  afterReading (source.take (source.length - rest.length))

inductive Flaw
  | missingValue
  | endOfInput
  | nestedTooDeeply
  | missing (c : Char)
  | duplicateKey (key : String)
  | missingMemberEnd
  | missingKey
  | missingItemEnd
  | controlCharacter
  | unterminatedString
  | unterminatedEscape
  | unknownEscape
  | unpairedHighSurrogate
  | invalidLowSurrogate
  | invalidUnicodeEscape
  | missingHexDigits
  | missingDigits
  | missingFractionDigits
  | missingExponentDigits
  | numberOutOfRange
  | missingClosingParenthesis
  | trailingCharacters
deriving DecidableEq, Repr

def Flaw.text : Flaw → String
  | .missingValue => "expected a value"
  | .endOfInput => "unexpected end of input"
  | .nestedTooDeeply => "literal nested too deeply"
  | .missing c => "expected '" ++ String.ofList [c] ++ "'"
  | .duplicateKey key => "duplicate key " ++ Text.quoted key
  | .missingMemberEnd => "expected ',' or '\x7d' in object"
  | .missingKey => "expected an object key"
  | .missingItemEnd => "expected ',' or ']' in array"
  | .controlCharacter => "control character in string"
  | .unterminatedString => "unterminated string"
  | .unterminatedEscape => "unterminated escape sequence"
  | .unknownEscape => "invalid escape sequence"
  | .unpairedHighSurrogate => "unpaired high surrogate"
  | .invalidLowSurrogate => "invalid low surrogate"
  | .invalidUnicodeEscape => "invalid unicode escape"
  | .missingHexDigits => "expected four hex digits"
  | .missingDigits => "expected digits"
  | .missingFractionDigits => "expected digits after '.'"
  | .missingExponentDigits => "expected exponent digits"
  | .numberOutOfRange => "number out of range"
  | .missingClosingParenthesis => "expected ')' closing Search.setIndex("
  | .trailingCharacters => "unexpected trailing characters"

/-- A flaw together with the text left to read where it shows. -/
structure Fault where
  flaw : Flaw
  rest : List Char
deriving DecidableEq, Repr

structure SyntaxError where
  flaw : Flaw
  position : Position
deriving DecidableEq, Repr

namespace SyntaxError

def what (e : SyntaxError) : String := e.flaw.text

def message (e : SyntaxError) : String :=
  e.what ++ s!" at line {e.position.line}, column {e.position.column} (byte {e.position.offset})"

end SyntaxError

def Fault.locate (source : List Char) (fault : Fault) : SyntaxError :=
  ⟨fault.flaw, Position.ofRest source fault.rest⟩

end DocSearch.Literal
