/-!
# Fault — where and why a text is not JSON

A reader of JSON stops at the first character with which no document can go on.  The cause is a
`Fault`; the place is a `Position`, counted in lines from one and in bytes of UTF-8 from the start
of the line.

- `Fault.message`   : the wording
- `Fault.category`  : whether the text ended too early or went wrong
- `Stop`            : a fault with the text that was left when it was found
- `Position.of`     : the place of a stop within the whole text
-/

namespace FormSnippet
namespace Json

/-! ## Causes -/

inductive Fault
  | endInValue
  | endInString
  | endInArray
  | endInObject
  | badWord
  | badNumber
  | numberTooLarge
  | badEscape
  | loneSurrogate
  | surrogateUnpaired
  | controlCharacter
  | noValue
  | noColon
  | noArrayComma
  | noObjectComma
  | keyNotString
  | trailingComma
  | trailingCharacters
  | tooDeep
  deriving DecidableEq, Repr

inductive Category
  | syntactic
  | endOfText
  deriving DecidableEq, Repr

namespace Fault

def message : Fault → String
  | .endInValue => "EOF while parsing a value"
  | .endInString => "EOF while parsing a string"
  | .endInArray => "EOF while parsing a list"
  | .endInObject => "EOF while parsing an object"
  | .badWord => "expected ident"
  | .badNumber => "invalid number"
  | .numberTooLarge => "number out of range"
  | .badEscape => "invalid escape"
  | .loneSurrogate => "lone leading surrogate in hex escape"
  | .surrogateUnpaired => "unexpected end of hex escape"
  | .controlCharacter => "control character (\\u0000-\\u001F) found while parsing a string"
  | .noValue => "expected value"
  | .noColon => "expected `:`"
  | .noArrayComma => "expected `,` or `]`"
  | .noObjectComma => "expected `,` or `\x7d`"
  | .keyNotString => "key must be a string"
  | .trailingComma => "trailing comma"
  | .trailingCharacters => "trailing characters"
  | .tooDeep => "recursion limit exceeded"

def category : Fault → Category
  | .endInValue | .endInString | .endInArray | .endInObject => .endOfText
  | _ => .syntactic

end Fault

/-! ## Places -/

structure Position where
  line : Nat
  column : Nat
  deriving DecidableEq, Repr

/-- A fault, the text that was left, and how many bytes of it the reader had seen already. -/
structure Stop where
  fault : Fault
  rest : List Char
  seen : Nat
  deriving DecidableEq, Repr

def utf8 (cs : List Char) : List UInt8 :=
  cs.flatMap String.utf8EncodeChar

namespace Position

/-- The position reached after the bytes `done`. -/
def after (done : List UInt8) : Position :=
  { line := done.count 10 + 1
    column := (done.reverse.takeWhile (· ≠ 10)).length }

/-- The position of a stop of the reader of `text`; it never lies beyond the end. -/
def of (text : List Char) (stop : Stop) : Position :=
  let bytes := utf8 text
  after (bytes.take (bytes.length - (utf8 stop.rest).length + stop.seen))

end Position
end Json
end FormSnippet
