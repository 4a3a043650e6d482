import FormSnippet.Json.Number
import FormSnippet.Json.Value

/-!
# Reader — JSON documents from text

The reader consumes a list of characters and returns a value with the characters that follow it, or
the `Stop` at which it gave up.  Arrays and objects may be nested a given number of levels deep; the
recursion of `readValue` is on that number.

- `readString`  : a string after its opening quotation mark
- `readValue`   : a value with at most the given levels of nesting
- `readEnd`     : nothing but white space is left
-/

namespace FormSnippet
namespace Json

/-- A reader of values: it returns a value and the text that follows it. -/
abbrev ValueReader : Type :=
  List Char → Except Stop (Value × List Char)

/-! ## White space and words -/

def isSpace (c : Char) : Bool :=
  c == ' ' || c == '\n' || c == '\t' || c == '\r'

def skipSpace (cs : List Char) : List Char :=
  cs.dropWhile isSpace

/-- Reads the characters of `word` one by one. -/
def readWord : List Char → List Char → Except Stop (List Char)
  | [], cs => .ok cs
  | _ :: _, [] => .error ⟨.endInValue, [], 0⟩
  | w :: ws, c :: cs => if c = w then readWord ws cs else .error ⟨.badWord, c :: cs, 1⟩

/-! ## Strings -/

def hexValue? (c : Char) : Option Nat :=
  if '0' ≤ c ∧ c ≤ '9' then some (c.toNat - 48)
  else if 'a' ≤ c ∧ c ≤ 'f' then some (c.toNat - 87)
  else if 'A' ≤ c ∧ c ≤ 'F' then some (c.toNat - 55)
  else none

/-- Four hexadecimal digits.  Anything else is a bad escape four bytes long, or, with fewer bytes
left, the end of the text. -/
def readHex4 (cs : List Char) : Except Stop (Nat × List Char) :=
  match cs with
  | a :: b :: c :: d :: rest =>
      match hexValue? a, hexValue? b, hexValue? c, hexValue? d with
      | some a, some b, some c, some d => .ok (((a * 16 + b) * 16 + c) * 16 + d, rest)
      | _, _, _, _ => .error ⟨.badEscape, cs, 4⟩
  | few =>
      if (utf8 few).length < 4 then .error ⟨.endInString, [], 0⟩ else .error ⟨.badEscape, cs, 4⟩

def isLeading (n : Nat) : Bool :=
  0xD800 ≤ n && n ≤ 0xDBFF

def isTrailing (n : Nat) : Bool :=
  0xDC00 ≤ n && n ≤ 0xDFFF

/-- The character that a pair of surrogates stands for. -/
def pairedChar (leading trailing : Nat) : Char :=
  Char.ofNat (0x10000 + (leading - 0xD800) * 1024 + (trailing - 0xDC00))

/-- The second half of a pair of surrogates. -/
def readTrailing (leading : Nat) : List Char → Except Stop (Char × List Char)
  | [] => .error ⟨.endInString, [], 0⟩
  | '\\' :: 'u' :: rest => do
      let (n, rest) ← readHex4 rest
      if isTrailing n then .ok (pairedChar leading n, rest) else .error ⟨.loneSurrogate, rest, 0⟩
  | ['\\'] => .error ⟨.endInString, [], 0⟩
  | '\\' :: rest => .error ⟨.surrogateUnpaired, rest, 1⟩
  | rest => .error ⟨.surrogateUnpaired, rest, 1⟩

/-- A character given by its number, after the backslash and the `u`. -/
def readUnicode (cs : List Char) : Except Stop (Char × List Char) := do
  let (n, rest) ← readHex4 cs
  if isTrailing n then .error ⟨.loneSurrogate, rest, 0⟩
  else if isLeading n then readTrailing n rest
  else .ok (Char.ofNat n, rest)

/-- An escape, after its backslash. -/
def readEscape : List Char → Except Stop (Char × List Char)
  | [] => .error ⟨.endInString, [], 0⟩
  | '"' :: rest => .ok ('"', rest)
  | '\\' :: rest => .ok ('\\', rest)
  | '/' :: rest => .ok ('/', rest)
  | 'b' :: rest => .ok ('\x08', rest)
  | 'f' :: rest => .ok ('\x0c', rest)
  | 'n' :: rest => .ok ('\n', rest)
  | 'r' :: rest => .ok ('\r', rest)
  | 't' :: rest => .ok ('\t', rest)
  | 'u' :: rest => readUnicode rest
  | rest => .error ⟨.badEscape, rest, 1⟩

/-- The characters of a string up to its closing quotation mark.  Each turn consumes a character, so
the length of the text is fuel enough. -/
def readStringFuel : Nat → List Char → Except Stop (List Char × List Char)
  | 0, _ => .error ⟨.endInString, [], 0⟩
  | _, [] => .error ⟨.endInString, [], 0⟩
  | _, '"' :: rest => .ok ([], rest)
  | fuel + 1, '\\' :: rest => do
      let (c, rest) ← readEscape rest
      let (text, rest) ← readStringFuel fuel rest
      return (c :: text, rest)
  | fuel + 1, c :: rest =>
      if c.toNat < 32 then .error ⟨.controlCharacter, c :: rest, 1⟩
      else do
        let (text, rest) ← readStringFuel fuel rest
        return (c :: text, rest)

/-- A string, after its opening quotation mark. -/
def readString (cs : List Char) : Except Stop (String × List Char) := do
  let (text, rest) ← readStringFuel cs.length cs
  return (String.ofList text, rest)

/-! ## Arrays and objects -/

/-- The elements of an array after the first, and its closing bracket. -/
def readMoreItems (read : ValueReader) : Nat → List Char → Except Stop (List Value × List Char)
  | 0, cs => .error ⟨.endInArray, cs, 1⟩
  | fuel + 1, cs =>
      match skipSpace cs with
      | [] => .error ⟨.endInArray, [], 1⟩
      | ']' :: rest => .ok ([], rest)
      | ',' :: rest =>
          match skipSpace rest with
          | [] => .error ⟨.endInValue, [], 1⟩
          | ']' :: more => .error ⟨.trailingComma, ']' :: more, 1⟩
          | more => do
              let (item, rest) ← read more
              let (items, rest) ← readMoreItems read fuel rest
              return (item :: items, rest)
      | rest => .error ⟨.noArrayComma, rest, 1⟩

/-- An array, after its opening bracket. -/
def readItems (read : ValueReader) (cs : List Char) : Except Stop (List Value × List Char) :=
  match skipSpace cs with
  | [] => .error ⟨.endInArray, [], 1⟩
  | ']' :: rest => .ok ([], rest)
  | first => do
      let (item, rest) ← read first
      let (items, rest) ← readMoreItems read cs.length rest
      return (item :: items, rest)

/-- A member of an object: a quoted name, a colon and a value. -/
def readMember (read : ValueReader) : List Char → Except Stop ((String × Value) × List Char)
  | '"' :: rest => do
      let (name, rest) ← readString rest
      match skipSpace rest with
      | [] => .error ⟨.endInObject, [], 1⟩
      | ':' :: rest => do
          let (value, rest) ← read rest
          return ((name, value), rest)
      | rest => .error ⟨.noColon, rest, 1⟩
  | rest => .error ⟨.keyNotString, rest, 1⟩

/-- The members of an object after the first, and its closing brace. -/
def readMoreMembers (read : ValueReader) :
    Nat → List Char → Except Stop ((List (String × Value)) × List Char)
  | 0, cs => .error ⟨.endInObject, cs, 1⟩
  | fuel + 1, cs =>
      match skipSpace cs with
      | [] => .error ⟨.endInObject, [], 1⟩
      | '}' :: rest => .ok ([], rest)
      | ',' :: rest =>
          match skipSpace rest with
          | [] => .error ⟨.endInValue, [], 1⟩
          | '}' :: more => .error ⟨.trailingComma, '}' :: more, 1⟩
          | more => do
              let (member, rest) ← readMember read more
              let (members, rest) ← readMoreMembers read fuel rest
              return (member :: members, rest)
      | rest => .error ⟨.noObjectComma, rest, 1⟩

/-- An object, after its opening brace. -/
def readMembers (read : ValueReader) (cs : List Char) :
    Except Stop ((List (String × Value)) × List Char) :=
  match skipSpace cs with
  | [] => .error ⟨.endInObject, [], 1⟩
  | '}' :: rest => .ok ([], rest)
  | first => do
      let (member, rest) ← readMember read first
      let (members, rest) ← readMoreMembers read cs.length rest
      return (member :: members, rest)

/-! ## Values -/

/-- A value whose arrays and objects hold what `inner` reads; without `inner` it has none. -/
def readValueWith (inner : Option ValueReader) (cs : List Char) : Except Stop (Value × List Char) :=
  match skipSpace cs with
  | [] => .error ⟨.endInValue, [], 1⟩
  | 'n' :: rest => do
      let rest ← readWord ['u', 'l', 'l'] rest
      return (.null, rest)
  | 't' :: rest => do
      let rest ← readWord ['r', 'u', 'e'] rest
      return (.bool true, rest)
  | 'f' :: rest => do
      let rest ← readWord ['a', 'l', 's', 'e'] rest
      return (.bool false, rest)
  | '"' :: rest => do
      let (text, rest) ← readString rest
      return (.string text, rest)
  | '[' :: rest =>
      match inner with
      | none => .error ⟨.tooDeep, '[' :: rest, 1⟩
      | some read => do
          let (items, rest) ← readItems read rest
          return (.array items, rest)
  | '{' :: rest =>
      match inner with
      | none => .error ⟨.tooDeep, '{' :: rest, 1⟩
      | some read => do
          let (members, rest) ← readMembers read rest
          return (.object members, rest)
  | c :: rest =>
      if c = '-' ∨ isDigit c then do
        let (literal, rest) ← readNumber (c :: rest)
        return (.number (String.ofList literal), rest)
      else .error ⟨.noValue, c :: rest, 1⟩

/-- A value whose arrays and objects are nested at most `levels` deep. -/
def readValue : Nat → ValueReader
  | 0 => readValueWith none
  | levels + 1 => readValueWith (some (readValue levels))

/-- How deep a document may be nested. -/
def maxLevels : Nat :=
  127

/-- The end of a document: nothing but white space is left. -/
def readEnd (cs : List Char) : Except Stop Unit :=
  match skipSpace cs with
  | [] => .ok ()
  | rest => .error ⟨.trailingCharacters, rest, 1⟩

end Json
end FormSnippet
