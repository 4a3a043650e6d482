import FormSnippet.Json.Reader

/-!
# Spelling — how JSON is written

The grammar of JSON texts, as a relation between what is meant and the characters that spell it.  It
leaves all the freedom that the notation has: a character of a string has up to three spellings,
white space may stand around every value and every mark, and a number is any literal whose value is
finite.  Like the reader it counts levels of nesting.

- `TextSpelling`    : a string, each character plain or escaped
- `Literal`         : a number, with its range
- `Listed`          : elements with commas between them
- `Spelled`         : a value with at most the given levels of nesting
-/

namespace FormSnippet
namespace Json

/-! ## White space -/

/-- The characters are white space. -/
def Blank (cs : List Char) : Prop :=
  ∀ c ∈ cs, isSpace c

instance (cs : List Char) : Decidable (Blank cs) :=
  List.decidableBAll _ cs

/-! ## Strings -/

/-- The letters and marks that follow a backslash, with the characters that they stand for. -/
def shortEscapes : List (Char × Char) :=
  [('"', '"'), ('\\', '\\'), ('/', '/'), ('b', '\x08'), ('f', '\x0c'), ('n', '\n'), ('r', '\r'),
    ('t', '\t')]

/-- Four hexadecimal digits, in upper or lower case. -/
def Hex4 (n : Nat) (cs : List Char) : Prop :=
  ∃ a b c d, cs.map hexValue? = [some a, some b, some c, some d] ∧
    n = ((a * 16 + b) * 16 + c) * 16 + d

/-- A character stands for itself or is escaped; one beyond sixteen bits is escaped as a pair. -/
inductive CharSpelling (c : Char) : List Char → Prop
  | plain (printable : 32 ≤ c.toNat) (noQuote : c ≠ '"') (noSlash : c ≠ '\\') : CharSpelling c [c]
  | short {mark : Char} (known : (mark, c) ∈ shortEscapes) : CharSpelling c ['\\', mark]
  | code {hex : List Char} (number : Hex4 c.toNat hex) : CharSpelling c ('\\' :: 'u' :: hex)
  | pair {hex hex' : List Char} (beyond : 0x10000 ≤ c.toNat)
      (leading : Hex4 (0xD800 + (c.toNat - 0x10000) / 1024) hex)
      (trailing : Hex4 (0xDC00 + (c.toNat - 0x10000) % 1024) hex') :
      CharSpelling c ('\\' :: 'u' :: (hex ++ '\\' :: 'u' :: hex'))

inductive CharsSpelling : List Char → List Char → Prop
  | nil : CharsSpelling [] []
  | cons {c : Char} {cs code codes : List Char} (first : CharSpelling c code)
      (rest : CharsSpelling cs codes) : CharsSpelling (c :: cs) (code ++ codes)

def TextSpelling (text : String) (cs : List Char) : Prop :=
  ∃ codes, CharsSpelling text.toList codes ∧ cs = '"' :: (codes ++ ['"'])

/-! ## Numbers -/

/-- At least one digit, and nothing else. -/
structure IsDigits (ds : List Char) : Prop where
  nonempty : ds ≠ []
  all : ∀ d ∈ ds, isDigit d

instance (ds : List Char) : Decidable (IsDigits ds) :=
  decidable_of_iff (ds ≠ [] ∧ ds.all isDigit = true)
    ⟨fun h => ⟨h.1, List.all_eq_true.1 h.2⟩, fun h => ⟨h.nonempty, List.all_eq_true.2 h.all⟩⟩

/-- The number that digits continue. -/
def decimal (n : Nat) (ds : List Char) : Nat :=
  ds.foldl (fun n d => n * 10 + digitValue d) n

structure Exponent where
  mark : Char
  sign : Option Char
  digits : List Char

namespace Exponent

def chars (exponent : Exponent) : List Char :=
  exponent.mark :: (exponent.sign.toList ++ exponent.digits)

structure Proper (exponent : Exponent) : Prop where
  mark : exponent.mark = 'e' ∨ exponent.mark = 'E'
  sign : ∀ sign ∈ exponent.sign, sign = '+' ∨ sign = '-'
  digits : IsDigits exponent.digits

def negative (exponent : Exponent) : Bool :=
  exponent.sign = some '-'

/-- The power of ten that scales a number in the end. -/
def scale (exponent : Exponent) (acc : Scaled) : Scaled :=
  let power := decimal 0 exponent.digits
  { acc with exponent := if exponent.negative then acc.exponent - power else acc.exponent + power }

end Exponent

/-- A number as it is written. -/
structure Literal where
  negative : Bool
  whole : List Char
  fraction : Option (List Char)
  exponent : Option Exponent

namespace Literal

def fractionChars : Option (List Char) → List Char
  | none => []
  | some ds => '.' :: ds

def exponentChars : Option Exponent → List Char
  | none => []
  | some exponent => exponent.chars

def chars (literal : Literal) : List Char :=
  (if literal.negative then ['-'] else []) ++ (literal.whole ++
    (fractionChars literal.fraction ++ exponentChars literal.exponent))

structure Proper (literal : Literal) : Prop where
  whole : IsDigits literal.whole
  noZero : literal.whole.head? = some '0' → literal.whole = ['0']
  fraction : ∀ ds ∈ literal.fraction, IsDigits ds
  exponent : ∀ exponent ∈ literal.exponent, exponent.Proper

def withFraction (acc : Scaled) : Option (List Char) → Scaled
  | none => acc
  | some ds => gatherFraction acc ds

/-- The digits before the exponent, as far as they count. -/
def scaled (literal : Literal) : Scaled :=
  withFraction (gatherWhole ⟨0, 0⟩ literal.whole) literal.fraction

/-- Whether digits with an exponent after them have a finite value.  Beyond 31 bits an exponent is
not looked at any more. -/
def Finite (acc : Scaled) : Option Exponent → Prop
  | none => overflows acc.significand acc.exponent = false
  | some exponent =>
      if decimal 0 exponent.digits < Nat.pow 2 31 then
        overflows (exponent.scale acc).significand (exponent.scale acc).exponent = false
      else acc.significand = 0 ∨ exponent.negative = true

instance (acc : Scaled) (exponent : Option Exponent) : Decidable (Finite acc exponent) :=
  match exponent with
  | none => inferInstanceAs (Decidable (overflows acc.significand acc.exponent = false))
  | some exponent => inferInstanceAs (Decidable (if decimal 0 exponent.digits < Nat.pow 2 31 then
      overflows (exponent.scale acc).significand (exponent.scale acc).exponent = false
    else acc.significand = 0 ∨ exponent.negative = true))

def InRange (literal : Literal) : Prop :=
  Finite literal.scaled literal.exponent

instance (literal : Literal) : Decidable literal.InRange :=
  inferInstanceAs (Decidable (Finite literal.scaled literal.exponent))

end Literal

/-! ## Lists -/

section Lists

variable {α : Type} (spells : α → List Char → Prop)

/-- What stands after an element: white space, and perhaps a comma with further elements. -/
inductive Further : List α → List Char → Prop
  | last {blank : List Char} (hblank : Blank blank) : Further [] blank
  | next {x : α} {xs : List α} {before after cs more : List Char} (hbefore : Blank before)
      (hafter : Blank after) (spelt : spells x cs) (rest : Further xs more) :
      Further (x :: xs) (before ++ ',' :: (after ++ (cs ++ more)))

/-- What stands between the brackets of an array or the braces of an object. -/
inductive Listed : List α → List Char → Prop
  | none {blank : List Char} (hblank : Blank blank) : Listed [] blank
  | some {x : α} {xs : List α} {blank cs more : List Char} (hblank : Blank blank)
      (spelt : spells x cs) (rest : Further spells xs more) :
      Listed (x :: xs) (blank ++ (cs ++ more))

end Lists

/-! ## Values -/

/-- A value without anything in it. -/
inductive FlatSpelling : Value → List Char → Prop
  | null : FlatSpelling .null ['n', 'u', 'l', 'l']
  | true : FlatSpelling (.bool true) ['t', 'r', 'u', 'e']
  | false : FlatSpelling (.bool false) ['f', 'a', 'l', 's', 'e']
  | number (literal : Literal) (proper : literal.Proper) (inRange : literal.InRange) :
      FlatSpelling (.number (String.ofList literal.chars)) literal.chars
  | string {text : String} {cs : List Char} (spelt : TextSpelling text cs) :
      FlatSpelling (.string text) cs

section Nested

variable (spells : Value → List Char → Prop)

inductive MemberSpelling : String × Value → List Char → Prop
  | mk {name : String} {value : Value} {quoted before after cs : List Char}
      (hname : TextSpelling name quoted) (hbefore : Blank before) (hafter : Blank after)
      (spelt : spells value cs) :
      MemberSpelling (name, value) (quoted ++ (before ++ ':' :: (after ++ cs)))

/-- An array or an object, given the spellings of what may be in it. -/
inductive NestSpelling : Value → List Char → Prop
  | array {items : List Value} {cs : List Char} (listed : Listed spells items cs) :
      NestSpelling (.array items) ('[' :: (cs ++ [']']))
  | object {members : List (String × Value)} {cs : List Char}
      (listed : Listed (MemberSpelling spells) members cs) :
      NestSpelling (.object members) ('\x7b' :: (cs ++ ['\x7d']))

end Nested

/-- The spellings of values whose arrays and objects are nested at most `levels` deep. -/
def Spelled : (levels : Nat) → Value → List Char → Prop
  | 0, value, cs => FlatSpelling value cs
  | levels + 1, value, cs => FlatSpelling value cs ∨ NestSpelling (Spelled levels) value cs

theorem Spelled.flat {levels : Nat} {value : Value} {cs : List Char}
    (spelt : FlatSpelling value cs) : Spelled levels value cs := by
  cases levels with
  | zero => exact spelt
  | succ levels => exact .inl spelt

theorem Spelled.nest {levels : Nat} {value : Value} {cs : List Char}
    (spelt : NestSpelling (Spelled levels) value cs) : Spelled (levels + 1) value cs :=
  .inr spelt

end Json
end FormSnippet
