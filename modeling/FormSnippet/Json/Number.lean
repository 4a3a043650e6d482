import FormSnippet.Json.Fault

/-!
# Number — JSON number literals and their range

A number literal is an optional sign, a whole part without a leading zero, an optional fraction and
an optional exponent.  A literal is accepted only if its double precision value is finite, where the
value is found as follows: digits are gathered into a 64 bit significand as long as it does not
overflow, the significand is rounded to a double, and the double is scaled by a power of ten.

- `readNumber`  : the literal at the head of a text
- `round53`     : rounding to the nearest number of 53 significant bits, a tie to the even one
- `overflows`   : whether a scaled significand is not finite
-/

namespace FormSnippet
namespace Json

/-! ## Range -/

def round53 (n : Nat) : Nat :=
  let drop := n.log2 + 1 - 53
  if drop = 0 then n
  else
    let unit := Nat.pow 2 drop
    let low := n % unit
    let high := n / unit
    if low * 2 > unit || (low * 2 == unit && high % 2 == 1) then (high + 1) * unit else high * unit

/-- Whether `significand * 10 ^ exponent` leaves the finite doubles. -/
def overflows (significand : Nat) (exponent : Int) : Bool :=
  match exponent with
  | .negSucc _ => false
  | .ofNat e =>
      if significand = 0 then false
      else if e > 308 then true
      else round53 (round53 significand * round53 (Nat.pow 10 e)) ≥ Nat.pow 2 1024

/-- A significand with the power of ten that scales it. -/
structure Scaled where
  significand : Nat
  exponent : Int
  deriving DecidableEq, Repr

def fits (n : Nat) : Bool :=
  n < Nat.pow 2 64

def digitValue (c : Char) : Nat :=
  c.toNat - 48

/-- Gathers whole digits; once one does not fit, it and all later ones only raise the exponent. -/
def gatherWhole (acc : Scaled) : List Char → Scaled
  | [] => acc
  | d :: ds =>
      let next := acc.significand * 10 + digitValue d
      if fits next then gatherWhole { acc with significand := next } ds
      else { acc with exponent := acc.exponent + (ds.length + 1) }

/-- Gathers digits of a fraction; once one does not fit, it and all later ones are dropped. -/
def gatherFraction (acc : Scaled) : List Char → Scaled
  | [] => acc
  | d :: ds =>
      let next := acc.significand * 10 + digitValue d
      if fits next then gatherFraction ⟨next, acc.exponent - 1⟩ ds else acc

/-! ## Literals -/

def isDigit (c : Char) : Bool :=
  '0' ≤ c && c ≤ '9'

def digits (cs : List Char) : List Char × List Char :=
  (cs.takeWhile isDigit, cs.dropWhile isDigit)

/-- The scaled value is final here, so this is where its range is checked. -/
def finishNumber (acc : Scaled) (rest : List Char) : Except Stop (List Char) :=
  if overflows acc.significand acc.exponent then .error ⟨.numberTooLarge, rest, 0⟩ else .ok rest

/-- The digits of an exponent after the first.  An exponent beyond 31 bits makes the value infinite
at once, or zero. -/
def exponentDigits (acc : Scaled) (negative : Bool) (exponent : Nat) :
    List Char → Except Stop (List Char)
  | [] => finishNumber { acc with exponent := signed exponent } []
  | c :: cs =>
      if isDigit c then
        let next := exponent * 10 + digitValue c
        if next < Nat.pow 2 31 then exponentDigits acc negative next cs
        else if acc.significand ≠ 0 ∧ negative = false then .error ⟨.numberTooLarge, cs, 0⟩
        else .ok (cs.dropWhile isDigit)
      else finishNumber { acc with exponent := signed exponent } (c :: cs)
where
  signed (e : Nat) : Int := if negative then acc.exponent - e else acc.exponent + e

def readExponent (acc : Scaled) (cs : List Char) : Except Stop (List Char) :=
  let (negative, rest) :=
    match cs with
    | '+' :: rest => (false, rest)
    | '-' :: rest => (true, rest)
    | rest => (false, rest)
  match rest with
  | [] => .error ⟨.endInValue, [], 0⟩
  | c :: more =>
      if isDigit c then exponentDigits acc negative (digitValue c) more
      else .error ⟨.badNumber, rest, 1⟩

/-- What may follow the digits of a number: an exponent, or nothing more of it. -/
def afterDigits (acc : Scaled) : List Char → Except Stop (List Char)
  | 'e' :: rest => readExponent acc rest
  | 'E' :: rest => readExponent acc rest
  | rest => finishNumber acc rest

/-- What may follow the whole part of a number. -/
def afterWhole (acc : Scaled) : List Char → Except Stop (List Char)
  | '.' :: rest =>
      match digits rest with
      | ([], []) => .error ⟨.endInValue, [], 1⟩
      | ([], more) => .error ⟨.badNumber, more, 1⟩
      | (fraction, more) => afterDigits (gatherFraction acc fraction) more
  | rest => afterDigits acc rest

/-- Reads a number without its sign and returns what follows it. -/
def readUnsigned : List Char → Except Stop (List Char)
  | [] => .error ⟨.endInValue, [], 0⟩
  | '0' :: rest =>
      match rest with
      | c :: _ => if isDigit c then .error ⟨.badNumber, rest, 1⟩ else afterWhole ⟨0, 0⟩ rest
      | [] => .ok []
  | c :: rest =>
      if isDigit c then
        let (whole, more) := digits (c :: rest)
        afterWhole (gatherWhole ⟨0, 0⟩ whole) more
      else .error ⟨.badNumber, c :: rest, 1⟩

/-- Reads a number and returns its literal and what follows it. -/
def readNumber (cs : List Char) : Except Stop (List Char × List Char) := do
  let unsigned :=
    match cs with
    | '-' :: rest => rest
    | rest => rest
  let rest ← readUnsigned unsigned
  return (cs.take (cs.length - rest.length), rest)

end Json
end FormSnippet
