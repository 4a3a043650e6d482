import FormSnippet.Editor.Script.Token

/-!
# Sum — arithmetic in scripts

The text in double parentheses is an expression over whole numbers of 64 bits.  Its operators are
those of C; the names in it are variables, which may be assigned to.

- `Sum.evaluate?`   : the value of an expression, and the variables behind it
-/

namespace FormSnippet
namespace Editor
namespace Script
namespace Sum

/-! ## Tokens -/

inductive Token
  | number (value : Int)
  | name (name : String)
  | sign (name : String)
  deriving DecidableEq, Repr

def signs : List String :=
  ["<<=", ">>=", "<<", ">>", "<=", ">=", "==", "!=", "&&", "||", "+=", "-=", "*=", "/=", "%=", "&=",
    "|=", "^=", "+", "-", "*", "/", "%", "<", ">", "=", "&", "|", "^", "~", "!", "?", ":", "(", ")",
    ","]

def digitValue (c : Char) : Nat :=
  if c.isDigit then c.toNat - '0'.toNat
  else if c.isLower then c.toNat - 'a'.toNat + 10
  else c.toNat - 'A'.toNat + 10

/-- A number in base ten, or in base eight or sixteen if it begins with zero. -/
def number? (cs : List Char) : Option Int :=
  let value (base : Nat) (digits : List Char) : Option Int :=
    if digits.all fun c => c.isAlphanum && digitValue c < base then
      some (digits.foldl (fun n c => n * base + digitValue c) 0 : Nat)
    else none
  match cs with
  | '0' :: 'x' :: digits | '0' :: 'X' :: digits =>
      if digits.isEmpty then none else value 16 digits
  | '0' :: digits => value 8 digits
  | digits => value 10 digits

def tokensFuel : (fuel : Nat) → List Char → Option (List Token)
  | 0, _ => none
  | _, [] => some []
  | fuel + 1, c :: cs =>
      if c.isWhitespace then tokensFuel fuel cs
      else if isNameStart c then
        (tokensFuel fuel (cs.dropWhile isNameChar)).map
          (.name (String.ofList (c :: cs.takeWhile isNameChar)) :: ·)
      else if c.isDigit then do
        let value ← number? (c :: cs.takeWhile isNameChar)
        let rest ← tokensFuel fuel (cs.dropWhile isNameChar)
        return .number value :: rest
      else do
        let sign ← signs.find? fun sign => sign.toList.isPrefixOf (c :: cs)
        let rest ← tokensFuel fuel ((c :: cs).drop sign.length)
        return .sign sign :: rest

def tokens? (cs : List Char) : Option (List Token) :=
  tokensFuel (cs.length + 1) cs

/-! ## Values -/

/-- The number with the same last 64 bits. -/
def wrap (n : Int) : Int :=
  n.bmod 18446744073709551616

def ofBool (b : Bool) : Int :=
  if b then 1 else 0

/-- The bits of a number and of another one, combined. -/
def bits (combine : Nat → Nat → Nat) (a b : Int) : Int :=
  let word (n : Int) : Nat := (n.emod 18446744073709551616).toNat
  wrap (combine (word a) (word b))

/-- A power of two, of which only the last six bits of the exponent count. -/
def power (n : Int) : Int :=
  Nat.pow 2 (n.emod 64).toNat

def operate? (sign : String) (a b : Int) : Option Int :=
  match sign with
  | "*" => some (wrap (a * b))
  | "/" => if b = 0 then none else some (wrap (a.tdiv b))
  | "%" => if b = 0 then none else some (a.tmod b)
  | "+" => some (wrap (a + b))
  | "-" => some (wrap (a - b))
  | "<<" => some (wrap (a * power b))
  | ">>" => some (a.fdiv (power b))
  | "<" => some (ofBool (a < b))
  | "<=" => some (ofBool (a ≤ b))
  | ">" => some (ofBool (b < a))
  | ">=" => some (ofBool (b ≤ a))
  | "==" => some (ofBool (a == b))
  | "!=" => some (ofBool (a != b))
  | "&" => some (bits Nat.land a b)
  | "^" => some (bits Nat.xor a b)
  | "|" => some (bits Nat.lor a b)
  | "&&" => some (ofBool (a != 0 && b != 0))
  | "||" => some (ofBool (a != 0 || b != 0))
  | _ => none

/-- How tightly an operator binds. -/
def rank? (sign : String) : Option Nat :=
  match sign with
  | "*" | "/" | "%" => some 10
  | "+" | "-" => some 9
  | "<<" | ">>" => some 8
  | "<" | "<=" | ">" | ">=" => some 7
  | "==" | "!=" => some 6
  | "&" => some 5
  | "^" => some 4
  | "|" => some 3
  | "&&" => some 2
  | "||" => some 1
  | _ => none

/-! ## Expressions -/

abbrev Bindings : Type :=
  List (String × String)

def look (bindings : Bindings) (name : String) : String :=
  ((bindings.find? (·.1 = name)).map (·.2)).getD ""

def assign (bindings : Bindings) (name value : String) : Bindings :=
  (name, value) :: bindings.filter (·.1 ≠ name)

/-- A value, the variables and the tokens behind it. -/
abbrev Reading : Type :=
  Option (Int × Bindings × List Token)

/-- The number that a variable holds, which is zero if it is empty. -/
def valueOf? (text : String) : Option Int :=
  match text.toList.filter (!·.isWhitespace) with
  | [] => some 0
  | '-' :: digits => (number? digits).map (- ·)
  | '+' :: digits => number? digits
  | digits => if digits.head?.any (·.isDigit) then number? digits else none

/-- An operator in front of an assignment sign. -/
def assigning? (sign : String) : Option String :=
  if ["==", "!=", "<=", ">="].contains sign then none
  else if sign.endsWith "=" then some (sign.dropEnd 1).toString
  else none

mutual

/-- An assignment, or a choice between two expressions, or what binds more tightly. -/
def assignment? : (fuel : Nat) → Bindings → List Token → Reading
  | 0, _, _ => none
  | fuel + 1, bindings, tokens =>
      match tokens with
      | .name name :: .sign sign :: rest =>
          match assigning? sign with
          | none => choice? fuel bindings tokens
          | some operator =>
              match assignment? fuel bindings rest with
              | none => none
              | some (value, bindings, rest) =>
                  let old := valueOf? (look bindings name)
                  let result :=
                    if operator = "" then some value else old.bind (operate? operator · value)
                  result.map fun n => (n, assign bindings name (toString n), rest)
      | tokens => choice? fuel bindings tokens

def choice? : (fuel : Nat) → Bindings → List Token → Reading
  | 0, _, _ => none
  | fuel + 1, bindings, tokens =>
      match binary? fuel 1 bindings tokens with
      | some (condition, bindings, .sign "?" :: rest) =>
          match assignment? fuel bindings rest with
          | some (yes, after, .sign ":" :: rest) =>
              match choice? fuel bindings rest with
              | some (no, otherwise, rest) =>
                  some (if condition ≠ 0 then (yes, after, rest) else (no, otherwise, rest))
              | none => none
          | _ => none
      | reading => reading

/-- Operators that bind at least as tightly as `rank`. -/
def binary? : (fuel rank : Nat) → Bindings → List Token → Reading
  | 0, _, _, _ => none
  | fuel + 1, rank, bindings, tokens =>
      match unary? fuel bindings tokens with
      | none => none
      | some (value, bindings, rest) => continue? fuel rank value bindings rest

def continue? : (fuel rank : Nat) → Int → Bindings → List Token → Reading
  | 0, _, _, _, _ => none
  | fuel + 1, rank, left, bindings, tokens =>
      match tokens with
      | .sign sign :: rest =>
          match rank? sign with
          | none => some (left, bindings, tokens)
          | some own =>
              if own < rank then some (left, bindings, tokens)
              else
                match binary? fuel (own + 1) bindings rest with
                | none => none
                | some (right, after, rest) =>
                    let skipped := (sign = "&&" && left = 0) || (sign = "||" && left ≠ 0)
                    match operate? sign left right with
                    | none => none
                    | some value =>
                        continue? fuel rank value (if skipped then bindings else after) rest
      | tokens => some (left, bindings, tokens)

def unary? : (fuel : Nat) → Bindings → List Token → Reading
  | 0, _, _ => none
  | fuel + 1, bindings, tokens =>
      let mapped (f : Int → Int) (rest : List Token) : Reading :=
        (unary? fuel bindings rest).map fun (value, more) => (wrap (f value), more)
      match tokens with
      | .number value :: rest => some (wrap value, bindings, rest)
      | .name name :: rest =>
          (valueOf? (look bindings name)).map fun n => (wrap n, bindings, rest)
      | .sign "(" :: rest =>
          match assignment? fuel bindings rest with
          | some (value, bindings, .sign ")" :: rest) => some (value, bindings, rest)
          | _ => none
      | .sign "-" :: rest => mapped (- ·) rest
      | .sign "+" :: rest => mapped id rest
      | .sign "~" :: rest => mapped (fun n => -n - 1) rest
      | .sign "!" :: rest => mapped (fun n => ofBool (n == 0)) rest
      | _ => none

end

def evaluate? (bindings : Bindings) (cs : List Char) : Option (Int × Bindings) := do
  let tokens ← tokens? cs
  match ← assignment? (16 * tokens.length + 16) bindings tokens with
  | (value, bindings, []) => some (value, bindings)
  | _ => none

end Sum
end Script
end Editor
end FormSnippet
