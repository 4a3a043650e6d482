import FormSnippet.Editor.Program

/-!
# Condition — the expressions of `test`

An expression is made of conditions on one operand, such as `-f name`, conditions on two, such as
`a = b`, and `!`, `-a`, `-o` and parentheses.  Since a word can be an operator or an operand, it
matters how the words are read.  The program `test` goes by their number as long as it is at most
four; the shell, which has a `test` of its own, looks at the words behind an operator to find out
whether it is one.  An expression that is not understood ends with status 2.

- `unaryTest?`, `binaryTest?`   : conditions on one and on two operands
- `Counted.evaluate?`           : an expression as the program reads it
- `Looking.evaluate?`           : an expression as the shell reads it
-/

namespace FormSnippet
namespace Editor

/-! ## Conditions -/

/-- A whole number, with blanks around it and a sign before it if it has them. -/
def integer? (text : String) : Option Int :=
  let isPadding (c : Char) : Bool := c = ' ' || ('\t' ≤ c && c ≤ '\r')
  let cs := ((text.toList.dropWhile isPadding).reverse.dropWhile isPadding).reverse
  let digits (cs : List Char) : Option Int :=
    if !cs.isEmpty && cs.all (·.isDigit) then (String.ofList cs).toNat?.map Int.ofNat else none
  match cs with
  | '+' :: rest => digits rest
  | '-' :: rest => (digits rest).map (- ·)
  | cs => digits cs

def fileSize (disk : Disk) (name : String) : Option Nat :=
  match disk.lookup ⟨name⟩ with
  | .ok (.file content) => some content.size
  | .ok .directory => some 4096
  | .error _ => none

/-- Whether something has been put into a file or a directory since it was made. -/
def isChanged (disk : Disk) (name : String) : Bool :=
  match disk.locate ⟨name⟩ with
  | .error _ => false
  | .ok location =>
      match disk.entry? location with
      | some (.file content) => !content.isEmpty
      | _ => Disk.isRoot location || !(disk.children location).isEmpty

def isUnaryOperator (word : String) : Bool :=
  match word.toList with
  | ['-', letter] => "abcdefghknprstuwxzGLNOS".toList.contains letter
  | _ => false

/-- A condition on one operand. -/
def unaryTest? (disk : Disk) (operator operand : String) : Option Bool :=
  let there := disk.exists ⟨operand⟩
  let directory := disk.isDirectory ⟨operand⟩
  match operator with
  | "-n" => some (operand ≠ "")
  | "-z" => some (operand = "")
  | "-e" | "-r" | "-w" | "-O" | "-G" => some there
  | "-x" | "-d" => some directory
  | "-f" => some (there && !directory)
  | "-s" => some ((fileSize disk operand).getD 0 > 0)
  | "-t" => (integer? operand).map fun n => 0 ≤ n && n ≤ 2
  | "-N" => some (isChanged disk operand)
  | "-h" | "-L" | "-b" | "-c" | "-p" | "-S" | "-u" | "-g" | "-k" => some false
  | _ => none

def isBinaryOperator (word : String) : Bool :=
  ["=", "==", "!=", "-eq", "-ne", "-lt", "-le", "-gt", "-ge", "-nt", "-ot", "-ef"].contains word

/-- A condition on two operands.  A file is newer than one that is not there, and the files that are
there are of the same age. -/
def binaryTest? (disk : Disk) (left operator right : String) : Option Bool :=
  let numbers (holds : Int → Int → Bool) : Option Bool := do
    let left ← integer? left
    let right ← integer? right
    return holds left right
  let there (name : String) : Bool := disk.exists ⟨name⟩
  match operator with
  | "=" | "==" => some (left = right)
  | "!=" => some (left ≠ right)
  | "<" => some (left < right)
  | ">" => some (right < left)
  | "-eq" => numbers fun a b => a == b
  | "-ne" => numbers fun a b => a != b
  | "-lt" => numbers fun a b => a < b
  | "-le" => numbers fun a b => a ≤ b
  | "-gt" => numbers fun a b => b < a
  | "-ge" => numbers fun a b => b ≤ a
  | "-nt" => some (there left && !there right)
  | "-ot" => some (there right && !there left)
  | "-ef" =>
      match disk.locate ⟨left⟩, disk.locate ⟨right⟩ with
      | .ok a, .ok b => some (a = b)
      | _, _ => some false
  | _ => none

/-- What an expression says, and the words behind it; `none` if it is not understood. -/
abbrev Verdict : Type :=
  Option (Bool × List String)

namespace Verdict

def negate (verdict : Verdict) : Verdict :=
  verdict.map fun (value, rest) => (!value, rest)

/-- A verdict that must be followed by a closing parenthesis. -/
def closed (verdict : Verdict) : Verdict :=
  match verdict with
  | some (value, ")" :: rest) => some (value, rest)
  | _ => none

end Verdict

/-! ## Reading by the number of words -/

namespace Counted

def one : List String → Verdict
  | word :: rest => some (word ≠ "", rest)
  | [] => none

def unary (disk : Disk) : List String → Verdict
  | operator :: operand :: rest => (unaryTest? disk operator operand).map (·, rest)
  | _ => none

def looksUnary (word : String) : Bool :=
  word.length = 2 && word.startsWith "-"

def two (disk : Disk) : List String → Verdict
  | "!" :: rest => (one rest).negate
  | word :: rest => if looksUnary word then unary disk (word :: rest) else none
  | [] => none

/-- The number of words up to a closing parenthesis, or of all words if there are more than four. -/
def groupSize (words : List String) : Nat :=
  let count := (words.tail.takeWhile (· ≠ ")")).length + 1
  if count > 4 then words.length else count

mutual

/-- An expression of `count` words, in at most `fuel` turns. -/
def counted (disk : Disk) : (fuel count : Nat) → List String → Verdict
  | 0, _, _ => none
  | fuel + 1, count, words =>
      match count, words with
      | 1, words => one words
      | 2, words => two disk words
      | 3, words => three disk fuel words
      | 4, "!" :: rest => (three disk fuel rest).negate
      | 4, "(" :: a :: b :: ")" :: rest => (two disk (a :: b :: ")" :: rest)).closed
      | _, words => either disk fuel words

def three (disk : Disk) : (fuel : Nat) → List String → Verdict
  | 0, _ => none
  | fuel + 1, words =>
      match words with
      | left :: operator :: right :: rest =>
          if isBinaryOperator operator then
            (binaryTest? disk left operator right).map (·, rest)
          else if left = "!" then (two disk (operator :: right :: rest)).negate
          else if left = "(" && right = ")" then some (operator ≠ "", rest)
          else if operator = "-a" || operator = "-o" then either disk fuel words
          else none
      | _ => none

/-- Expressions joined by `-o`, all of which are read. -/
def either (disk : Disk) : (fuel : Nat) → List String → Verdict
  | 0, _ => none
  | fuel + 1, words =>
      match both disk fuel words with
      | some (value, "-o" :: rest) =>
          (either disk fuel rest).map fun (other, rest) => (value || other, rest)
      | verdict => verdict

/-- Expressions joined by `-a`, all of which are read. -/
def both (disk : Disk) : (fuel : Nat) → List String → Verdict
  | 0, _ => none
  | fuel + 1, words =>
      match term disk fuel words with
      | some (value, "-a" :: rest) =>
          (both disk fuel rest).map fun (other, rest) => (value && other, rest)
      | verdict => verdict

def term (disk : Disk) : (fuel : Nat) → List String → Verdict
  | 0, _ => none
  | fuel + 1, words =>
      match words with
      | [] => none
      | "!" :: rest => (term disk fuel rest).negate
      | "(" :: rest =>
          if rest.isEmpty then none else (counted disk fuel (groupSize rest) rest).closed
      | left :: operator :: right :: rest =>
          if isBinaryOperator operator then
            (binaryTest? disk left operator right).map (·, rest)
          else if looksUnary left then unary disk words
          else one words
      | word :: _ => if looksUnary word then unary disk words else one words

end

/-- Every turn reads a word or goes on to a part of the expression; there are five kinds of parts.
-/
def evaluate? (disk : Disk) (words : List String) : Option Bool :=
  if words.isEmpty then some false
  else
    match counted disk (5 * words.length + 5) words.length words with
    | some (value, []) => some value
    | _ => none

end Counted

/-! ## Reading by looking at the next words -/

namespace Looking

inductive Kind
  | nothing
  | operand
  | unary
  | binary
  | negation
  | both
  | either
  | opening
  | closing
  deriving DecidableEq, Repr

def isBinary (word : String) : Bool :=
  word = "<" || word = ">" || (isBinaryOperator word && word ≠ "==")

/-- What the first word is, given the words behind it.  A sign for a condition on one operand is an
operand itself if nothing follows it, or if a condition on two operands does. -/
def kind : List String → Kind
  | [] => .nothing
  | word :: rest =>
      match word with
      | "!" => .negation
      | "-a" => .both
      | "-o" => .either
      | "(" => if rest.isEmpty then .operand else .opening
      | ")" => .closing
      | word =>
          if isBinary word then .binary
          else if isUnaryOperator word && word ≠ "-N" then
            match rest with
            | [] => .operand
            | operator :: _ :: _ => if isBinary operator then .operand else .unary
            | _ => .unary
          else .operand

mutual

/-- Expressions joined by `-o`.  The words returned begin with the last one read. -/
def either (disk : Disk) : (fuel : Nat) → Kind → List String → Verdict
  | 0, _, _ => none
  | fuel + 1, first, words =>
      match both disk fuel first words with
      | none => none
      | some (value, words) =>
          if kind words.tail = .either then
            let rest := words.tail.tail
            (either disk fuel (kind rest) rest).map fun (other, rest) => (value || other, rest)
          else some (value, words)

def both (disk : Disk) : (fuel : Nat) → Kind → List String → Verdict
  | 0, _, _ => none
  | fuel + 1, first, words =>
      match negated disk fuel first words with
      | none => none
      | some (value, words) =>
          if kind words.tail = .both then
            let rest := words.tail.tail
            (both disk fuel (kind rest) rest).map fun (other, rest) => (value && other, rest)
          else some (value, words)

def negated (disk : Disk) : (fuel : Nat) → Kind → List String → Verdict
  | 0, _, _ => none
  | fuel + 1, first, words =>
      if first = .negation then
        match kind words.tail with
        | .nothing => some (true, words)
        | next => (negated disk fuel next words.tail).negate
      else primary disk fuel first words

def primary (disk : Disk) : (fuel : Nat) → Kind → List String → Verdict
  | 0, _, _ => none
  | fuel + 1, first, words =>
      match first, words with
      | .nothing, words => some (false, words)
      | .opening, _ :: rest =>
          if kind rest = .closing then some (false, rest)
          else
            match either disk fuel (kind rest) rest with
            | some (value, words) =>
                if kind words.tail = .closing then some (value, words.tail) else none
            | none => none
      | .unary, operator :: operand :: rest =>
          (unaryTest? disk operator operand).map (·, operand :: rest)
      | .unary, _ => none
      | _, left :: operator :: rest =>
          if isBinary operator then
            match rest with
            | right :: _ => (binaryTest? disk left operator right).map (·, rest)
            | [] => none
          else some (left ≠ "", words)
      | _, [word] => some (word ≠ "", words)
      | _, [] => some (false, [])

end

/-- The whole of an expression; nothing may be left of it. -/
def whole (disk : Disk) (first : Kind) (words : List String) : Option Bool :=
  match either disk (4 * words.length + 4) first words with
  | some (value, words) => if words.tail.isEmpty then some value else none
  | none => none

/-- A negation of three words or of two, and parentheses around two words or one, are what they seem
to be. -/
def evaluate? (disk : Disk) (words : List String) : Option Bool :=
  let three (words : List String) : Option Bool :=
    match words with
    | [_, operator, _] =>
        if isBinary operator then whole disk .operand words
        else
          match words with
          | ["(", word, ")"] => whole disk (kind [word]) [word]
          | ["!", a, b] => (whole disk (kind [a, b]) [a, b]).map (!·)
          | words => whole disk (kind words) words
    | words => whole disk (kind words) words
  match words with
  | [] => some false
  | ["(", a, b, ")"] => whole disk (kind [a, b]) [a, b]
  | ["!", a, b, c] => (three [a, b, c]).map (!·)
  | words => three words

end Looking

/-! ## Programs -/

def statusOf : Option Bool → Nat
  | some true => 0
  | some false => 1
  | none => 2

def test : Program := fun arguments _ disk =>
  { disk, status := statusOf (Counted.evaluate? disk arguments) }

end Editor
end FormSnippet
