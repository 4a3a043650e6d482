import FormSnippet.Text.Blank
import FormSnippet.Text.Property

/-!
# Pattern — regular expressions for the values of fields

A directive may name the value of a field by a regular expression.  An expression is read from left
to right; groups that are open are kept on a stack.  What would need tables of Unicode is refused:
classes of digits, words and blanks, properties, word boundaries and letters of either case.  So is
what may match half a character, and so is every count in braces, since a brace ends the field.

- `Pattern.isValid`     : whether a text is a regular expression that can be used
-/

namespace FormSnippet
namespace Log
namespace Pattern

/-! ## Flags -/

/-- What the flags of a group decide: whether letters match either case, whether the text is made of
characters and not of bytes, and whether blanks and comments in the expression are passed over. -/
structure Flags where
  ignoreCase : Bool := false
  unicode : Bool := true
  verbose : Bool := false
  deriving DecidableEq, Repr

namespace Flags

def set (flags : Flags) (name : Char) (value : Bool) : Flags :=
  match name with
  | 'i' => { flags with ignoreCase := value }
  | 'u' => { flags with unicode := value }
  | 'x' => { flags with verbose := value }
  | _ => flags

/-- The flags up to a colon or a closing parenthesis, which is returned with what follows it.  No
flag is given twice, and a minus stands once and before a flag. -/
def read? : Bool → List Char → Flags → List Char → Option (Flags × Char × List Char)
  | _, _, _, [] => none
  | value, seen, flags, c :: cs =>
      if c = ':' || c = ')' then
        if seen.head? = some '-' then none else some (flags, c, cs)
      else if seen.contains c then none
      else if c = '-' then read? false (c :: seen) flags cs
      else if ['i', 'm', 's', 'U', 'u', 'R', 'x'].contains c then
        read? value (c :: seen) (flags.set c value) cs
      else none

/-- Passes over blanks and over comments, which run to the end of their line. -/
def skipBlanks : (comment : Bool) → List Char → List Char
  | _, [] => []
  | true, c :: cs => skipBlanks (c ≠ '\n') cs
  | false, c :: cs =>
      if Text.isBlank c then skipBlanks false cs
      else if c = '#' then skipBlanks true cs
      else c :: cs

def skip (flags : Flags) (cs : List Char) : List Char :=
  if flags.verbose then skipBlanks false cs else cs

end Flags

/-! ## Escapes -/

inductive Escape
  | literal (c : Char) (byte : Bool)
  | shorthand (negated : Bool)
  | position (ofWord : Bool)
  deriving DecidableEq, Repr

def hexDigit? (c : Char) : Option Nat :=
  if c.isDigit then some (c.toNat - '0'.toNat)
  else if 'a' ≤ c && c ≤ 'f' then some (c.toNat - 'a'.toNat + 10)
  else if 'A' ≤ c && c ≤ 'F' then some (c.toNat - 'A'.toNat + 10)
  else none

/-- The number that `count` hexadecimal digits write. -/
def hexNumber? (flags : Flags) : (count value : Nat) → List Char → Option (Nat × List Char)
  | 0, value, cs => some (value, cs)
  | count + 1, value, cs =>
      match flags.skip cs with
      | [] => none
      | c :: cs => (hexDigit? c).bind fun digit => hexNumber? flags count (16 * value + digit) cs

def hexEscape? (flags : Flags) (count : Nat) (cs : List Char) : Option (Escape × List Char) := do
  let (value, rest) ← hexNumber? flags count 0 cs
  if value.isValidChar then some (.literal (Char.ofNat value) (count = 2), rest) else none

/-- What follows a backslash. -/
def escape? (flags : Flags) : List Char → Option (Escape × List Char)
  | [] => none
  | c :: cs =>
      match c with
      | 'x' => hexEscape? flags 2 cs
      | 'u' => hexEscape? flags 4 cs
      | 'U' => hexEscape? flags 8 cs
      | 'd' | 's' | 'w' => some (.shorthand false, cs)
      | 'D' | 'S' | 'W' => some (.shorthand true, cs)
      | 'A' | 'z' => some (.position false, cs)
      | 'b' | 'B' | '<' | '>' => some (.position true, cs)
      | 'a' | 'f' | 't' | 'n' | 'r' | 'v' => some (.literal c false, cs)
      | c => if c.toNat < 0x80 && !c.isAlphanum then some (.literal c false, cs) else none

/-- Whether a character may stand for itself. -/
def allowsLiteral (flags : Flags) (c : Char) (byte : Bool) : Bool :=
  if flags.unicode then !flags.ignoreCase else !byte || c.toNat < 0x80

def Escape.isAllowed (flags : Flags) : Escape → Bool
  | .literal c byte => allowsLiteral flags c byte
  | .shorthand negated => !flags.unicode && !negated
  | .position ofWord => !(ofWord && flags.unicode)

/-! ## Classes in brackets -/

def classNames : List String :=
  ["alnum", "alpha", "ascii", "blank", "cntrl", "digit", "graph", "lower", "print", "punct",
    "space",
    "upper", "word", "xdigit"]

/-- A named class behind its opening bracket: whether it is negated, and what follows it. -/
def namedClass? (cs : List Char) : Option (Bool × List Char) :=
  match cs with
  | ':' :: cs =>
      let negated := cs.head? = some '^'
      let cs := if negated then cs.tail else cs
      match cs.dropWhile (· ≠ ':') with
      | ':' :: ']' :: rest =>
          if classNames.contains (String.ofList (cs.takeWhile (· ≠ ':'))) then some (negated, rest)
          else none
      | _ => none
  | _ => none

/-- Passes over the minus signs at the beginning of a class. -/
def skipMinus (flags : Flags) : Nat → List Char → List Char
  | 0, cs => cs
  | fuel + 1, cs =>
      match cs with
      | '-' :: rest => skipMinus flags fuel (flags.skip rest)
      | cs => cs

/-- The beginning of a class behind its opening bracket.  A closing bracket that stands first is a
member of the class. -/
def openClass? (flags : Flags) (cs : List Char) : Option (List Char) :=
  let cs := flags.skip cs
  let negated := cs.head? = some '^'
  if flags.unicode && flags.ignoreCase || !flags.unicode && negated then none
  else
    let cs := if negated then flags.skip cs.tail else cs
    match cs with
    | ']' :: rest => some (flags.skip rest)
    | cs => some (skipMinus flags cs.length cs)

/-- A member of a class, which has no character if it is a class itself. -/
def member? (flags : Flags) : List Char → Option (Option Char × List Char)
  | [] => none
  | '\\' :: cs =>
      match escape? flags cs with
      | some (.literal c _, rest) =>
          if flags.unicode || c.toNat < 0x80 then some (some c, rest) else none
      | some (.shorthand negated, rest) =>
          if (Escape.shorthand negated).isAllowed flags then some (none, rest) else none
      | _ => none
  | c :: cs => if flags.unicode || c.toNat < 0x80 then some (some c, cs) else none

/-- A member of a class or a range of members. -/
def range? (flags : Flags) (cs : List Char) : Option (List Char) := do
  let (first, rest) ← member? flags cs
  match flags.skip rest with
  | '-' :: more =>
      let more := flags.skip more
      if more.head? = some ']' || more.head? = some '-' then some ('-' :: more)
      else
        let (last, rest) ← member? flags more
        match first, last with
        | some a, some b => if a ≤ b then some rest else none
        | _, _ => none
  | rest => some rest

/-- The rest of a class in `depth` further classes, in at most `fuel` turns; returns what follows
the outermost one. -/
def class? (flags : Flags) : (fuel depth : Nat) → List Char → Option (List Char)
  | 0, _, _ => none
  | fuel + 1, depth, cs =>
      match flags.skip cs with
      | [] => none
      | '[' :: rest =>
          match namedClass? rest with
          | some (negated, rest) =>
              if !flags.unicode && negated then none else class? flags fuel depth rest
          | none => (openClass? flags rest).bind (class? flags fuel (depth + 1))
      | ']' :: rest => if depth = 0 then some rest else class? flags fuel (depth - 1) rest
      | '&' :: '&' :: rest | '-' :: '-' :: rest | '~' :: '~' :: rest => class? flags fuel depth rest
      | cs => (range? flags cs).bind (class? flags fuel depth)

/-! ## Expressions -/

/-- How far the reading has come: the flags in force, those to be restored at the ends of the open
groups, the names of groups, and whether there is something that an operator can repeat. -/
structure Place where
  flags : Flags := {}
  outer : List Flags := []
  names : List (List Char) := []
  repeatable : Bool := false

namespace Place

def openGroup (place : Place) (flags : Flags) : Place :=
  { place with flags, outer := place.flags :: place.outer, repeatable := false }

def ready (place : Place) : Place :=
  { place with repeatable := true }

end Place

def isNameStart (c : Char) : Bool :=
  c = '_' || (Text.isAlphanumeric c && !c.isDigit)

def isNameRest (c : Char) : Bool :=
  c = '_' || c = '.' || c = '[' || c = ']' || Text.isAlphanumeric c

/-- A named group behind the bracket that begins its name. -/
def namedGroup? (place : Place) (cs : List Char) : Option (Place × List Char) :=
  let name := cs.takeWhile (· ≠ '>')
  match name, cs.dropWhile (· ≠ '>') with
  | first :: more, '>' :: rest =>
      if isNameStart first && more.all isNameRest && !place.names.contains name then
        some ({ place with names := name :: place.names }.openGroup place.flags, rest)
      else none
  | _, _ => none

/-- What an opening parenthesis begins: a group, or flags for the rest of the group around. -/
def group? (place : Place) (cs : List Char) : Option (Place × List Char) :=
  match place.flags.skip cs with
  | '?' :: 'P' :: '<' :: rest => namedGroup? place rest
  | '?' :: '<' :: rest => namedGroup? place rest
  | '?' :: rest =>
      match Flags.read? true [] place.flags rest with
      | some (flags, ':', rest) => some (place.openGroup flags, rest)
      | some (flags, _, more) =>
          if rest.head? = some ')' then none
          else some ({ place with flags, repeatable := false }, more)
      | none => none
  | cs => some (place.openGroup place.flags, cs)

/-- Reads one element of an expression. -/
def element? (place : Place) : List Char → Option (Place × List Char)
  | [] => none
  | c :: cs =>
      match c with
      | '(' => group? place cs
      | ')' =>
          match place.outer with
          | flags :: outer => some ({ place with flags, outer, repeatable := true }, cs)
          | [] => none
      | '|' => some ({ place with repeatable := false }, cs)
      | '[' =>
          (openClass? place.flags cs).bind fun rest =>
            (class? place.flags (cs.length + 1) 0 rest).map (place.ready, ·)
      | '?' | '*' | '+' => if place.repeatable then some (place, cs) else none
      | '{' => none
      | '\\' =>
          (escape? place.flags cs).bind fun (escape, rest) =>
            if escape.isAllowed place.flags then some (place.ready, rest) else none
      | '.' => if place.flags.unicode then some (place.ready, cs) else none
      | '^' | '$' => some (place.ready, cs)
      | c => if allowsLiteral place.flags c false then some (place.ready, cs) else none

/-- Reads an expression in at most `fuel` turns; every turn consumes a character. -/
def validFrom : (fuel : Nat) → Place → List Char → Bool
  | 0, _, _ => false
  | fuel + 1, place, cs =>
      match place.flags.skip cs with
      | [] => place.outer.isEmpty
      | cs =>
          match element? place cs with
          | some (place, rest) => validFrom fuel place rest
          | none => false

def isValid (text : List Char) : Bool :=
  validFrom (text.length + 1) {} text

/-! ## Numbers -/

/-- A number without a sign, in digits with a point or an exponent, or by its name. -/
def isMagnitude (cs : List Char) : Bool :=
  let digits := cs.takeWhile (·.isDigit)
  let rest := cs.dropWhile (·.isDigit)
  let (places, rest) :=
    match rest with
    | '.' :: rest => (rest.takeWhile (·.isDigit), rest.dropWhile (·.isDigit))
    | rest => ([], rest)
  let isExponent :=
    match rest with
    | [] => true
    | e :: rest =>
        let rest := if rest.head? = some '+' || rest.head? = some '-' then rest.tail else rest
        (e = 'e' || e = 'E') && !rest.isEmpty && rest.all (·.isDigit)
  ["inf", "infinity", "nan"].contains (String.ofList cs).toLower ||
    (!(digits ++ places).isEmpty && isExponent)

def isNumber (cs : List Char) : Bool :=
  match cs with
  | '+' :: rest | '-' :: rest => isMagnitude rest
  | cs => isMagnitude cs

end Pattern
end Log
end FormSnippet
