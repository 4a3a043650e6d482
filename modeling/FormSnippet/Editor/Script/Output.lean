import FormSnippet.Editor.Condition

/-!
# Output — what scripts print

The shell prints by `echo` and `printf`, both of which know escapes behind a backslash.  A format is
used again as long as arguments are left.  What is printed is a list of bytes, since an escape can
stand for any of them.

- `echo`, `printf`  : what the commands print
-/

namespace FormSnippet
namespace Editor
namespace Script

abbrev Bytes : Type :=
  List UInt8

/-! ## Bytes -/

/-- A byte that is no part of a character is kept as one of the last characters that there are. -/
def ofStray (byte : UInt8) : Char :=
  Char.ofNat (0x10ff00 + byte.toNat)

def stray? (c : Char) : Option UInt8 :=
  if c.toNat < 0x10ff00 then none else some (UInt8.ofNat (c.toNat - 0x10ff00))

def bytesOf (text : String) : Bytes :=
  text.toList.flatMap fun c =>
    match stray? c with
    | some byte => [byte]
    | none => (String.singleton c).toUTF8.toList

/-- The character at the beginning of bytes, if there is one. -/
def leadingChar? (bytes : Bytes) : Option Char :=
  [1, 2, 3, 4].findSome? fun n =>
    (String.fromUTF8? (ByteArray.mk (bytes.take n).toArray)).bind fun text =>
      if text.utf8ByteSize = n then text.toList.head? else none

/-- Reads bytes as text, in at most `fuel` turns, each of which reads a character. -/
def charsOf : (fuel : Nat) → Bytes → List Char
  | 0, _ => []
  | _, [] => []
  | fuel + 1, byte :: rest =>
      match leadingChar? (byte :: rest) with
      | some c => c :: charsOf fuel ((byte :: rest).drop c.utf8Size)
      | none => ofStray byte :: charsOf fuel rest

/-- Bytes as a text.  The shell drops zeros. -/
def textOf (bytes : Bytes) : String :=
  let bytes := bytes.filter (· ≠ 0)
  match String.fromUTF8? (ByteArray.mk bytes.toArray) with
  | some text => text
  | none => String.ofList (charsOf bytes.length bytes)

/-! ## Escapes -/

/-- The character that a letter behind a backslash stands for. -/
def letterEscape? (c : Char) : Option UInt8 :=
  match c with
  | '\\' => some 92
  | 'a' => some 7
  | 'b' => some 8
  | 'e' => some 27
  | 'f' => some 12
  | 'n' => some 10
  | 'r' => some 13
  | 't' => some 9
  | 'v' => some 11
  | _ => none

def isOctal (c : Char) : Bool :=
  '0' ≤ c && c ≤ '7'

/-- The byte that digits to the base eight stand for. -/
def octal (digits : List Char) : UInt8 :=
  UInt8.ofNat (digits.foldl (fun n c => 8 * n + (c.toNat - '0'.toNat)) 0)

/-- What stands behind a backslash: the byte that is meant, and the rest.  A backslash in front of
any other character stands for itself. -/
def escape (cs : List Char) : UInt8 × List Char :=
  match cs with
  | [] => (92, [])
  | c :: rest =>
      if isOctal c then
        let digits := (c :: rest).take 3 |>.takeWhile isOctal
        (octal digits, (c :: rest).drop digits.length)
      else
        match letterEscape? c with
        | some byte => (byte, rest)
        | none => (92, cs)

/-- A text with its escapes replaced, in at most `fuel` turns, each of which reads a character; and
whether it goes on.  Digits may follow a zero of their own, and `\c` ends all that is printed. -/
def unescapeFuel : (fuel : Nat) → List Char → Bytes × Bool
  | 0, _ => ([], true)
  | _, [] => ([], true)
  | _ + 1, '\\' :: 'c' :: _ => ([], false)
  | fuel + 1, '\\' :: rest =>
      let (byte, rest) :=
        match rest with
        | '0' :: digit :: more => escape (if isOctal digit then digit :: more else rest)
        | rest => escape rest
      let (bytes, goesOn) := unescapeFuel fuel rest
      (byte :: bytes, goesOn)
  | fuel + 1, c :: rest =>
      let (bytes, goesOn) := unescapeFuel fuel rest
      (bytesOf (String.singleton c) ++ bytes, goesOn)

def unescape (text : String) : Bytes × Bool :=
  unescapeFuel (text.length + 1) text.toList

/-! ## Words -/

def echo (arguments : List String) : Bytes :=
  let (words, ended) :=
    match arguments with
    | "-n" :: rest => (rest, false)
    | rest => (rest, true)
  let (bytes, goesOn) := unescape (" ".intercalate words)
  bytes ++ if ended && goesOn then [10] else []

/-! ## Formats -/

/-- How an argument is set: between which limits, and on which side. -/
structure Setup where
  left : Bool := false
  zero : Bool := false
  plus : Bool := false
  space : Bool := false
  marked : Bool := false
  width : Nat := 0
  precision : Option Nat := none

namespace Setup

def addFlag (setup : Setup) (c : Char) : Setup :=
  match c with
  | '-' => { setup with left := true }
  | '0' => { setup with zero := true }
  | '+' => { setup with plus := true }
  | ' ' => { setup with space := true }
  | _ => { setup with marked := true }

/-- Fills bytes up to the width. -/
def fill (setup : Setup) (bytes : Bytes) : Bytes :=
  let room := List.replicate (setup.width - bytes.length) (32 : UInt8)
  if setup.left then bytes ++ room else room ++ bytes

/-- A sign and digits, with zeros between them as the width or the precision asks for. -/
def fillNumber (setup : Setup) (sign digits : String) : Bytes :=
  let wanted :=
    match setup.precision with
    | some precision => precision
    | none => if setup.zero && !setup.left then setup.width - sign.length else 0
  let zeros := String.ofList (List.replicate (wanted - digits.length) '0')
  setup.fill (bytesOf (sign ++ zeros ++ digits))

end Setup

/-- What has been printed, the arguments that are left, and whether all was well and goes on. -/
structure Printing where
  bytes : Bytes := []
  arguments : List String
  failed : Bool := false
  ended : Bool := false

/-- The beginning of a text that is a number, and whether that is all of the text.  A quote stands
for the number of the character behind it. -/
def leadingNumber (text : String) : Int × Bool :=
  let digitsIn (base : Nat) (cs : List Char) : Nat × Bool :=
    let isDigit (c : Char) : Bool :=
      if base = 16 then c.isDigit || ('a' ≤ c.toLower && c.toLower ≤ 'f')
      else c.isDigit && c.toNat < '0'.toNat + base
    let value (c : Char) : Nat :=
      if c.isDigit then c.toNat - '0'.toNat else c.toLower.toNat - 'a'.toNat + 10
    let digits := cs.takeWhile isDigit
    (digits.foldl (fun n c => n * base + value c) 0, !digits.isEmpty && digits.length = cs.length)
  let unsigned (cs : List Char) : Nat × Bool :=
    match cs with
    | '0' :: 'x' :: hex | '0' :: 'X' :: hex => digitsIn 16 hex
    | '0' :: _ => digitsIn 8 cs
    | cs => digitsIn 10 cs
  match text.toList.dropWhile (·.isWhitespace) with
  | '"' :: c :: _ | '\x27' :: c :: _ => (c.toNat, true)
  | '-' :: cs => let (n, whole) := unsigned cs; (-n, whole)
  | '+' :: cs => let (n, whole) := unsigned cs; (n, whole)
  | cs => let (n, whole) := unsigned cs; (n, whole)

/-- The digits of a number in a base. -/
def digitsOf (letter : Char) (n : Nat) : String :=
  let base := if letter = 'o' then 8 else if letter = 'x' || letter = 'X' then 16 else 10
  let text := String.ofList (Nat.toDigits base n)
  if letter = 'X' then text.toUpper else text

/-- Prints an argument as the letter of a conversion says. -/
def convert (setup : Setup) (letter : Char) (p : Printing) : Printing :=
  let argument := p.arguments.head?
  let taken : Printing := { p with arguments := p.arguments.tail }
  let print (bytes : Bytes) : Printing := { taken with bytes := p.bytes ++ bytes }
  let cut (bytes : Bytes) : Bytes :=
    match setup.precision with
    | some precision => bytes.take precision
    | none => bytes
  match letter with
  | 's' => print (setup.fill (cut (bytesOf (argument.getD ""))))
  | 'c' => print (setup.fill (((argument.map bytesOf).getD []).take 1))
  | 'b' =>
      let (bytes, goesOn) := unescape (argument.getD "")
      { print (setup.fill (cut bytes)) with ended := !goesOn }
  | 'd' | 'i' | 'o' | 'u' | 'x' | 'X' =>
      let (value, whole) := (argument.map leadingNumber).getD (0, true)
      let signed := letter = 'd' || letter = 'i'
      let size := if signed then value.natAbs else (value.emod 18446744073709551616).toNat
      let sign :=
        if signed then
          if value < 0 then "-" else if setup.plus then "+" else if setup.space then " " else ""
        else if setup.marked && letter = 'o' then "0"
        else if setup.marked && size ≠ 0 && letter ≠ 'u' then String.ofList ['0', letter]
        else ""
      { print (setup.fillNumber sign (digitsOf letter size)) with failed := p.failed || !whole }
  | _ => { p with failed := true, ended := true }

/-- A number in a format, or an argument if a star stands in its place. -/
def measure (cs : List Char) (p : Printing) : Option Int × List Char × Printing :=
  match cs with
  | '*' :: rest =>
      (some (leadingNumber (p.arguments.headD "0")).1, rest,
        { p with arguments := p.arguments.tail })
  | cs =>
      ((String.ofList (cs.takeWhile (·.isDigit))).toNat?.map Int.ofNat,
        cs.dropWhile (·.isDigit), p)

/-- One pass over a format, in at most `fuel` turns, each of which reads a character. -/
def passFuel : (fuel : Nat) → List Char → Printing → Printing
  | 0, _, p => p
  | _, [], p => p
  | fuel + 1, '\\' :: rest, p =>
      let (byte, rest) := escape rest
      passFuel fuel rest { p with bytes := p.bytes ++ [byte] }
  | fuel + 1, '%' :: '%' :: rest, p => passFuel fuel rest { p with bytes := p.bytes ++ [37] }
  | fuel + 1, '%' :: rest, p =>
      let isFlag (c : Char) : Bool := ['-', '0', '+', ' ', '#'].contains c
      let setup := (rest.takeWhile isFlag).foldl Setup.addFlag {}
      let (width, rest, p) := measure (rest.dropWhile isFlag) p
      let setup : Setup :=
        { setup with
          width := (width.getD 0).natAbs
          left := setup.left || (width.getD 0) < 0 }
      let (precision, rest, p) :=
        match rest with
        | '.' :: rest =>
            let (precision, rest, p) := measure rest p
            (some (precision.getD 0).toNat, rest, p)
        | rest => (none, rest, p)
      match rest with
      | [] => { p with failed := true, ended := true }
      | letter :: rest =>
          let p := convert { setup with precision } letter p
          if p.ended then p else passFuel fuel rest p
  | fuel + 1, c :: rest, p =>
      passFuel fuel rest { p with bytes := p.bytes ++ bytesOf (String.singleton c) }

/-- Passes over the format as long as each takes up arguments and leaves some. -/
def passes (format : List Char) : (fuel : Nat) → Printing → Printing
  | 0, p => p
  | fuel + 1, p =>
      let next := passFuel (format.length + 1) format p
      let isLast := next.arguments.isEmpty || next.arguments.length = p.arguments.length
      if next.ended || isLast then next else passes format fuel next

/-- What `printf` prints, and whether all arguments could be printed. -/
def printf (format : String) (arguments : List String) : Bytes × Bool :=
  let p := passes format.toList (arguments.length + 1) { arguments }
  (p.bytes, !p.failed)

end Script
end Editor
end FormSnippet
