import FormSnippet.Editor.Script.Syntax

/-!
# Token — the words and signs of a script

A script is divided into words, signs and ends of lines.  A text that is redirected by `<<` stands
below the line, and takes the place of the word that marks its end.

- `tokens`      : the tokens of a script; a quote that is not closed makes a broken token
- `hereParts`   : a text that is redirected, in which parameters are replaced
-/

namespace FormSnippet
namespace Editor
namespace Script

inductive Token
  | word (word : Word)
  | descriptor (number : Nat)
  | sign (name : String)
  | newline
  /-- A text below the line. -/
  | here (body : Word)
  /-- The place of such a text, before it has been read. -/
  | awaiting (number : Nat)
  | broken
  deriving Inhabited

/-! ## Words -/

/-- Where a part of a word stands, which decides what ends it and which characters are special. -/
inductive Setting
  | word
  | quotes
  | braces (quoted : Bool)
  | here
  | sum (depth : Nat)
  deriving DecidableEq, Repr

def Setting.isQuoted : Setting → Bool
  | .word | .braces false => false
  | _ => true

def isBlankChar (c : Char) : Bool :=
  c = ' ' || c = '\t'

/-- Characters that end a word. -/
def endsWord (c : Char) : Bool :=
  isBlankChar c || ['\n', ';', '&', '|', '<', '>', '(', ')'].contains c

def isNameStart (c : Char) : Bool :=
  c.isAlpha || c = '_'

def isNameChar (c : Char) : Bool :=
  c.isAlphanum || c = '_'

def isName (cs : List Char) : Bool :=
  cs.head?.any isNameStart && cs.all isNameChar

def isSpecialParameter (c : Char) : Bool :=
  ['@', '*', '#', '?', '$', '!', '-'].contains c || c.isDigit

/-- The text up to a single quote, and what follows the quote. -/
def untilQuote? (cs : List Char) : Option (List Char × List Char) :=
  match cs.dropWhile (· ≠ '\x27') with
  | _ :: rest => some (cs.takeWhile (· ≠ '\x27'), rest)
  | [] => none

/-- The text up to a backquote.  A backslash before a dollar sign, a backquote or a backslash is
left out. -/
def untilBackquote? : List Char → Option (List Char × List Char)
  | [] => none
  | '\x60' :: rest => some ([], rest)
  | '\\' :: c :: rest =>
      (untilBackquote? rest).map fun (text, rest) =>
        (if ['$', '\x60', '\\'].contains c then c :: text else '\\' :: c :: text, rest)
  | c :: rest => (untilBackquote? rest).map fun (text, rest) => (c :: text, rest)

/-- The quotation in which a character of a command stands. -/
inductive Quotation
  | none
  | single
  | double
  deriving DecidableEq, Repr

/-- The text up to the parenthesis that closes `depth` parentheses and one more. -/
def untilClosed? : Quotation → (depth : Nat) → List Char → Option (List Char × List Char)
  | _, _, [] => .none
  | quotation, depth, c :: cs =>
      let go (quotation : Quotation) (depth : Nat) : Option (List Char × List Char) :=
        (untilClosed? quotation depth cs).map fun (text, rest) => (c :: text, rest)
      match quotation, c with
      | .single, '\x27' => go .none depth
      | .single, _ => go .single depth
      | .double, '"' => go .none depth
      | .none, '\x27' => go .single depth
      | .none, '"' => go .double depth
      | .none, '(' => go .none (depth + 1)
      | .none, ')' => if depth = 0 then some ([], cs) else go .none (depth - 1)
      | quotation, '\\' =>
          match cs with
          | [] => .none
          | escaped :: rest =>
              (untilClosed? quotation depth rest).map fun (text, rest) =>
                ('\\' :: escaped :: text, rest)
      | quotation, _ => go quotation depth

/-- The name of a parameter, without braces. -/
def shortName? : List Char → Option (String × List Char)
  | [] => none
  | c :: cs =>
      if isSpecialParameter c then some (String.singleton c, cs)
      else if isNameStart c then
        some (String.ofList (c :: cs.takeWhile isNameChar), cs.dropWhile isNameChar)
      else none

/-- The name of a parameter in braces, of which digits may be several. -/
def longName? : List Char → Option (String × List Char)
  | [] => none
  | c :: cs =>
      if c.isDigit then
        some (String.ofList (c :: cs.takeWhile (·.isDigit)), cs.dropWhile (·.isDigit))
      else shortName? (c :: cs)

/-- The sign behind a parameter that says how its value is changed. -/
def change? : List Char → Option (String × List Char)
  | ':' :: c :: cs =>
      if ['-', '=', '?', '+'].contains c then some (String.ofList [':', c], cs) else none
  | '%' :: '%' :: cs => some ("%%", cs)
  | '#' :: '#' :: cs => some ("##", cs)
  | c :: cs =>
      if ['-', '=', '?', '+', '%', '#'].contains c then some (String.singleton c, cs) else none
  | [] => none

/-- A parameter that cannot be understood. -/
def badParameter : Part :=
  .parameter "" "bad" []

/-- Reads parts up to the end of their setting, in at most `fuel` turns, each of which reads a
character. -/
def readParts : (fuel : Nat) → Setting → Word → List Char → Option (Word × List Char)
  | 0, _, _, _ => none
  | _, setting, parts, [] =>
      match setting with
      | .word | .here => some (parts.reverse, [])
      | _ => none
  | fuel + 1, setting, parts, c :: cs =>
      let plain (c : Char) : Part := if setting.isQuoted then .quoted c else .bare c
      let next (part : Part) (rest : List Char) : Option (Word × List Char) :=
        readParts fuel setting (part :: parts) rest
      match setting, c, cs with
      | .quotes, '"', _ => some (parts.reverse, cs)
      | .braces _, '}', _ => some (parts.reverse, cs)
      | .sum 0, ')', ')' :: rest => some (parts.reverse, rest)
      | .sum depth, ')', _ => readParts fuel (.sum (depth - 1)) (.quoted c :: parts) cs
      | .sum depth, '(', _ => readParts fuel (.sum (depth + 1)) (.quoted c :: parts) cs
      | _, '\\', '\n' :: rest => readParts fuel setting parts rest
      | _, '\\', [] => next (plain c) []
      | _, '\\', d :: rest =>
          let isSpecial :=
            ['$', '\x60', '\\'].contains d || (d = '"' && setting ≠ .here) ||
              (d = '}' && setting = .braces true)
          if !setting.isQuoted || isSpecial then next (.quoted d) rest
          else next (.quoted '\\') cs
      | .word, '\x27', _ | .braces false, '\x27', _ =>
          match untilQuote? cs with
          | some (text, rest) => next (.quotes (text.map .quoted)) rest
          | none => none
      | .word, '"', _ | .braces _, '"', _ =>
          match readParts fuel .quotes [] cs with
          | some (inner, rest) => next (.quotes inner) rest
          | none => none
      | _, '\x60', _ =>
          match untilBackquote? cs with
          | some (script, rest) => next (.substitution script) rest
          | none => none
      | _, '$', '(' :: '(' :: rest =>
          match readParts fuel (.sum 0) [] rest with
          | some (inner, rest) => next (.arithmetic inner) rest
          | none => none
      | _, '$', '(' :: rest =>
          match untilClosed? .none 0 rest with
          | some (script, rest) => next (.substitution script) rest
          | none => none
      | _, '$', '{' :: '#' :: '}' :: rest => next (.parameter "#" "" []) rest
      | _, '$', '{' :: rest =>
          let (measured, rest) :=
            match rest with
            | '#' :: more => if (longName? more).isSome then (true, more) else (false, rest)
            | rest => (false, rest)
          match longName? rest with
          | none =>
              match readParts fuel (.braces setting.isQuoted) [] rest with
              | some (_, rest) => next badParameter rest
              | none => none
          | some (name, '}' :: rest) =>
              next (.parameter name (if measured then "length" else "") []) rest
          | some (name, rest) =>
              match change? rest with
              | some (change, rest) =>
                  let isCut := change.startsWith "%" || change.startsWith "#"
                  let quoted := setting.isQuoted && !isCut
                  match readParts fuel (.braces quoted) [] rest with
                  | some (word, rest) =>
                      next (if measured then badParameter else .parameter name change word) rest
                  | none => none
              | none =>
                  match readParts fuel (.braces setting.isQuoted) [] rest with
                  | some (_, rest) => next badParameter rest
                  | none => none
      | _, '$', cs =>
          match shortName? cs with
          | some (name, rest) => next (.parameter name "" []) rest
          | none => next (plain '$') cs
      | .word, c, cs =>
          if endsWord c then some (parts.reverse, c :: cs) else next (.bare c) cs
      | _, c, cs => next (plain c) cs

def readWord? (cs : List Char) : Option (Word × List Char) :=
  readParts (cs.length + 1) .word [] cs

/-- The parts of a text in which parameters are replaced but quotes are not special. -/
def hereParts (cs : List Char) : Word :=
  match readParts (cs.length + 1) .here [] cs with
  | some (parts, _) => parts
  | none => cs.map .quoted

/-! ## Texts below the line -/

/-- A text that is to be read below the line: its number, the line that ends it, whether nothing in
it is replaced, and whether the tabs at the beginning of its lines are left out. -/
structure Awaited where
  number : Nat
  mark : List Char
  literal : Bool
  stripped : Bool

/-- The text of a word without its quotes, and whether it has any. -/
def unquoted : Word → List Char × Bool
  | [] => ([], false)
  | part :: rest =>
      let (text, found) := unquoted rest
      match part with
      | .bare c => (c :: text, found)
      | .quoted c => (c :: text, true)
      | .quotes inner =>
          (inner.filterMap (fun | .bare c | .quoted c => some c | _ => none) ++ text, true)
      | _ => (text, found)

/-- The lines up to the mark, in at most `fuel` lines, and what follows.  The last line of a script
need not have an end. -/
def readHere (awaited : Awaited) : (fuel : Nat) → List Char → List Char × List Char
  | 0, cs => ([], cs)
  | _, [] => ([], [])
  | fuel + 1, cs =>
      let line := cs.takeWhile (· ≠ '\n')
      let line := if awaited.stripped then line.dropWhile (· = '\t') else line
      match cs.dropWhile (· ≠ '\n') with
      | [] => (if line = awaited.mark then [] else line, [])
      | _ :: rest =>
          if line = awaited.mark then ([], rest)
          else
            let (text, rest) := readHere awaited fuel rest
            (line ++ '\n' :: text, rest)

/-- The tokens with the text in its place. -/
def placeHere (tokens : List Token) (awaited : Awaited) (text : List Char) : List Token :=
  tokens.map fun token =>
    match token with
    | .awaiting number =>
        if number = awaited.number then
          .here (if awaited.literal then text.map .quoted else hereParts text)
        else token
    | token => token

/-! ## Tokens -/

/-- The signs, longer ones first. -/
def signs : List String :=
  ["<<-", "<<", "<&", "<>", ">>", ">&", ">|", "&&", "||", ";;", "&", "|", ";", "<", ">", "(", ")"]

structure Lexing where
  tokens : List Token := []
  awaited : List Awaited := []
  count : Nat := 0
  /-- Whether the word that comes next marks the end of a text, and whether tabs are left out. -/
  marks : Option Bool := none

namespace Lexing

def push (l : Lexing) (token : Token) : Lexing :=
  { l with tokens := token :: l.tokens, marks := none }

def pushWord (l : Lexing) (word : Word) : Lexing :=
  match l.marks with
  | none => l.push (.word word)
  | some stripped =>
      let (mark, literal) := unquoted word
      { tokens := .awaiting l.count :: l.tokens
        awaited := l.awaited ++ [⟨l.count, mark, literal, stripped⟩]
        count := l.count + 1 }

def pushSign (l : Lexing) (name : String) : Lexing :=
  let l := l.push (.sign name)
  if name = "<<" then { l with marks := some false }
  else if name = "<<-" then { l with marks := some true }
  else l

/-- Reads the texts that stand below the line that has ended. -/
def readAwaited (l : Lexing) (cs : List Char) : Lexing × List Char :=
  l.awaited.foldl
    (fun (l, cs) awaited =>
      let (text, rest) := readHere awaited (cs.length + 1) cs
      ({ l with tokens := placeHere l.tokens awaited text, awaited := [] }, rest))
    (l, cs)

end Lexing

/-- Every turn reads a character. -/
def tokensFuel : (fuel : Nat) → Lexing → List Char → List Token
  | 0, l, _ => l.tokens.reverse
  | fuel + 1, l, cs =>
      match cs with
      | [] => (l.readAwaited []).1.tokens.reverse
      | '\n' :: rest =>
          let (l, rest) := l.readAwaited rest
          tokensFuel fuel (l.push .newline) rest
      | '\\' :: '\n' :: rest => tokensFuel fuel l rest
      | c :: rest =>
          if isBlankChar c then tokensFuel fuel l rest
          else if c = '#' then tokensFuel fuel l (rest.dropWhile (· ≠ '\n'))
          else
            match signs.find? fun sign => sign.toList.isPrefixOf cs with
            | some sign => tokensFuel fuel (l.pushSign sign) (cs.drop sign.length)
            | none =>
                let digits := cs.takeWhile (·.isDigit)
                let behind := cs.dropWhile (·.isDigit)
                if !digits.isEmpty && (behind.head? = some '<' || behind.head? = some '>') then
                  let number := (String.ofList digits).toNat?.getD 0
                  tokensFuel fuel (l.push (.descriptor number)) behind
                else
                  match readWord? cs with
                  | some (word, rest) => tokensFuel fuel (l.pushWord word) rest
                  | none => (l.push .broken).tokens.reverse

def tokens (script : List Char) : List Token :=
  tokensFuel (script.length + 1) {} script

end Script
end Editor
end FormSnippet
