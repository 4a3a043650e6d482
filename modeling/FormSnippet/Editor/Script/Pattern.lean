import FormSnippet.Disk.Basic

/-!
# Pattern — names with stars

A pattern is a text in which a star stands for any characters, a question mark for any one, and
brackets for one of those listed in them.  A character that is quoted stands for itself.

- `Pattern.fits`        : whether a pattern fits a text
- `Pattern.expand`      : the paths on a disk that a pattern fits
-/

namespace FormSnippet
namespace Editor
namespace Script

/-- A character of a pattern, and whether it may have a meaning. -/
structure Glyph where
  char : Char
  active : Bool := true
  deriving DecidableEq, Repr

abbrev Pattern : Type :=
  List Glyph

namespace Pattern

def text (pattern : Pattern) : List Char :=
  pattern.map (·.char)

def isActive (pattern : Pattern) : Bool :=
  pattern.any fun g => g.active && ['*', '?', '['].contains g.char

/-! ## Brackets -/

def classes : List (String × (Char → Bool)) :=
  [("alpha", Char.isAlpha), ("digit", Char.isDigit), ("alnum", Char.isAlphanum),
    ("upper", Char.isUpper), ("lower", Char.isLower), ("space", Char.isWhitespace),
    ("blank", fun c => c = ' ' || c = '\t'),
    ("punct", fun c => '!' ≤ c && c ≤ '~' && !c.isAlphanum),
    ("xdigit", fun c => c.isDigit || ('a' ≤ c && c ≤ 'f') || ('A' ≤ c && c ≤ 'F')),
    ("print", fun c => ' ' ≤ c && c ≤ '~'), ("graph", fun c => '!' ≤ c && c ≤ '~'),
    ("cntrl", fun c => c < ' ' || c = '\x7f')]

/-- A named class behind its opening bracket and colon, and what follows it. -/
def named? (pattern : Pattern) : Option ((Char → Bool) × Pattern) :=
  let name := pattern.takeWhile (·.char ≠ ':')
  match pattern.dropWhile (·.char ≠ ':') with
  | ⟨':', _⟩ :: ⟨']', _⟩ :: rest =>
      (classes.find? (·.1.toList = text name)).map fun (_, holds) => (holds, rest)
  | _ => none

/-- Whether `c` is in the list of a bracket, in at most `fuel` turns; `found` says whether a part of
the list that has been read holds it, and `first` whether no part has been read.  Returns what
follows the bracket too; `none` if it is not closed. -/
def inBracket? (c : Char) : (fuel : Nat) → (found first : Bool) → Pattern → Option (Bool × Pattern)
  | 0, _, _, _ => none
  | _, _, _, [] => none
  | fuel + 1, found, first, g :: rest =>
      if g = ⟨']', true⟩ && !first then some (found, rest)
      else
        match g, rest with
        | ⟨'[', true⟩, ⟨':', true⟩ :: more =>
            match named? more with
            | some (holds, rest) => inBracket? c fuel (found || holds c) false rest
            | none => inBracket? c fuel (found || c = '[') false rest
        | low, ⟨'-', true⟩ :: high :: rest =>
            if high = ⟨']', true⟩ then
              inBracket? c fuel (found || c = low.char) false (⟨'-', true⟩ :: high :: rest)
            else inBracket? c fuel (found || (low.char ≤ c && c ≤ high.char)) false rest
        | g, rest => inBracket? c fuel (found || c = g.char) false rest

/-- Whether `c` fits a bracket, and what follows it. -/
def fitsBracket? (c : Char) (pattern : Pattern) : Option (Bool × Pattern) :=
  match pattern with
  | ⟨'!', true⟩ :: rest | ⟨'^', true⟩ :: rest =>
      (inBracket? c (rest.length + 1) false true rest).map fun (found, rest) => (!found, rest)
  | rest => inBracket? c (rest.length + 1) false true rest

/-! ## Texts -/

/-- Every turn reads a character of the pattern or of the text. -/
def fitsFuel : (fuel : Nat) → Pattern → List Char → Bool
  | 0, _, _ => false
  | _, [], text => text.isEmpty
  | fuel + 1, g :: rest, text =>
      match g, text with
      | ⟨'*', true⟩, [] => fitsFuel fuel rest []
      | ⟨'*', true⟩, c :: cs =>
          fitsFuel fuel rest (c :: cs) || fitsFuel fuel (⟨'*', true⟩ :: rest) cs
      | _, [] => false
      | ⟨'?', true⟩, _ :: cs => fitsFuel fuel rest cs
      | ⟨'[', true⟩, c :: cs =>
          match fitsBracket? c rest with
          | some (fitting, rest) => fitting && fitsFuel fuel rest cs
          | none => c = '[' && fitsFuel fuel rest cs
      | g, c :: cs => c = g.char && fitsFuel fuel rest cs

def fits (pattern : Pattern) (text : List Char) : Bool :=
  fitsFuel (pattern.length + text.length + 1) pattern text

/-! ## Paths -/

/-- The steps of a pattern, with the number of slashes that follow each. -/
def steps (pattern : Pattern) : List Pattern :=
  let rec go : Pattern → Pattern → List Pattern
    | step, [] => [step.reverse]
    | step, g :: rest => if g.char = '/' then step.reverse :: go [] rest else go (g :: step) rest
  go [] pattern

/-- The names in a directory that fit a step, in their order. -/
def namesIn (disk : Disk) (directory : String) (step : Pattern) : List String :=
  match disk.locate ⟨if directory = "" then "." else directory⟩ with
  | .error _ => []
  | .ok location =>
      let names := (disk.children location).map fun (place, _) => place.getLast?.getD ""
      let hidden := text step |>.head?.any (· = '.')
      (names.filter fun name =>
        fits step name.toList && (hidden || !name.startsWith ".")).mergeSort (· ≤ ·)

/-- The paths that go on from `path` by steps. -/
def follow (disk : Disk) : (path : String) → List Pattern → List String
  | path, [] => [path]
  | path, step :: rest =>
      let slash := if rest.isEmpty then "" else "/"
      if isActive step then
        (namesIn disk path step).flatMap fun name =>
          if rest.isEmpty || disk.isDirectory ⟨path ++ name⟩ then
            follow disk (path ++ name ++ slash) rest
          else []
      else
        let next := path ++ String.ofList (text step)
        if rest.isEmpty && !(next = path || disk.exists ⟨next⟩) then []
        else follow disk (next ++ slash) rest

/-- The paths that a pattern fits; the pattern itself if it fits none. -/
def expand (disk : Disk) (pattern : Pattern) : List String :=
  let found := if isActive pattern then follow disk "" (steps pattern) else []
  if found.isEmpty then [String.ofList (text pattern)] else found

end Pattern
end Script
end Editor
end FormSnippet
