import FormSnippet.Log.Event
import FormSnippet.Log.Pattern

/-!
# Filter — which events reach the log

A filter is a list of directives, separated by commas.  A directive is a level, or a target with or
without a level, or a target with a span and fields in brackets; it admits the events of its target
up to its level.  Of the directives that concern an event the most specific one decides.  Directives
that name a span or a field value concern no event, since the program opens no spans.

- `Directive.parse?`    : one directive
- `Filter.parse?`       : a list of them; `none` if one is malformed
- `Filter.admits`       : whether an event is written
-/

namespace FormSnippet
namespace Log

/-! ## Directives -/

/-- A field that a directive asks for, with the pattern of its value if it asks for one. -/
structure FieldMatch where
  name : String
  value : Option String := none
  deriving DecidableEq, Repr

namespace FieldMatch

/-- A name, or a name and a value.  The value is a number or a regular expression; what stands
behind a second equals sign is not looked at. -/
def parse? (text : String) : Option FieldMatch :=
  match text.splitOn "=" with
  | [] | [""] => none
  | [name] => some { name }
  | name :: value :: _ =>
      if Pattern.isNumber value.toList || Pattern.isValid value.toList then
        some { name, value := some value }
      else none

end FieldMatch

structure Directive where
  target : Option String := none
  /-- The highest rank that is admitted; zero admits nothing. -/
  rank : Nat := 5
  span : Option String := none
  fields : List FieldMatch := []
  deriving DecidableEq, Repr

/-- The rank of a level name or of a digit. -/
def rankOf? (text : String) : Option Nat :=
  let digits := if text.startsWith "+" then (text.drop 1).toString else text
  let number := if digits ≠ "" && digits.toList.all (·.isDigit) then digits.toNat? else none
  match number with
  | some n => if n ≤ 5 then some n else none
  | none =>
      match text.toLower with
      | "" | "error" => some 1
      | "warn" => some 2
      | "info" => some 3
      | "debug" => some 4
      | "trace" => some 5
      | "off" => some 0
      | _ => none

/-- How far the reading of a directive has come; the numbers are the places where pieces begin,
counted in bytes. -/
inductive Reading
  | start
  | levelOrTarget (start : Nat)
  | span (start : Nat)
  | field (start : Nat)
  | afterFields
  | afterSpan
  | level (start : Nat)
  deriving DecidableEq, Repr

namespace Directive

/-- What is left of a text behind its first `count` bytes, if they end with a character. -/
def dropBytes? : Nat → List Char → Option (List Char)
  | 0, cs => some cs
  | _ + 1, [] => none
  | count, c :: cs => if c.utf8Size ≤ count then dropBytes? (count - c.utf8Size) cs else none

/-- The bytes of a text from place `a` up to place `b`, if both are between characters. -/
def slice? (text : List Char) (a b : Nat) : Option String := do
  let behind ← dropBytes? a text
  let after ← dropBytes? b text
  return String.ofList (behind.take (behind.length - after.length))

def sliceFrom? (text : List Char) (a : Nat) : Option String :=
  (dropBytes? a text).map String.ofList

def startsDirective (c : Char) : Bool :=
  c = '-' || c = ':' || c = '_' || Text.isAlphanumeric c

/-- A bare word is a level if it can be one, and otherwise a target. -/
def withWord (d : Directive) (word : String) : Directive :=
  if word = "" then d
  else
    match rankOf? word with
    | some rank => { d with rank }
    | none => { d with target := some word }

def withLevel? (d : Directive) (word : String) : Option Directive :=
  if word = "" then some d else (rankOf? word).map fun rank => { d with rank }

def withTarget (d : Directive) (target : String) : Directive :=
  { d with target := some target }

def withField? (d : Directive) (text : String) : Option Directive :=
  (FieldMatch.parse? text).map fun field => { d with fields := d.fields ++ [field] }

/-- What a character at place `i` does to a directive that is being read; the pieces are cut out of
`text`. -/
def read? (text : List Char) (i : Nat) (c : Char) (reading : Reading) (d : Directive) :
    Option (Reading × Directive) :=
  let next := i + c.utf8Size
  match reading with
  | .start =>
      if c = '[' then some (.span next, d)
      else if startsDirective c then some (.levelOrTarget i, d)
      else none
  | .levelOrTarget start =>
      if c = '=' then (slice? text start i).map fun target => (.level next, d.withTarget target)
      else if c = '[' then
        (slice? text start i).map fun target => (.span next, d.withTarget target)
      else some (reading, d)
  | .span start =>
      if c = ']' then
        (slice? text start i).map fun name => (.afterSpan, { d with span := some name })
      else if c = '{' then
        (slice? text start i).map fun name =>
          (.field next, { d with span := if name = "" then none else some name })
      else some (reading, d)
  | .field start =>
      if c = '}' then
        ((slice? text start i).bind d.withField?).map fun d => (.afterFields, d)
      else some (reading, d)
  | .afterFields => if c = ']' then some (.afterSpan, d) else none
  | .afterSpan => if c = '=' then some (.level next, d) else none
  | .level _ => some (reading, d)

/-- Reads the characters from place `i` on. -/
def parseFrom (text : List Char) : Nat → Reading → Directive → List Char → Option Directive
  | _, .levelOrTarget start, d, [] => (sliceFrom? text start).map d.withWord
  | _, .level start, d, [] => (sliceFrom? text start).bind d.withLevel?
  | _, .afterSpan, d, [] => some d
  | _, _, _, [] => none
  | i, reading, d, c :: cs =>
      (read? text i c reading d).bind fun (reading, d) =>
        parseFrom text (i + c.utf8Size) reading d cs

/-- Blanks around a directive are not looked at, but the pieces are still counted from its
beginning. -/
def parse? (text : List Char) : Option Directive :=
  parseFrom text 0 .start {} (Text.trimChars text)

def hasFieldValue (d : Directive) : Bool :=
  d.fields.any (·.value.isSome)

def concernsEvents (d : Directive) : Bool :=
  d.span.isNone && !d.hasFieldValue

def concerns (d : Directive) (target : String) (fields : List String) : Bool :=
  (match d.target with
    | none => true
    | some head => head.toList.isPrefixOf target.toList) &&
    d.fields.all fun field => fields.contains field.name

def fieldNames (d : Directive) : List String :=
  d.fields.map (·.name)

/-- How specific a directive is: by the length of its target, then by the number of fields.  Of
directives that are equal in this, the one that comes later in the order of names does. -/
def compareWeight (d e : Directive) : Ordering :=
  let length (d : Directive) := (d.target.map (·.utf8ByteSize + 1)).getD 0
  (compare (length d) (length e)).then <|
    (compare d.fields.length e.fields.length).then <|
      (compare (d.target.getD "") (e.target.getD "")).then <|
        compare d.fieldNames e.fieldNames

end Directive

/-! ## Filters -/

abbrev Filter : Type :=
  List Directive

namespace Filter

/-- The filter in force where none is asked for. -/
def standard : Filter :=
  [{ target := some "formtpl", rank := 3 }]

def piecesFrom : List Char → List Char → List (List Char)
  | piece, [] => [piece.reverse]
  | piece, c :: cs =>
      if c = ',' then piece.reverse :: piecesFrom [] cs else piecesFrom (c :: piece) cs

/-- A list without directives admits errors only. -/
def parse? (text : String) : Option Filter := do
  let directives ← ((piecesFrom [] text.toList).filter (· ≠ [])).mapM Directive.parse?
  return if directives.isEmpty then [{ rank := 1 }] else directives

/-- The filter that a setting asks for, or the standard one. -/
def ofSetting (setting : Option String) : Filter :=
  (setting.bind parse?).getD standard

/-- The most specific directive; of two with the same names, the last one. -/
def heaviest : Filter → Option Directive
  | [] => none
  | d :: rest =>
      match heaviest rest with
      | none => some d
      | some e => if e.compareWeight d = .lt then some d else some e

def admits (filter : Filter) (level : Level) (target : String) (fields : List String) : Bool :=
  match heaviest (filter.filter fun d => d.concernsEvents && d.concerns target fields) with
  | some d => level.rank ≤ d.rank
  | none => false

end Filter
end Log
end FormSnippet
