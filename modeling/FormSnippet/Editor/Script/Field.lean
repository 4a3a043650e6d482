import FormSnippet.Editor.Script.Pattern

/-!
# Field — what becomes of a word

When the parameters in a word have been replaced, what came in their place is divided at separators,
and each field may be a pattern for paths.  So every character is marked by where it comes from.

- `fields`      : the fields of a marked text
- `plainText`   : a marked text that is not divided
-/

namespace FormSnippet
namespace Editor
namespace Script

inductive Mark
  /-- A character that stood in the script without quotes. -/
  | bare (c : Char)
  | quoted (c : Char)
  /-- A character of what took the place of a parameter. -/
  | loose (c : Char)
  /-- Quotes with nothing between them. -/
  | hollow
  /-- The end of an argument, if all of them stand in a word. -/
  | boundary
  deriving DecidableEq, Repr

def Mark.ofText (quoted : Bool) (text : String) : List Mark :=
  text.toList.map fun c => if quoted then .quoted c else .loose c

/-- The text without its division into arguments. -/
def plainText (marks : List Mark) : String :=
  String.ofList <| marks.filterMap fun
    | .bare c | .quoted c | .loose c => some c
    | .hollow => none
    | .boundary => some ' '

def pattern (marks : List Mark) : Pattern :=
  marks.filterMap fun
    | .bare c | .loose c => some ⟨c, true⟩
    | .quoted c => some ⟨c, false⟩
    | .hollow => none
    | .boundary => some ⟨' ', false⟩

/-! ## Division -/

/-- The fields that are complete, last one first, and the field that is being read, if it has begun,
last character first.  Blanks between two fields belong to a separator that stands among them. -/
structure Division where
  complete : List Pattern := []
  current : Option Pattern := none
  afterBlank : Bool := false

namespace Division

def close (d : Division) : Division :=
  match d.current with
  | none => d
  | some field => { complete := field.reverse :: d.complete }

def add (d : Division) (glyph : List Glyph) : Division :=
  { d with current := some (glyph ++ d.current.getD []), afterBlank := false }

def step (separators : List Char) (d : Division) (mark : Mark) : Division :=
  match mark with
  | .bare c => d.add [⟨c, true⟩]
  | .quoted c => d.add [⟨c, false⟩]
  | .hollow => d.add []
  | .boundary => d.close
  | .loose c =>
      if !separators.contains c then d.add [⟨c, true⟩]
      else if c.isWhitespace then
        if d.current.isSome then { d.close with afterBlank := true } else d
      else if d.current.isSome || d.afterBlank then { d.close with afterBlank := false }
      else { d with complete := [] :: d.complete }

end Division

/-- The fields of a text; those that are patterns give way to the paths that they fit. -/
def fields (disk : Disk) (separators : List Char) (literal : Bool) (marks : List Mark) :
    List String :=
  let divided := (marks.foldl (Division.step separators) {}).close.complete.reverse
  divided.flatMap fun field =>
    if literal then [String.ofList field.text] else field.expand disk

/-! ## Parts of a text -/

/-- A text without the shortest or the longest beginning that fits a pattern. -/
def withoutStart (pattern : Pattern) (longest : Bool) (text : List Char) : List Char :=
  let lengths := List.range (text.length + 1)
  let lengths := if longest then lengths.reverse else lengths
  match lengths.find? fun n => pattern.fits (text.take n) with
  | some n => text.drop n
  | none => text

/-- A text without the shortest or the longest end that fits a pattern. -/
def withoutEnd (pattern : Pattern) (longest : Bool) (text : List Char) : List Char :=
  let lengths := List.range (text.length + 1)
  let lengths := if longest then lengths else lengths.reverse
  match lengths.find? fun n => pattern.fits (text.drop n) with
  | some n => text.take n
  | none => text

end Script
end Editor
end FormSnippet
