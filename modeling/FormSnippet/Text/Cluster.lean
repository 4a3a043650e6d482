import FormSnippet.Text.Property

/-!
# Cluster — user-perceived characters

A cluster is what a reader takes for one character: a letter with its marks, a syllable of Hangul, a
flag, a pictograph joined to others.  The boundaries between clusters are those of extended grapheme
clusters in Unicode Annex 29.  They are found from left to right: a `Tail` holds what the rules ask
about the cluster so far, and `Tail.joins` says whether the next character still belongs to it.

- `clusters`        : the clusters of a text, in order
- `shownClusters`   : those of them that can be drawn, which are the ones without control characters
-/

namespace FormSnippet
namespace Text

abbrev Cluster : Type :=
  List Char

/-! ## Classes -/

inductive BreakClass
  | carriageReturn
  | lineFeed
  | control
  | extend
  | joiner
  | flag
  | prepended
  | spacing
  | hangul (part : HangulPart)
  | pictograph
  | other
  deriving DecidableEq, Repr

def breakClass (c : Char) : BreakClass :=
  if c = '\r' then .carriageReturn
  else if c = '\n' then .lineFeed
  else if 0x20 ≤ c.toNat && c.toNat < 0x7F then .other
  else if c = '\u200d' then .joiner
  else if isFlagLetter c then .flag
  else if inRanges controlRanges c then .control
  else if isSkinTone c || inRanges extendRanges c then .extend
  else if inRanges pictographRanges c then .pictograph
  else if inRanges spacingRanges c then .spacing
  else if inRanges prependRanges c then .prepended
  else if isKiratRaiVowel c then .hangul .vowel
  else ((hangulPart? c).map BreakClass.hangul).getD .other

def isConjunctConsonant (c : Char) : Bool :=
  inRanges conjunctConsonantRanges c

def isConjunctLinker (c : Char) : Bool :=
  inRanges conjunctLinkerRanges c

/-- Whether two parts of Hangul belong to one syllable. -/
def HangulPart.joins : HangulPart → HangulPart → Bool
  | .leading, .trailing => false
  | .leading, _ => true
  | .openSyllable, part | .vowel, part => part = .vowel || part = .trailing
  | .closedSyllable, part | .trailing, part => part = .trailing

/-! ## Joining -/

inductive PictographState
  | outside
  | inside
  | awaiting
  deriving DecidableEq, Repr

inductive ConjunctState
  | outside
  | consonant
  | linked
  deriving DecidableEq, Repr

/-- What the rules ask about the cluster so far: its last class, whether it holds an odd number of
flag letters, and how far a joined pictograph or a conjunct has come. -/
structure Tail where
  last : BreakClass
  oddFlags : Bool
  pictograph : PictographState
  conjunct : ConjunctState
  deriving DecidableEq, Repr

namespace Tail

def start (c : Char) : Tail :=
  let cls := breakClass c
  { last := cls
    oddFlags := cls == .flag
    pictograph := if cls = .pictograph then .inside else .outside
    conjunct := if isConjunctConsonant c then .consonant else .outside }

def joins (tail : Tail) (c : Char) : Bool :=
  match tail.last, breakClass c with
  | .carriageReturn, .lineFeed => true
  | .carriageReturn, _ | .lineFeed, _ | .control, _ => false
  | _, .carriageReturn | _, .lineFeed | _, .control => false
  | _, .extend | _, .joiner | _, .spacing => true
  | .prepended, _ => true
  | .hangul before, .hangul part => before.joins part
  | _, .pictograph => tail.pictograph == .awaiting
  | _, .flag => tail.oddFlags
  | _, _ => tail.conjunct == .linked && isConjunctConsonant c

def extend (tail : Tail) (c : Char) : Tail :=
  let cls := breakClass c
  { last := cls
    oddFlags := cls == .flag && !tail.oddFlags
    pictograph :=
      match cls with
      | .pictograph => .inside
      | .extend => if tail.pictograph = .inside then .inside else .outside
      | .joiner => if tail.pictograph = .inside then .awaiting else .outside
      | _ => .outside
    conjunct :=
      if isConjunctConsonant c then .consonant
      else if tail.conjunct = .outside then .outside
      else if isConjunctLinker c then .linked
      else if (cls = .extend || cls = .joiner) && c ≠ '\u200c' then tail.conjunct
      else .outside }

end Tail

/-! ## Clusters -/

/-- The clusters of `cs` behind a cluster that has begun: `current` holds its characters, the last
one first. -/
def clustersFrom (tail : Tail) (current : List Char) : List Char → List Cluster
  | [] => [current.reverse]
  | c :: cs =>
      if tail.joins c then clustersFrom (tail.extend c) (c :: current) cs
      else current.reverse :: clustersFrom (.start c) [c] cs

def clusters : List Char → List Cluster
  | [] => []
  | c :: cs => clustersFrom (.start c) [c] cs

def shownClusters (cs : List Char) : List Cluster :=
  (clusters cs).filter fun cluster => !cluster.any isControl

end Text
end FormSnippet
