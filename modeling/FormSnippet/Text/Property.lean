import FormSnippet.Text.Property.Boundary
import FormSnippet.Text.Property.Emoji
import FormSnippet.Text.Property.Print
import FormSnippet.Text.Property.Room
import FormSnippet.Text.Property.Word

/-!
# Property — Unicode properties of characters

A property is a table of ranges of code points.  `inRanges` looks a character up; the predicates
below are those properties that are asked for by name.
-/

namespace FormSnippet
namespace Text

def inRanges (ranges : List (Nat × Nat)) (c : Char) : Bool :=
  ranges.any fun range => range.1 ≤ c.toNat && c.toNat ≤ range.2

def isControl (c : Char) : Bool :=
  c.toNat < 0x20 || (0x7F ≤ c.toNat && c.toNat < 0xA0)

def isSkinTone (c : Char) : Bool :=
  0x1F3FB ≤ c.toNat && c.toNat ≤ 0x1F3FF

def isFlagLetter (c : Char) : Bool :=
  0x1F1E6 ≤ c.toNat && c.toNat ≤ 0x1F1FF

/-- The voicing marks that stand behind a narrow syllable.  They extend it and still have a column
of their own. -/
def isVoicingMark (c : Char) : Bool :=
  c == '\uff9e' || c == '\uff9f'

def isUnprintable (c : Char) : Bool :=
  inRanges unprintableRanges c

def isAlphanumeric (c : Char) : Bool :=
  inRanges alphanumericRanges c

/-! ## Syllables -/

/-- The parts that a syllable of Hangul is written with: a leading consonant, a vowel, a trailing
consonant, or a whole syllable without or with the last of them. -/
inductive HangulPart
  | leading
  | vowel
  | trailing
  | openSyllable
  | closedSyllable
  deriving DecidableEq, Repr

def hangulPart? (c : Char) : Option HangulPart :=
  let n := c.toNat
  if (0x1100 ≤ n && n ≤ 0x115F) || (0xA960 ≤ n && n ≤ 0xA97C) then some .leading
  else if (0x1160 ≤ n && n ≤ 0x11A7) || (0xD7B0 ≤ n && n ≤ 0xD7C6) then some .vowel
  else if (0x11A8 ≤ n && n ≤ 0x11FF) || (0xD7CB ≤ n && n ≤ 0xD7FB) then some .trailing
  else if 0xAC00 ≤ n && n ≤ 0xD7A3 then
    some (if (n - 0xAC00) % 28 = 0 then .openSyllable else .closedSyllable)
  else none

/-- Vowel signs of Kirat Rai, several of which make up one sign. -/
def isKiratRaiVowel (c : Char) : Bool :=
  c.toNat = 0x16D63 || (0x16D67 ≤ c.toNat && c.toNat ≤ 0x16D6A)

end Text
end FormSnippet
