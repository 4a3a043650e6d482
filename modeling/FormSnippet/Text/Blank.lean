/-!
# Blank — white space and trimming

The characters that count as white space when a name or a caption is trimmed are those with the
Unicode property `White_Space`.  The property is stable: no character has joined it for twenty
years, and one has left it, so the table is written out in full.

- `isBlank`   : the property, as a list of ranges
- `trim`      : a text without the blanks at its two ends
- `words`     : the pieces of a text between its blanks
-/

namespace FormSnippet
namespace Text

/-! ## The property -/

def isBlank (c : Char) : Bool :=
  ('\t' ≤ c && c ≤ '\r') || c == ' ' || c == '\u0085' || c == '\u00a0' || c == '\u1680' ||
    ('\u2000' ≤ c && c ≤ '\u200a') || c == '\u2028' || c == '\u2029' || c == '\u202f' ||
    c == '\u205f' || c == '\u3000'

/-! ## Trimming -/

def trimChars (cs : List Char) : List Char :=
  ((cs.dropWhile isBlank).reverse.dropWhile isBlank).reverse

def trim (s : String) : String :=
  String.ofList (trimChars s.toList)

/-- A text all of whose characters are blank, the empty text included. -/
def allBlank (s : String) : Bool :=
  s.toList.all isBlank

/-! ## Words -/

/-- The words of `cs`, where `word` holds, last character first, the word that is being read. -/
def wordsFrom : List Char → List Char → List (List Char)
  | word, [] => if word.isEmpty then [] else [word.reverse]
  | word, c :: cs =>
      if isBlank c then
        if word.isEmpty then wordsFrom [] cs else word.reverse :: wordsFrom [] cs
      else
        wordsFrom (c :: word) cs

def words (s : String) : List String :=
  (wordsFrom [] s.toList).map String.ofList

theorem wordsFrom_eq_nil_iff {word cs : List Char} :
    wordsFrom word cs = [] ↔ word = [] ∧ cs.all isBlank = true := by
  induction cs generalizing word with
  | nil => cases word <;> simp [wordsFrom]
  | cons c cs ih =>
      rw [wordsFrom, List.all_cons]
      rcases isBlank c with _ | _
      · simp [ih]
      · cases word <;> simp [ih]

/-- There is a word in every text that is not blank. -/
theorem words_eq_nil_iff {s : String} : words s = [] ↔ allBlank s = true := by
  rw [words, List.map_eq_nil_iff, wordsFrom_eq_nil_iff, allBlank]
  simp

end Text
end FormSnippet
