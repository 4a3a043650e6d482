import FormSnippet.Text.Cluster

/-!
# Width — columns of a terminal

The number of columns that a text takes in a terminal.  A character by itself takes none, one or
two, and a single one takes three; what stands behind it can change that.  An emoji sequence takes
two columns as a whole, the two characters of a line end take one, and where a script writes several
letters as one sign they take the columns of one letter.  A text is therefore read from its end: an
`Outlook` holds what has been read as far as it matters to the character before.

- `charWidth`   : the columns of one character by itself
- `step`        : the columns that a character adds to what stands behind it
- `width`       : the columns of a text
- `drawnWidth`  : the columns that are set aside for a cluster when it is drawn
-/

namespace FormSnippet
namespace Text

/-! ## Characters -/

/-- Signs without a column of their own that no property covers. -/
def isZeroSign (c : Char) : Bool :=
  [0x605, 0x70F, 0x890, 0x891, 0x8E2, 0xA8FA].contains c.toNat

/-- Signs that are written before what they apply to and in a column of their own. -/
def isSpanningSign (c : Char) : Bool :=
  (0x600 ≤ c.toNat && c.toNat ≤ 0x604) || [0x6DD, 0x110BD, 0x110CD].contains c.toNat

def isHangulRest (c : Char) : Bool :=
  hangulPart? c = some .vowel || hangulPart? c = some .trailing

def hasNoColumn (c : Char) : Bool :=
  inRanges ignorableRanges c || (inRanges extendRanges c && !isVoicingMark c) ||
    inRanges recentMarkRanges c ||
    (inRanges prependRanges c && !isSpanningSign c) || isHangulRest c || isZeroSign c

/-- The first four are a filler that stands for a consonant, two Khmer signs that are written like
several letters, and a joiner that is seen where it joins nothing. -/
def charWidth (c : Char) : Nat :=
  if c.toNat < 0x7F then 1
  else
    match c with
    | '\u115f' | '\u17a4' => 2
    | '\u17d8' => 3
    | '\u2d7f' => 1
    | c => if hasNoColumn c then 0 else if inRanges wideRanges c then 2 else 1

/-! ## Outlook -/

/-- The selectors that ask for a quotation mark in full width, for an emoji as text, and for an
emoji in colour. -/
inductive Selector
  | fullWidth
  | asText
  | inColour
  deriving DecidableEq, Repr

/-- What is left of an emoji that is joined to the emoji behind it. -/
inductive JoinedRest
  | whole
  | keycap
  | oneFlagLetter
  | evenFlagLetters
  | oddFlagLetters
  | tagLetters (count : Nat)
  | tagDigits (count : Nat)
  deriving DecidableEq, Repr

/-- The end of several letters that are written as one sign.  Where only a joiner makes them one,
`joined` says that it has been read. -/
inductive LigatureRest
  | alef
  | lamed (joined : Bool)
  | ya (joined : Bool)
  | vowelAndYa
  | tifinagh (joined : Bool)
  | joinerAndTifinagh
  | lisuTone
  | orkhon (joined : Bool)
  | subscriptLetter
  | kiratRaiE
  | kiratRaiAi
  deriving DecidableEq, Repr

inductive Behind
  | nothing
  | lineFeed
  | skinTone
  | flagLetter
  | flagLetters
  | emoji
  | joined (rest : JoinedRest)
  | ligature (rest : LigatureRest)
  deriving DecidableEq, Repr

structure Outlook where
  behind : Behind := .nothing
  selector : Option Selector := none
  deriving DecidableEq, Repr

def selector? (c : Char) : Option Selector :=
  match c with
  | '\ufe01' => some .fullWidth
  | '\ufe0e' => some .asText
  | '\ufe0f' => some .inColour
  | _ => none

namespace Outlook

def ofBehind (behind : Behind) : Outlook :=
  { behind }

/-- The outlook before a selector.  A ligature is seen through it, and a joined emoji through the
one that asks for colour. -/
def select (outlook : Outlook) (selector : Selector) : Outlook :=
  match outlook.behind with
  | .ligature _ => { outlook with selector := some selector }
  | .joined .whole | .joined .keycap =>
      if outlook.selector = none && selector = .inColour then
        { outlook with selector := some selector }
      else { selector := some selector }
  | _ => { selector := some selector }

/-- What stands behind a character that does not heed the selector. -/
def unheeded (outlook : Outlook) : Behind :=
  match outlook.behind, outlook.selector with
  | .ligature rest, _ => .ligature rest
  | behind, none => behind
  | _, some _ => .nothing

end Outlook

/-! ## Letters that are written as one -/

def isAlef (c : Char) : Bool :=
  let n := c.toNat
  [0x622, 0x623, 0x625, 0x627, 0x671, 0x672, 0x673, 0x675, 0x773, 0x774].contains n ||
    (0x870 ≤ n && n ≤ 0x882)

def isLam (c : Char) : Bool :=
  let n := c.toNat
  [0x644, 0x76A, 0x8A6, 0x8C7].contains n || (0x6B5 ≤ n && n ≤ 0x6B8)

def isTifinaghConsonant (c : Char) : Bool :=
  ('\u2d31' ≤ c && c ≤ '\u2d65') || c = '\u2d6f'

/-- Khmer letters that are written below another one after the sign that asks for it. -/
def isSubscriptLetter (c : Char) : Bool :=
  inRanges
    [(0x1780, 0x1782), (0x1784, 0x1787), (0x1789, 0x178C), (0x178E, 0x1793), (0x1795, 0x1798),
      (0x179B, 0x179D), (0x17A0, 0x17A0), (0x17A2, 0x17A2), (0x17A7, 0x17A7), (0x17AB, 0x17AC),
      (0x17AF, 0x17AF)] c

/-- Marks that are not shown and do not part the letters of a ligature. -/
def isUnseenMark (c : Char) : Bool :=
  inRanges
    [(0x34F, 0x34F), (0x17B4, 0x17B5), (0x180B, 0x180D), (0x180F, 0x180F), (0xFE00, 0xFE0F),
      (0xE0100, 0xE01EF)] c

def isArabicTransparent (c : Char) : Bool :=
  inRanges transparentRanges c && charWidth c = 0

namespace LigatureRest

def join : LigatureRest → LigatureRest
  | .lamed _ => .lamed true
  | .ya _ => .ya true
  | .tifinagh _ => .tifinagh true
  | .orkhon _ => .orkhon true
  | rest => rest

/-- The columns that `c` adds before the end of a ligature, if it belongs to it.  They are negative
where the letters take fewer columns together than the ones behind take by themselves. -/
def step? (rest : LigatureRest) (c : Char) : Option (Int × Behind) :=
  match rest, c with
  | .alef, c =>
      if isLam c then some (0, .nothing)
      else if isArabicTransparent c then some (0, .ligature .alef)
      else none
  | rest, '\u200d' => some (0, .ligature rest.join)
  | rest, c =>
      if isUnseenMark c then some (0, .ligature rest)
      else
        match rest, c.toNat with
        | .lamed true, 0x5D0 => some (0, .nothing)
        | .subscriptLetter, 0x17D2 => some (-1, .nothing)
        | .ya true, 0x1A17 => some (0, .ligature .vowelAndYa)
        | .vowelAndYa, 0x1A15 => some (0, .nothing)
        | .tifinagh _, 0x2D7F => some (1, .ligature .joinerAndTifinagh)
        | .tifinagh true, _ => if isTifinaghConsonant c then some (0, .nothing) else none
        | .joinerAndTifinagh, _ => if isTifinaghConsonant c then some (-1, .nothing) else none
        | .lisuTone, n => if 0xA4F8 ≤ n && n ≤ 0xA4FB then some (0, .nothing) else none
        | .orkhon true, 0x10C32 => some (0, .nothing)
        | .kiratRaiE, 0x16D63 | .kiratRaiE, 0x16D69 | .kiratRaiAi, 0x16D63 => some (0, .nothing)
        | .kiratRaiE, 0x16D67 => some (0, .ligature .kiratRaiAi)
        | .kiratRaiE, 0x16D68 => some (1, .ligature .kiratRaiE)
        | _, _ => none

end LigatureRest

/-! ## Emoji -/

def isTagLetter (c : Char) : Bool :=
  0xE0061 ≤ c.toNat && c.toNat ≤ 0xE007A

def isTagDigit (c : Char) : Bool :=
  0xE0030 ≤ c.toNat && c.toNat ≤ 0xE0039

/-- Emoji with a text style, which takes one column. -/
def isNarrowAsText (c : Char) : Bool :=
  inRanges emojiRanges c && inRanges eitherStyleRanges c &&
    !(0x1F200 ≤ c.toNat && c.toNat ≤ 0x1F2FF)

def isQuotationMark (c : Char) : Bool :=
  c = '\u2018' || c = '\u2019' || c = '\u201c' || c = '\u201d'

/-- The columns that `c` adds to an emoji that is joined to the one behind it, if it belongs to it.
Flag letters belong to it in pairs, and tags after a black flag if they can name a region. -/
def JoinedRest.step? (rest : JoinedRest) (c : Char) : Option (Int × Behind) :=
  match rest with
  | .whole =>
      if c = '\u20e3' then some (0, .joined .keycap)
      else if isFlagLetter c then some (1, .joined .oneFlagLetter)
      else if isSkinTone c then some (0, .skinTone)
      else if c.toNat = 0xE007F then some (0, .joined (.tagLetters 0))
      else if inRanges emojiRanges c then some (0, .emoji)
      else none
  | .keycap => none
  | .oneFlagLetter => if isFlagLetter c then some (-1, .joined .evenFlagLetters) else none
  | .evenFlagLetters =>
      if isFlagLetter c then some (3, .joined .oddFlagLetters)
      else if c = '\u200d' then some (0, .joined .whole)
      else none
  | .oddFlagLetters =>
      if isFlagLetter c then some (-1, .joined .evenFlagLetters)
      else if c = '\u200d' then some (0, .joined .whole)
      else none
  | .tagLetters count =>
      if isTagLetter c && count < 6 then some (0, .joined (.tagLetters (count + 1)))
      else if isTagDigit c && count ≤ 4 then some (0, .joined (.tagDigits 1))
      else if c.toNat = 0x1F3F4 && 3 ≤ count then some (0, .emoji)
      else none
  | .tagDigits count =>
      if isTagDigit c && count < 3 then some (0, .joined (.tagDigits (count + 1)))
      else if c.toNat = 0x1F3F4 && count = 3 then some (0, .emoji)
      else none

/-! ## Texts -/

/-- What a character is to the one before it, whatever stands behind. -/
def behindOf (c : Char) : Behind :=
  if isFlagLetter c then .flagLetter
  else if isSkinTone c then .skinTone
  else if inRanges emojiRanges c then .emoji
  else if isAlef c then .ligature .alef
  else if isSubscriptLetter c then .ligature .subscriptLetter
  else if isTifinaghConsonant c then .ligature (.tifinagh false)
  else
    match c.toNat with
    | 0x5DC => .ligature (.lamed false)
    | 0x1A10 => .ligature (.ya false)
    | 0xA4FC | 0xA4FD => .ligature .lisuTone
    | 0x10C03 => .ligature (.orkhon false)
    | 0x16D67 => .ligature .kiratRaiE
    | 0x16D68 => .ligature .kiratRaiAi
    | _ => .nothing

/-- The columns that `c` adds to what stands behind it, if that makes a difference. -/
def Behind.step? (behind : Behind) (c : Char) : Option (Int × Behind) :=
  match behind with
  | .nothing | .lineFeed => none
  | .skinTone =>
      if inRanges modifierBaseRanges c then some (0, .emoji)
      else if c = '\u200d' then some (0, .joined .whole)
      else none
  | .flagLetter => if isFlagLetter c then some (1, .flagLetters) else none
  | .flagLetters =>
      if isFlagLetter c then some (1, .flagLetters)
      else if c = '\u200d' then some (0, .joined .whole)
      else none
  | .emoji => if c = '\u200d' then some (0, .joined .whole) else none
  | .joined rest => rest.step? c
  | .ligature rest => rest.step? c

def step (c : Char) (outlook : Outlook) : Int × Outlook :=
  if outlook.selector = some .inColour && inRanges eitherStyleRanges c then
    match outlook.behind with
    | .joined _ => (0, .ofBehind .emoji)
    | _ => (2, .ofBehind .emoji)
  else if c = '\n' then (1, .ofBehind .lineFeed)
  else if c = '\r' && outlook = .ofBehind .lineFeed then (0, {})
  else if c.toNat ≤ 0xA0 then (1, {})
  else
    match selector? c with
    | some selector => (0, outlook.select selector)
    | none =>
        if outlook.selector = some .asText && isNarrowAsText c then (1, {})
        else if outlook.selector = some .fullWidth && isQuotationMark c then (2, {})
        else
          let (columns, behind) := (outlook.unheeded.step? c).getD (charWidth c, behindOf c)
          (columns, .ofBehind behind)

def width (cs : List Char) : Nat :=
  (cs.foldr
    (fun c (sum, outlook) =>
      let (columns, outlook) := step c outlook
      (sum + columns, outlook))
    ((0 : Int), ({} : Outlook))).1.toNat

/-- A voicing mark is given one column more than it takes. -/
def drawnWidth (cluster : Cluster) : Nat :=
  width cluster + cluster.countP isVoicingMark

end Text
end FormSnippet
