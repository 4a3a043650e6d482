import Mathlib.Tactic.SplitIfs
import FormSnippet.Proofs.Json.Spelling

/-!
# Accept — what the reader accepts

Whatever the grammar spells the reader reads, and returns with the text that follows it.  The text
that follows matters for numbers alone, which have no end of their own.  Arrays and objects are read
by two functions of the same make, so what is said of lists is said of both at once.

- `readString_spelled`  : a string in any spelling
- `readNumber_literal`  : a number whose value is finite
- `ListReader.reads`    : a list of elements, read by any such pair of functions
- `readValue_spelled`   : a value in any spelling
-/

namespace FormSnippet
namespace Json

/-! ## White space -/

theorem skipSpace_blank {blank : List Char} (h : Blank blank) (cs : List Char) :
    skipSpace (blank ++ cs) = skipSpace cs :=
  List.dropWhile_append_of_pos h

theorem skipSpace_cons {c : Char} (h : isSpace c = false) (cs : List Char) :
    skipSpace (c :: cs) = c :: cs := by
  simp [skipSpace, h]

/-- White space in front of a mark is skipped. -/
theorem skipSpace_mark {blank : List Char} (h : Blank blank) {c : Char} (mark : isSpace c = false)
    (cs : List Char) : skipSpace (blank ++ c :: cs) = c :: cs := by
  rw [skipSpace_blank h, skipSpace_cons mark]

theorem readValue_blank {blank : List Char} (h : Blank blank) (levels : Nat) (cs : List Char) :
    readValue levels (blank ++ cs) = readValue levels cs := by
  cases levels <;> simp only [readValue, readValueWith, skipSpace_blank h]

/-! ## Strings -/

theorem readHex4_spelled {n : Nat} {hex : List Char} (number : Hex4 n hex) (rest : List Char) :
    readHex4 (hex ++ rest) = .ok (n, rest) := by
  rcases number with ⟨a, b, c, d, digits, rfl⟩
  have four : hex.length = 4 := by simpa using congrArg List.length digits
  match hex, four with
  | [x, y, z, w], _ =>
      simp only [List.map_cons, List.map_nil, List.cons.injEq, and_true] at digits
      rcases digits with ⟨hx, hy, hz, hw⟩
      simp only [List.cons_append, List.nil_append, readHex4, hx, hy, hz, hw]

/-- The numbers of characters are no surrogates. -/
theorem no_surrogate (c : Char) : isTrailing c.toNat = false ∧ isLeading c.toNat = false := by
  have valid : c.toNat < 0xD800 ∨ 0xDFFF < c.toNat ∧ c.toNat < 0x110000 := c.valid
  constructor
  · simp only [isTrailing, Bool.and_eq_false_imp, decide_eq_true_eq, decide_eq_false_iff_not]
    omega
  · simp only [isLeading, Bool.and_eq_false_imp, decide_eq_true_eq, decide_eq_false_iff_not]
    omega

theorem readUnicode_code {c : Char} {hex : List Char} (number : Hex4 c.toNat hex)
    (rest : List Char) : readUnicode (hex ++ rest) = .ok (c, rest) := by
  have single := no_surrogate c
  simp [readUnicode, readHex4_spelled number, single.1, single.2, bind, Except.bind]

theorem readUnicode_pair {c : Char} {hex hex' : List Char} (beyond : 0x10000 ≤ c.toNat)
    (leading : Hex4 (0xD800 + (c.toNat - 0x10000) / 1024) hex)
    (trailing : Hex4 (0xDC00 + (c.toNat - 0x10000) % 1024) hex') (rest : List Char) :
    readUnicode (hex ++ '\\' :: 'u' :: (hex' ++ rest)) = .ok (c, rest) := by
  have valid : c.toNat < 0x110000 := by
    rcases c.valid with low | ⟨-, high⟩
    · exact Nat.lt_trans low (by decide)
    · exact high
  have first : isTrailing (0xD800 + (c.toNat - 0x10000) / 1024) = false ∧
      isLeading (0xD800 + (c.toNat - 0x10000) / 1024) = true := by
    constructor
    · simp only [isTrailing, Bool.and_eq_false_imp, decide_eq_true_eq, decide_eq_false_iff_not]
      omega
    · simp only [isLeading, Bool.and_eq_true, decide_eq_true_eq]
      omega
  have second : isTrailing (0xDC00 + (c.toNat - 0x10000) % 1024) = true := by
    simp only [isTrailing, Bool.and_eq_true, decide_eq_true_eq]
    omega
  have whole : pairedChar (0xD800 + (c.toNat - 0x10000) / 1024)
      (0xDC00 + (c.toNat - 0x10000) % 1024) = c := by
    have number : 0x10000 + (0xD800 + (c.toNat - 0x10000) / 1024 - 0xD800) * 1024 +
        (0xDC00 + (c.toNat - 0x10000) % 1024 - 0xDC00) = c.toNat := by
      omega
    rw [pairedChar, number, Char.ofNat_toNat]
  simp [readUnicode, readHex4_spelled leading, first.1, first.2, readTrailing,
    readHex4_spelled trailing, second, whole, bind, Except.bind]

/-- A character is spelled by itself, or by a backslash with what stands for it. -/
theorem CharSpelling.reads {c : Char} {code : List Char} (spelt : CharSpelling c code) :
    (code = [c] ∧ c ≠ '"' ∧ c ≠ '\\' ∧ 32 ≤ c.toNat) ∨
      ∃ more, code = '\\' :: more ∧ ∀ rest, readEscape (more ++ rest) = .ok (c, rest) := by
  cases spelt with
  | plain printable noQuote noSlash => exact .inl ⟨rfl, noQuote, noSlash, printable⟩
  | @short mark known =>
      refine .inr ⟨[mark], rfl, fun rest => ?_⟩
      simp only [shortEscapes, List.mem_cons, Prod.mk.injEq, List.not_mem_nil, or_false] at known
      rcases known with ⟨rfl, rfl⟩ | ⟨rfl, rfl⟩ | ⟨rfl, rfl⟩ | ⟨rfl, rfl⟩ | ⟨rfl, rfl⟩ |
        ⟨rfl, rfl⟩ | ⟨rfl, rfl⟩ | ⟨rfl, rfl⟩ <;> rfl
  | @code hex number => exact .inr ⟨'u' :: hex, rfl, fun rest => readUnicode_code number rest⟩
  | @pair hex hex' beyond leading trailing =>
      refine .inr ⟨'u' :: (hex ++ '\\' :: 'u' :: hex'), rfl, fun rest => ?_⟩
      have reads := readUnicode_pair beyond leading trailing rest
      rw [List.cons_append, List.append_assoc]
      exact reads

theorem readStringFuel_spelled {cs codes : List Char} (spelt : CharsSpelling cs codes)
    (rest : List Char) {fuel : Nat} (enough : cs.length < fuel) :
    readStringFuel fuel (codes ++ '"' :: rest) = .ok (cs, rest) := by
  induction spelt generalizing fuel with
  | nil =>
      cases fuel with
      | zero => exact absurd enough (Nat.lt_irrefl 0)
      | succ fuel => rfl
  | @cons c cs code codes first others ih =>
      cases fuel with
      | zero => exact absurd enough (Nat.not_lt_zero _)
      | succ fuel =>
          have later := ih (Nat.lt_of_succ_lt_succ enough)
          rw [List.append_assoc]
          rcases first.reads with ⟨rfl, quote, slash, high⟩ | ⟨more, rfl, reads⟩
          · have printable : ¬ c.toNat < 32 := Nat.not_lt.2 high
            rw [List.singleton_append, readStringFuel.eq_5 _ _ _ quote slash]
            simp [printable, later, bind, Except.bind, pure, Except.pure]
          · rw [List.cons_append, readStringFuel, reads]
            simp [later, bind, Except.bind, pure, Except.pure]

theorem CharsSpelling.length_le {cs codes : List Char} (spelt : CharsSpelling cs codes) :
    cs.length ≤ codes.length := by
  induction spelt with
  | nil => exact Nat.le_refl 0
  | @cons c cs code codes first others ih =>
      have one : 1 ≤ code.length := by
        rcases first.reads with ⟨rfl, -⟩ | ⟨more, rfl, -⟩ <;> simp
      rw [List.length_append, List.length_cons]
      omega

/-- A string is read to its closing mark, and no further. -/
theorem readString_spelled {text : String} {codes : List Char}
    (spelt : CharsSpelling text.toList codes) (rest : List Char) :
    readString (codes ++ '"' :: rest) = .ok (text, rest) := by
  have enough : text.toList.length < (codes ++ '"' :: rest).length := by
    have longer := spelt.length_le
    rw [List.length_append, List.length_cons]
    omega
  rw [readString, readStringFuel_spelled spelt rest enough]
  simp [bind, Except.bind, pure, Except.pure]

/-! ## Numbers -/

/-- No text follows, or none that could belong to a number. -/
def Ends (rest : List Char) : Prop :=
  ∀ c ∈ rest.head?, isSpace c ∨ c = ',' ∨ c = ']' ∨ c = '\x7d'

theorem space_cases {c : Char} (space : isSpace c = true) :
    c = ' ' ∨ c = '\n' ∨ c = '\t' ∨ c = '\r' := by
  simpa only [isSpace, Bool.or_eq_true, beq_iff_eq, or_assoc] using space

theorem Ends.head {c : Char} {rest : List Char} (ends : Ends (c :: rest)) :
    isDigit c = false ∧ c ≠ '.' ∧ c ≠ 'e' ∧ c ≠ 'E' := by
  rcases ends c rfl with space | rfl | rfl | rfl
  · rcases space_cases space with rfl | rfl | rfl | rfl <;> decide
  all_goals decide

/-- White space and then a mark end a number. -/
theorem Ends.blank {blank : List Char} (h : Blank blank) {mark : Char} (rest : List Char)
    (known : mark = ',' ∨ mark = ']' ∨ mark = '\x7d') : Ends (blank ++ mark :: rest) := by
  intro c first
  cases blank with
  | nil =>
      cases first
      exact .inr known
  | cons space blank =>
      cases first
      exact .inl (h _ List.mem_cons_self)

/-- So does white space alone. -/
theorem Ends.of_blank {blank : List Char} (h : Blank blank) : Ends blank := by
  intro c first
  exact .inl (h c (List.mem_of_mem_head? first))

/-- What stands after digits: no digit. -/
def NoDigit (rest : List Char) : Prop :=
  ∀ c ∈ rest.head?, isDigit c = false

theorem Ends.noDigit {rest : List Char} (ends : Ends rest) : NoDigit rest := by
  cases rest with
  | nil => exact nofun
  | cons c rest =>
      intro d first
      cases first
      exact ends.head.1

theorem digits_append {ds rest : List Char} (all : ∀ d ∈ ds, isDigit d) (stop : NoDigit rest) :
    digits (ds ++ rest) = (ds, rest) := by
  have none : rest.takeWhile isDigit = [] ∧ rest.dropWhile isDigit = rest := by
    cases rest with
    | nil => exact ⟨rfl, rfl⟩
    | cons c rest => simp [stop c rfl]
  rw [digits, List.takeWhile_append_of_pos all, List.dropWhile_append_of_pos all, none.1, none.2,
    List.append_nil]

theorem finishNumber_ok {acc : Scaled} (finite : overflows acc.significand acc.exponent = false)
    (rest : List Char) : finishNumber acc rest = .ok rest := by
  rw [finishNumber, finite]
  rfl

theorem decimal_le (n : Nat) (ds : List Char) : n ≤ decimal n ds := by
  induction ds generalizing n with
  | nil => exact Nat.le_refl n
  | cons d ds ih =>
      have next : n * 10 + digitValue d ≤ decimal n (d :: ds) := ih _
      omega

/-- The digits of an exponent are read to their end, whether or not they stay below 31 bits. -/
theorem exponentDigits_ok {acc : Scaled} {negative : Bool} {n : Nat} (small : n < Nat.pow 2 31)
    {ds rest : List Char} (all : ∀ d ∈ ds, isDigit d) (stop : NoDigit rest)
    (finite : if decimal n ds < Nat.pow 2 31 then
        overflows acc.significand (exponentDigits.signed acc negative (decimal n ds)) = false
      else acc.significand = 0 ∨ negative = true) :
    exponentDigits acc negative n (ds ++ rest) = .ok rest := by
  -- Along the digits that are left; `n` is what has been read, and stays below 31 bits.
  induction ds generalizing n with
  | nil =>
      rw [if_pos (show decimal n [] < _ from small)] at finite
      cases rest with
      | nil => exact finishNumber_ok finite []
      | cons c rest =>
          rw [List.nil_append, exponentDigits, if_neg (by simp [stop c rfl])]
          exact finishNumber_ok finite _
  | cons d ds ih =>
      rcases List.forall_mem_cons.1 all with ⟨digit, all⟩
      rw [List.cons_append, exponentDigits, if_pos digit]
      by_cases next : n * 10 + digitValue d < Nat.pow 2 31
      · simp only [next, if_true]
        exact ih next all finite
      · have large : ¬ decimal n (d :: ds) < Nat.pow 2 31 := by
          have more : n * 10 + digitValue d ≤ decimal n (d :: ds) := decimal_le _ ds
          omega
        rw [if_neg large] at finite
        -- The rest of the digits is skipped, since the value is zero whatever they are.
        have harmless : ¬ (acc.significand ≠ 0 ∧ negative = false) := by
          rintro ⟨some, positive⟩
          rcases finite with none | negated
          · exact some none
          · rw [positive] at negated
            cases negated
        have skipped := congrArg Prod.snd (digits_append all stop)
        simp only [next, harmless, if_false]
        exact congrArg Except.ok skipped

theorem digitValue_le {d : Char} (digit : isDigit d = true) : digitValue d ≤ 9 := by
  simp only [isDigit, Bool.and_eq_true, decide_eq_true_eq] at digit
  have high : d.toNat ≤ 57 := digit.2
  rw [digitValue]
  omega

theorem readExponent_unsigned {c : Char} (digit : isDigit c = true) (acc : Scaled)
    (cs : List Char) :
    readExponent acc (c :: cs) = exponentDigits acc false (digitValue c) cs := by
  unfold readExponent
  split
  next negative rest sign =>
    split at sign
    · next same => cases same; exact absurd digit (by decide)
    · next same => cases same; exact absurd digit (by decide)
    · cases sign
      simp only [digit, if_true]

theorem readExponent_ok {acc : Scaled} {exponent : Exponent} (proper : exponent.Proper)
    (finite : Literal.Finite acc (some exponent)) {rest : List Char} (stop : NoDigit rest) :
    readExponent acc (exponent.sign.toList ++ (exponent.digits ++ rest)) = .ok rest := by
  rcases exponent with ⟨mark, sign, ds⟩
  rcases proper with ⟨-, signs, nonempty, all⟩
  cases ds with
  | nil => exact absurd rfl nonempty
  | cons d ds =>
      rcases List.forall_mem_cons.1 all with ⟨digit, all⟩
      have small : digitValue d < Nat.pow 2 31 :=
        Nat.lt_of_le_of_lt (digitValue_le digit) (by decide)
      have first : decimal 0 (d :: ds) = decimal (digitValue d) ds := by simp [decimal]
      simp only [Literal.Finite, Exponent.scale, first] at finite
      have reads := exponentDigits_ok small all stop finite
      cases sign with
      | none => exact (readExponent_unsigned digit acc (ds ++ rest)).trans reads
      | some sign =>
          rcases signs sign rfl with rfl | rfl
          · have plus : Exponent.negative ⟨mark, some '+', d :: ds⟩ = false := rfl
            simpa [readExponent, digit, plus] using reads
          · have minus : Exponent.negative ⟨mark, some '-', d :: ds⟩ = true := rfl
            simpa [readExponent, digit, minus] using reads

namespace Literal

theorem exponentChars_head {exponent : Option Exponent} (proper : ∀ e ∈ exponent, e.Proper)
    {rest : List Char} (ends : Ends rest) {c : Char}
    (first : (exponentChars exponent ++ rest).head? = some c) : isDigit c = false ∧ c ≠ '.' := by
  cases exponent with
  | none =>
      cases rest with
      | nil => cases first
      | cons d rest =>
          cases first
          exact ⟨ends.head.1, ends.head.2.1⟩
  | some exponent =>
      cases first
      rcases (proper exponent rfl).mark with mark | mark <;> rw [mark] <;> decide

theorem afterDigits_ok {acc : Scaled} {exponent : Option Exponent}
    (proper : ∀ e ∈ exponent, e.Proper) (finite : Finite acc exponent) {rest : List Char}
    (ends : Ends rest) : afterDigits acc (exponentChars exponent ++ rest) = .ok rest := by
  cases exponent with
  | none =>
      rw [exponentChars, List.nil_append]
      unfold afterDigits
      split
      · exact absurd rfl ends.head.2.2.1
      · exact absurd rfl ends.head.2.2.2
      · exact finishNumber_ok finite rest
  | some exponent =>
      have reads := readExponent_ok (proper exponent rfl) finite ends.noDigit
      rw [exponentChars, Exponent.chars, List.cons_append, List.append_assoc]
      rcases (proper exponent rfl).mark with mark | mark <;> rw [mark] <;> exact reads

theorem afterWhole_ok {acc : Scaled} {fraction : Option (List Char)} {exponent : Option Exponent}
    (digits' : ∀ ds ∈ fraction, IsDigits ds) (proper : ∀ e ∈ exponent, e.Proper)
    (finite : Finite (withFraction acc fraction) exponent) {rest : List Char} (ends : Ends rest) :
    afterWhole acc (fractionChars fraction ++ (exponentChars exponent ++ rest)) = .ok rest := by
  have reads := afterDigits_ok proper finite ends
  have head {c : Char} := exponentChars_head proper ends (c := c)
  generalize exponentChars exponent ++ rest = tail at reads head ⊢
  cases fraction with
  | none =>
      rw [fractionChars, List.nil_append]
      unfold afterWhole
      split
      · exact absurd rfl (head rfl).2
      · exact reads
  | some ds =>
      rcases digits' ds rfl with ⟨nonempty, all⟩
      have split := digits_append all fun c first => (head first).1
      rw [fractionChars, List.cons_append, afterWhole, split]
      cases ds with
      | nil => exact absurd rfl nonempty
      | cons d ds => exact reads

/-- What follows the whole part begins with no digit. -/
theorem noDigit_tail (literal : Literal) (proper : literal.Proper) {rest : List Char}
    (ends : Ends rest) :
    NoDigit (fractionChars literal.fraction ++ (exponentChars literal.exponent ++ rest)) := by
  intro c first
  cases fraction : literal.fraction with
  | none =>
      rw [fraction] at first
      exact (exponentChars_head proper.exponent ends first).1
  | some ds =>
      rw [fraction] at first
      cases first
      decide

theorem readUnsigned_ok (literal : Literal) (proper : literal.Proper) (inRange : literal.InRange)
    {rest : List Char} (ends : Ends rest) :
    readUnsigned (literal.whole ++ (fractionChars literal.fraction ++
      (exponentChars literal.exponent ++ rest))) = .ok rest := by
  have reads := afterWhole_ok proper.fraction proper.exponent inRange ends
  have stop := literal.noDigit_tail proper ends
  have empty : fractionChars literal.fraction ++ (exponentChars literal.exponent ++ rest) = [] →
      rest = [] := by simp
  generalize fractionChars literal.fraction ++ (exponentChars literal.exponent ++ rest) = tail
    at reads stop empty ⊢
  rcases proper.whole with ⟨nonempty, all⟩
  have noZero := proper.noZero
  generalize literal.whole = whole at nonempty all noZero reads ⊢
  cases whole with
  | nil => exact absurd rfl nonempty
  | cons d ds =>
      by_cases zero : d = '0'
      · subst zero
        obtain rfl : ds = [] := by simpa using noZero rfl
        cases tail with
        | nil =>
            rw [empty rfl]
            rfl
        | cons c tail =>
            rw [List.singleton_append, readUnsigned, if_neg (by simp [stop c rfl])]
            exact reads
      · have parts := digits_append all stop
        rw [List.cons_append] at parts ⊢
        unfold readUnsigned
        split
        · next same => cases same
        · next same => cases same; exact absurd rfl zero
        · next c more _ same =>
            cases same
            rw [if_pos (all d List.mem_cons_self), parts]
            exact reads

end Literal

/-- A number whose value is finite is read to its end. -/
theorem readNumber_literal {literal : Literal} (proper : literal.Proper)
    (inRange : literal.InRange) {rest : List Char} (ends : Ends rest) :
    readNumber (literal.chars ++ rest) = .ok (literal.chars, rest) := by
  have reads := literal.readUnsigned_ok proper inRange ends
  have taken : (literal.chars ++ rest).take ((literal.chars ++ rest).length - rest.length) =
      literal.chars := by
    rw [List.length_append, Nat.add_sub_cancel, List.take_left]
  rcases literal with ⟨negative, whole, fraction, exponent⟩
  unfold readNumber
  cases negative with
  | true =>
      simp only [Literal.chars, if_true, List.cons_append, List.nil_append, List.append_assoc]
        at reads taken ⊢
      simp only [reads, bind, Except.bind, pure, Except.pure, taken]
  | false =>
      have unsigned {more : List Char} : whole ++ (Literal.fractionChars fraction ++
          (Literal.exponentChars exponent ++ rest)) ≠ '-' :: more := by
        rcases proper.whole with ⟨nonempty, all⟩
        cases whole with
        | nil => exact absurd rfl nonempty
        | cons d ds =>
            intro same
            cases same
            exact absurd (all '-' List.mem_cons_self) (by decide)
      simp only [Literal.chars, Bool.false_eq_true, if_false, List.nil_append, List.append_assoc]
        at reads taken ⊢
      -- The sign is looked for in vain, by `unsigned`.
      simp only [reads, bind, Except.bind, pure, Except.pure, taken]

/-! ## Lists -/

/-- The two functions that read the elements of a list up to a closing mark, `all` from the opening
mark on and `more` from the first element on, given the reader of an element. -/
structure ListReader {α : Type} (close : Char) (read : List Char → Except Stop (α × List Char))
    (more : Nat → List Char → Except Stop (List α × List Char))
    (all : List Char → Except Stop (List α × List Char)) : Prop where
  mark : close = ']' ∨ close = '\x7d'
  none {blank : List Char} (h : Blank blank) (rest : List Char) :
    all (blank ++ close :: rest) = .ok ([], rest)
  first {blank : List Char} (h : Blank blank) {c : Char} (other : isSpace c = false ∧ c ≠ close)
    (cs : List Char) : all (blank ++ c :: cs) = do
      let (x, rest) ← read (c :: cs)
      let (xs, rest) ← more (blank ++ c :: cs).length rest
      return (x :: xs, rest)
  last (fuel : Nat) {blank : List Char} (h : Blank blank) (rest : List Char) :
    more (fuel + 1) (blank ++ close :: rest) = .ok ([], rest)
  next (fuel : Nat) {blank blank' : List Char} (h : Blank blank) (h' : Blank blank') {c : Char}
    (other : isSpace c = false ∧ c ≠ close) (cs : List Char) :
    more (fuel + 1) (blank ++ ',' :: (blank' ++ c :: cs)) = do
      let (x, rest) ← read (c :: cs)
      let (xs, rest) ← more fuel rest
      return (x :: xs, rest)

theorem ne_mark {c mark : Char} (other : c ≠ mark) (cs : List Char) :
    ∀ more, c :: cs ≠ mark :: more := by
  intro more same
  exact other (List.cons.inj same).1

theorem listReader_items (read : ValueReader) :
    ListReader ']' read (readMoreItems read) (readItems read) where
  mark := .inl rfl
  none h rest := by
    simp only [readItems, skipSpace_mark h (c := ']') rfl]
  first h c other cs := by
    have element := ne_mark other.2 cs
    simp only [readItems, skipSpace_mark h other.1]
  last fuel blank h rest := by
    simp only [readMoreItems, skipSpace_mark h (c := ']') rfl]
  next fuel blank blank' h h' c other cs := by
    have element := ne_mark other.2 cs
    simp only [readMoreItems, skipSpace_mark h (c := ',') rfl, skipSpace_mark h' other.1]

theorem listReader_members (read : ValueReader) :
    ListReader '\x7d' (readMember read) (readMoreMembers read) (readMembers read) where
  mark := .inr rfl
  none h rest := by
    simp only [readMembers, skipSpace_mark h (c := '\x7d') rfl]
  first h c other cs := by
    have element := ne_mark other.2 cs
    simp only [readMembers, skipSpace_mark h other.1]
  last fuel blank h rest := by
    simp only [readMoreMembers, skipSpace_mark h (c := '\x7d') rfl]
  next fuel blank blank' h h' c other cs := by
    have element := ne_mark other.2 cs
    simp only [readMoreMembers, skipSpace_mark h (c := ',') rfl, skipSpace_mark h' other.1]

section Lists

variable {α : Type} {spells : α → List Char → Prop}

theorem Further.length_le {xs : List α} {cs : List Char} (further : Further spells xs cs) :
    xs.length ≤ cs.length := by
  induction further with
  | last => exact Nat.zero_le _
  | next hbefore hafter spelt rest ih =>
      simp only [List.length_append, List.length_cons]
      omega

/-- Where the closing mark comes next, nothing belongs to a number any more. -/
theorem Further.ends {xs : List α} {cs : List Char} (further : Further spells xs cs) {close : Char}
    (mark : close = ']' ∨ close = '\x7d') (rest : List Char) : Ends (cs ++ close :: rest) := by
  cases further with
  | last hblank => exact .blank hblank rest (.inr mark)
  | next hbefore =>
      rw [List.append_assoc]
      exact .blank hbefore _ (.inl rfl)

namespace ListReader

variable {close : Char} {read : List Char → Except Stop (α × List Char)}
  {more : Nat → List Char → Except Stop (List α × List Char)}
  {all : List Char → Except Stop (List α × List Char)}
  (reader : ListReader close read more all)
  (begins : ∀ {x cs}, spells x cs → ∃ c more, cs = c :: more ∧ isSpace c = false ∧ c ≠ close)
  (spelled : ∀ {x cs}, spells x cs → ∀ {rest}, Ends rest → read (cs ++ rest) = .ok (x, rest))

include reader begins spelled

theorem more_reads {xs : List α} {cs : List Char} (further : Further spells xs cs) {fuel : Nat}
    (enough : xs.length < fuel) (rest : List Char) :
    more fuel (cs ++ close :: rest) = .ok (xs, rest) := by
  -- One unit of fuel for every element, and one for the closing mark.
  induction further generalizing fuel with
  | last hblank =>
      cases fuel with
      | zero => exact absurd enough (Nat.lt_irrefl 0)
      | succ fuel => exact reader.last fuel hblank rest
  | @next x xs before after code others hbefore hafter spelt further ih =>
      cases fuel with
      | zero => exact absurd enough (Nat.not_lt_zero _)
      | succ fuel =>
          have later := ih (Nat.lt_of_succ_lt_succ enough)
          have element := spelled spelt (further.ends reader.mark rest)
          rcases begins spelt with ⟨c, code, rfl, other⟩
          simp only [List.append_assoc, List.cons_append] at element ⊢
          rw [reader.next fuel hbefore hafter other, element]
          simp only [later, bind, Except.bind, pure, Except.pure]

/-- A list of elements is read to its closing mark. -/
theorem reads {xs : List α} {cs : List Char} (listed : Listed spells xs cs) (rest : List Char) :
    all (cs ++ close :: rest) = .ok (xs, rest) := by
  cases listed with
  | none hblank => exact reader.none hblank rest
  | @some x xs blank code others hblank spelt further =>
      have enough : xs.length < (blank ++ (code ++ others) ++ close :: rest).length := by
        have longer := further.length_le
        simp only [List.length_append, List.length_cons]
        omega
      have later := reader.more_reads begins spelled further enough rest
      have element := spelled spelt (further.ends reader.mark rest)
      rcases begins spelt with ⟨c, code, rfl, other⟩
      simp only [List.append_assoc, List.cons_append] at element later ⊢
      rw [reader.first hblank other, element]
      simp only [later, bind, Except.bind, pure, Except.pure]

end ListReader

end Lists

/-! ## Values -/

theorem TextSpelling.begins {text : String} {cs : List Char} (spelt : TextSpelling text cs) :
    ∃ more, cs = '"' :: more := by
  rcases spelt with ⟨codes, -, rfl⟩
  exact ⟨_, rfl⟩

/-- The first character of a number. -/
theorem Literal.begins {literal : Literal} (proper : literal.Proper) :
    ∃ c more, literal.chars = c :: more ∧ (c = '-' ∨ isDigit c) := by
  rcases literal with ⟨negative, whole, fraction, exponent⟩
  rcases proper.whole with ⟨nonempty, all⟩
  cases whole with
  | nil => exact absurd rfl nonempty
  | cons d ds =>
      cases negative with
      | true => exact ⟨'-', _, rfl, .inl rfl⟩
      | false => exact ⟨d, _, rfl, .inr (all d List.mem_cons_self)⟩

theorem no_space {c : Char} (first : c = '-' ∨ isDigit c) : isSpace c = false := by
  rw [← Bool.not_eq_true]
  intro space
  rcases space_cases space with rfl | rfl | rfl | rfl <;> exact absurd first (by decide)

/-- A value begins with neither white space nor a closing mark. -/
theorem Spelled.begins {levels : Nat} {value : Value} {cs : List Char}
    (spelt : Spelled levels value cs) :
    ∃ c more, cs = c :: more ∧ isSpace c = false ∧ c ≠ ']' := by
  have flat (flat : FlatSpelling value cs) :
      ∃ c more, cs = c :: more ∧ isSpace c = false ∧ c ≠ ']' := by
    cases flat with
    | null => exact ⟨_, _, rfl, by decide⟩
    | true => exact ⟨_, _, rfl, by decide⟩
    | false => exact ⟨_, _, rfl, by decide⟩
    | number literal proper =>
        rcases Literal.begins proper with ⟨c, more, chars, first⟩
        refine ⟨c, more, chars, no_space first, ?_⟩
        rintro rfl
        exact absurd first (by decide)
    | string spelt =>
        rcases spelt.begins with ⟨more, rfl⟩
        exact ⟨'"', more, rfl, by decide⟩
  cases levels with
  | zero => exact flat spelt
  | succ levels =>
      rcases spelt with spelt | spelt
      · exact flat spelt
      · cases spelt <;> exact ⟨_, _, rfl, by decide⟩

theorem MemberSpelling.begins {spells : Value → List Char → Prop} {member : String × Value}
    {cs : List Char} (spelt : MemberSpelling spells member cs) :
    ∃ c more, cs = c :: more ∧ isSpace c = false ∧ c ≠ '\x7d' := by
  rcases spelt with ⟨hname⟩
  rcases hname.begins with ⟨more, rfl⟩
  exact ⟨'"', _, rfl, by decide⟩

theorem readValueWith_number (inner : Option ValueReader) {literal : Literal}
    (proper : literal.Proper) (inRange : literal.InRange) {rest : List Char} (ends : Ends rest) :
    readValueWith inner (literal.chars ++ rest) =
      .ok (.number (String.ofList literal.chars), rest) := by
  have reads := readNumber_literal proper inRange ends
  rcases Literal.begins proper with ⟨c, more, chars, first⟩
  rw [chars, List.cons_append] at reads ⊢
  unfold readValueWith
  rw [skipSpace_cons (no_space first)]
  split
  case h_8 same =>
    cases same
    rw [if_pos first, reads]
    rfl
  all_goals
    next same => cases same <;> exact absurd first (by decide)

theorem readValueWith_text (inner : Option ValueReader) {text : String} {cs : List Char}
    (spelt : TextSpelling text cs) (rest : List Char) :
    readValueWith inner (cs ++ rest) = .ok (.string text, rest) := by
  rcases spelt with ⟨codes, spelt, rfl⟩
  have reads := readString_spelled spelt rest
  rw [List.cons_append, List.append_assoc, List.singleton_append]
  unfold readValueWith
  rw [skipSpace_cons rfl]
  simp only [reads, bind, Except.bind, pure, Except.pure]

theorem readValueWith_flat (inner : Option ValueReader) {value : Value} {cs : List Char}
    (spelt : FlatSpelling value cs) {rest : List Char} (ends : Ends rest) :
    readValueWith inner (cs ++ rest) = .ok (value, rest) := by
  cases spelt with
  | null => rfl
  | true => rfl
  | false => rfl
  | number literal proper inRange => exact readValueWith_number inner proper inRange ends
  | string spelt => exact readValueWith_text inner spelt rest

section Nested

variable {levels : Nat} (reads : ∀ {value cs}, Spelled levels value cs → ∀ {rest}, Ends rest →
  readValue levels (cs ++ rest) = .ok (value, rest))

include reads

theorem readMember_spelled {member : String × Value} {cs : List Char}
    (spelt : MemberSpelling (Spelled levels) member cs) {rest : List Char} (ends : Ends rest) :
    readMember (readValue levels) (cs ++ rest) = .ok (member, rest) := by
  rcases spelt with @⟨name, value, quoted, before, after, cs, ⟨codes, hname, rfl⟩, hbefore, hafter,
    spelt⟩
  have first := readString_spelled hname (before ++ ':' :: (after ++ (cs ++ rest)))
  have second := (readValue_blank hafter levels (cs ++ rest)).trans (reads spelt ends)
  simp only [List.cons_append, List.append_assoc, List.nil_append, readMember, first, bind,
    Except.bind, skipSpace_mark hbefore (c := ':') rfl, second, pure, Except.pure]

theorem readValue_nest {value : Value} {cs : List Char} (spelt : NestSpelling (Spelled levels) value cs)
    (rest : List Char) : readValue (levels + 1) (cs ++ rest) = .ok (value, rest) := by
  cases spelt with
  | @array items cs listed =>
      have items := (listReader_items (readValue levels)).reads Spelled.begins reads listed rest
      rw [List.cons_append, List.append_assoc, List.singleton_append, readValue]
      unfold readValueWith
      rw [skipSpace_cons rfl]
      simp only [items, bind, Except.bind, pure, Except.pure]
  | @object members cs listed =>
      have members := (listReader_members (readValue levels)).reads MemberSpelling.begins
        (readMember_spelled reads) listed rest
      rw [List.cons_append, List.append_assoc, List.singleton_append, readValue]
      unfold readValueWith
      rw [skipSpace_cons rfl]
      simp only [members, bind, Except.bind, pure, Except.pure]

end Nested

/-- Every spelling of a value is read, to its end and no further. -/
theorem readValue_spelled {levels : Nat} {value : Value} {cs : List Char}
    (spelt : Spelled levels value cs) {rest : List Char} (ends : Ends rest) :
    readValue levels (cs ++ rest) = .ok (value, rest) := by
  -- On the levels, as the reader itself: what is inside has one level less.
  induction levels generalizing value cs rest with
  | zero => exact readValueWith_flat none spelt ends
  | succ levels ih =>
      rcases spelt with flat | nest
      · exact readValueWith_flat _ flat ends
      · exact readValue_nest ih nest rest

/-- A text that spells a value, with white space around it, is read as that value. -/
theorem readValue_text {levels : Nat} {value : Value} {before cs after : List Char}
    (hbefore : Blank before) (spelt : Spelled levels value cs) (hafter : Blank after) :
    readValue levels (before ++ (cs ++ after)) = .ok (value, after) ∧ readEnd after = .ok () := by
  constructor
  · rw [readValue_blank hbefore, readValue_spelled spelt (.of_blank hafter)]
  · have all : skipSpace after = [] := by
      have skipped := skipSpace_blank hafter []
      rwa [List.append_nil] at skipped
    rw [readEnd, all]

end Json
end FormSnippet
