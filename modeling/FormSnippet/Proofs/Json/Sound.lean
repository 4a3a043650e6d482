import FormSnippet.Proofs.Json.Accept

/-!
# Sound — nothing but JSON is accepted

Whenever the reader returns a value, the text that it has consumed is white space and a spelling of
that value.  Together with what it accepts, this makes the reader and the grammar the same thing: a
text is a document for at most one value, and it is that one which is read.

- `readString_sound`    : a string
- `readNumber_sound`    : a number, whose value is finite
- `ListParts.sound`     : a list of elements, for arrays and objects alike
- `readValue_sound`     : a value
- `Document`            : a text that spells one value, with white space around it
-/

namespace FormSnippet
namespace Json

/-- A result comes through both halves of a sequence. -/
theorem bind_eq_ok {ε α β : Type} {x : Except ε α} {f : α → Except ε β} {b : β} :
    (x >>= f) = .ok b ↔ ∃ a, x = .ok a ∧ f a = .ok b := by
  cases x with
  | error e => exact ⟨nofun, nofun⟩
  | ok a => exact ⟨fun same => ⟨a, rfl, same⟩, fun ⟨_, rfl, same⟩ => same⟩

/-! ## White space and words -/

theorem skipSpace_split (cs : List Char) : ∃ blank, Blank blank ∧ cs = blank ++ skipSpace cs :=
  ⟨cs.takeWhile isSpace, List.all_eq_true.1 List.all_takeWhile,
    List.takeWhile_append_dropWhile.symm⟩

theorem Blank.append {blank blank' : List Char} (h : Blank blank) (h' : Blank blank') :
    Blank (blank ++ blank') := by
  intro c mem
  rcases List.mem_append.1 mem with mem | mem
  · exact h c mem
  · exact h' c mem

theorem readWord_sound {word cs rest : List Char} (read : readWord word cs = .ok rest) :
    cs = word ++ rest := by
  induction word generalizing cs with
  | nil =>
      cases read
      rfl
  | cons w word ih =>
      cases cs with
      | nil => cases read
      | cons c cs =>
          rw [readWord] at read
          split at read
          · next same => rw [same, ih read, List.cons_append]
          · cases read

/-! ## Strings -/

theorem hexValue?_lt {c : Char} {n : Nat} (digit : hexValue? c = some n) : n < 16 := by
  have code : c.toNat = c.val.toNat := rfl
  unfold hexValue? at digit
  split at digit
  · next range =>
      have high : c.val.toNat ≤ 57 := range.2
      cases digit
      omega
  · split at digit
    · next range =>
        have high : c.val.toNat ≤ 102 := range.2
        cases digit
        omega
    · split at digit
      · next range =>
          have high : c.val.toNat ≤ 70 := range.2
          cases digit
          omega
      · cases digit

theorem Hex4.lt {n : Nat} {hex : List Char} (number : Hex4 n hex) : n < 0x10000 := by
  rcases number with ⟨a, b, c, d, digits, rfl⟩
  have small {k : Nat} (mem : some k ∈ hex.map hexValue?) : k < 16 := by
    rcases List.mem_map.1 mem with ⟨_, -, digit⟩
    exact hexValue?_lt digit
  rw [digits] at small
  have ha : a < 16 := small (by simp)
  have hb : b < 16 := small (by simp)
  have hc : c < 16 := small (by simp)
  have hd : d < 16 := small (by simp)
  omega

theorem readHex4_sound {cs rest : List Char} {n : Nat} (read : readHex4 cs = .ok (n, rest)) :
    ∃ hex, Hex4 n hex ∧ cs = hex ++ rest := by
  unfold readHex4 at read
  split at read
  · next a b c d more =>
      split at read
      · next ha hb hc hd =>
          cases read
          exact ⟨[a, b, c, d], ⟨_, _, _, _, by simp [ha, hb, hc, hd], rfl⟩, rfl⟩
      · cases read
  · split at read <;> cases read

theorem toNat_ofNat {n : Nat} (valid : n < 0xD800 ∨ 0xDFFF < n ∧ n < 0x110000) :
    (Char.ofNat n).toNat = n := by
  rw [Char.ofNat, dif_pos valid]
  rfl

/-- A pair of surrogates is the escape of the character that it stands for. -/
theorem pair_spelling {n n' : Nat} {hex hex' : List Char} (leading : isLeading n = true)
    (trailing : isTrailing n' = true) (number : Hex4 n hex) (number' : Hex4 n' hex') :
    CharSpelling (pairedChar n n') ('\\' :: 'u' :: (hex ++ '\\' :: 'u' :: hex')) := by
  simp only [isLeading, isTrailing, Bool.and_eq_true, decide_eq_true_eq] at leading trailing
  have code : (pairedChar n n').toNat = 0x10000 + (n - 0xD800) * 1024 + (n' - 0xDC00) :=
    toNat_ofNat (by omega)
  have first : 0xD800 + ((pairedChar n n').toNat - 0x10000) / 1024 = n := by omega
  have second : 0xDC00 + ((pairedChar n n').toNat - 0x10000) % 1024 = n' := by omega
  refine .pair (by omega) ?_ ?_
  · rw [first]
    exact number
  · rw [second]
    exact number'

theorem readTrailing_sound {n : Nat} {cs rest : List Char} {c : Char}
    (read : readTrailing n cs = .ok (c, rest)) :
    ∃ n' hex, isTrailing n' = true ∧ Hex4 n' hex ∧ c = pairedChar n n' ∧
      cs = '\\' :: 'u' :: (hex ++ rest) := by
  unfold readTrailing at read
  split at read
  case h_2 more =>
    rcases bind_eq_ok.1 read with ⟨⟨n', rest'⟩, digits, taken⟩
    rcases readHex4_sound digits with ⟨hex, number, rfl⟩
    dsimp only at taken
    split at taken
    · next trailing =>
        simp only [Except.ok.injEq, Prod.mk.injEq] at taken
        rcases taken with ⟨rfl, rfl⟩
        exact ⟨n', hex, trailing, number, rfl, rfl⟩
    · cases taken
  all_goals cases read

theorem readUnicode_sound {cs rest : List Char} {c : Char} (read : readUnicode cs = .ok (c, rest)) :
    ∃ code, CharSpelling c ('\\' :: 'u' :: code) ∧ cs = code ++ rest := by
  rcases bind_eq_ok.1 read with ⟨⟨n, rest'⟩, digits, taken⟩
  rcases readHex4_sound digits with ⟨hex, number, rfl⟩
  dsimp only at taken
  split at taken
  · cases taken
  · next noTrailing =>
      split at taken
      · next leading =>
          rcases readTrailing_sound taken with ⟨n', hex', trailing, number', same, rfl⟩
          have spelt := pair_spelling leading trailing number number'
          rw [← same] at spelt
          exact ⟨hex ++ '\\' :: 'u' :: hex', spelt, by simp⟩
      · next noLeading =>
          cases taken
          have code : (Char.ofNat n).toNat = n := by
            have small := number.lt
            simp only [isLeading, isTrailing, Bool.and_eq_true, decide_eq_true_eq]
              at noLeading noTrailing
            exact toNat_ofNat (by omega)
          exact ⟨hex, .code (by rwa [code]), rfl⟩

theorem readEscape_sound {cs rest : List Char} {c : Char} (read : readEscape cs = .ok (c, rest)) :
    ∃ code, CharSpelling c ('\\' :: code) ∧ cs = code ++ rest := by
  unfold readEscape at read
  split at read
  case h_10 more =>
    rcases readUnicode_sound read with ⟨code, spelt, rfl⟩
    exact ⟨'u' :: code, spelt, rfl⟩
  case h_1 => cases read
  case h_11 => cases read
  all_goals
    cases read
    exact ⟨[_], .short (by decide), rfl⟩

theorem readStringFuel_sound {fuel : Nat} {cs text rest : List Char}
    (read : readStringFuel fuel cs = .ok (text, rest)) :
    ∃ codes, CharsSpelling text codes ∧ cs = codes ++ '"' :: rest := by
  -- A string without its closing mark is refused, so only turns that have fuel left return one.
  induction fuel generalizing cs text with
  | zero => cases read
  | succ fuel ih =>
      unfold readStringFuel at read
      split at read
      · cases read
      · cases read
      · cases read
        exact ⟨[], .nil, rfl⟩
      · next more same =>
          cases same
          rcases bind_eq_ok.1 read with ⟨⟨c, rest₁⟩, escaped, read⟩
          rcases bind_eq_ok.1 read with ⟨⟨text, rest₂⟩, others, same⟩
          cases same
          rcases readEscape_sound escaped with ⟨code, first, rfl⟩
          rcases ih others with ⟨codes, spelt, rfl⟩
          exact ⟨_, .cons first spelt, by simp⟩
      · next c more noQuote noSlash same =>
          cases same
          split at read
          · cases read
          · next printable =>
              rcases bind_eq_ok.1 read with ⟨⟨text, rest₂⟩, others, same⟩
              cases same
              rcases ih others with ⟨codes, spelt, rfl⟩
              exact ⟨_, .cons (.plain (Nat.not_lt.1 printable) noQuote noSlash) spelt, rfl⟩

/-- What is read as a string spells it. -/
theorem readString_sound {cs rest : List Char} {text : String}
    (read : readString cs = .ok (text, rest)) :
    ∃ code, TextSpelling text ('"' :: code) ∧ cs = code ++ rest := by
  rcases bind_eq_ok.1 read with ⟨⟨chars, rest'⟩, chars', same⟩
  cases same
  rcases readStringFuel_sound chars' with ⟨codes, spelt, rfl⟩
  refine ⟨codes ++ ['"'], ⟨codes, ?_, rfl⟩, by simp⟩
  rw [String.toList_ofList]
  exact spelt

/-! ## Numbers -/

theorem finishNumber_sound {acc : Scaled} {cs rest : List Char}
    (read : finishNumber acc cs = .ok rest) :
    overflows acc.significand acc.exponent = false ∧ cs = rest := by
  unfold finishNumber at read
  split at read
  · cases read
  · next finite =>
      cases read
      exact ⟨Bool.eq_false_iff.2 finite, rfl⟩

/-- `n` is what has been read of the exponent. -/
theorem exponentDigits_sound {acc : Scaled} {negative : Bool} {n : Nat} (small : n < Nat.pow 2 31)
    {cs rest : List Char} (read : exponentDigits acc negative n cs = .ok rest) :
    ∃ ds, (∀ d ∈ ds, isDigit d) ∧ cs = ds ++ rest ∧
      if decimal n ds < Nat.pow 2 31 then
        overflows acc.significand (exponentDigits.signed acc negative (decimal n ds)) = false
      else acc.significand = 0 ∨ negative = true := by
  -- Along the text.  The number that is read stays below 31 bits until the rest is skipped.
  induction cs generalizing n with
  | nil =>
      rcases finishNumber_sound read with ⟨finite, rfl⟩
      refine ⟨[], nofun, rfl, ?_⟩
      rw [if_pos (show decimal n [] < _ from small)]
      exact finite
  | cons c cs ih =>
      rw [exponentDigits] at read
      split at read
      · next digit =>
          dsimp only at read
          split at read
          · next next =>
              rcases ih next read with ⟨ds, all, rfl, finite⟩
              exact ⟨c :: ds, List.forall_mem_cons.2 ⟨digit, all⟩, rfl, finite⟩
          · next large =>
              split at read
              · cases read
              · next harmless =>
                  cases read
                  -- All that is left of the digits is skipped.
                  refine ⟨c :: cs.takeWhile isDigit,
                    List.forall_mem_cons.2 ⟨digit, List.all_eq_true.1 List.all_takeWhile⟩, ?_, ?_⟩
                  · rw [List.cons_append, List.takeWhile_append_dropWhile]
                  · have more : n * 10 + digitValue c ≤ decimal n (c :: cs.takeWhile isDigit) :=
                      decimal_le _ _
                    rw [if_neg (by omega)]
                    by_cases zero : acc.significand = 0
                    · exact .inl zero
                    · right
                      rw [← Bool.not_eq_false]
                      exact fun positive => harmless ⟨zero, positive⟩
      · rcases finishNumber_sound read with ⟨finite, rfl⟩
        refine ⟨[], nofun, rfl, ?_⟩
        rw [if_pos (show decimal n [] < _ from small)]
        exact finite

theorem readExponent_sound {acc : Scaled} {cs rest : List Char}
    (read : readExponent acc cs = .ok rest) :
    ∃ sign ds, (∀ s ∈ sign, s = '+' ∨ s = '-') ∧ IsDigits ds ∧
      cs = sign.toList ++ (ds ++ rest) ∧ ∀ mark, Literal.Finite acc (some ⟨mark, sign, ds⟩) := by
  unfold readExponent at read
  split at read
  next negative unsigned split =>
    -- The sign, as far as there is one.
    have signed : ∃ sign : Option Char, (∀ s ∈ sign, s = '+' ∨ s = '-') ∧
        decide (sign = some '-') = negative ∧ cs = sign.toList ++ unsigned := by
      split at split
      · cases split
        exact ⟨some '+', by simp, rfl, rfl⟩
      · cases split
        exact ⟨some '-', by simp, rfl, rfl⟩
      · cases split
        exact ⟨none, nofun, rfl, rfl⟩
    rcases signed with ⟨sign, known, rfl, rfl⟩
    cases unsigned with
    | nil => cases read
    | cons c more =>
        dsimp only at read
        split at read
        · next digit =>
            have small : digitValue c < Nat.pow 2 31 :=
              Nat.lt_of_le_of_lt (digitValue_le digit) (by decide)
            rcases exponentDigits_sound small read with ⟨ds, all, rfl, finite⟩
            have first : decimal 0 (c :: ds) = decimal (digitValue c) ds := by simp [decimal]
            refine ⟨sign, c :: ds, known,
              ⟨List.cons_ne_nil c ds, List.forall_mem_cons.2 ⟨digit, all⟩⟩, rfl, fun mark => ?_⟩
            simp only [Literal.Finite, Exponent.scale, Exponent.negative, first]
            exact finite
        · cases read

theorem digits_sound {cs ds rest : List Char} (split : digits cs = (ds, rest)) :
    (∀ d ∈ ds, isDigit d) ∧ cs = ds ++ rest := by
  obtain ⟨rfl, rfl⟩ := Prod.mk.inj split
  exact ⟨List.all_eq_true.1 List.all_takeWhile, List.takeWhile_append_dropWhile.symm⟩

namespace Literal

theorem afterDigits_sound {acc : Scaled} {cs rest : List Char}
    (read : afterDigits acc cs = .ok rest) :
    ∃ exponent, (∀ e ∈ exponent, e.Proper) ∧ Finite acc exponent ∧
      cs = exponentChars exponent ++ rest := by
  have marked {mark : Char} (known : mark = 'e' ∨ mark = 'E') {more : List Char}
      (read : readExponent acc more = .ok rest) :
      ∃ exponent, (∀ e ∈ exponent, e.Proper) ∧ Finite acc exponent ∧
        mark :: more = exponentChars exponent ++ rest := by
    rcases readExponent_sound read with ⟨sign, ds, signs, digits, rfl, finite⟩
    refine ⟨some ⟨mark, sign, ds⟩, ?_, finite mark, ?_⟩
    · rintro _ ⟨⟩
      exact ⟨known, signs, digits⟩
    · rw [exponentChars, Exponent.chars, List.cons_append, List.append_assoc]
  unfold afterDigits at read
  split at read
  · exact marked (.inl rfl) read
  · exact marked (.inr rfl) read
  · rcases finishNumber_sound read with ⟨finite, rfl⟩
    exact ⟨none, by simp, finite, rfl⟩

theorem afterWhole_sound {acc : Scaled} {cs rest : List Char}
    (read : afterWhole acc cs = .ok rest) :
    ∃ fraction exponent, (∀ ds ∈ fraction, IsDigits ds) ∧ (∀ e ∈ exponent, e.Proper) ∧
      Finite (withFraction acc fraction) exponent ∧
      cs = fractionChars fraction ++ (exponentChars exponent ++ rest) := by
  unfold afterWhole at read
  split at read
  · split at read
    · cases read
    · cases read
    · next ds behind _ nonempty split =>
        rcases digits_sound split with ⟨all, rfl⟩
        rcases afterDigits_sound read with ⟨exponent, proper, finite, rfl⟩
        refine ⟨some ds, exponent, ?_, proper, finite, rfl⟩
        rintro _ ⟨⟩
        refine ⟨?_, all⟩
        rintro rfl
        exact nonempty rfl
  · rcases afterDigits_sound read with ⟨exponent, proper, finite, rfl⟩
    exact ⟨none, exponent, nofun, proper, finite, rfl⟩

/-- What is left of a literal behind its sign. -/
theorem readUnsigned_sound {cs rest : List Char} (read : readUnsigned cs = .ok rest) :
    ∃ literal : Literal, literal.Proper ∧ literal.InRange ∧ literal.negative = false ∧
      cs = literal.chars ++ rest := by
  unfold readUnsigned at read
  have zero : IsDigits ['0'] := by decide
  split at read
  · cases read
  · split at read
    · split at read
      · cases read
      · rcases afterWhole_sound read with ⟨fraction, exponent, digits, proper, finite, split⟩
        refine ⟨⟨false, ['0'], fraction, exponent⟩, ⟨zero, fun _ => rfl, digits, proper⟩, finite,
          rfl, ?_⟩
        simp [chars, split]
    · cases read
      exact ⟨⟨false, ['0'], none, none⟩, ⟨zero, fun _ => rfl, by simp, by simp⟩, rfl, rfl, rfl⟩
  · next c more noZero =>
      split at read
      · next digit =>
          rcases split : digits (c :: more) with ⟨whole, behind⟩
          rw [split] at read
          rcases digits_sound split with ⟨all, same⟩
          rcases afterWhole_sound read with ⟨fraction, exponent, digits, proper, finite, rfl⟩
          refine ⟨⟨false, whole, fraction, exponent⟩, ⟨⟨?_, all⟩, ?_, digits, proper⟩, finite,
            rfl, ?_⟩
          · rintro rfl
            simp [Json.digits, digit] at split
          · -- A whole part that begins with a zero has been dealt with above.
            intro first
            cases whole with
            | nil => cases first
            | cons d whole =>
                cases first
                exact absurd (List.cons.inj same).1 noZero
          · simp [chars, same]
      · cases read

end Literal

/-- What is read as a number is a literal in range. -/
theorem readNumber_sound {cs chars rest : List Char} (read : readNumber cs = .ok (chars, rest)) :
    ∃ literal : Literal, literal.Proper ∧ literal.InRange ∧ chars = literal.chars ∧
      cs = literal.chars ++ rest := by
  have whole {literal : Literal} (consumed : cs = literal.chars ++ rest)
      (taken : cs.take (cs.length - rest.length) = chars) : chars = literal.chars := by
    rw [← taken, consumed, List.length_append, Nat.add_sub_cancel, List.take_left]
  rcases bind_eq_ok.1 read with ⟨rest', unsigned, same⟩
  obtain ⟨taken, rfl⟩ := Prod.mk.inj (Except.ok.inj same)
  split at unsigned
  · next more =>
      rcases Literal.readUnsigned_sound unsigned with ⟨literal, proper, inRange, positive, rfl⟩
      have negated : '-' :: (literal.chars ++ rest') =
          { literal with negative := true }.chars ++ rest' := by
        simp [Literal.chars, positive]
      exact ⟨{ literal with negative := true },
        ⟨proper.whole, proper.noZero, proper.fraction, proper.exponent⟩, inRange,
        whole negated taken, negated⟩
  · rcases Literal.readUnsigned_sound unsigned with ⟨literal, proper, inRange, -, consumed⟩
    exact ⟨literal, proper, inRange, whole consumed taken, consumed⟩

/-! ## Lists -/

/-- What the two functions that read a list have done where they succeed: `more` has found the
closing mark, or a comma and an element; `all` the closing mark or an element. -/
structure ListParts {α : Type} (close : Char) (read : List Char → Except Stop (α × List Char))
    (more : Nat → List Char → Except Stop (List α × List Char))
    (all : List Char → Except Stop (List α × List Char)) : Prop where
  further {fuel : Nat} {cs rest : List Char} {xs : List α} (ok : more fuel cs = .ok (xs, rest)) :
    (xs = [] ∧ skipSpace cs = close :: rest) ∨
      ∃ fuel' x xs' behind behind', fuel = fuel' + 1 ∧ xs = x :: xs' ∧
        skipSpace cs = ',' :: behind ∧ read (skipSpace behind) = .ok (x, behind') ∧
        more fuel' behind' = .ok (xs', rest)
  first {cs rest : List Char} {xs : List α} (ok : all cs = .ok (xs, rest)) :
    (xs = [] ∧ skipSpace cs = close :: rest) ∨
      ∃ x xs' behind, xs = x :: xs' ∧ read (skipSpace cs) = .ok (x, behind) ∧
        more cs.length behind = .ok (xs', rest)

theorem cons_eq_ok {α : Type} {cs rest : List Char} {xs : List α}
    {read : List Char → Except Stop (α × List Char)}
    {others : List Char → Except Stop (List α × List Char)}
    (ok : (do
      let (x, behind) ← read cs
      let (xs, rest) ← others behind
      return (x :: xs, rest)) = Except.ok (xs, rest)) :
    ∃ x xs' behind, xs = x :: xs' ∧ read cs = .ok (x, behind) ∧
      others behind = .ok (xs', rest) := by
  rcases bind_eq_ok.1 ok with ⟨⟨x, behind⟩, first, later⟩
  rcases bind_eq_ok.1 later with ⟨⟨xs', rest'⟩, second, same⟩
  cases same
  exact ⟨x, xs', behind, rfl, first, second⟩

theorem listParts_items (read : ValueReader) :
    ListParts ']' read (readMoreItems read) (readItems read) where
  further {fuel cs rest xs} ok := by
    cases fuel with
    | zero => cases ok
    | succ fuel =>
        rw [readMoreItems] at ok
        split at ok
        · cases ok
        · next mark =>
            cases ok
            exact .inl ⟨rfl, mark⟩
        · next comma =>
            split at ok
            · cases ok
            · cases ok
            · rcases cons_eq_ok ok with ⟨x, xs', behind, same, element, others⟩
              exact .inr ⟨fuel, x, xs', _, behind, rfl, same, comma, element, others⟩
        · cases ok
  first {cs rest xs} ok := by
    rw [readItems] at ok
    split at ok
    · cases ok
    · next mark =>
        cases ok
        exact .inl ⟨rfl, mark⟩
    · exact .inr (cons_eq_ok ok)

theorem listParts_members (read : ValueReader) :
    ListParts '\x7d' (readMember read) (readMoreMembers read) (readMembers read) where
  further {fuel cs rest xs} ok := by
    cases fuel with
    | zero => cases ok
    | succ fuel =>
        rw [readMoreMembers] at ok
        split at ok
        · cases ok
        · next mark =>
            cases ok
            exact .inl ⟨rfl, mark⟩
        · next comma =>
            split at ok
            · cases ok
            · cases ok
            · rcases cons_eq_ok ok with ⟨x, xs', behind, same, element, others⟩
              exact .inr ⟨fuel, x, xs', _, behind, rfl, same, comma, element, others⟩
        · cases ok
  first {cs rest xs} ok := by
    rw [readMembers] at ok
    split at ok
    · cases ok
    · next mark =>
        cases ok
        exact .inl ⟨rfl, mark⟩
    · exact .inr (cons_eq_ok ok)

namespace ListParts

variable {α : Type} {spells : α → List Char → Prop} {close : Char}
  {read : List Char → Except Stop (α × List Char)}
  {more : Nat → List Char → Except Stop (List α × List Char)}
  {all : List Char → Except Stop (List α × List Char)}
  (parts : ListParts close read more all)
  (element : ∀ {cs x rest}, read cs = .ok (x, rest) →
    ∃ blank code, Blank blank ∧ spells x code ∧ cs = blank ++ (code ++ rest))

include parts element

theorem more_sound {fuel : Nat} {cs rest : List Char} {xs : List α}
    (ok : more fuel cs = .ok (xs, rest)) :
    ∃ code, Further spells xs code ∧ cs = code ++ close :: rest := by
  induction fuel generalizing cs xs with
  | zero =>
      rcases parts.further ok with ⟨rfl, mark⟩ | ⟨fuel', _, _, _, _, same, -⟩
      · rcases skipSpace_split cs with ⟨blank, hblank, split⟩
        exact ⟨blank, .last hblank, by rw [split, mark]⟩
      · cases same
  | succ fuel ih =>
      rcases skipSpace_split cs with ⟨before, hbefore, split⟩
      rcases parts.further ok with ⟨rfl, mark⟩ | ⟨fuel', x, xs', behind, behind', same, rfl, comma,
        here, others⟩
      · exact ⟨before, .last hbefore, by rw [split, mark]⟩
      · obtain rfl : fuel' = fuel := (Nat.succ.inj same).symm
        rcases ih others with ⟨codes, further, rfl⟩
        rcases skipSpace_split behind with ⟨after, hafter, split'⟩
        rcases element here with ⟨blank, code, hblank, spelt, skipped⟩
        -- The white space behind the comma and that in front of the element are one.
        have next : Further spells (x :: xs')
            (before ++ ',' :: ((after ++ blank) ++ (code ++ codes))) :=
          .next hbefore (hafter.append hblank) spelt further
        refine ⟨_, next, ?_⟩
        calc cs
            = before ++ ',' :: behind := by rw [split, comma]
          _ = before ++ ',' :: (after ++ (blank ++ (code ++ (codes ++ close :: rest)))) := by
              rw [split', skipped]
          _ = before ++ ',' :: ((after ++ blank) ++ (code ++ codes)) ++ close :: rest := by simp

/-- Where a list is read, elements with commas between them stand before the closing mark. -/
theorem sound {cs rest : List Char} {xs : List α} (ok : all cs = .ok (xs, rest)) :
    ∃ code, Listed spells xs code ∧ cs = code ++ close :: rest := by
  rcases skipSpace_split cs with ⟨before, hbefore, split⟩
  rcases parts.first ok with ⟨rfl, mark⟩ | ⟨x, xs', behind, rfl, here, others⟩
  · exact ⟨before, .none hbefore, by rw [split, mark]⟩
  · rcases parts.more_sound element others with ⟨codes, further, rfl⟩
    rcases element here with ⟨blank, code, hblank, spelt, skipped⟩
    have listed : Listed spells (x :: xs') ((before ++ blank) ++ (code ++ codes)) :=
      .some (hbefore.append hblank) spelt further
    refine ⟨_, listed, ?_⟩
    calc cs
        = before ++ (blank ++ (code ++ (codes ++ close :: rest))) := by rw [split, skipped]
      _ = (before ++ blank) ++ (code ++ codes) ++ close :: rest := by simp

end ListParts

/-! ## Values -/

section Nested

variable {spells : Value → List Char → Prop} {read : ValueReader}
  (inside : ∀ {cs value rest}, read cs = .ok (value, rest) →
    ∃ blank code, Blank blank ∧ spells value code ∧ cs = blank ++ (code ++ rest))

include inside

theorem readMember_sound {cs rest : List Char} {member : String × Value}
    (ok : readMember read cs = .ok (member, rest)) :
    ∃ blank code, Blank blank ∧ MemberSpelling spells member code ∧
      cs = blank ++ (code ++ rest) := by
  unfold readMember at ok
  split at ok
  · rcases bind_eq_ok.1 ok with ⟨⟨name, behind⟩, quoted, found⟩
    rcases readString_sound quoted with ⟨chars, hname, rfl⟩
    rcases skipSpace_split behind with ⟨before, hbefore, skipped⟩
    dsimp only at found
    split at found
    · cases found
    · next more colon =>
        rcases bind_eq_ok.1 found with ⟨⟨value, rest'⟩, given, same⟩
        cases same
        rcases inside given with ⟨after, code, hafter, spelt, rfl⟩
        refine ⟨[], _, nofun, .mk hname hbefore hafter spelt, ?_⟩
        rw [skipped, colon]
        simp
    · cases found
  · cases ok

end Nested

/-- What is consumed is white space and a value, with something in it only if there is a reader for
that. -/
theorem readValueWith_sound {spells : Value → List Char → Prop} {inner : Option ValueReader}
    (inside : ∀ read ∈ inner, ∀ {cs value rest}, read cs = .ok (value, rest) →
      ∃ blank code, Blank blank ∧ spells value code ∧ cs = blank ++ (code ++ rest))
    {cs rest : List Char} {value : Value} (ok : readValueWith inner cs = .ok (value, rest)) :
    ∃ blank code, Blank blank ∧
      (FlatSpelling value code ∨ inner.isSome ∧ NestSpelling spells value code) ∧
      cs = blank ++ (code ++ rest) := by
  rcases skipSpace_split cs with ⟨blank, hblank, skipped⟩
  have word {word more : List Char} {w : Char} {value' : Value}
      (spelt : FlatSpelling value' (w :: word)) (first : skipSpace cs = w :: more)
      (ok : (do
        let rest ← readWord word more
        return (value', rest)) = Except.ok (value, rest)) :
      ∃ blank code, Blank blank ∧
        (FlatSpelling value code ∨ inner.isSome ∧ NestSpelling spells value code) ∧
        cs = blank ++ (code ++ rest) := by
    rcases bind_eq_ok.1 ok with ⟨rest', letters, same⟩
    cases same
    refine ⟨blank, _, hblank, .inl spelt, ?_⟩
    rw [skipped, first, readWord_sound letters, List.cons_append]
  unfold readValueWith at ok
  split at ok
  · cases ok
  · next first => exact word .null first ok
  · next first => exact word .true first ok
  · next first => exact word .false first ok
  · next more first =>
      rcases bind_eq_ok.1 ok with ⟨⟨text, rest'⟩, quoted, same⟩
      cases same
      rcases readString_sound quoted with ⟨code, spelt, rfl⟩
      exact ⟨blank, _, hblank, .inl (.string spelt), by rw [skipped, first]; rfl⟩
  · next more first =>
      split at ok
      · cases ok
      · next read =>
          rcases bind_eq_ok.1 ok with ⟨⟨items, rest'⟩, listed, same⟩
          cases same
          rcases (listParts_items read).sound (inside read rfl) listed with ⟨code, spelt, rfl⟩
          refine ⟨blank, _, hblank, .inr ⟨rfl, .array spelt⟩, ?_⟩
          rw [skipped, first]
          simp
  · next more first =>
      split at ok
      · cases ok
      · next read =>
          rcases bind_eq_ok.1 ok with ⟨⟨members, rest'⟩, listed, same⟩
          cases same
          rcases (listParts_members read).sound (readMember_sound (inside read rfl)) listed with
            ⟨code, spelt, rfl⟩
          refine ⟨blank, _, hblank, .inr ⟨rfl, .object spelt⟩, ?_⟩
          rw [skipped, first]
          simp
  · next c more _ _ _ _ _ _ first =>
      split at ok
      · rcases bind_eq_ok.1 ok with ⟨⟨chars, rest'⟩, number, same⟩
        cases same
        rcases readNumber_sound number with ⟨literal, proper, inRange, rfl, split⟩
        refine ⟨blank, _, hblank, .inl (.number literal proper inRange), ?_⟩
        rw [skipped, first, split]
      · cases ok

theorem readValue_sound {levels : Nat} {cs rest : List Char} {value : Value}
    (ok : readValue levels cs = .ok (value, rest)) :
    ∃ blank code, Blank blank ∧ Spelled levels value code ∧ cs = blank ++ (code ++ rest) := by
  -- On the levels, as the reader itself; `spells` is the grammar one level below.
  induction levels generalizing cs value rest with
  | zero =>
      have inside : ∀ read ∈ (none : Option ValueReader), ∀ {cs value rest},
          read cs = .ok (value, rest) →
            ∃ blank code, Blank blank ∧ Spelled 0 value code ∧ cs = blank ++ (code ++ rest) := nofun
      rcases readValueWith_sound inside ok with ⟨blank, code, hblank, spelt, split⟩
      refine ⟨blank, code, hblank, ?_, split⟩
      rcases spelt with flat | ⟨none, -⟩
      · exact flat
      · cases none
  | succ levels ih =>
      have inside : ∀ read ∈ some (readValue levels), ∀ {cs value rest},
          read cs = .ok (value, rest) → ∃ blank code, Blank blank ∧ Spelled levels value code ∧
            cs = blank ++ (code ++ rest) := by
        rintro _ ⟨⟩
        exact ih
      rcases readValueWith_sound inside ok with ⟨blank, code, hblank, spelt, split⟩
      refine ⟨blank, code, hblank, ?_, split⟩
      rcases spelt with flat | ⟨-, nest⟩
      · exact .flat flat
      · exact .nest nest

/-! ## Documents -/

theorem readEnd_sound {cs : List Char} (ok : readEnd cs = .ok ()) : Blank cs := by
  rcases skipSpace_split cs with ⟨blank, hblank, split⟩
  unfold readEnd at ok
  split at ok
  · next nothing =>
      rw [nothing, List.append_nil] at split
      rw [split]
      exact hblank
  · cases ok

/-- The text is a document: it spells the value, with white space around it. -/
def Document (text : String) (value : Value) : Prop :=
  ∃ before cs after, Blank before ∧ Spelled maxLevels value cs ∧ Blank after ∧
    text.toList = before ++ (cs ++ after)

/-- The documents are the texts that are read to their end. -/
theorem document_iff {text : String} {value : Value} :
    Document text value ↔
      ∃ rest, readValue maxLevels text.toList = .ok (value, rest) ∧ readEnd rest = .ok () := by
  constructor
  · rintro ⟨before, cs, after, hbefore, spelt, hafter, whole⟩
    rw [whole]
    exact ⟨after, readValue_text hbefore spelt hafter⟩
  · rintro ⟨rest, ok, last⟩
    rcases readValue_sound ok with ⟨blank, code, hblank, spelt, split⟩
    exact ⟨blank, code, rest, hblank, spelt, readEnd_sound last, split⟩

theorem Document.unique {text : String} {value value' : Value} (document : Document text value)
    (document' : Document text value') : value = value' := by
  rcases document_iff.1 document with ⟨rest, read, -⟩
  rcases document_iff.1 document' with ⟨rest', read', -⟩
  rw [read] at read'
  cases read'
  rfl

end Json
end FormSnippet
