import FormSnippet.Json.Quoted
import FormSnippet.Proofs.Json.Accept

/-!
# Quoted — quoted strings read back

Quoting is one of the spellings of a text, so the reader of documents finds the text again.  Lists
of quoted strings and objects with one member are read back in the same way, whatever white space
stands between their parts.

- `TextSpelling.printable` : however a string is spelled, there is no control character in it
- `quoteChars_spelling` : a quoted text spells the text
- `readValue_names`     : a list of strings is read back
- `readValue_member`    : so is an object with one member
-/

namespace FormSnippet
namespace Json

/-! ## Strings -/

theorem hexValue?_hexDigit {n : Nat} (h : n < 16) : hexValue? (hexDigit n) = some n := by
  have all : ∀ n < 16, hexValue? (hexDigit n) = some n := by
    decide
  exact all n h

theorem hex4_hexDigit {n : Nat} (low : n < 32) :
    Hex4 n ['0', '0', hexDigit (n / 16), hexDigit (n % 16)] := by
  have high : hexValue? (hexDigit (n / 16)) = some (n / 16) := hexValue?_hexDigit (by omega)
  have low : hexValue? (hexDigit (n % 16)) = some (n % 16) := hexValue?_hexDigit (by omega)
  refine ⟨0, 0, n / 16, n % 16, ?_, by omega⟩
  simp only [List.map_cons, List.map_nil, high, low]
  rfl

/-- The escape of a character spells it. -/
theorem escape_spelling (c : Char) : CharSpelling c (escape c) := by
  unfold escape
  split_ifs with quote slash newline return_ tab back feed low
  · exact .short (by rw [quote]; decide)
  · exact .short (by rw [slash]; decide)
  · exact .short (by rw [newline]; decide)
  · exact .short (by rw [return_]; decide)
  · exact .short (by rw [tab]; decide)
  · exact .short (by rw [back]; decide)
  · exact .short (by rw [feed]; decide)
  · exact .code (hex4_hexDigit low)
  · exact .plain (Nat.not_lt.1 low) quote slash

theorem escapes_spelling (cs : List Char) : CharsSpelling cs (cs.flatMap escape) := by
  induction cs with
  | nil => exact .nil
  | cons c cs ih => exact .cons (escape_spelling c) ih

theorem quoteChars_spelling (text : String) : TextSpelling text (quoteChars text.toList) :=
  ⟨text.toList.flatMap escape, escapes_spelling text.toList, rfl⟩

/-! ## Control characters -/

theorem hexValue?_printable : ∀ {d : Char} {n : Nat}, hexValue? d = some n → 32 ≤ d.toNat := by
  intro d n known
  unfold hexValue? at known
  -- A digit or a letter is above the space.
  split at known
  · next range => exact Nat.le_trans (by decide) (show '0'.toNat ≤ d.toNat from range.1)
  · split at known
    · next range => exact Nat.le_trans (by decide) (show 'a'.toNat ≤ d.toNat from range.1)
    · split at known
      · next range => exact Nat.le_trans (by decide) (show 'A'.toNat ≤ d.toNat from range.1)
      · cases known

theorem Hex4.printable : ∀ {n : Nat} {cs : List Char}, Hex4 n cs → ∀ d ∈ cs, 32 ≤ d.toNat := by
  intro n cs number d mem
  rcases number with ⟨a, b, c, e, values, -⟩
  have valued : hexValue? d ∈ [some a, some b, some c, some e] := by
    rw [← values]
    exact List.mem_map_of_mem mem
  simp only [List.mem_cons, List.not_mem_nil, or_false] at valued
  rcases valued with first | second | third | fourth
  · exact hexValue?_printable first
  · exact hexValue?_printable second
  · exact hexValue?_printable third
  · exact hexValue?_printable fourth

theorem CharSpelling.printable :
    ∀ {c : Char} {code : List Char}, CharSpelling c code → ∀ d ∈ code, 32 ≤ d.toNat := by
  intro c code spelling
  have slash : 32 ≤ '\\'.toNat := by decide
  have letter : 32 ≤ 'u'.toNat := by decide
  cases spelling with
  | plain printable noQuote noSlash =>
      simpa using printable
  | @short mark known =>
      -- The marks of the short escapes are letters and punctuation.
      have marks : ∀ entry ∈ shortEscapes, 32 ≤ entry.1.toNat := by decide
      have printable : 32 ≤ mark.toNat := marks (mark, c) known
      simp only [List.forall_mem_cons]
      exact ⟨slash, printable, by simp⟩
  | code number =>
      simp only [List.forall_mem_cons]
      exact ⟨slash, letter, number.printable⟩
  | pair beyond leading trailing =>
      simp only [List.forall_mem_cons, List.forall_mem_append]
      exact ⟨slash, letter, leading.printable, slash, letter, trailing.printable⟩

theorem CharsSpelling.printable :
    ∀ {cs code : List Char}, CharsSpelling cs code → ∀ d ∈ code, 32 ≤ d.toNat := by
  intro cs code spelling
  induction spelling with
  | nil =>
      intro d mem
      cases mem
  | cons first rest ih =>
      exact List.forall_mem_append.2 ⟨first.printable, ih⟩

/-- Whatever a string holds, its spelling stays in one line. -/
theorem TextSpelling.printable :
    ∀ {text : String} {code : List Char}, TextSpelling text code → ∀ d ∈ code, 32 ≤ d.toNat := by
  intro text code spelling
  rcases spelling with ⟨codes, spelt, rfl⟩
  have mark : 32 ≤ '"'.toNat := by decide
  simp only [List.forall_mem_cons, List.forall_mem_append]
  exact ⟨mark, spelt.printable, mark, by simp⟩

/-! ## Values -/

theorem quoteChars_append (cs rest : List Char) :
    quoteChars cs ++ rest = '"' :: (cs.flatMap escape ++ '"' :: rest) := by
  simp [quoteChars]

theorem readValue_quoted (levels : Nat) (text : String) (rest : List Char) :
    readValue levels (quoteChars text.toList ++ rest) = .ok (.string text, rest) := by
  cases levels <;> exact readValueWith_text _ (quoteChars_spelling text) rest

/-! ## Lists of strings -/

/-- The further elements of a list, each after a comma and white space. -/
def moreNames (gap : List Char) (names : List String) : List Char :=
  names.flatMap fun name => ',' :: (gap ++ quoteChars name.toList)

/-- The elements of a list, each after white space. -/
def listedNames (gap : List Char) : List String → List Char
  | [] => []
  | name :: names => gap ++ quoteChars name.toList ++ moreNames gap names

section Lists

variable {gap closing : List Char} (hgap : Blank gap) (hclosing : Blank closing) (levels : Nat)

include hgap hclosing

theorem moreNames_further (names : List String) :
    Further (Spelled levels) (names.map .string) (moreNames gap names ++ closing) := by
  induction names with
  | nil => exact .last hclosing
  | cons name names ih =>
      have name' : Spelled levels (.string name) (quoteChars name.toList) :=
        .flat (.string (quoteChars_spelling name))
      have whole : moreNames gap (name :: names) ++ closing =
          [] ++ ',' :: (gap ++ (quoteChars name.toList ++ (moreNames gap names ++ closing))) := by
        simp [moreNames]
      rw [whole]
      exact .next (by decide) hgap name' ih

theorem listedNames_listed (names : List String) :
    Listed (Spelled levels) (names.map .string) (listedNames gap names ++ closing) := by
  cases names with
  | nil => exact .none hclosing
  | cons name names =>
      have name' : Spelled levels (.string name) (quoteChars name.toList) :=
        .flat (.string (quoteChars_spelling name))
      rw [listedNames, List.append_assoc, List.append_assoc]
      exact .some hgap name' (moreNames_further hgap hclosing levels names)

theorem readValue_names (rest : List Char) (names : List String) :
    readValue (levels + 1) ('[' :: (listedNames gap names ++ (closing ++ ']' :: rest))) =
      .ok (.array (names.map .string), rest) := by
  have spelt := NestSpelling.array (listedNames_listed hgap hclosing levels names)
  have reads := readValue_nest readValue_spelled spelt rest
  simpa only [List.cons_append, List.append_assoc, List.nil_append] using reads

end Lists

/-! ## Objects with one member -/

/-- An object whose only member has a value that is read up to its closing brace. -/
theorem readValue_member {gap closing : List Char} (hgap : Blank gap) (hclosing : Blank closing)
    {levels : Nat} {value : Value} {cs rest : List Char}
    (reads : readValue levels cs = .ok (value, closing ++ '\x7d' :: rest)) (name : String) :
    readValue (levels + 1) ('\x7b' :: (gap ++ (quoteChars name.toList ++ ':' :: cs))) =
      .ok (.object [(name, value)], rest) := by
  have here (cs : List Char) : skipSpace ('\x7b' :: cs) = '\x7b' :: cs := skipSpace_cons rfl cs
  have colon (cs : List Char) : skipSpace (':' :: cs) = ':' :: cs := skipSpace_cons rfl cs
  have close : skipSpace (closing ++ '\x7d' :: rest) = '\x7d' :: rest :=
    skipSpace_mark hclosing rfl rest
  have quoted := readString_spelled (escapes_spelling name.toList) (':' :: cs)
  have first : skipSpace (gap ++ (quoteChars name.toList ++ ':' :: cs)) =
      '"' :: (name.toList.flatMap escape ++ '"' :: ':' :: cs) := by
    rw [quoteChars_append, skipSpace_mark hgap rfl]
  have more : ∃ fuel, (gap ++ (quoteChars name.toList ++ ':' :: cs)).length = fuel + 1 :=
    ⟨_, by simp [quoteChars_append]; rfl⟩
  rcases more with ⟨fuel, more⟩
  simp [readValue, readValueWith, readMembers, readMember, readMoreMembers, here, first, colon,
    quoted, reads, more, close, bind, Except.bind, pure, Except.pure]

end Json
end FormSnippet
