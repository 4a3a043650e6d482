import Mathlib.Data.List.Chain
import FormSnippet.Snippet

/-!
# Delimiter — where Templater's delimiters stand in a snippet

Templater takes `<%` for the beginning of a block and `%>` for its end wherever they stand, inside a
string of the block as well.  A name that is quoted for JSON keeps their characters as they are, so it
brings its delimiters along, and it is up to the names whether a block ends where it should.

- `DelimiterAt`    : a delimiter stands at a position of a text
- `Clean`          : a text without delimiters
- `Snippet.names`  : the names that a snippet quotes
- `Snippet.OwnAt`  : the delimiters that every snippet has
-/

namespace FormSnippet

/-! ## Delimiters -/

def Delimits (a b : Char) : Prop :=
  a = '<' ∧ b = '%' ∨ a = '%' ∧ b = '>'

instance (a b : Char) : Decidable (Delimits a b) :=
  inferInstanceAs (Decidable (_ ∨ _))

/-- The character is in no delimiter. -/
def Neutral (c : Char) : Prop :=
  c ≠ '<' ∧ c ≠ '%' ∧ c ≠ '>'

instance (c : Char) : Decidable (Neutral c) :=
  inferInstanceAs (Decidable (_ ∧ _))

theorem Neutral.not_first {c : Char} (h : Neutral c) (d : Char) : ¬ Delimits c d := by
  rintro (⟨rfl, -⟩ | ⟨rfl, -⟩)
  · exact h.1 rfl
  · exact h.2.1 rfl

theorem Neutral.not_second {c : Char} (h : Neutral c) (d : Char) : ¬ Delimits d c := by
  rintro (⟨-, rfl⟩ | ⟨-, rfl⟩)
  · exact h.2.1 rfl
  · exact h.2.2 rfl

/-- A delimiter stands at the position. -/
def DelimiterAt (cs : List Char) (i : Nat) : Prop :=
  ∃ a b, cs[i]? = some a ∧ cs[i + 1]? = some b ∧ Delimits a b

/-- There are no delimiters in the text. -/
def Clean (cs : List Char) : Prop :=
  cs.IsChain fun a b => ¬ Delimits a b

instance (cs : List Char) : Decidable (Clean cs) :=
  inferInstanceAs (Decidable (cs.IsChain _))

section Texts

variable {c : Char} {xs ys cs : List Char} {i : Nat}

theorem DelimiterAt.lt (h : DelimiterAt cs i) : i + 1 < cs.length := by
  rcases h with ⟨a, b, -, second, -⟩
  exact (List.getElem?_eq_some_iff.1 second).1

@[simp] theorem delimiterAt_succ : DelimiterAt (c :: cs) (i + 1) ↔ DelimiterAt cs i := by
  simp [DelimiterAt]

theorem delimiterAt_zero : DelimiterAt (c :: cs) 0 ↔ ∃ d ∈ cs.head?, Delimits c d := by
  cases cs <;> simp [DelimiterAt]

theorem clean_iff : Clean cs ↔ ∀ i, ¬ DelimiterAt cs i := by
  induction cs with
  | nil => simp [Clean, DelimiterAt]
  | cons c cs ih =>
      have head : (∀ d ∈ cs.head?, ¬ Delimits c d) ↔ ¬ DelimiterAt (c :: cs) 0 := by
        simp [delimiterAt_zero]
      have tail : Clean cs ↔ ∀ i, ¬ DelimiterAt (c :: cs) (i + 1) := by
        simpa using ih
      rw [Clean, List.isChain_cons, head, ← Clean, tail]
      constructor
      · rintro ⟨first, later⟩ (_ | i)
        · exact first
        · exact later i
      · intro none
        exact ⟨none 0, fun i => none (i + 1)⟩

/-- Where no delimiter crosses the border, those of a text are those of its two parts. -/
theorem delimiterAt_append (border : ∀ x ∈ xs.getLast?, ∀ y ∈ ys.head?, ¬ Delimits x y) :
    DelimiterAt (xs ++ ys) i ↔ DelimiterAt xs i ∨ ∃ j, i = xs.length + j ∧ DelimiterAt ys j := by
  induction xs generalizing i with
  | nil =>
      simp [DelimiterAt]
  | cons x xs ih =>
      cases i with
      | zero =>
          have later : ¬ ∃ j, 0 = (x :: xs).length + j ∧ DelimiterAt ys j := by
            rintro ⟨j, position, -⟩
            rw [List.length_cons] at position
            omega
          rw [or_iff_left later]
          cases xs with
          | nil => simpa [delimiterAt_zero] using border x (by simp)
          | cons x' xs => simp [delimiterAt_zero]
      | succ i =>
          have border' : ∀ x ∈ xs.getLast?, ∀ y ∈ ys.head?, ¬ Delimits x y := by
            intro z hz
            cases xs with
            | nil => cases hz
            | cons => exact border z (by simpa using hz)
          have shift : (∃ j, i + 1 = (x :: xs).length + j ∧ DelimiterAt ys j) ↔
              ∃ j, i = xs.length + j ∧ DelimiterAt ys j := by
            refine exists_congr fun j => and_congr_left' ?_
            rw [List.length_cons]
            omega
          rw [List.cons_append, delimiterAt_succ, delimiterAt_succ, ih border', shift]

theorem clean_split (h : Neutral c) : Clean (xs ++ c :: ys) ↔ Clean xs ∧ Clean ys := by
  simp [Clean, List.isChain_append, List.isChain_cons, h.not_first, h.not_second]

theorem clean_cons (h : Neutral c) : Clean (c :: ys) ↔ Clean ys := by
  simp [Clean, List.isChain_cons, h.not_first]

theorem clean_neutral (h : ∀ c ∈ cs, Neutral c) : Clean (cs ++ ys) ↔ Clean ys := by
  induction cs with
  | nil => rfl
  | cons c cs ih =>
      rcases List.forall_mem_cons.1 h with ⟨first, rest⟩
      rw [List.cons_append, clean_cons first, ih rest]

end Texts

/-! ## Quoted names -/

section Quoted

open Json

theorem hexDigit_neutral {n : Nat} (h : n < 16) : Neutral (hexDigit n) := by
  have all : ∀ n < 16, Neutral (hexDigit n) := by
    decide
  exact all n h

/-- What is escaped is in no delimiter, nor is the escape. -/
theorem escape_cases (c : Char) : escape c = [c] ∨
    Neutral c ∧ ∃ rest, escape c = '\\' :: rest ∧ ∀ d ∈ rest, Neutral d := by
  have one : ∀ d, Neutral d → ∀ x ∈ [d], Neutral x := by
    intro d neutral
    simpa using neutral
  unfold escape
  split_ifs with h1 h2 h3 h4 h5 h6 h7 h8
  · exact .inr ⟨by rw [h1]; decide, _, rfl, one '"' (by decide)⟩
  · exact .inr ⟨by rw [h2]; decide, _, rfl, one '\\' (by decide)⟩
  · exact .inr ⟨by rw [h3]; decide, _, rfl, one 'n' (by decide)⟩
  · exact .inr ⟨by rw [h4]; decide, _, rfl, one 'r' (by decide)⟩
  · exact .inr ⟨by rw [h5]; decide, _, rfl, one 't' (by decide)⟩
  · exact .inr ⟨by rw [h6]; decide, _, rfl, one 'b' (by decide)⟩
  · exact .inr ⟨by rw [h7]; decide, _, rfl, one 'f' (by decide)⟩
  · have neutral : Neutral c := by
      refine ⟨?_, ?_, ?_⟩ <;> rintro rfl <;> exact absurd h8 (by decide)
    have high : Neutral (hexDigit (c.toNat / 16)) := hexDigit_neutral (by omega)
    have low : Neutral (hexDigit (c.toNat % 16)) := hexDigit_neutral (by omega)
    exact .inr ⟨neutral, _, rfl, by simpa [high, low] using by decide⟩
  · exact .inl rfl

theorem escape_head (a : Char) (cs : List Char) :
    (∃ d ∈ (cs.flatMap escape).head?, Delimits a d) ↔ ∃ d ∈ cs.head?, Delimits a d := by
  cases cs with
  | nil => rfl
  | cons c cs =>
      rcases escape_cases c with same | ⟨neutral, rest, escaped, -⟩
      · simp [same]
      · have slash : Neutral '\\' := by
          decide
        simp [escaped, slash.not_second, neutral.not_second]

theorem clean_escape (cs : List Char) : Clean (cs.flatMap escape) ↔ Clean cs := by
  induction cs with
  | nil => rfl
  | cons c cs ih =>
      rw [List.flatMap_cons]
      rcases escape_cases c with same | ⟨neutral, rest, escaped, others⟩
      · have head := not_congr (escape_head c cs)
        simp only [not_exists, not_and] at head
        rw [same, List.singleton_append, Clean, List.isChain_cons, ← Clean, ih, head, Clean, Clean,
          List.isChain_cons]
      · have all : ∀ d ∈ escape c, Neutral d := by
          rw [escaped]
          exact List.forall_mem_cons.2 ⟨by decide, others⟩
        rw [clean_neutral all, clean_cons neutral, ih]

/-- Between clean texts, a quoted name is as clean as the name. -/
theorem clean_quoted {xs ys : List Char} (before : Clean xs) (after : Clean ys) (cs : List Char) :
    Clean (xs ++ quoteChars cs ++ ys) ↔ Clean cs := by
  have mark : Neutral '"' := by
    decide
  have whole : xs ++ quoteChars cs ++ ys = xs ++ '"' :: (cs.flatMap escape ++ '"' :: ys) := by
    simp [quoteChars]
  rw [whole, clean_split mark, clean_split mark, clean_escape]
  simp only [before, after, true_and, and_true]

end Quoted

/-! ## Snippets -/

namespace Frontmatter

/-- The names that are picked. -/
def names : Frontmatter → List String
  | .pick names => names
  | _ => []

end Frontmatter

namespace Snippet

/-- The names that the snippet quotes: that of the form, the omitted ones and the picked ones. -/
def names (snippet : Snippet) : List String :=
  snippet.formName :: snippet.omitted ++ snippet.frontmatter.names

/-- The lines between the one that opens the block and the one that closes it. -/
def body (snippet : Snippet) : List Line :=
  handleLines snippet.options ++ openLines snippet ++ frontmatterLines snippet.frontmatter

/-- A snippet up to the opening of its block. -/
def opening (options : Options) : List Char :=
  fence options.fences "<% \"---\" %>" ++ '\n' :: "<%*".toList

def inner (snippet : Snippet) : List Char :=
  snippet.body.flatMap ('\n' :: ·) ++ ['\n']

/-- A snippet from the closing of its block on. -/
def closing (options : Options) : List Char :=
  "-%>".toList ++ '\n' :: fence options.fences "<% \"---\" -%>"

/-- The delimiters of the opening and of the closing, at the positions that they have in the
snippet. -/
def OwnAt (snippet : Snippet) (i : Nat) : Prop :=
  DelimiterAt (opening snippet.options) i ∨
    ∃ j, i = (opening snippet.options).length + snippet.inner.length + j ∧
      DelimiterAt (closing snippet.options) j

variable {snippet : Snippet} {i : Nat}

theorem intercalate_cons (line : Line) (rest : List Line) :
    ['\n'].intercalate (line :: rest) = line ++ rest.flatMap ('\n' :: ·) := by
  induction rest generalizing line with
  | nil => simp [List.intercalate]
  | cons next rest ih =>
      have split : ['\n'].intercalate (line :: next :: rest) =
          line ++ '\n' :: ['\n'].intercalate (next :: rest) := by
        simp [List.intercalate]
      rw [split, ih next]
      simp

theorem chars_eq (snippet : Snippet) :
    snippet.chars = opening snippet.options ++ (snippet.inner ++ closing snippet.options) := by
  have whole : snippet.lines = fence snippet.options.fences "<% \"---\" %>" :: "<%*".toList ::
      (snippet.body ++ ["-%>".toList, fence snippet.options.fences "<% \"---\" -%>"]) := by
    simp [lines, body]
  rw [chars, whole, intercalate_cons]
  simp [opening, inner, closing]

/-! ## The names of a snippet -/

theorem clean_nameLines (names : List String) :
    (∀ line ∈ nameLines names, Clean line) ↔ ∀ name ∈ names, Clean name.toList := by
  have indent : Clean (List.replicate 16 ' ') := by
    decide
  have comma : Clean [','] := by
    decide
  induction names with
  | nil => simp [nameLines]
  | cons name names ih =>
      cases names with
      | nil =>
          have last := clean_quoted indent (by decide : Clean []) name.toList
          rw [List.append_nil] at last
          rw [nameLines, List.forall_mem_singleton, List.forall_mem_singleton, last]
      | cons next rest =>
          have first := clean_quoted indent comma name.toList
          rw [nameLines, List.forall_mem_cons, List.forall_mem_cons, first]
          exact and_congr_right' ih

theorem clean_frontmatterLines (frontmatter : Frontmatter) :
    (∀ line ∈ frontmatterLines frontmatter, Clean line) ↔
      ∀ name ∈ frontmatter.names, Clean name.toList := by
  cases frontmatter with
  | nothing => decide
  | everything => decide
  | pick names =>
      have before : Clean "  tR += result.asFrontmatterString(\x7b pick: [".toList := by
        decide
      have after : Clean "] \t\x7d);".toList := by
        decide
      simp only [frontmatterLines, List.forall_mem_append, List.forall_mem_singleton,
        clean_nameLines, Frontmatter.names, before, after, true_and, and_true]

theorem clean_openLines (snippet : Snippet) :
    (∀ line ∈ openLines snippet, Clean line) ↔
      ∀ name ∈ snippet.formName :: snippet.omitted, Clean name.toList := by
  have call : Clean (openCall snippet.options) := by
    unfold openCall
    split <;> decide
  have short : Clean ");".toList := by
    decide
  have long : Clean ", \x7b".toList := by
    decide
  have omit_ : Clean "        \"omit\": [".toList := by
    decide
  have bracket : Clean "        ]".toList := by
    decide
  have brace : Clean "\x7d);".toList := by
    decide
  unfold openLines
  split
  · next none =>
      rw [List.forall_mem_singleton, clean_quoted call short, none, List.forall_mem_singleton]
  · rw [List.forall_mem_append, List.forall_mem_append, List.forall_mem_cons,
      clean_quoted call long, clean_nameLines, List.forall_mem_singleton, List.forall_mem_cons,
      List.forall_mem_singleton, List.forall_mem_cons]
    simp only [omit_, bracket, brace, and_true]

theorem clean_body (snippet : Snippet) :
    (∀ line ∈ snippet.body, Clean line) ↔ ∀ name ∈ snippet.names, Clean name.toList := by
  have handle : ∀ line ∈ handleLines snippet.options, Clean line := by
    unfold handleLines
    split <;> decide
  rw [body, names, List.forall_mem_append, List.forall_mem_append, List.forall_mem_append,
    clean_openLines, clean_frontmatterLines]
  simp only [iff_true_intro handle, true_and]

theorem clean_inner (snippet : Snippet) :
    Clean snippet.inner ↔ ∀ name ∈ snippet.names, Clean name.toList := by
  have newline : Neutral '\n' := by
    decide
  rw [← clean_body, inner]
  induction snippet.body with
  | nil => decide
  | cons line rest ih =>
      have next : ∃ tail, rest.flatMap ('\n' :: ·) ++ ['\n'] = '\n' :: tail := by
        cases rest <;> simp
      rcases next with ⟨tail, split⟩
      have whole : (line :: rest).flatMap ('\n' :: ·) ++ ['\n'] =
          '\n' :: (line ++ '\n' :: tail) := by
        simp [← split]
      rw [whole, clean_cons newline, clean_split newline, List.forall_mem_cons]
      rw [split, clean_cons newline] at ih
      exact and_congr_right' ih

/-! ## The delimiters of a snippet -/

theorem opening_getLast? (options : Options) : (opening options).getLast? = some '*' := by
  unfold opening fence
  split <;> rfl

theorem closing_head? (options : Options) : (closing options).head? = some '-' := rfl

/-- The delimiters of a snippet are its own ones and those in between. -/
theorem delimiterAt_chars : DelimiterAt snippet.chars i ↔
    snippet.OwnAt i ∨ ∃ j, i = (opening snippet.options).length + j ∧
      DelimiterAt snippet.inner j := by
  have star : Neutral '*' := by
    decide
  have dash : Neutral '-' := by
    decide
  have first : ∀ x ∈ (opening snippet.options).getLast?,
      ∀ y ∈ (snippet.inner ++ closing snippet.options).head?, ¬ Delimits x y := by
    simp [opening_getLast?, star.not_first]
  have second : ∀ x ∈ snippet.inner.getLast?, ∀ y ∈ (closing snippet.options).head?,
      ¬ Delimits x y := by
    simp [closing_head?, dash.not_second]
  rw [chars_eq, delimiterAt_append first]
  constructor
  · rintro (own | ⟨j, rfl, within⟩)
    · exact .inl (.inl own)
    · rcases (delimiterAt_append second).1 within with inside | ⟨k, rfl, own⟩
      · exact .inr ⟨j, rfl, inside⟩
      · exact .inl (.inr ⟨k, by omega, own⟩)
  · rintro ((own | ⟨k, rfl, own⟩) | ⟨j, rfl, inside⟩)
    · exact .inl own
    · exact .inr ⟨snippet.inner.length + k, by omega,
        (delimiterAt_append second).2 (.inr ⟨k, rfl, own⟩)⟩
    · exact .inr ⟨j, rfl, (delimiterAt_append second).2 (.inl inside)⟩

/-- None of a snippet's own delimiters stands in between. -/
theorem OwnAt.outside (own : snippet.OwnAt i) : i + 1 < (opening snippet.options).length ∨
    (opening snippet.options).length + snippet.inner.length < i := by
  rcases own with own | ⟨j, rfl, own⟩
  · exact .inl own.lt
  · cases j with
    | zero =>
        have dash : Neutral '-' := by
          decide
        rcases delimiterAt_zero.1 own with ⟨d, -, delimits⟩
        exact absurd delimits (dash.not_first d)
    | succ j => exact .inr (by omega)

theorem not_ownAt_inner {j : Nat} (inside : DelimiterAt snippet.inner j) :
    ¬ snippet.OwnAt ((opening snippet.options).length + j) := by
  intro own
  have bound := inside.lt
  rcases own.outside with before | behind
  · omega
  · omega

theorem ownAt_iff_clean (snippet : Snippet) :
    (∀ i, DelimiterAt snippet.chars i ↔ snippet.OwnAt i) ↔
      ∀ name ∈ snippet.names, Clean name.toList := by
  rw [← clean_inner, clean_iff]
  constructor
  · intro own j inside
    have own' := (own _).1 (delimiterAt_chars.2 (.inr ⟨j, rfl, inside⟩))
    exact not_ownAt_inner inside own'
  · intro none i
    rw [delimiterAt_chars]
    constructor
    · rintro (own | ⟨j, -, inside⟩)
      · exact own
      · exact absurd inside (none j)
    · exact .inl

end Snippet

theorem compile_toList (formName : String) (fields : List Field) (options : Options) :
    (compile formName fields options).toList =
      (Snippet.ofFields formName fields options).chars := by
  simp [compile, Snippet.text]

/-- The delimiters of the compiled text are the template's own exactly if none of the names that it
quotes contains one: the name of the form, the names of the omitted fields, and the names that are
picked for the frontmatter.  Then the first delimiter after the opening is that of the closing. -/
theorem own_delimiters_iff (formName : String) (fields : List Field) (options : Options) :
    ((∀ i, DelimiterAt (compile formName fields options).toList i ↔
        (Snippet.ofFields formName fields options).OwnAt i) ↔
      ∀ name ∈ (Snippet.ofFields formName fields options).names, Clean name.toList) ∧
    ((∀ name ∈ (Snippet.ofFields formName fields options).names, Clean name.toList) →
      ∀ i, (Snippet.opening options).length ≤ i →
        DelimiterAt (compile formName fields options).toList i →
          (Snippet.opening options).length +
            (Snippet.ofFields formName fields options).inner.length < i) := by
  rw [compile_toList]
  have exact_ := (Snippet.ofFields formName fields options).ownAt_iff_clean
  refine ⟨exact_, ?_⟩
  intro clean i after delimiter
  have own := (exact_.2 clean i).1 delimiter
  rcases own.outside with before | behind
  · -- The delimiter would lie in the opening.
    have bound : i + 1 < (Snippet.opening options).length := before
    omega
  · exact behind

/-- The name of a form may close the block before the template does. -/
theorem delimiter_in_name :
    ∃ i, DelimiterAt (compile "%>" [] {}).toList i ∧ ¬ (Snippet.ofFields "%>" [] {}).OwnAt i ∧
      (Snippet.opening {}).length ≤ i ∧
        i < (Snippet.opening {}).length + (Snippet.ofFields "%>" [] {}).inner.length := by
  have unclean : ¬ Clean (Snippet.ofFields "%>" [] {}).inner := by
    rw [Snippet.clean_inner]
    intro clean
    have name : Clean "%>".toList := clean "%>" (by simp [Snippet.names, Snippet.ofFields])
    exact absurd name (by decide)
  rw [clean_iff, not_forall_not] at unclean
  rcases unclean with ⟨j, inside⟩
  have bound := inside.lt
  refine ⟨(Snippet.opening {}).length + j, ?_, ?_, by omega, by omega⟩
  · rw [compile_toList]
    exact Snippet.delimiterAt_chars.2 (.inr ⟨j, rfl, inside⟩)
  · exact Snippet.not_ownAt_inner inside

end FormSnippet
