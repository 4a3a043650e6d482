import FormSnippet.Proofs.Json.Quoted
import FormSnippet.Proofs.Snippet.Delimiter

/-!
# Reading — a snippet read back from its text

The text of a snippet is a program: it opens a form with a name and perhaps a list of names to omit,
and then it may write some of the results.  A reader that knows the words of that program, the
literals of JSON and the white space between them finds in the text again what the snippet says, so
no two snippets have the same text.

- `Snippet.read?`        : the snippet that a text says, if it says one
- `Snippet.read?_chars`  : of the text of a snippet, that is the snippet
-/

namespace FormSnippet
namespace Snippet

/-! ## The reader -/

/-- The text after the word, in front of which there may be white space. -/
def after? (word : String) (cs : List Char) : Option (List Char) :=
  word.toList.isPrefixOf? (Json.skipSpace cs)

/-- The text after a JSON literal, with its value. -/
def literal? (cs : List Char) : Option (Json.Value × List Char) :=
  (Json.readValue Json.maxLevels cs).toOption

def textOf? : Json.Value → Option String
  | .string text => some text
  | _ => none

def namesOf? : Json.Value → Option (List String)
  | .array items => items.mapM textOf?
  | _ => none

/-- The names that the options of the call omit. -/
def omittedOf? : Json.Value → Option (List String)
  | .object members =>
      match Json.membersNamed "omit" members with
      | [] => some []
      | [names] => namesOf? names
      | _ => none
  | _ => none

/-- The lines that open the block, the first of which may be a fence. -/
def readOpening? (cs : List Char) : Option (Bool × List Char) :=
  match after? "<% \"---\" %>" cs with
  | some cs => (after? "<%*" cs).map (true, ·)
  | none => (after? "<%*" cs).map (false, ·)

/-- The program up to the arguments of the call.  The handle is the plugin's own one, which has to
be bound before, or the global one. -/
def readHandle? (cs : List Char) : Option (Bool × List Char) :=
  match after? "const modalForm = app.plugins.plugins.modalforms.api;" cs with
  | some cs => (after? "const result = await modalForm.openForm(" cs).map (false, ·)
  | none => (after? "const result = await MF.openForm(" cs).map (true, ·)

/-- The name of the form, and after a comma the options of the call, if there are any. -/
def readArguments? (cs : List Char) : Option ((String × List String) × List Char) := do
  let (name, cs) ← literal? cs
  let name ← textOf? name
  match after? "," cs with
  | none => return ((name, []), ← after? ");" cs)
  | some cs =>
      let (options, cs) ← literal? cs
      return ((name, ← omittedOf? options), ← after? ");" cs)

/-- The statement that writes the frontmatter; there need not be one. -/
def readStatement? (cs : List Char) : Option (Frontmatter × List Char) :=
  match after? "tR += result.asFrontmatterString(" cs with
  | none => some (.nothing, cs)
  | some cs =>
      match after? ");" cs with
      | some cs => some (.everything, cs)
      | none => do
          let cs ← after? "\x7b" cs
          let cs ← after? "pick:" cs
          let (names, cs) ← literal? cs
          return (.pick (← namesOf? names), ← after? "\x7d);" cs)

/-- What follows the block, which is a fence or nothing. -/
def readClosing? (fences : Bool) (cs : List Char) : Option Unit := do
  let cs ← if fences then after? "<% \"---\" -%>" cs else some cs
  (Json.readEnd cs).toOption

/-- What a text says, if it says what a snippet may say. -/
def read? (cs : List Char) : Option Snippet := do
  let (fences, cs) ← readOpening? cs
  let (globalHandle, cs) ← readHandle? cs
  let ((formName, omitted), cs) ← readArguments? cs
  let (frontmatter, cs) ← readStatement? cs
  let cs ← after? "-%>" cs
  readClosing? fences cs
  return { formName, options := { fences, globalHandle }, omitted, frontmatter }

/-! ## What stands in the text -/

/-- White space in front of the names of a list. -/
def nameGap : List Char :=
  '\n' :: List.replicate 16 ' '

/-- The lines of names, joined. -/
theorem nameLines_flatMap (names : List String) :
    (nameLines names).flatMap ('\n' :: ·) = Json.listedNames nameGap names := by
  cases names with
  | nil => rfl
  | cons name names =>
      induction names generalizing name with
      | nil => simp [nameLines, Json.listedNames, Json.moreNames, nameGap]
      | cons next names ih =>
          rw [nameLines, List.flatMap_cons, ih next]
          simp [Json.listedNames, Json.moreNames, nameGap]

/-- What stands between the name of the form and the end of the call. -/
def moreArguments : List String → List Char
  | [] => []
  | names =>
      ", \x7b\n        ".toList ++ Json.quoteChars "omit".toList ++ ": [".toList ++
        Json.listedNames nameGap names ++ "\n        ]\n\x7d".toList

theorem openLines_flatMap (snippet : Snippet) :
    (openLines snippet).flatMap ('\n' :: ·) = '\n' :: (openCall snippet.options ++
      (Json.quoteChars snippet.formName.toList ++
        (moreArguments snippet.omitted ++ ");".toList))) := by
  unfold openLines
  split
  · next none =>
      simp [none, moreArguments]
  · next names some =>
      have quoted : Json.quoteChars "omit".toList = "\"omit\"".toList := by
        decide
      have whole : moreArguments snippet.omitted = ", \x7b\n        ".toList ++
          Json.quoteChars "omit".toList ++ ": [".toList ++
            Json.listedNames nameGap snippet.omitted ++ "\n        ]\n\x7d".toList := by
        unfold moreArguments
        split
        · next none => exact absurd none some
        · rfl
      rw [whole, ← nameLines_flatMap, quoted]
      simp

theorem frontmatterLines_pick (names : List String) :
    (frontmatterLines (.pick names)).flatMap ('\n' :: ·) =
      "\n  tR += result.asFrontmatterString(\x7b pick: [".toList ++
        (Json.listedNames nameGap names ++ "\n] \t\x7d);".toList) := by
  simp [frontmatterLines, ← nameLines_flatMap]

/-! ## Reading it back -/

theorem readOpening?_opening (options : Options) (rest : List Char) :
    readOpening? (opening options ++ rest) = some (options.fences, rest) := by
  unfold opening fence
  cases options.fences <;> rfl

theorem readHandle?_call (options : Options) (rest : List Char) :
    readHandle? ((handleLines options).flatMap ('\n' :: ·) ++
      '\n' :: (openCall options ++ rest)) = some (options.globalHandle, rest) := by
  unfold handleLines openCall
  cases options.globalHandle <;> rfl

theorem literal?_quoted (text : String) (rest : List Char) :
    literal? (Json.quoteChars text.toList ++ rest) = some (.string text, rest) := by
  rw [literal?, Json.readValue_quoted]
  rfl

theorem namesOf?_strings (names : List String) :
    namesOf? (.array (names.map .string)) = some names := by
  have all : (names.map Json.Value.string).mapM textOf? = some names := by
    induction names with
    | nil => rfl
    | cons name names ih => simp [textOf?, ih]
  exact all

theorem blank_nameGap : Json.Blank nameGap := by
  decide

theorem literal?_names (names : List String) (blank closing rest : List Char)
    (hblank : Json.Blank blank) (hclosing : Json.Blank closing) :
    literal? (blank ++ '[' :: (Json.listedNames nameGap names ++ (closing ++ ']' :: rest))) =
      some (.array (names.map .string), rest) := by
  have reads := Json.readValue_names blank_nameGap hclosing 126 rest names
  have here := (Json.readValue_blank hblank 127 _).trans reads
  unfold literal? Json.maxLevels
  rw [here]
  rfl

theorem literal?_options (names : List String) (rest : List Char) :
    literal? (" \x7b\n        ".toList ++ (Json.quoteChars "omit".toList ++ (": [".toList ++
      (Json.listedNames nameGap names ++ ("\n        ]\n\x7d".toList ++ rest))))) =
        some (.object [("omit", .array (names.map .string))], rest) := by
  have list := Json.readValue_names blank_nameGap (by decide : Json.Blank "\n        ".toList) 125
    ('\n' :: '\x7d' :: rest) names
  have spaced := (Json.readValue_blank (by decide : Json.Blank [' ']) 126 _).trans list
  have object := Json.readValue_member (by decide : Json.Blank "\n        ".toList)
    (by decide : Json.Blank ['\n']) spaced "omit"
  have here := (Json.readValue_blank (by decide : Json.Blank [' ']) 127 _).trans object
  unfold literal? Json.maxLevels
  exact congrArg Except.toOption here

theorem readArguments?_arguments (formName : String) (omitted : List String) (rest : List Char) :
    readArguments? (Json.quoteChars formName.toList ++
      (moreArguments omitted ++ (");".toList ++ rest))) = some ((formName, omitted), rest) := by
  have close : after? ");" (");".toList ++ rest) = some rest := rfl
  cases omitted with
  | nil =>
      have comma : after? "," (");".toList ++ rest) = none := rfl
      simp only [readArguments?, literal?_quoted, textOf?, moreArguments, List.nil_append, comma,
        close, bind, Option.bind_some, pure]
  | cons name names =>
      have comma : after? "," (moreArguments (name :: names) ++ (");".toList ++ rest)) =
          some (" \x7b\n        ".toList ++ (Json.quoteChars "omit".toList ++ (": [".toList ++
            (Json.listedNames nameGap (name :: names) ++
              ("\n        ]\n\x7d".toList ++ (");".toList ++ rest)))))) := by
        simp only [moreArguments, List.append_assoc]
        rfl
      have omitted : omittedOf? (.object [("omit", .array ((name :: names).map .string))]) =
          some (name :: names) := by
        simpa [omittedOf?, Json.membersNamed] using namesOf?_strings (name :: names)
      simp only [readArguments?, literal?_quoted, textOf?, comma, literal?_options, omitted, close,
        bind, Option.bind_some, pure]

/-- The reader stops in front of the mark that closes the block. -/
theorem readStatement?_lines (frontmatter : Frontmatter) (rest : List Char) :
    ∃ cs, readStatement? ((frontmatterLines frontmatter).flatMap ('\n' :: ·) ++
        ("\n-%>".toList ++ rest)) = some (frontmatter, cs) ∧ after? "-%>" cs = some rest := by
  cases frontmatter with
  | nothing => exact ⟨_, rfl, rfl⟩
  | everything => exact ⟨_, rfl, rfl⟩
  | pick names =>
      have word (cs : List Char) : after? "tR += result.asFrontmatterString("
          ("\n  tR += result.asFrontmatterString(\x7b pick: [".toList ++ cs) =
            some ("\x7b pick: [".toList ++ cs) := rfl
      have unclosed (cs : List Char) : after? ");" ("\x7b pick: [".toList ++ cs) = none := rfl
      have brace (cs : List Char) : after? "\x7b" ("\x7b pick: [".toList ++ cs) =
          some (" pick: [".toList ++ cs) := rfl
      have key (cs : List Char) : after? "pick:" (" pick: [".toList ++ cs) =
          some (" [".toList ++ cs) := rfl
      have list : literal? (" [".toList ++ (Json.listedNames nameGap names ++
          ("\n] \t\x7d);".toList ++ ("\n-%>".toList ++ rest)))) =
            some (.array (names.map .string), " \t\x7d);\n-%>".toList ++ rest) :=
        literal?_names names [' '] ['\n'] _ (by decide) (by decide)
      have close : after? "\x7d);" (" \t\x7d);\n-%>".toList ++ rest) =
          some ("\n-%>".toList ++ rest) := rfl
      refine ⟨"\n-%>".toList ++ rest, ?_, rfl⟩
      simp only [frontmatterLines_pick, List.append_assoc]
      simp only [readStatement?, word, unclosed, brace, key, list, namesOf?_strings, close, bind,
        Option.bind_some, pure]

theorem readClosing?_closing (options : Options) :
    ∃ rest, closing options = "-%>".toList ++ rest ∧
      readClosing? options.fences rest = some () := by
  unfold closing fence
  cases options.fences <;> exact ⟨_, rfl, rfl⟩

theorem read?_chars (snippet : Snippet) : read? snippet.chars = some snippet := by
  rcases readClosing?_closing snippet.options with ⟨rest, closing, closed⟩
  rcases readStatement?_lines snippet.frontmatter rest with ⟨cs, statement, closes⟩
  have whole : snippet.chars = Snippet.opening snippet.options ++
      ((handleLines snippet.options).flatMap ('\n' :: ·) ++
        '\n' :: (openCall snippet.options ++ (Json.quoteChars snippet.formName.toList ++
          (moreArguments snippet.omitted ++ (");".toList ++
            ((frontmatterLines snippet.frontmatter).flatMap ('\n' :: ·) ++
              ("\n-%>".toList ++ rest))))))) := by
    rw [chars_eq, closing]
    simp [inner, body, openLines_flatMap]
  rw [whole]
  simp only [read?, readOpening?_opening, readHandle?_call, readArguments?_arguments, statement,
    closes, closed, bind, Option.bind_some, pure]

/-- No two snippets have the same text. -/
theorem text_injective : Function.Injective text := by
  intro snippet snippet' same
  have chars : snippet.chars = snippet'.chars := by
    simpa [text] using congrArg String.toList same
  have read := congrArg read? chars
  rw [read?_chars, read?_chars] at read
  exact Option.some.inj read

end Snippet
end FormSnippet
