import FormSnippet.Editor.Condition
import FormSnippet.Editor.Transfer
import FormSnippet.Editor.Upkeep

/-!
# Catalog — the programs that are installed

- `concatenate`, `repeatArguments`  : `cat` and `echo`
- `lastStep`, `otherSteps`          : `basename` and `dirname`
- `find?`                           : a program by its name
-/

namespace FormSnippet
namespace Editor

/-! ## Programs that print -/

/-- Prints files one after the other; a minus stands for what the program can read as its input. -/
def concatenate : Program :=
  .withOptions
    [.both 'A' "show-all", .both 'b' "number-nonblank", .ofLetter 'e' "ends",
      .both 'E' "show-ends", .both 'n' "number", .both 's' "squeeze-blank", .ofLetter 't' "tabs",
      .both 'T' "show-tabs", .ofLetter 'u' "unbuffered", .both 'v' "show-nonprinting"]
    fun options input disk =>
      let operands := if options.operands.isEmpty then ["-"] else options.operands
      operands.foldl
        (fun ran name =>
          if name = "-" then { ran with output := ran.output ++ input }
          else
            match disk.lookup ⟨name⟩ with
            | .ok (.file content) => { ran with output := ran.output ++ content }
            | _ => { ran with status := 1 })
        { disk }

/-- Prints its arguments.  Options are only those words that hold nothing but the letters `n`, `e`
and `E`; escapes stay as they are. -/
def repeatArguments : Program := fun arguments _ disk =>
  let isOption (word : String) : Bool :=
    word.startsWith "-" && word.length > 1 && word.toList.tail.all "neE".toList.contains
  let given := arguments.takeWhile isOption
  let text := " ".intercalate (arguments.dropWhile isOption)
  let ended := !given.any fun word => word.toList.contains 'n'
  { disk, output := (if ended then text ++ "\n" else text).toUTF8 }

/-- A text without a suffix, unless nothing else is in it. -/
def dropSuffix (text suffix : String) : String :=
  if text ≠ suffix && text.endsWith suffix then (text.dropEnd suffix.length).toString else text

def printing (disk : Disk) (lines : List String) : Ran :=
  { disk, output := (String.join (lines.map (· ++ "\n"))).toUTF8 }

def lastStep : Program :=
  .withOptions [.both 'a' "multiple", .both 's' "suffix" .required, .both 'z' "zero"]
    fun options _ disk =>
      let name (suffix text : String) : String :=
        dropSuffix (if text = "" then "" else baseName ⟨text⟩) suffix
      let several := options.has "multiple" || options.has "suffix"
      match several, options.operands with
      | _, [] => { disk, status := 1 }
      | false, [text] => printing disk [name "" text]
      | false, [text, suffix] => printing disk [name suffix text]
      | false, _ => { disk, status := 1 }
      | true, texts =>
          printing disk (texts.map (name ((options.value? "suffix").getD "")))

def otherSteps : Program :=
  .withOptions [.both 'z' "zero"] fun options _ disk =>
    let parent (text : String) : String :=
      let trim (cs : List Char) : List Char := cs.dropWhile (· = '/')
      match trim ((trim text.toList.reverse).dropWhile (· ≠ '/')) with
      | [] => if text.startsWith "/" then "/" else "."
      | rest => String.ofList rest.reverse
    if options.operands.isEmpty then { disk, status := 1 }
    else printing disk (options.operands.map parent)

/-! ## All programs -/

/-- The condition in brackets, of which the closing one is the last argument. -/
def bracketed : Program := fun arguments input disk =>
  if arguments.getLast? = some "]" then test arguments.dropLast input disk
  else { disk, status := 2 }

def find? (name : String) : Option Program :=
  match name with
  | "true" | "sleep" => some (.constant 0)
  | "false" => some (.constant 1)
  | "cp" => some copy
  | "mv" => some move
  | "rm" => some remove
  | "rmdir" => some removeDirectories
  | "touch" => some touch
  | "mkdir" => some makeDirectories
  | "chmod" => some changeMode
  | "test" => some test
  | "[" => some bracketed
  | "cat" => some concatenate
  | "echo" => some repeatArguments
  | "basename" => some lastStep
  | "dirname" => some otherSteps
  | _ => none

end Editor
end FormSnippet
