import FormSnippet.Editor.Script.Shell

/-!
# Builtin — the commands of the shell itself

Commands that change the shell or that the shell knows by itself.  An error in one that is special
ends the script; an error in another one is only its status.

- `isSpecial`   : whether an error ends the script
- `builtin?`    : what a command does with its arguments
-/

namespace FormSnippet
namespace Editor
namespace Script

def isSpecial (name : String) : Bool :=
  [".", ":", "break", "continue", "eval", "exec", "exit", "export", "local", "readonly", "return",
    "set", "shift", "times", "trap", "unset"].contains name

namespace Shell

/-! ## Conditions -/

def testCommand (sh : Shell) (arguments : List String) : Shell :=
  sh.finish (statusOf (Looking.evaluate? sh.disk arguments))

/-- Only the beginning of the closing bracket is looked at. -/
def bracketCommand (sh : Shell) (arguments : List String) : Shell :=
  if arguments.getLast?.any (·.startsWith "]") then sh.testCommand arguments.dropLast
  else sh.finish 2

/-! ## Flow -/

/-- Leaves loops or begins their next turn; outside of a loop it does nothing. -/
def leaveLoops (make : Nat → Flow) (sh : Shell) (arguments : List String) : Shell :=
  match (arguments.head?.map number?).getD (some 1) with
  | none | some 0 => sh.abort
  | some count =>
      if sh.loops = 0 then sh.finish 0
      else { sh.finish 0 with flow := make (min count sh.loops) }

def exitCommand (sh : Shell) (arguments : List String) : Shell :=
  match (arguments.head?.map number?).getD (some sh.status) with
  | none => sh.abort
  | some code => { sh with status := code % 256, flow := .ended (.status (code % 256)) }

def returnCommand (sh : Shell) (arguments : List String) : Shell :=
  match (arguments.head?.map number?).getD (some sh.status) with
  | none => sh.abort
  | some code => { sh with status := code % 256, flow := .returning }

/-! ## Bindings -/

/-- An assignment in an argument, or a name alone. -/
def splitAssignment (argument : String) : String × Option String :=
  let cs := argument.toList
  match cs.dropWhile (· ≠ '=') with
  | _ :: value => (String.ofList (cs.takeWhile (· ≠ '=')), some (String.ofList value))
  | [] => (argument, none)

/-- Goes through arguments that are names or assignments. -/
def eachName (sh : Shell) (arguments : List String)
    (change : Shell → String → Option String → Option Shell) : Shell :=
  let next := arguments.foldlM
    (fun sh argument =>
      let (name, value) := splitAssignment argument
      if isName name.toList then change sh name value else none)
    sh
  match next with
  | some sh => sh.finish 0
  | none => sh.abort

def exportCommand (sh : Shell) (arguments : List String) : Shell :=
  sh.eachName (arguments.filter (· ≠ "-p")) fun sh name value =>
    let next := (value.map (sh.set? name)).getD (some sh)
    next.map fun sh => { sh with exported := name :: sh.exported }

def readOnlyCommand (sh : Shell) (arguments : List String) : Shell :=
  sh.eachName (arguments.filter (· ≠ "-p")) fun sh name value =>
    let next := (value.map (sh.set? name)).getD (some sh)
    next.map fun sh => { sh with readOnly := name :: sh.readOnly }

/-- The variables that are named get their old values back at the end of the function. -/
def localCommand (sh : Shell) (arguments : List String) : Shell :=
  if sh.hidden.isNone then sh.abort
  else
    sh.eachName (arguments.filter (· ≠ "-")) fun sh name value =>
      let hidden := (sh.hidden.getD []) ++ [(name, sh.get? name)]
      let sh := { sh with hidden := some hidden }
      match value with
      | some value => sh.set? name value
      | none => some sh

def unsetCommand (sh : Shell) (arguments : List String) : Shell :=
  let functions := arguments.head? = some "-f"
  let names := arguments.filter fun name => name ≠ "-f" && name ≠ "-v"
  sh.eachName names fun sh name _ =>
    if functions then some { sh with functions := sh.functions.filter (·.1 ≠ name) }
    else if sh.readOnly.contains name then none
    else some (sh.forget name)

/-! ## Arguments and options -/

def shiftCommand (sh : Shell) (arguments : List String) : Shell :=
  match (arguments.head?.map number?).getD (some 1) with
  | none => sh.abort
  | some count =>
      if count > sh.arguments.length then sh.abort
      else { sh.finish 0 with arguments := sh.arguments.drop count }

/-- The options of the shell and their letters. -/
def optionNames : List (String × Char) :=
  [("errexit", 'e'), ("noglob", 'f'), ("ignoreeof", 'I'), ("interactive", 'i'), ("monitor", 'm'),
    ("noexec", 'n'), ("stdin", 's'), ("xtrace", 'x'), ("verbose", 'v'), ("vi", 'V'), ("emacs", 'E'),
    ("noclobber", 'C'), ("allexport", 'a'), ("notify", 'b'), ("nounset", 'u')]

def setOption (sh : Shell) (value : Bool) (letter : Char) : Option Shell :=
  if optionNames.any (·.2 = letter) then
    let others := sh.options.filter (· ≠ letter)
    some { sh with options := if value then others ++ [letter] else others }
  else none

/-- The letters behind a sign.  The letter `o` stands for a name in the next word. -/
def setLetters (value : Bool) : Shell → List Char → List String → Option (Shell × List String)
  | sh, [], words => some (sh, words)
  | sh, 'o' :: letters, words =>
      match words with
      | [] => setLetters value sh letters []
      | word :: words =>
          let set (entry : String × Char) : Option Shell := sh.setOption value entry.2
          match (optionNames.find? (·.1 = word)).bind set with
          | some sh => setLetters value sh letters words
          | none => none
  | sh, letter :: letters, words =>
      match sh.setOption value letter with
      | some sh => setLetters value sh letters words
      | none => none

/-- Options at the beginning of words, in at most `fuel` words.  Returns the words behind them, and
whether they have been told apart by `--`. -/
def setOptions : (fuel : Nat) → Shell → List String → Option (Shell × List String × Bool)
  | 0, _, _ => none
  | fuel + 1, sh, words =>
      match words with
      | [] => some (sh, [], false)
      | word :: rest =>
          match word.toList with
          | ['-', '-'] => some (sh, rest, true)
          | ['-'] => some (sh, rest, !rest.isEmpty)
          | '-' :: letters =>
              match setLetters true sh letters rest with
              | some (sh, rest) => setOptions fuel sh rest
              | none => none
          | '+' :: letters =>
              match setLetters false sh letters rest with
              | some (sh, rest) => setOptions fuel sh rest
              | none => none
          | _ => some (sh, words, true)

def setCommand (sh : Shell) (arguments : List String) : Shell :=
  match setOptions (arguments.length + 1) sh arguments with
  | none => sh.abort
  | some (sh, rest, given) =>
      if given then { sh.finish 0 with arguments := rest } else sh.finish 0

/-! ## Input -/

/-- The bytes of a line, each with whether a backslash stood before it, the bytes behind the line,
and whether the line has an end. -/
def inputLine (raw : Bool) : Bytes → List (UInt8 × Bool) × Bytes × Bool
  | [] => ([], [], false)
  | byte :: rest =>
      if byte = 10 then ([], rest, true)
      else
        match raw || byte ≠ 92, rest with
        | false, next :: rest =>
            let (line, behind, ended) := inputLine raw rest
            (if next = 10 then line else (next, true) :: line, behind, ended)
        | false, [] => ([], [], false)
        | true, rest =>
            let (line, behind, ended) := inputLine raw rest
            ((byte, false) :: line, behind, ended)

/-- The characters of a line, each with whether a backslash stood before it. -/
def lineGlyphs (line : List (UInt8 × Bool)) : List (Char × Bool) :=
  let rec go : List Char → List (UInt8 × Bool) → List (Char × Bool)
    | c :: cs, (byte, escaped) :: rest =>
        let size := if (stray? c).isSome then 1 else c.utf8Size
        (c, escaped) :: go cs (((byte, escaped) :: rest).drop size)
    | _, _ => []
  let line := line.filter (·.1 ≠ 0)
  go (textOf (line.map (·.1))).toList line

/-- Divides a line among variables, of which the last one gets all that is left. -/
def share (separators : List Char) : List String → List (Char × Bool) → List (String × String)
  | [], _ => []
  | name :: names, line =>
      let isBlank (g : Char × Bool) : Bool :=
        !g.2 && separators.contains g.1 && g.1.isWhitespace
      let isSeparator (g : Char × Bool) : Bool := !g.2 && separators.contains g.1
      let text (gs : List (Char × Bool)) : String := String.ofList (gs.map (·.1))
      let line := line.dropWhile isBlank
      if names.isEmpty then [(name, text (line.reverse.dropWhile isBlank).reverse)]
      else
        let rest := (line.dropWhile (!isSeparator ·)).dropWhile isBlank
        let rest :=
          match rest with
          | g :: more => if isSeparator g then more else rest
          | [] => []
        (name, text (line.takeWhile (!isSeparator ·))) :: share separators names rest

def readCommand (sh : Shell) (arguments : List String) : Shell :=
  let raw := arguments.head? = some "-r"
  let names := if raw then arguments.tail else arguments
  let names := names.map fun name => (splitAssignment name).1
  if names.isEmpty || !names.all (isName ·.toList) then sh.finish 2
  else
    let (line, behind, ended) := inputLine raw sh.input
    let shared := share sh.separators names (lineGlyphs line)
    let sh := shared.foldl (fun sh (name, value) => sh.setOrAbort name value)
      { sh with input := behind }
    if sh.isRunning then sh.finishBool ended else sh

/-- Waits for commands that run in the background, all of which have ended. -/
def waitCommand (sh : Shell) (arguments : List String) : Shell :=
  if !arguments.all (fun argument => (number? argument).isSome) then sh.finish 2
  else sh.finish (if arguments.isEmpty then 0 else 127)

/-! ## Places -/

/-- Goes to a directory: home if none is given, back to the one before if a minus is. -/
def changeDirectory (sh : Shell) (arguments : List String) : Shell :=
  let operands := arguments.filter fun word => word ≠ "-L" && word ≠ "-P" && word ≠ "--"
  let goal : Option Disk.Location :=
    match operands.head?.getD ((sh.get? "HOME").getD "") with
    | "" => some sh.disk.current
    | "-" => some (sh.previous.getD sh.disk.current)
    | word => (sh.disk.locate ⟨word⟩).toOption
  match goal with
  | none => sh.finish 2
  | some location =>
      if sh.disk.isDirectoryAt location then
        { sh.finish 0 with
          disk := { sh.disk with current := location }
          previous := some sh.disk.current }
      else sh.finish 2

/-! ## Signals -/

/-- The signals by the names that the shell knows. -/
def signal? (name : String) : Option Nat :=
  if name.toUpper = "EXIT" then some 0 else Signal.number? name

/-- What a signal does that the script sends itself. -/
def receive (sh : Shell) (signal : Nat) : Shell :=
  match sh.traps.find? (·.1 = signal), Signal.isFinal signal with
  | some (_, action), false => { sh with pending := sh.pending ++ [action] }
  | _, _ =>
      if Signal.isHarmless signal then sh
      else { sh with flow := .ended (.signal signal) }

/-- Sends a signal to one target after the other.  Only the script itself is there to receive it;
`missed` says whether there was a target before that is not there. -/
def send (signal : Nat) : (missed : Bool) → Shell → List String → Shell
  | missed, sh, [] => sh.finishBool !missed
  | missed, sh, target :: rest =>
      let number := if target.startsWith "-" then (target.drop 1).toString else target
      if (number? number).isNone then sh.finish 2
      else if target ≠ ownNumber then send signal true sh rest
      else
        let sh := sh.receive signal
        if sh.isRunning then send signal missed sh rest else sh

/-- Sends a signal, which needs a target. -/
def sendTo (sh : Shell) (signal : Nat) (targets : List String) : Shell :=
  if targets.isEmpty then sh.finish 2 else send signal false sh targets

def killCommand (sh : Shell) (arguments : List String) : Shell :=
  match arguments with
  | [] => sh.finish 2
  | option :: rest =>
      match option.toList with
      | ['-', 'l'] => sh.print (bytesOf (String.join (Signal.names.map (· ++ "\n"))))
      | ['-', '-'] => sh.sendTo 15 rest
      | '-' :: 's' :: name =>
          match Signal.number? (String.ofList ('s' :: name)), name, rest with
          | some signal, _, _ => sh.sendTo signal rest
          | none, [], name :: rest =>
              match Signal.number? name with
              | some signal => sh.sendTo signal (if rest.head? = some "--" then rest.tail else rest)
              | none => sh.finish 2
          | none, name, rest =>
              match Signal.number? (String.ofList name) with
              | some signal => sh.sendTo signal rest
              | none => sh.finish 2
      | '-' :: name =>
          match Signal.number? (String.ofList name) with
          | some signal => sh.sendTo signal rest
          | none => sh.finish 2
      | _ => sh.sendTo 15 arguments

def trapCommand (sh : Shell) (arguments : List String) : Shell :=
  let arguments := if arguments.head? = some "--" then arguments.tail else arguments
  let (action, names) :=
    match arguments with
    | action :: name :: names => (if action = "-" then none else some action, name :: names)
    | names => (none, names)
  names.foldl
    (fun sh name =>
      match signal? name with
      | none => sh.finish 1
      | some signal =>
          let others := sh.traps.filter (·.1 ≠ signal)
          { sh with traps := (action.map (signal, ·)).toList ++ others })
    (sh.finish 0)

end Shell

/-! ## All commands -/

def builtin? (name : String) : Option (Shell → List String → Shell) :=
  match name with
  | ":" | "true" | "hash" | "ulimit" | "jobs" | "times" | "alias" | "unalias" =>
      some fun sh _ => sh.finish 0
  | "false" => some fun sh _ => sh.finish 1
  | "echo" => some fun sh arguments => sh.print (echo arguments)
  | "printf" => some fun sh arguments =>
      match if arguments.head? = some "--" then arguments.tail else arguments with
      | [] => sh.finish 2
      | format :: arguments =>
          let (bytes, done) := printf format arguments
          let sh := sh.print bytes
          if done then sh else sh.finish 1
  | "test" => some Shell.testCommand
  | "[" => some Shell.bracketCommand
  | "break" => some (Shell.leaveLoops .breaking)
  | "continue" => some (Shell.leaveLoops .continuing)
  | "exit" => some Shell.exitCommand
  | "return" => some Shell.returnCommand
  | "export" => some Shell.exportCommand
  | "readonly" => some Shell.readOnlyCommand
  | "local" => some Shell.localCommand
  | "unset" => some Shell.unsetCommand
  | "shift" => some Shell.shiftCommand
  | "set" => some Shell.setCommand
  | "read" => some Shell.readCommand
  | "wait" => some Shell.waitCommand
  | "cd" | "chdir" => some Shell.changeDirectory
  | "pwd" => some fun sh _ => sh.print (bytesOf ("/" ++ "/".intercalate sh.disk.current ++ "\n"))
  | "umask" => some fun sh arguments =>
      if arguments.isEmpty then sh.print (bytesOf "0022\n") else sh.finish 0
  | "kill" => some Shell.killCommand
  | "trap" => some Shell.trapCommand
  | _ => none

end Script
end Editor
end FormSnippet
