import FormSnippet.Editor.Catalog
import FormSnippet.Editor.Script.Builtin
import FormSnippet.Editor.Script.Field

/-!
# Run — running scripts

A script runs line by line, and each command changes the shell.  A command in parentheses, in a
pipeline or in the place of a text runs in a shell of its own, from which only the disk and what has
been captured come back.  Since a script may run forever, it runs for a number of turns at most.

- `Script.expand`       : the parts of a word with everything replaced
- `Script.run`          : a command
- `Script.runText`      : the text of a script
- `Script.start`        : a shell with the arguments it is given
-/

namespace FormSnippet
namespace Editor
namespace Script

namespace Shell

/-! ## Statuses -/

/-- An error ends the script if that is asked for and nobody looks at the status. -/
def checked (sh : Shell) (tested : Bool) : Shell :=
  if sh.isRunning && sh.status ≠ 0 && !tested && sh.hasOption 'e' then
    { sh with flow := .ended (.status sh.status) }
  else sh

def negate (sh : Shell) : Shell :=
  if sh.isRunning then sh.finishBool (sh.status ≠ 0) else sh

/-- What a turn of a loop leaves, and whether there is another turn. -/
def endTurn (sh : Shell) : Shell × Bool :=
  match sh.flow with
  | .running => (sh, true)
  | .continuing (n + 2) => ({ sh with flow := .continuing (n + 1) }, false)
  | .continuing _ => ({ sh with flow := .running }, true)
  | .breaking (n + 2) => ({ sh with flow := .breaking (n + 1) }, false)
  | .breaking _ => ({ sh with flow := .running, status := 0 }, false)
  | _ => (sh, false)

/-! ## Shells of their own -/

def child (sh : Shell) : Shell :=
  { sh with traps := [], pending := [], flow := .running, loops := 0 }

/-- A child whose output is captured. -/
def capturing (sh : Shell) : Shell :=
  let level := sh.captures.length
  { sh.child with captures := sh.captures ++ [[]] }.setChannel 1 (some (.capture level))

/-- The shell after a child has ended.  A signal ends both. -/
def after (sh child : Shell) : Shell :=
  let sh : Shell :=
    { sh with
      disk := { child.disk with current := sh.disk.current }
      captures := child.captures.take sh.captures.length
      input := child.input }
  match child.flow with
  | .ended (.signal number) => { sh with flow := .ended (.signal number) }
  | _ => sh.finish child.status

/-- What a child has printed that was captured for this shell. -/
def captured (sh child : Shell) : Bytes :=
  (child.captures[sh.captures.length]?).getD []

/-! ## Parameters -/

/-- All arguments in the place of a parameter. -/
def argumentMarks (sh : Shell) (quoted : Bool) (name : String) : List Mark :=
  let marks (argument : String) : List Mark :=
    if quoted && argument = "" then [.hollow] else Mark.ofText quoted argument
  if quoted && name = "*" then
    let separator := (sh.separators.head?.map String.singleton).getD ""
    Mark.ofText true (separator.intercalate sh.arguments)
  else (sh.arguments.map marks).intersperse [.boundary] |>.flatten

/-- Text that takes the place of a parameter is divided even where it stands in the script. -/
def loosen (marks : List Mark) : List Mark :=
  marks.map fun
    | .bare c => .loose c
    | mark => mark

/-- The home directory in the place of a tilde. -/
def tilde (sh : Shell) (word : Word) : List Mark × Word :=
  match word, sh.get? "HOME" with
  | [.bare '~'], some home => (Mark.ofText true home, [])
  | .bare '~' :: .bare '/' :: rest, some home => (Mark.ofText true home, .bare '/' :: rest)
  | word, _ => ([], word)

/-! ## Programs -/

/-- The name of a program that is installed. -/
def installed? (word : String) : Option String :=
  let bare :=
    match word.splitOn "/" with
    | [name] => some name
    | ["", "bin", name] => some name
    | ["", "usr", "bin", name] => some name
    | _ => none
  bare.filter fun name => name = "sh" || (find? name).isSome

/-- The status if a program cannot be started. -/
def missing (sh : Shell) (word : String) : Nat :=
  let isFound := word = "." || word = ".." || (word.toList.contains '/' && sh.disk.exists ⟨word⟩)
  if isFound then 126 else 127

/-- Whether something can be run by its name, and what is said about it. -/
def known? (sh : Shell) (name : String) : Option String :=
  if (sh.functions.any (·.1 = name)) || isSpecial name || (builtin? name).isSome then some name
  else (installed? name).map ("/usr/bin/" ++ ·)

/-- The shell of a script that this one starts. -/
def fresh (sh : Shell) : Shell :=
  { disk := sh.disk
    bindings := sh.bindings.filter fun (name, _) => sh.exported.contains name
    exported := sh.exported
    input := sh.input
    channels := sh.channels
    captures := sh.captures }

/-- Reads the options in front of a script, in at most `fuel` words; the last part of the answer
says whether the script itself stands in the place of its name. -/
def invocation : (fuel : Nat) → Shell → Bool → List String → Option (Shell × List String × Bool)
  | 0, _, _, _ => none
  | fuel + 1, sh, isText, words =>
      match words with
      | [] => some (sh, [], isText)
      | word :: rest =>
          let read (value : Bool) (letters : List Char) :
              Option (Shell × List String × Bool) :=
            match setLetters value sh (letters.filter (· ≠ 'c')) rest with
            | some (sh, rest) => invocation fuel sh (isText || letters.contains 'c') rest
            | none => none
          match word.toList with
          | ['-', '-'] | ['-'] => some (sh, rest, isText)
          | '-' :: letters => read true letters
          | '+' :: letters => read false letters
          | _ => some (sh, words, isText)

end Shell

/-! ## Commands -/

/-- The names and old values of the variables that are assigned to. -/
def oldValues (sh : Shell) (assignments : List (String × Word)) : List (String × Option String) :=
  assignments.map fun (name, _) => (name, sh.get? name)

mutual

/-- The parts of a word with everything replaced. -/
def expand : (fuel : Nat) → (quoted : Bool) → Shell → Word → Shell × List Mark
  | 0, _, sh, _ => (sh.abort, [])
  | _, _, sh, [] => (sh, [])
  | fuel + 1, quoted, sh, part :: rest =>
      if !sh.isRunning then (sh, [])
      else
        let (sh, first) := expandPart fuel quoted sh part
        let (sh, more) := expand fuel quoted sh rest
        (sh, first ++ more)

def expandPart : (fuel : Nat) → (quoted : Bool) → Shell → Part → Shell × List Mark
  | 0, _, sh, _ => (sh.abort, [])
  | fuel + 1, quoted, sh, part =>
      match part with
      | .bare c => (sh, [.bare c])
      | .quoted c => (sh, [.quoted c])
      | .quotes parts =>
          let (sh, marks) := expand fuel true sh parts
          let vanishes :=
            match parts with
            | [.parameter "@" "" _] => true
            | _ => false
          (sh, if marks.isEmpty && !vanishes then [.hollow] else marks)
      | .parameter name change word => expandParameter fuel quoted sh name change word
      | .substitution script =>
          let child := finish fuel (runText fuel false sh.capturing (String.ofList script))
          let output := (sh.captured child).reverse.dropWhile (· = 10)
          let text := textOf output.reverse
          let next := sh.after child
          ({ next with status := sh.status, substituted := some next.status },
            Mark.ofText quoted text)
      | .arithmetic parts =>
          let (sh, marks) := expand fuel true sh parts
          match Sum.evaluate? sh.bindings (plainText marks).toList with
          | some (value, bindings) =>
              ({ sh with bindings }, Mark.ofText quoted (toString value))
          | none => (sh.abort, [])

/-- A parameter, or what takes its place: `change` is the sign behind its name. -/
def expandParameter : (fuel : Nat) → (quoted : Bool) → Shell → (name change : String) → Word →
    Shell × List Mark
  | 0, _, sh, _, _, _ => (sh.abort, [])
  | fuel + 1, quoted, sh, name, change, word =>
      let isAll := name = "@" || name = "*"
      let value :=
        if !isAll then sh.value? name
        else if sh.arguments.isEmpty then none
        else some (" ".intercalate sh.arguments)
      let text := value.getD ""
      let shown := if isAll then sh.argumentMarks quoted name else Mark.ofText quoted text
      let isMissing := value.isNone || (change.startsWith ":" && text = "")
      let other : Shell × List Mark :=
        let (sh, marks) := expand fuel quoted sh word
        (sh, Shell.loosen marks)
      let cut (drop : Pattern → List Char → List Char) : Shell × List Mark :=
        let (sh, marks) := expand fuel false sh word
        (sh, Mark.ofText quoted (String.ofList (drop (pattern marks) text.toList)))
      let unset := value.isNone && !isAll && sh.hasOption 'u'
      match change with
      | "" => if unset then (sh.abort, []) else (sh, shown)
      | "length" =>
          let length := if isAll then sh.arguments.length else (bytesOf text).length
          if unset then (sh.abort, []) else (sh, Mark.ofText quoted (toString length))
      | "-" | ":-" => if isMissing then other else (sh, shown)
      | "+" | ":+" => if isMissing then (sh, []) else other
      | "?" | ":?" => if isMissing then (sh.abort, []) else (sh, shown)
      | "=" | ":=" =>
          if !isMissing then (sh, shown)
          else if !isName name.toList then (sh.abort, [])
          else
            let (sh, marks) := other
            let text := plainText marks
            (if sh.isRunning then sh.setOrAbort name text else sh, Mark.ofText quoted text)
      | "%" => cut (withoutEnd · false)
      | "%%" => cut (withoutEnd · true)
      | "#" => cut (withoutStart · false)
      | "##" => cut (withoutStart · true)
      | _ => (sh.abort, [])

def expandWord : (fuel : Nat) → Shell → Word → Shell × List Mark
  | 0, sh, _ => (sh.abort, [])
  | fuel + 1, sh, word =>
      let (home, word) := sh.tilde word
      let (sh, marks) := expand fuel false sh word
      (sh, home ++ marks)

/-- The fields of several words. -/
def expandFields : (fuel : Nat) → Shell → List Word → Shell × List String
  | 0, sh, _ => (sh.abort, [])
  | _, sh, [] => (sh, [])
  | fuel + 1, sh, word :: rest =>
      let (sh, marks) := expandWord fuel sh word
      let first := fields sh.disk sh.separators (sh.hasOption 'f') marks
      let (sh, more) := expandFields fuel sh rest
      (sh, first ++ more)

/-- Whether a text fits one of the patterns. -/
def fitsOne : (fuel : Nat) → Shell → String → List Word → Shell × Bool
  | 0, sh, _, _ => (sh.abort, false)
  | _, sh, _, [] => (sh, false)
  | fuel + 1, sh, text, word :: rest =>
      let (sh, marks) := expandWord fuel sh word
      if (pattern marks).fits text.toList then (sh, true) else fitsOne fuel sh text rest

def assign : (fuel : Nat) → Shell → List (String × Word) → Shell
  | 0, sh, _ => sh.abort
  | _, sh, [] => sh
  | fuel + 1, sh, (name, word) :: rest =>
      let (sh, marks) := expandWord fuel sh word
      if sh.isRunning then assign fuel (sh.setOrAbort name (plainText marks)) rest else sh

/-- Redirections one after the other, and whether all of them were possible.  An error within a text
that is redirected is no more than a redirection that is not possible. -/
def redirect : (fuel : Nat) → Shell → List Redirection → Shell × Bool
  | 0, sh, _ => (sh.abort, false)
  | _, sh, [] => (sh, true)
  | fuel + 1, sh, redirection :: rest =>
      let (next, marks) := expandWord fuel sh redirection.target
      let target := plainText marks
      if !next.isRunning then
        ({ next with flow := if redirection.direction = .here then sh.flow else next.flow }, false)
      else if redirection.direction = .duplicate && !Shell.isDescriptor target then
        (next.abort, false)
      else
        match next.redirect? redirection.descriptor redirection.direction target with
        | some next => redirect fuel next rest
        | none => (next, false)

/-- A command.  `tested` says that its status is looked at. -/
def run : (fuel : Nat) → (tested : Bool) → Shell → Command → Shell
  | 0, _, sh, _ => sh.abort
  | fuel + 1, tested, sh, command =>
      if !sh.isRunning || sh.hasOption 'n' then sh
      else
        match command with
        | .simple assignments words redirections =>
            let sh := runSimple fuel tested sh assignments words redirections
            (runPending fuel sh sh.pending).checked tested
        | .pipeline false [command] => run fuel tested sh command
        | .pipeline true [command] => (run fuel true sh command).negate
        | .pipeline negated commands =>
            let next := pipe fuel (tested || negated) sh commands
            if negated then next.negate else next.checked tested
        | .both first second =>
            let sh := run fuel true sh first
            if sh.status = 0 then run fuel tested sh second else sh
        | .either first second =>
            let sh := run fuel true sh first
            if sh.status = 0 then sh else run fuel tested sh second
        | .sequence commands => runAll fuel tested sh commands
        | .background body =>
            let child := finish fuel (run fuel tested { sh.child with input := [] } body)
            let next := { sh.after child with input := sh.input }
            if next.isRunning then next.finish 0 else next
        | .subshell body =>
            (sh.after (finish fuel (run fuel tested sh.child body))).checked tested
        | .redirected body redirections =>
            let descriptors := redirections.map (·.descriptor)
            let (next, done) := redirect fuel sh redirections
            if !next.isRunning then next
            else if !done then ((next.restore sh descriptors).finish 2).checked tested
            else (run fuel tested next body).restore sh descriptors
        | .conditional condition body alternative =>
            let sh := run fuel true sh condition
            if !sh.isRunning then sh
            else if sh.status = 0 then run fuel tested sh body
            else
              match alternative with
              | .sequence [] => sh.finish 0
              | alternative => run fuel tested sh alternative
        | .loop goal condition body =>
            let depth := sh.loops
            let sh := turn fuel tested goal { sh with loops := depth + 1 } 0 condition body
            { sh with loops := depth }
        | .each name words body =>
            let depth := sh.loops
            let (sh, items) :=
              match words with
              | none => (sh, sh.arguments)
              | some words => expandFields fuel sh words
            if !sh.isRunning then sh
            else
              let sh := if items.isEmpty then sh.finish 0 else sh
              { eachItem fuel tested { sh with loops := depth + 1 } name items body with
                loops := depth }
        | .choice subject arms =>
            let (sh, marks) := expandWord fuel sh subject
            if sh.isRunning then choose fuel tested sh (plainText marks) arms else sh
        | .definition name body =>
            { sh.finish 0 with
              functions := (name, body) :: sh.functions.filter (·.1 ≠ name) }

def runAll : (fuel : Nat) → (tested : Bool) → Shell → List Command → Shell
  | 0, _, sh, _ => sh.abort
  | _, _, sh, [] => sh
  | fuel + 1, tested, sh, command :: rest =>
      let sh := run fuel tested sh command
      if sh.isRunning then runAll fuel tested sh rest else sh

/-- A loop as long as the condition comes out as its goal says; `last` is the status of the turn
before. -/
def turn : (fuel : Nat) → (tested goal : Bool) → Shell → (last : Nat) → (condition body : Command) →
    Shell
  | 0, _, _, sh, _, _, _ => sh.abort
  | fuel + 1, tested, goal, sh, last, condition, body =>
      let sh := run fuel true sh condition
      if !sh.isRunning then
        let (sh, goesOn) := sh.endTurn
        if goesOn then turn fuel tested goal sh last condition body else sh
      else if (sh.status = 0) ≠ goal then sh.finish last
      else
        let (sh, goesOn) := (run fuel tested sh body).endTurn
        if goesOn then turn fuel tested goal sh sh.status condition body else sh

def eachItem : (fuel : Nat) → (tested : Bool) → Shell → (name : String) → List String → Command →
    Shell
  | 0, _, sh, _, _, _ => sh.abort
  | _, _, sh, _, [], _ => sh
  | fuel + 1, tested, sh, name, item :: rest, body =>
      let (sh, goesOn) := (run fuel tested (sh.setOrAbort name item) body).endTurn
      if goesOn then eachItem fuel tested sh name rest body else sh

/-- The first arm of a choice with a pattern that fits. -/
def choose : (fuel : Nat) → (tested : Bool) → Shell → (text : String) →
    List (List Word × Command) → Shell
  | 0, _, sh, _, _ => sh.abort
  | _, _, sh, _, [] => sh.finish 0
  | fuel + 1, tested, sh, text, (patterns, body) :: rest =>
      let (sh, fits) := fitsOne fuel sh text patterns
      if !sh.isRunning then sh
      else if !fits then choose fuel tested sh text rest
      else
        match body with
        | .sequence [] => sh.finish 0
        | body => run fuel tested sh body

/-- Commands each of which reads what the one before it prints. -/
def pipe : (fuel : Nat) → (tested : Bool) → Shell → List Command → Shell
  | 0, _, sh, _ => sh.abort
  | _, _, sh, [] => sh
  | fuel + 1, tested, sh, [command] =>
      sh.after (finish fuel (run fuel tested sh.child command))
  | fuel + 1, tested, sh, command :: rest =>
      let child := finish fuel (run fuel tested sh.capturing command)
      let next := sh.after child
      if !next.isRunning then next
      else
        let reader : Shell := { next with input := sh.captured child, status := sh.status }
        { pipe fuel tested reader rest with input := next.input }

/-- A simple command: assignments, redirections and words of which the first is a name. -/
def runSimple : (fuel : Nat) → (tested : Bool) → Shell → List (String × Word) → List Word →
    List Redirection → Shell
  | 0, _, sh, _, _, _ => sh.abort
  | fuel + 1, tested, sh, assignments, words, redirections =>
      let descriptors := redirections.map (·.descriptor)
      let (before, arguments) := expandFields fuel { sh with substituted := none } words
      let (sh, done) :=
        if before.isRunning then redirect fuel before redirections else (before, true)
      if !sh.isRunning then sh
      else
        match arguments with
        | [] =>
            let sh := if done then assign fuel sh assignments else sh
            if !sh.isRunning then sh
            else
              (sh.restore before descriptors).finish
                (if done then sh.substituted.getD 0 else 2)
        | name :: arguments =>
            if !done then
              if isSpecial name then sh.abort else (sh.restore before descriptors).finish 2
            else if isSpecial name then
              let sh := assign fuel sh assignments
              let sh := if sh.isRunning then call fuel tested sh name arguments else sh
              if name = "exec" then sh else sh.restore before descriptors
            else
              let old := oldValues sh assignments
              let exported := sh.exported
              let sh := assign fuel sh assignments
              let sh := { sh with exported := old.map (·.1) ++ exported }
              let sh := if sh.isRunning then call fuel tested sh name arguments else sh
              let sh := old.foldl (fun sh (name, value) => sh.setOrForget name value) sh
              { sh.restore before descriptors with
                exported := if old.isEmpty then sh.exported else exported }

/-- A name with its arguments. -/
def call : (fuel : Nat) → (tested : Bool) → Shell → (name : String) → List String → Shell
  | 0, _, sh, _, _ => sh.abort
  | fuel + 1, tested, sh, name, arguments =>
      match name with
      | "eval" => runText fuel tested (sh.finish 0) (" ".intercalate arguments)
      | "." =>
          match arguments with
          | [] => sh.finish 0
          | file :: _ =>
              match file.toList.contains '/', sh.disk.lookup ⟨file⟩ with
              | true, .ok (.file content) =>
                  let sh := runText fuel tested (sh.finish 0) (textOf content.toList)
                  if sh.flow = .returning then { sh with flow := .running } else sh
              | true, .ok .directory => sh.finish 0
              | _, _ => sh.abort
      | "exec" =>
          match arguments with
          | [] => sh.finish 0
          | name :: arguments =>
              let sh := runProgram fuel sh name arguments
              if sh.isRunning then { sh with flow := .ended (.status sh.status) } else sh
      | "command" =>
          match arguments with
          | [] => sh.finish 0
          | "-v" :: names | "-V" :: names =>
              match names.mapM sh.known? with
              | some lines => sh.print (bytesOf (String.join (lines.map (· ++ "\n"))))
              | none => sh.finish 127
          | "-p" :: name :: arguments | name :: arguments =>
              let functions := sh.functions
              { call fuel tested { sh with functions := [] } name arguments with functions }
      | "type" =>
          match arguments.mapM sh.known? with
          | some lines => sh.print (bytesOf (String.join (lines.map (· ++ "\n"))))
          | none => sh.finish 127
      | name =>
          match sh.functions.find? (·.1 = name), builtin? name with
          | some (_, body), _ => callFunction fuel tested sh body arguments
          | none, some change => change sh arguments
          | none, none => runProgram fuel sh name arguments

/-- A function has its own arguments, and a `return` ends it alone. -/
def callFunction : (fuel : Nat) → (tested : Bool) → Shell → Command → List String → Shell
  | 0, _, sh, _, _ => sh.abort
  | fuel + 1, tested, sh, body, arguments =>
      let inner := run fuel tested { sh with arguments, hidden := some [], loops := 0 } body
      let bindings := (inner.hidden.getD []).reverse.foldl
        (fun sh (name, value) => sh.setOrForget name value) inner
      { bindings with
        arguments := sh.arguments
        hidden := sh.hidden
        loops := sh.loops
        flow := if inner.flow = .returning then .running else inner.flow }

def runProgram : (fuel : Nat) → Shell → (name : String) → List String → Shell
  | 0, sh, _, _ => sh.abort
  | fuel + 1, sh, word, arguments =>
      match Shell.installed? word with
      | none => sh.finish (sh.missing word)
      | some "sh" => sh.after (start fuel sh.fresh arguments)
      | some name =>
          match find? name with
          | none => sh.finish 127
          | some program =>
              let ran := program arguments (ByteArray.mk sh.input.toArray) sh.disk
              let (sh, _) := { sh with disk := ran.disk }.emit 1 ran.output.toList
              sh.finish ran.status

/-- What is to be done because of signals that have come. -/
def runPending : (fuel : Nat) → Shell → List String → Shell
  | 0, sh, _ => sh.abort
  | _, sh, [] => sh
  | fuel + 1, sh, action :: rest =>
      let status := sh.status
      let sh := runText fuel true { sh with pending := [] } action
      if sh.isRunning then runPending fuel (sh.finish status) rest else sh

def runText : (fuel : Nat) → (tested : Bool) → Shell → (text : String) → Shell
  | 0, _, sh, _ => sh.abort
  | fuel + 1, tested, sh, text => runLines fuel tested sh (tokens text.toList)

/-- The lines of a script.  One that makes no commands ends the script when it is reached. -/
def runLines : (fuel : Nat) → (tested : Bool) → Shell → List Token → Shell
  | 0, _, sh, _ => sh.abort
  | _, _, sh, [] => sh
  | fuel + 1, tested, sh, tokens =>
      match line? tokens with
      | none => sh.abort
      | some (commands, rest) =>
          let sh := runAll fuel tested sh commands
          if sh.isRunning then runLines fuel tested sh rest else sh

/-- The end of a shell, with what is to be done at its end. -/
def finish : (fuel : Nat) → Shell → Shell
  | 0, sh => sh.abort
  | fuel + 1, sh =>
      let exit :=
        match sh.flow with
        | .ended exit => exit
        | _ => .status sh.status
      let sh := { sh with flow := .ended exit }
      match exit, sh.traps.find? (·.1 = 0) with
      | .status _, some (_, action) =>
          let traps := sh.traps.filter (·.1 ≠ 0)
          let last := runText fuel false { sh with flow := .running, traps, loops := 0 } action
          match last.flow with
          | .ended _ => last
          | _ => { last with status := sh.status, flow := .ended exit }
      | _, _ => sh

/-- A shell with arguments: the name of a script, or a script behind `-c`, and the arguments of the
script.  Without any, the script is what the shell can read. -/
def start : (fuel : Nat) → Shell → List String → Shell
  | 0, sh, _ => sh.abort
  | fuel + 1, sh, words =>
      match Shell.invocation (words.length + 1) sh false words with
      | none | some (_, [], true) => sh.abort
      | some (sh, text :: rest, true) =>
          let sh := { sh with name := rest.headD "sh", arguments := rest.tail }
          finish fuel (runText fuel false sh text)
      | some (sh, words, false) =>
          match words, sh.hasOption 's' with
          | name :: arguments, false =>
              match sh.disk.lookup ⟨name⟩ with
              | .ok (.file content) =>
                  let sh := { sh with name, arguments }
                  finish fuel (runText fuel false sh (textOf content.toList))
              | .ok .directory => finish fuel sh
              | .error _ => sh.abort
          | words, _ =>
              let script := textOf sh.input
              finish fuel (runText fuel false { sh with input := [], arguments := words } script)

end

/-- The number of turns that a script may take, of which one can lie within another: one for each
byte on the disk, since a script is read from there, and some more for what it does again. -/
def turns (disk : Disk) : Nat :=
  disk.entries.foldl
    (fun count (_, entry) =>
      match entry with
      | .file content => count + content.size
      | .directory => count)
    20000

/-- Runs a shell with variables that it gets from outside. -/
def runShell (bindings : List (String × String)) (arguments : List String) (disk : Disk) :
    Disk × Exit :=
  let sh := start (turns disk) { disk, bindings, exported := bindings.map (·.1) } arguments
  let exit :=
    match sh.flow with
    | .ended exit => exit
    | _ => .status sh.status
  ({ sh.disk with current := disk.current }, exit)

end Script
end Editor
end FormSnippet
