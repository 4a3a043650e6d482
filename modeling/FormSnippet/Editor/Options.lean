/-!
# Options — the options among the arguments of a program

An option is a letter behind a minus, or a name behind two; letters may share a minus, and a name
may be cut short as long as it can only mean one option.  Options and operands may be mixed, and
`--` ends the options.  An option may have an argument: a letter takes it from the rest of its word
or from the next word, a name from behind an equals sign or from the next word; one that may be left
out is never taken from the next word.

- `Options.read`    : the options given and the operands
-/

namespace FormSnippet
namespace Editor

inductive ArgumentKind
  | none
  | required
  | optional
  deriving DecidableEq, Repr

/-- An option that a program knows.  Both ways to write it give the same key, and its argument may
be refused as soon as it is read. -/
structure Switch where
  key : String
  letter : Option Char := .none
  name : Option String := .none
  argument : ArgumentKind := .none
  accepts : String → Bool := fun _ => true

namespace Switch

/-- An option that is written as a letter and as a name. -/
def both (letter : Char) (name : String) (argument : ArgumentKind := .none) : Switch :=
  { key := name, letter := some letter, name := some name, argument }

def ofName (name : String) (argument : ArgumentKind := .none) : Switch :=
  { key := name, name := some name, argument }

def ofLetter (letter : Char) (key : String) (argument : ArgumentKind := .none) : Switch :=
  { key, letter := some letter, argument }

/-- An option whose argument is one of several words, which may be cut short. -/
def among (words : List String) (switch : Switch) : Switch :=
  { switch with
    accepts := fun argument =>
      argument ≠ "" && words.any fun word => argument.toList.isPrefixOf word.toList }

end Switch

structure Options where
  given : List (String × Option String) := []
  operands : List String := []
  deriving Repr

/-- What the arguments ask for: a run, a text about the program, or something it does not know. -/
inductive Request
  | run (options : Options)
  | inform
  | refuse
  deriving Repr

namespace Options

def has (options : Options) (key : String) : Bool :=
  options.given.any (·.1 = key)

/-- The argument of the last option with that key. -/
def value? (options : Options) (key : String) : Option String :=
  (options.given.reverse.find? (·.1 = key)).bind (·.2)

def addOption (options : Options) (switch : Switch) (value : Option String) : Option Options :=
  if value.all switch.accepts then
    some { options with given := options.given ++ [(switch.key, value)] }
  else .none

def addOperands (options : Options) (words : List String) : Options :=
  { options with operands := options.operands ++ words }

/-- The option that a name or the beginning of a name means. -/
def named? (switches : List Switch) (word : String) : Option Switch :=
  match switches.find? (·.name = some word) with
  | some switch => some switch
  | .none =>
      let candidates := switches.filter fun switch =>
        switch.name.any fun name => word.toList.isPrefixOf name.toList
      match candidates with
      | [] => .none
      | switch :: rest => if rest.all (·.key = switch.key) then some switch else .none

/-- Reads the letters behind a minus, with the words behind them; returns the words that are left.
-/
def readLetters (switches : List Switch) :
    List Char → List String → Options → Option (Options × List String)
  | [], words, options => some (options, words)
  | letter :: more, words, options =>
      match switches.find? (·.letter = some letter) with
      | .none => .none
      | some switch =>
          let add (value : Option String) (words : List String) : Option (Options × List String) :=
            (options.addOption switch value).map (·, words)
          match switch.argument, more, words with
          | .none, _, _ => do
              let (options, _) ← add .none []
              readLetters switches more words options
          | .optional, [], _ => add .none words
          | .required, [], [] => .none
          | .required, [], word :: words => add (some word) words
          | _, more, _ => add (some (String.ofList more)) words

/-- Reads what stands behind two minus signs, with the words behind it. -/
def readName (switches : List Switch) (text : List Char) (words : List String) (options : Options) :
    Option (Options × List String) :=
  match named? switches (String.ofList (text.takeWhile (· ≠ '='))) with
  | .none => .none
  | some switch =>
      let add (value : Option String) (words : List String) : Option (Options × List String) :=
        (options.addOption switch value).map (·, words)
      match text.dropWhile (· ≠ '='), switch.argument, words with
      | _ :: _, .none, _ => .none
      | _ :: value, _, _ => add (some (String.ofList value)) words
      | [], .required, [] => .none
      | [], .required, word :: words => add (some word) words
      | [], _, _ => add .none words

/-- Options that ask for a text about the program and nothing else. -/
def informing : List Switch :=
  [.ofName "help", .ofName "version"]

/-- Reads the words in at most `fuel` turns.  The first word that decides the matter does so, even
if a later one could not be read. -/
def readFuel (switches : List Switch) : Nat → List String → Options → Request
  | 0, _, _ => .refuse
  | _, [], options => .run options
  | fuel + 1, word :: words, options =>
      let continued (read : Option (Options × List String)) : Request :=
        match read with
        | .none => .refuse
        | some (options, words) =>
            if options.has "help" || options.has "version" then .inform
            else readFuel switches fuel words options
      match word.toList with
      | ['-', '-'] => .run (options.addOperands words)
      | '-' :: '-' :: text => continued (readName switches text words options)
      | '-' :: letter :: more => continued (readLetters switches (letter :: more) words options)
      | _ => readFuel switches fuel words (options.addOperands [word])

def read (switches : List Switch) (words : List String) : Request :=
  readFuel (switches ++ informing) (words.length + 1) words {}

end Options
end Editor
end FormSnippet
