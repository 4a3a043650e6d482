import FormSnippet.Editor.Script.Token

/-!
# Grammar — the commands of a script

The tokens of a script make up commands.  A script is read line by line, since the commands of a
line run before the next line is looked at; a command that goes on over several lines is read as a
whole.  A word such as `if` begins a command of its own kind only where a command can begin.

- `line?`   : the commands of the first line, and the tokens behind it
-/

namespace FormSnippet
namespace Editor
namespace Script

/-- A command and the tokens behind it; `none` if the tokens make no command. -/
abbrev Parsed (α : Type) : Type :=
  Option (α × List Token)

/-! ## Words with a meaning -/

/-- Words that end a part of a command. -/
def closingWords : List String :=
  ["then", "else", "elif", "fi", "do", "done", "esac", "\x7d"]

/-- Words with which a command cannot begin. -/
def misplacedWords : List String :=
  ["!", "in"] ++ closingWords

def Token.text? : Token → Option String
  | .word parts => parts.plain?
  | _ => none

def startsWith (tokens : List Token) (text : String) : Bool :=
  tokens.head?.any fun token => token.text? = some text

def startsWithSign (tokens : List Token) (name : String) : Bool :=
  match tokens with
  | .sign other :: _ => other = name
  | _ => false

def skipNewlines : List Token → List Token
  | .newline :: rest => skipNewlines rest
  | tokens => tokens

/-- Passes over a word that must come. -/
def expect (tokens : List Token) (text : String) : Option (List Token) :=
  if startsWith tokens text then some tokens.tail else none

/-- Whether a sequence of commands is over. -/
def endsSequence (tokens : List Token) : Bool :=
  match tokens with
  | [] => true
  | .sign name :: _ => name = ")" || name = ";;"
  | token :: _ => token.text?.any closingWords.contains

/-! ## Parts of commands -/

def direction? (sign : String) : Option Direction :=
  match sign with
  | "<" | "<>" => some .read
  | ">" | ">|" => some .write
  | ">>" => some .append
  | "<&" | ">&" => some .duplicate
  | "<<" | "<<-" => some .here
  | _ => none

/-- A redirection, if one comes next; the outer `none` stands for one that is not complete. -/
def redirection? (tokens : List Token) : Option (Parsed Redirection) :=
  let read (descriptor : Option Nat) (sign : String) (rest : List Token) :
      Option (Parsed Redirection) :=
    match direction? sign with
    | none => some none
    | some direction =>
        let descriptor := descriptor.getD (if sign.startsWith "<" then 0 else 1)
        match rest with
        | .word target :: rest | .here target :: rest =>
            some (some (⟨descriptor, direction, target⟩, rest))
        | _ => none
  match tokens with
  | .descriptor number :: .sign sign :: rest => read (some number) sign rest
  | .sign sign :: rest => read none sign rest
  | _ => some none

/-- The redirections that come next, in at most `fuel` turns. -/
def redirections? : (fuel : Nat) → List Token → Parsed (List Redirection)
  | 0, _ => none
  | fuel + 1, tokens =>
      match redirection? tokens with
      | none => none
      | some none => some ([], tokens)
      | some (some (redirection, rest)) =>
          (redirections? fuel rest).map fun (more, rest) => (redirection :: more, rest)

/-- The name of an assignment, and its value. -/
def assignment? (word : Word) : Option (String × Word) :=
  let rec go : List Char → Word → Option (String × Word)
    | name, .bare '=' :: value => if isName name then some (String.ofList name, value) else none
    | name, .bare c :: rest => go (name ++ [c]) rest
    | _, _ => none
  go [] word

/-- A simple command, in at most `fuel` turns. -/
def simple? : (fuel : Nat) → List (String × Word) → List Word → List Redirection → List Token →
    Parsed Command
  | 0, _, _, _, _ => none
  | fuel + 1, assignments, words, redirections, tokens =>
      match redirection? tokens with
      | none => none
      | some (some (redirection, rest)) =>
          simple? fuel assignments words (redirections ++ [redirection]) rest
      | some none =>
          match tokens with
          | .word word :: rest =>
              match words, assignment? word with
              | [], some assignment =>
                  simple? fuel (assignments ++ [assignment]) words redirections rest
              | _, _ => simple? fuel assignments (words ++ [word]) redirections rest
          | .here _ :: _ | .descriptor _ :: _ | .awaiting _ :: _ | .broken :: _ => none
          | tokens =>
              if assignments.isEmpty && words.isEmpty && redirections.isEmpty then none
              else some (.simple assignments words redirections, tokens)

/-- The words of a loop up to the end of its line. -/
def listWords : List Token → List Word × List Token
  | .word word :: rest =>
      let (words, rest) := listWords rest
      (word :: words, rest)
  | tokens => ([], tokens)

/-- The patterns of a choice, up to the closing parenthesis. -/
def patterns? : List Token → Parsed (List Word)
  | .word word :: .sign ")" :: rest => some ([word], rest)
  | .word word :: .sign "|" :: rest =>
      (patterns? rest).map fun (words, rest) => (word :: words, rest)
  | _ => none

/-- Whether a name comes next that is followed by parentheses. -/
def definedName? (tokens : List Token) : Parsed String :=
  match tokens with
  | .word word :: .sign "(" :: .sign ")" :: rest =>
      match word.plain? with
      | some name => if isName name.toList then some (name, rest) else none
      | none => none
  | _ => none

/-! ## Commands -/

mutual

/-- Commands one after the other, up to a word or sign that ends them. -/
def sequence? : (fuel : Nat) → List Token → Parsed (List Command)
  | 0, _ => none
  | fuel + 1, tokens =>
      let tokens := skipNewlines tokens
      if endsSequence tokens then some ([], tokens)
      else
        match joined? fuel tokens with
        | none => none
        | some (command, .sign ";" :: rest) | some (command, .newline :: rest) =>
            (sequence? fuel rest).map fun (more, rest) => (command :: more, rest)
        | some (command, .sign "&" :: rest) =>
            (sequence? fuel rest).map fun (more, rest) => (.background command :: more, rest)
        | some (command, rest) => if endsSequence rest then some ([command], rest) else none

/-- Commands that must not be missing. -/
def body? : (fuel : Nat) → List Token → Parsed Command
  | 0, _ => none
  | fuel + 1, tokens =>
      match sequence? fuel tokens with
      | some (command :: more, rest) => some (.sequence (command :: more), rest)
      | _ => none

/-- Pipelines joined by `&&` and `||`, which bind alike and to the left. -/
def joined? : (fuel : Nat) → List Token → Parsed Command
  | 0, _ => none
  | fuel + 1, tokens =>
      match pipeline? fuel tokens with
      | none => none
      | some (first, rest) => joinedTo? fuel first rest

def joinedTo? : (fuel : Nat) → Command → List Token → Parsed Command
  | 0, _, _ => none
  | fuel + 1, first, tokens =>
      match tokens with
      | .sign "&&" :: rest =>
          match pipeline? fuel (skipNewlines rest) with
          | some (second, rest) => joinedTo? fuel (.both first second) rest
          | none => none
      | .sign "||" :: rest =>
          match pipeline? fuel (skipNewlines rest) with
          | some (second, rest) => joinedTo? fuel (.either first second) rest
          | none => none
      | tokens => some (first, tokens)

def pipeline? : (fuel : Nat) → List Token → Parsed Command
  | 0, _ => none
  | fuel + 1, tokens =>
      let negated := startsWith tokens "!"
      (piped? fuel (if negated then tokens.tail else tokens)).map fun (commands, rest) =>
        (.pipeline negated commands, rest)

def piped? : (fuel : Nat) → List Token → Parsed (List Command)
  | 0, _ => none
  | fuel + 1, tokens =>
      match command? fuel tokens with
      | some (command, .sign "|" :: rest) =>
          (piped? fuel (skipNewlines rest)).map fun (more, rest) => (command :: more, rest)
      | some (command, rest) => some ([command], rest)
      | none => none

/-- A single command with its redirections. -/
def command? : (fuel : Nat) → List Token → Parsed Command
  | 0, _ => none
  | fuel + 1, tokens =>
      match compound? fuel tokens with
      | some (some (body, rest)) =>
          match redirections? (rest.length + 1) rest with
          | some ([], rest) => some (body, rest)
          | some (redirections, rest) => some (.redirected body redirections, rest)
          | none => none
      | some none => none
      | none =>
          match definedName? tokens with
          | some (name, rest) =>
              (command? fuel (skipNewlines rest)).map fun (body, rest) =>
                (.definition name body, rest)
          | none =>
              if tokens.head?.any fun token => token.text?.any misplacedWords.contains then none
              else simple? (tokens.length + 1) [] [] [] tokens

/-- A command that is made of others.  The outer `none` stands for a command of another kind, the
inner one for one that is not complete. -/
def compound? : (fuel : Nat) → List Token → Option (Option (Command × List Token))
  | 0, _ => some none
  | fuel + 1, tokens =>
      match tokens with
      | .sign "(" :: rest =>
          some <|
            match body? fuel rest with
            | some (body, .sign ")" :: rest) => some (.subshell body, rest)
            | _ => none
      | .word word :: rest =>
          match word.plain? with
          | some "\x7b" => some do
              let (body, rest) ← body? fuel rest
              let rest ← expect rest "\x7d"
              return (body, rest)
          | some "if" => some (conditional? fuel rest)
          | some "while" => some (loop? fuel true rest)
          | some "until" => some (loop? fuel false rest)
          | some "for" => some (each? fuel rest)
          | some "case" => some (choice? fuel rest)
          | _ => none
      | _ => none

/-- What follows `if` or `elif`, up to and with `fi`. -/
def conditional? : (fuel : Nat) → List Token → Option (Command × List Token)
  | 0, _ => none
  | fuel + 1, tokens => do
      let (condition, rest) ← body? fuel tokens
      let rest ← expect rest "then"
      let (body, rest) ← body? fuel rest
      if startsWith rest "elif" then
        let (alternative, rest) ← conditional? fuel rest.tail
        return (.conditional condition body alternative, rest)
      else if startsWith rest "else" then
        let (alternative, rest) ← body? fuel rest.tail
        let rest ← expect rest "fi"
        return (.conditional condition body alternative, rest)
      else
        let rest ← expect rest "fi"
        return (.conditional condition body (.sequence []), rest)

def loop? : (fuel : Nat) → Bool → List Token → Option (Command × List Token)
  | 0, _, _ => none
  | fuel + 1, goal, tokens => do
      let (condition, rest) ← body? fuel tokens
      let rest ← expect rest "do"
      let (body, rest) ← body? fuel rest
      let rest ← expect rest "done"
      return (.loop goal condition body, rest)

def each? : (fuel : Nat) → List Token → Option (Command × List Token)
  | 0, _ => none
  | fuel + 1, tokens => do
      let (.word word :: rest) := tokens | none
      let name ← word.plain?
      if !isName name.toList then none
      else
        let behind := skipNewlines rest
        let (words, rest) ←
          if startsWith behind "in" then
            match listWords behind.tail with
            | (words, .newline :: rest) | (words, .sign ";" :: rest) => some (some words, rest)
            | _ => none
          else if startsWithSign rest ";" then some (none, rest.tail)
          else some (none, behind)
        let rest ← expect (skipNewlines rest) "do"
        let (body, rest) ← body? fuel rest
        let rest ← expect rest "done"
        return (.each name words body, rest)

def choice? : (fuel : Nat) → List Token → Option (Command × List Token)
  | 0, _ => none
  | fuel + 1, tokens => do
      let (.word subject :: rest) := tokens | none
      let rest ← expect (skipNewlines rest) "in"
      let (arms, rest) ← arms? fuel rest
      return (.choice subject arms, rest)

def arms? : (fuel : Nat) → List Token → Parsed (List (List Word × Command))
  | 0, _ => none
  | fuel + 1, tokens =>
      let tokens := skipNewlines tokens
      if startsWith tokens "esac" then some ([], tokens.tail)
      else
        let tokens := if startsWithSign tokens "(" then tokens.tail else tokens
        match patterns? tokens with
        | none => none
        | some (patterns, rest) =>
            match sequence? fuel rest with
            | none => none
            | some (commands, rest) =>
                let arm := (patterns, Command.sequence commands)
                if startsWithSign rest ";;" then
                  (arms? fuel rest.tail).map fun (more, rest) => (arm :: more, rest)
                else (expect rest "esac").map fun rest => ([arm], rest)

end

/-- The commands of a line in at most `fuel` turns. -/
def lineFrom? (depth : Nat) : (fuel : Nat) → List Token → Parsed (List Command)
  | 0, _ => none
  | fuel + 1, tokens =>
      match tokens with
      | [] => some ([], [])
      | .newline :: rest => some ([], rest)
      | tokens =>
          match joined? depth tokens with
          | none => none
          | some (command, .sign ";" :: rest) =>
              (lineFrom? depth fuel rest).map fun (more, rest) => (command :: more, rest)
          | some (command, .sign "&" :: rest) =>
              (lineFrom? depth fuel rest).map fun (more, rest) =>
                (.background command :: more, rest)
          | some (command, .newline :: rest) => some ([command], rest)
          | some (command, []) => some ([command], [])
          | some _ => none

/-- The commands of the first line, and the tokens behind it.  A turn passes from a kind of command
to another or reads a token, so that a fixed number of turns for each token is enough. -/
def line? (tokens : List Token) : Parsed (List Command) :=
  lineFrom? (8 * tokens.length + 8) (tokens.length + 1) tokens

end Script
end Editor
end FormSnippet
