/-!
# Control — texts without terminal control

A terminal takes some characters as commands.  A sequence of them begins with an escape character;
what ends it depends on its kind.  Where a text from outside is shown in a message, the sequences
and the single control characters in it are left out.  White space stays, and ends a sequence in
which it stands unless the sequence is one that carries data.

- `Control.step`        : what a character does to the sequence that is being read
- `withoutControls`     : the text that is left
-/

namespace FormSnippet
namespace Text

namespace Control

/-- The kind of sequence that is being read. -/
inductive Sequence
  /-- No sequence: characters are shown. -/
  | text
  | escape
  /-- An escape character followed by marks, which a last character ends. -/
  | marked
  /-- A bracket followed by numbers and marks, which a letter ends. -/
  | command
  /-- The numbers and marks in front of data for a device. -/
  | device
  /-- Data, which the terminator ends. -/
  | data
  /-- A title, which the bell ends. -/
  | title
  deriving DecidableEq, Repr

/-- White space that a terminal does not take as anything else. -/
def isKept (c : Char) : Bool :=
  c = '\t' || c = '\n' || c = '\x0c' || c = '\r'

def isMark (c : Char) : Bool :=
  ' ' ≤ c && c ≤ '/'

def isFinal (c : Char) : Bool :=
  '@' ≤ c && c ≤ '~'

/-- The terminator is a byte, which can be one of those that make up a character. -/
def holdsTerminator (c : Char) : Bool :=
  c.toNat ≥ 128 && (String.singleton c).toUTF8.toList.contains 0x9c

/-- What a character behind an escape character begins. -/
def opened (c : Char) : Sequence :=
  match c with
  | '[' => .command
  | ']' => .title
  | 'P' => .device
  | 'X' | '^' | '_' => .data
  | c => if isMark c then .marked else if '0' ≤ c && c ≤ '~' then .text else .escape

/-- The sequence after a character, and whether the character is shown. -/
def step (sequence : Sequence) (c : Char) : Sequence × Bool :=
  if c = '\x18' || c = '\x1a' then (.text, false)
  else if c = '\x1b' then (.escape, false)
  else
    match sequence with
    | .text => (.text, isKept c || (' ' ≤ c && c ≠ '\x7f'))
    | .escape => if isKept c then (.text, true) else (opened c, false)
    | .marked =>
        if isKept c then (.text, true)
        else (if '0' ≤ c && c ≤ '~' then .text else .marked, false)
    | .command =>
        if isKept c then (.text, true) else (if isFinal c then .text else .command, false)
    | .device => (if isFinal c then .data else .device, false)
    | .data => (if holdsTerminator c then .text else .data, false)
    | .title => (if c = '\x07' then .text else .title, false)

def shown : Sequence → List Char → List Char
  | _, [] => []
  | sequence, c :: cs =>
      let (next, isShown) := step sequence c
      if isShown then c :: shown next cs else shown next cs

end Control

def withoutControls (s : String) : String :=
  String.ofList (Control.shown .text s.toList)

end Text
end FormSnippet
