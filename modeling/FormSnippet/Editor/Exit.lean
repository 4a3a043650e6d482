/-!
# Exit — how programs end

A program ends by itself, with a status, or is ended by a signal.

- `Signal.names`    : the signals, from the first one on
- `Exit.message`    : what is said about the end of a program
-/

namespace FormSnippet
namespace Editor

/-! ## Signals -/

namespace Signal

def names : List String :=
  ["HUP", "INT", "QUIT", "ILL", "TRAP", "ABRT", "BUS", "FPE", "KILL", "USR1", "SEGV", "USR2",
    "PIPE", "ALRM", "TERM", "STKFLT", "CHLD", "CONT", "STOP", "TSTP", "TTIN", "TTOU", "URG",
    "XCPU", "XFSZ", "VTALRM", "PROF", "WINCH", "IO", "PWR", "SYS"]

def name? (number : Nat) : Option String :=
  if number = 0 then none else names[number - 1]?

/-- Numbers from 32 on have no signal of their own that could be told apart here. -/
def count : Nat :=
  64

/-- The signal that a number or a name stands for; upper and lower case are alike. -/
def number? (text : String) : Option Nat :=
  if text.toList.all (·.isDigit) && text ≠ "" then
    text.toNat?.filter (· ≤ count)
  else (names.idxOf? text.toUpper).map (· + 1)

/-- Signals that do not end a program. -/
def isHarmless (number : Nat) : Bool :=
  [0, 17, 18, 23, 28].contains number

/-- Signals about which a program has no say. -/
def isFinal (number : Nat) : Bool :=
  number = 9 || number = 19

end Signal

/-! ## Ends -/

inductive Exit
  | status (code : Nat)
  | signal (number : Nat)
  deriving DecidableEq, Repr

namespace Exit

/-- The status by which a shell refers to an end. -/
def code : Exit → Nat
  | .status code => code
  | .signal number => 128 + number

def message : Exit → String
  | .status code => "exit status: " ++ toString code
  | .signal number =>
      let name := ((Signal.name? number).map fun name => " (SIG" ++ name ++ ")").getD ""
      "signal: " ++ toString number ++ name

end Exit
end Editor
end FormSnippet
