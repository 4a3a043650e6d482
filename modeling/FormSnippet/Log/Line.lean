import FormSnippet.Log.Filter
import FormSnippet.Text.Property

/-!
# Line — the lines of the log

An event is written as its level, its target, a message and its fields.  A text that comes from the
command line is written in quotes, and what cannot be printed in it is escaped.
-/

namespace FormSnippet
namespace Log

/-! ## Quoting -/

def hexChars (n : Nat) : List Char :=
  Nat.toDigits 16 n

/-- Marks are escaped too, since they would combine with the character before them. -/
def quoteChar (c : Char) : List Char :=
  match c with
  | '\x00' => ['\\', '0']
  | '\t' => ['\\', 't']
  | '\n' => ['\\', 'n']
  | '\r' => ['\\', 'r']
  | '"' => ['\\', '"']
  | '\\' => ['\\', '\\']
  | c =>
      if 0x20 ≤ c.toNat && c.toNat < 0x7F then [c]
      else if Text.isUnprintable c ||
          (Text.inRanges Text.extendRanges c && !Text.isVoicingMark c) then
        ['\\', 'u', '{'] ++ hexChars c.toNat ++ ['}']
      else [c]

def quoted (text : String) : String :=
  String.ofList ('"' :: (text.toList.flatMap quoteChar ++ ['"']))

/-! ## Events -/

namespace Event

def level : Event → Level
  | .repeatedField _ _ | .noSuchField _ _ => .warn
  | .loadedForms _ _ | .createdSample _ => .info
  | .ignoredUpdate _ _ => .debug

def target : Event → String
  | .repeatedField _ _ => "formtpl::parser"
  | .loadedForms _ _ | .createdSample _ => "formtpl::system"
  | .ignoredUpdate _ _ => "formtpl::builder"
  | .noSuchField _ _ => "formtpl"

def message : Event → String
  | .repeatedField _ _ => "dropping duplicate field"
  | .loadedForms _ _ => "loaded forms"
  | .createdSample _ => "created sample forms file"
  | .ignoredUpdate _ _ => "ignoring update for unknown field"
  | .noSuchField _ _ => "no such field"

/-- The fields with their values as they are written. -/
def fields : Event → List (String × String)
  | .repeatedField form field => [("form", form), ("field", field)]
  | .loadedForms path count => [("path", path), ("count", toString count)]
  | .createdSample path => [("path", path)]
  | .ignoredUpdate form field | .noSuchField form field => [("form", form), ("field", quoted field)]

def line (event : Event) : String :=
  let fields := event.fields.map fun (name, value) => " " ++ name ++ "=" ++ value
  event.level.label ++ " " ++ event.target ++ ": " ++ event.message ++ String.join fields

end Event

/-- The lines of the events that a filter admits. -/
def lines (filter : Filter) (events : List Event) : List String :=
  (events.filter fun event =>
    filter.admits event.level event.target ("message" :: event.fields.map (·.1))).map Event.line

end Log
end FormSnippet
