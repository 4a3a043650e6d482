import FormSnippet.Form
import FormSnippet.Json.Reader

/-!
# Document — forms files

A forms file is a JSON document of one of two shapes: a list of forms, or a settings object whose
member `formDefinitions` is such a list.  A form and a field are written as an object with named
members, of which unknown ones are ignored and known ones occur at most once, or as an array of the
members in declared order whose absent ones stand at the end.

- `formsOf?`        : the forms that a JSON value holds, if it has one of the two shapes
- `readDocument`    : the forms that a text holds, before any of them is dropped
- `DocumentError`   : why a text holds no forms
-/

namespace FormSnippet

/-! ## Forms in JSON values -/

namespace Json
namespace Value

def text? : Value → Option String
  | .string text => some text
  | _ => none

/-- A text that may be left out by writing `null`. -/
def optionalText? : Value → Option (Option String)
  | .string text => some (some text)
  | .null => some none
  | _ => none

def listOf? {α : Type} (element? : Value → Option α) : Value → Option (List α)
  | .array items => items.mapM element?
  | _ => none

end Value

/-- The one member of that name. -/
def required? {α : Type} (read? : Value → Option α) : List Value → Option α
  | [value] => read? value
  | _ => none

/-- The one member of that name, or `absent` if there is none; two of a name are refused. -/
def optional? {α : Type} (absent : α) (read? : Value → Option α) : List Value → Option α
  | [] => some absent
  | [value] => read? value
  | _ => none

end Json

namespace FieldDefinition

/-- A field from the values given for its name, its label and its description. -/
def ofParts? (names labels descriptions : List Json.Value) : Option FieldDefinition := do
  let name ← Json.required? Json.Value.text? names
  let label ← Json.optional? none Json.Value.optionalText? labels
  let description ← Json.optional? none Json.Value.optionalText? descriptions
  return ⟨name, label, description⟩

def ofJson? : Json.Value → Option FieldDefinition
  | .object members =>
      ofParts? (Json.membersNamed "name" members) (Json.membersNamed "label" members)
        (Json.membersNamed "description" members)
  | .array items =>
      if items.length ≤ 3 then
        ofParts? (items.take 1) ((items.drop 1).take 1) ((items.drop 2).take 1)
      else none
  | _ => none

end FieldDefinition

namespace Form

/-- A form from the values given for its name, its title and its fields. -/
def ofParts? (names titles fieldLists : List Json.Value) : Option Form := do
  let name ← Json.required? Json.Value.text? names
  let title ← Json.optional? none Json.Value.optionalText? titles
  let fields ← Json.optional? [] (Json.Value.listOf? FieldDefinition.ofJson?) fieldLists
  return ⟨name, title, fields⟩

def ofJson? : Json.Value → Option Form
  | .object members =>
      ofParts? (Json.membersNamed "name" members) (Json.membersNamed "title" members)
        (Json.membersNamed "fields" members)
  | .array items =>
      if items.length ≤ 3 then
        ofParts? (items.take 1) ((items.drop 1).take 1) ((items.drop 2).take 1)
      else none
  | _ => none

end Form

/-- The forms of a forms file. -/
def formsOf? : Json.Value → Option (List Form)
  | .object members =>
      Json.required? (Json.Value.listOf? Form.ofJson?) (Json.membersNamed "formDefinitions" members)
  | value => Json.Value.listOf? Form.ofJson? value

/-! ## Forms in texts -/

inductive DocumentError
  | malformed (fault : Json.Fault) (position : Json.Position)
  | notForms
  deriving DecidableEq, Repr

namespace DocumentError

def message : DocumentError → String
  | .malformed fault position =>
      fault.message ++ " at line " ++ toString position.line ++ " column " ++
        toString position.column
  | .notForms => "data did not match any variant of untagged enum FormsFile"

end DocumentError

/-- Reads one JSON value and takes it for a forms file.  Whether anything follows the value is asked
only of a value that has the right shape. -/
def readForms (cs : List Char) : Except DocumentError (List Form) :=
  match Json.readValue Json.maxLevels cs with
  | .error stop => .error (.malformed stop.fault (.of cs stop))
  | .ok (value, rest) =>
      match formsOf? value with
      | none => .error .notForms
      | some forms =>
          match Json.readEnd rest with
          | .error stop => .error (.malformed stop.fault (.of cs stop))
          | .ok () => .ok forms

def readDocument (text : String) : Except DocumentError (List Form) :=
  readForms text.toList

/-- The usable forms of a text. -/
def parseForms (text : String) : Except DocumentError (List Form) :=
  (readDocument text).map Form.usable

end FormSnippet
