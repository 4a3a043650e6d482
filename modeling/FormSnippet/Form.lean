import FormSnippet.Text.Blank

/-!
# Form — form definitions

A form has a name, perhaps a title, and fields in declared order; a field has a name, perhaps a
label, and perhaps a description.  This module holds the definitions, the texts under which they are
shown, and the two rules that make a list of definitions usable:

- `Form.isNamed`      : a form counts only if its name has a character that is not blank
- `Form.dedupFields`  : of several fields with one name the first is kept
- `Form.usable`       : both rules, applied to a list
-/

namespace FormSnippet

/-! ## Field definitions -/

structure FieldDefinition where
  name : String
  label : Option String
  description : Option String
  deriving DecidableEq, Repr

/-- The trimmed text, unless nothing is left of it. -/
def nonblank? (text : Option String) : Option String :=
  (text.map Text.trim).filter (· ≠ "")

namespace FieldDefinition

/-- What is shown under the field list: label and description, as far as the form gives them. -/
def caption (field : FieldDefinition) : String :=
  let label := (nonblank? field.label).getD field.name
  match nonblank? field.description with
  | some description => label ++ ": " ++ description
  | none => label

end FieldDefinition

/-! ## Forms -/

structure Form where
  name : String
  title : Option String
  fields : List FieldDefinition
  deriving DecidableEq, Repr

namespace Form

/-- The title followed by the name, or the name alone where a title would add nothing. -/
def displayTitle (form : Form) : String :=
  match nonblank? form.title with
  | some title => if title = form.name then form.name else title ++ " (" ++ form.name ++ ")"
  | none => form.name

def fieldNames (form : Form) : List String :=
  form.fields.map (·.name)

def hasField (form : Form) (name : String) : Bool :=
  form.fields.any (·.name == name)

/-- The names of `names` that no field of the form carries, in order and with repetitions. -/
def unmatched (form : Form) (names : List String) : List String :=
  names.filter fun name => !form.hasField name

/-! ## Usable forms -/

def isNamed (form : Form) : Bool :=
  !Text.allBlank form.name

end Form

/-- The fields kept by `dedup`, given the names that have occurred already. -/
def dedupFrom (seen : List String) : List FieldDefinition → List FieldDefinition
  | [] => []
  | field :: rest =>
      if field.name ∈ seen then dedupFrom seen rest
      else field :: dedupFrom (field.name :: seen) rest

/-- The fields left out by `dedup`, given the names that have occurred already. -/
def repeatedFrom (seen : List String) : List FieldDefinition → List FieldDefinition
  | [] => []
  | field :: rest =>
      if field.name ∈ seen then field :: repeatedFrom seen rest
      else repeatedFrom (field.name :: seen) rest

namespace Form

def dedupFields (form : Form) : Form :=
  { form with fields := dedupFrom [] form.fields }

/-- The names of the fields that `dedupFields` leaves out, in declared order. -/
def repeatedFields (form : Form) : List String :=
  (repeatedFrom [] form.fields).map (·.name)

def usable (forms : List Form) : List Form :=
  (forms.filter isNamed).map dedupFields

/-- The fields that `usable` leaves out, as pairs of form name and field name. -/
def droppedFields (forms : List Form) : List (String × String) :=
  (forms.filter isNamed).flatMap fun form => form.repeatedFields.map (form.name, ·)

end Form
end FormSnippet
