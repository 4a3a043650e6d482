/-!
# Field — the selection made for one field

A field of an open form is either included, perhaps written into the frontmatter and perhaps
flagged for the body, or omitted.  A patch says which of these settings to change; merging it never
touches the name.

- `Choice`        : the setting of a field
- `Patch`         : a partial change of it
- `Choice.merge`  : the merge rule
-/

namespace FormSnippet

/-! ## Choices and patches -/

inductive Choice
  | included (frontmatter body : Bool)
  | omitted
  deriving DecidableEq, Repr

structure Patch where
  omitted : Option Bool := none
  frontmatter : Option Bool := none
  body : Option Bool := none
  deriving DecidableEq, Repr

namespace Choice

/-- Included, with both flags off. -/
def fresh : Choice :=
  .included false false

def isOmitted : Choice → Bool
  | .included _ _ => false
  | .omitted => true

def onFrontmatter : Choice → Bool
  | .included frontmatter _ => frontmatter
  | .omitted => false

def onBody : Choice → Bool
  | .included _ body => body
  | .omitted => false

/-- An omitted field has no flags, so one that comes back starts from both flags off. -/
def merge (choice : Choice) (patch : Patch) : Choice :=
  if patch.omitted.getD choice.isOmitted then
    .omitted
  else
    .included (patch.frontmatter.getD choice.onFrontmatter) (patch.body.getD choice.onBody)

/-- Writes an included field into the frontmatter, or not; an omitted field stays omitted. -/
def setFrontmatter (value : Bool) : Choice → Choice
  | .included _ body => .included value body
  | .omitted => .omitted

end Choice

namespace Patch

def omitting (value : Bool) : Patch :=
  { omitted := some value }

def frontmattering (value : Bool) : Patch :=
  { frontmatter := some value }

def bodying (value : Bool) : Patch :=
  { body := some value }

end Patch

/-! ## Fields -/

structure Field where
  name : String
  choice : Choice
  deriving DecidableEq, Repr

namespace Field

def new (name : String) : Field :=
  ⟨name, .fresh⟩

def isOmitted (field : Field) : Bool :=
  field.choice.isOmitted

def onFrontmatter (field : Field) : Bool :=
  field.choice.onFrontmatter

def onBody (field : Field) : Bool :=
  field.choice.onBody

def patched (field : Field) (patch : Patch) : Field :=
  { field with choice := field.choice.merge patch }

def setFrontmatter (value : Bool) (field : Field) : Field :=
  { field with choice := field.choice.setFrontmatter value }

end Field

/-! ## The first match of a list -/

/-- Replaces the first element that satisfies `p`; `none` if no element does. -/
def updateFirst? {α : Type} (p : α → Bool) (update : α → α) : List α → Option (List α)
  | [] => none
  | x :: rest =>
      if p x then some (update x :: rest) else (updateFirst? p update rest).map (x :: ·)

end FormSnippet
