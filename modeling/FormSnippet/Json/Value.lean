/-!
# Value — JSON values

A JSON value as it is written: an object keeps its members in order, repeated names included, and a
number keeps its literal, since no reader of forms looks at its magnitude.
-/

namespace FormSnippet
namespace Json

inductive Value
  | null
  | bool (value : Bool)
  | number (literal : String)
  | string (text : String)
  | array (items : List Value)
  | object (members : List (String × Value))
  deriving Repr, Inhabited

/-- The values of all members of that name, in order. -/
def membersNamed (name : String) (members : List (String × Value)) : List Value :=
  members.filterMap fun member => if member.1 = name then some member.2 else none

end Json
end FormSnippet
