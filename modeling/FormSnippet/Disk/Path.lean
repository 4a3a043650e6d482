/-!
# Path — names of places on a disk

A path is a text in which slashes separate the steps to a place.  A path that begins with a slash
starts at the top of the disk, any other one at the working directory.  The parent of a path is
found on the text alone, so that messages show it as it was written.

- `Path.steps`    : the steps, without the empty ones
- `Path.parent?`  : the text without its last step
- `Path.join`     : a path continued by another
-/

namespace FormSnippet

structure Path where
  text : String
  deriving DecidableEq, Repr, Inhabited

namespace Path

/-! ## Steps -/

/-- The pieces between the slashes; `piece` holds, last character first, the one being read. -/
def piecesFrom : List Char → List Char → List String
  | piece, [] => [String.ofList piece.reverse]
  | piece, c :: cs =>
      if c = '/' then String.ofList piece.reverse :: piecesFrom [] cs
      else piecesFrom (c :: piece) cs

def steps (path : Path) : List String :=
  (piecesFrom [] path.text.toList).filter (· ≠ "")

def isAbsolute (path : Path) : Bool :=
  path.text.toList.head? = some '/'

def endsInSlash (path : Path) : Bool :=
  path.text.toList.getLast? = some '/'

/-! ## Parents -/

/-- A path read backwards, without the slashes and the steps `.` at its end.  A slash or a step `.`
with which the path begins stays. -/
def trimBack : List Char → List Char
  | ['/'] => ['/']
  | '/' :: rest => trimBack rest
  | ['.', '/'] => ['/']
  | '.' :: '/' :: rest => trimBack rest
  | text => text

/-- The path without its last step; `none` if it has no step. -/
def parent? (path : Path) : Option Path :=
  match trimBack path.text.toList.reverse with
  | [] => none
  | ['/'] => none
  | text => some ⟨String.ofList (trimBack (text.dropWhile (· ≠ '/'))).reverse⟩

def join (base : Path) (next : String) : Path :=
  if next.toList.head? = some '/' then ⟨next⟩
  else if base.text = "" || base.endsInSlash then ⟨base.text ++ next⟩
  else ⟨base.text ++ "/" ++ next⟩

end Path
end FormSnippet
