/-!
# Lines — the lines of a text

A line ends at a line feed, and a carriage return right before the line feed belongs to the line
end.  A text that ends with a line feed has no further line behind it.
-/

namespace FormSnippet
namespace Text

/-- The lines of `cs`, where `line` holds, last character first, the line that is being read. -/
def linesFrom : List Char → List Char → List (List Char)
  | line, [] => if line.isEmpty then [] else [line.reverse]
  | line, '\n' :: cs =>
      match line with
      | '\r' :: line => line.reverse :: linesFrom [] cs
      | line => line.reverse :: linesFrom [] cs
  | line, c :: cs => linesFrom (c :: line) cs

def lines (cs : List Char) : List (List Char) :=
  linesFrom [] cs

/-- The lines of a text that is shown as a block: even an empty text takes a line. -/
def blockLines (cs : List Char) : List (List Char) :=
  if cs.isEmpty then [[]] else lines cs

end Text
end FormSnippet
