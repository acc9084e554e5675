/-!
# Physical lines

A text is cut into lines, each of which keeps its line feed (`linesOf`).  In a file, a carriage
return ends a line as well, alone or with a line feed behind it, and counts as a line feed
(`unified`).
-/

namespace ConfigVars

/-- The characters of a text with one kind of line end. -/
def unified : List Char → List Char
  | [] => []
  | ['\r'] => ['\n']
  | '\r' :: '\n' :: rest => '\n' :: unified rest
  | '\r' :: c :: rest => '\n' :: unified (c :: rest)
  | c :: rest => c :: unified rest

/-- Puts a character in front of the first of some lines. -/
def atFront (c : Char) : List (List Char) → List (List Char)
  | [] => [[c]]
  | line :: rest => (c :: line) :: rest

/-- The lines of a text, each with its line feed. -/
def linesOf : List Char → List (List Char)
  | [] => []
  | c :: rest => if c = '\n' then ['\n'] :: linesOf rest else atFront c (linesOf rest)

/-- The lines of a text without the last one, if that has no line feed. -/
def completeLines (cs : List Char) : List (List Char) :=
  (linesOf cs).filter fun line => line.getLast? = some '\n'

end ConfigVars
