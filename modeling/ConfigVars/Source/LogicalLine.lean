/-!
# Logical lines

A line that ends in an odd number of backslashes goes on with the next one, and loses the last
backslash; of an even number the last is lost too, but the line ends (`logicalLines`).  A logical
line has the number of its first physical line.
-/

namespace ConfigVars

/-- A line put together from physical lines. -/
structure LogicalLine where
  /-- The number of its first physical line, counted from one. -/
  number : Nat
  text : List Char
  deriving DecidableEq, Repr

/-- A physical line without the characters that end it. -/
def withoutEnd (line : List Char) : List Char :=
  (line.reverse.dropWhile fun c => c = '\r' || c = '\n').reverse

/-- The number of backslashes at the end of a line. -/
def trailingBackslashes (line : List Char) : Nat := (line.reverse.takeWhile (· = '\\')).length

/-- What a physical line, without its end, adds to a logical line. -/
def contribution (line : List Char) : List Char :=
  if trailingBackslashes line = 0 then line else line.dropLast

/-- Whether a physical line, without its end, goes on with the next one. -/
def goesOn (line : List Char) : Bool := trailingBackslashes line % 2 = 1

/-- The logical lines from a physical line on.  `started` is what has been read of a logical line
that goes on, and `number` that of the next physical line. -/
def logicalFrom (number : Nat) (started : Option LogicalLine) :
    List (List Char) → List LogicalLine × Option LogicalLine
  | [] => ([], started)
  | raw :: rest =>
    let line := withoutEnd raw
    let sofar := started.getD ⟨number, []⟩
    let joined := { sofar with text := sofar.text ++ contribution line }
    if goesOn line then logicalFrom (number + 1) (some joined) rest
    else
      let (found, waiting) := logicalFrom (number + 1) none rest
      (joined :: found, waiting)

/-- The complete logical lines of physical lines, and the one that waits for its next line. -/
def splitLogical (lines : List (List Char)) : List LogicalLine × Option LogicalLine :=
  logicalFrom 1 none lines

/-- The logical lines of physical lines, with the one that waits in vain. -/
def logicalLines (lines : List (List Char)) : List LogicalLine :=
  let (found, waiting) := splitLogical lines
  found ++ waiting.toList

end ConfigVars
