import ConfigVars.Text.Blank

/-!
# Assignments

A line names a variable and may give it a value (`Assignment.ofLine`).  The name is the longest
start of the line without a blank or an equals sign.  What separates it from the value is an equals
sign with blanks around it, or blanks alone.
-/

namespace ConfigVars

open ConfigVars.Text

/-- A name with a value or none. -/
structure Assignment where
  name : List Char
  value : Option (List Char)
  deriving DecidableEq, Repr

namespace Assignment

/-- Whether a character belongs to a name. -/
def isNameChar (c : Char) : Bool := !isBlank c && c ≠ '='

/-- The value behind a name, where `rest` is what follows the name. -/
def valueOf (rest : List Char) : Option (List Char) :=
  match rest with
  | [] => none
  | _ =>
    match rest.dropWhile isBlank with
    | '=' :: value => some (value.dropWhile isBlank)
    | value => some value

/-- The assignment that a line is, unless it has no name. -/
def ofLine (line : List Char) : Option Assignment :=
  let name := line.takeWhile isNameChar
  if name.isEmpty then none else some ⟨name, valueOf (line.dropWhile isNameChar)⟩

end Assignment

end ConfigVars
