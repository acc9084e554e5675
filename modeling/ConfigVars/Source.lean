import ConfigVars.Failure
import ConfigVars.Source.FileTree
import ConfigVars.Source.Line
import ConfigVars.Text.Utf8

/-!
# Sources of lines

Variables are read from a file, from the text of a stream, or from lines that come one by one and
may break off (`Source`).  `Source.read` gives the lines of a source and how they end: all are
there, the rest cannot be read, or the source itself fails.
-/

namespace ConfigVars

open ConfigVars.Text

/-- Why lines that come one by one break off. -/
inductive BreakOff where
  /-- The rest cannot be read, for a reason in words. -/
  | unreadable (reason : String)
  | failing (failure : Failure)

/-- Where lines come from. -/
inductive Source where
  | path (path : String)
  | text (content : String) (name : Option String)
  | lines (ls : List String)
  /-- Lines one by one. -/
  | feed (ls : List String) (name : Option String) (breakOff : Option BreakOff)

/-- The lines of a source, and why there are no more if they break off. -/
structure Reading where
  lines : List String
  breakOff : Option BreakOff := none

namespace Source

/-- The name of a source that has none. -/
def unnamed : String := "<stream>"

/-- The name under which problems are told. -/
def name : Source → String
  | .path p => p
  | .text _ name | .feed _ name _ => name.getD unnamed
  | .lines _ => unnamed

/-- A source as an argument of a script. -/
def toValue : Source → Value
  | .path p => .text p
  | .text _ none => .stream .text
  | .text _ (some _) => .stream .namedText
  | .lines ls => .list (ls.map .text)
  | .feed .. => .stream .lines

/-- The lines of the bytes of a file.  A fault in the middle is met before the first line is used;
where the bytes end inside a character, the complete lines before it are. -/
def ofBytes (bytes : List UInt8) : Reading :=
  match Utf8.decode bytes with
  | (cs, .complete) => { lines := (linesOf (unified cs)).map String.ofList }
  | (_, .broken defect) => { lines := [], breakOff := some (.unreadable defect.message) }
  | (cs, .cutOff tail) =>
    let known := if cs.getLast? = some '\r' then cs.dropLast else cs
    { lines := (completeLines (unified known)).map String.ofList
      breakOff := some (.unreadable (Utf8.Defect.message ⟨0, tail, .endOfData⟩)) }

/-- Why a source cannot be opened. -/
inductive Fault where
  | file (fault : OpenFault)
  | failure (f : Failure)

/-- The lines of a source. -/
def read (files : FileTree) : Source → Except Fault Reading
  | .path p =>
    if p.toList.contains '\x00' then .error (.failure (.unusable "embedded null byte"))
    else
      match files.openFile p with
      | .ok bytes => .ok (ofBytes bytes)
      | .error fault => .error (.file fault)
  | .text content _ => .ok { lines := (linesOf content.toList).map String.ofList }
  | .lines ls => .ok { lines := ls }
  | .feed ls _ breakOff => .ok { lines := ls, breakOff }

end Source

end ConfigVars
