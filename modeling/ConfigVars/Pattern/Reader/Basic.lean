import ConfigVars.Pattern.Fault
import ConfigVars.Pattern.Flags
import ConfigVars.Pattern.Node
import ConfigVars.Table

/-!
# A reader of patterns

A reader keeps the tokens to come, the groups so far and the flags of the whole pattern
(`ReaderState`), and stops at the first fault (`Reader.fail`).  A backslash that ends the text is a
fault as soon as it is the next token, whatever the reader is at.
-/

namespace ConfigVars.Pattern

/-- How far a pattern has been read. -/
structure ReaderState where
  tokens : List Token
  /-- Where the next token starts. -/
  position : Nat := 0
  /-- The flags of the whole pattern. -/
  flags : Flags
  names : Table String Nat := ∅
  /-- The widths of the groups, by number; a group that is not closed yet has none. -/
  widths : List (Option Width) := [none]
  /-- In a look behind, the number that the next group had at its start. -/
  behindFrom : Option Nat := none
  /-- The groups that conditions ask for, with the place of the first such condition. -/
  conditions : Table Nat Nat := ∅
  /-- The foremost fault that shows only when the whole is read, and where its part starts. -/
  late : Option (Nat × Fault) := none

/-- Reads a part of a pattern. -/
abbrev Reader := StateT ReaderState (Except Refusal)

namespace Reader

/-- Stops at a fault some characters before the next token. -/
def fail {α : Type} (fault : Fault) (offset : Nat) : Reader α := do
  throw (.malformed fault (some ((← get).position - offset)))

/-- Stops at a fault at a place. -/
def failAt {α : Type} (fault : Fault) (position : Nat) : Reader α :=
  throw (.malformed fault (some position))

/-- The next token stays. -/
def peek : Reader (Option Token) := do return (← get).tokens.head?

/-- A backslash that ends the pattern is a fault as soon as it comes up. -/
def checkDangling : Reader Unit := do
  if (← peek) = some .dangling then fail .escapeAtEnd 0

/-- Takes the next token. -/
def take : Reader (Option Token) := do
  let s ← get
  match s.tokens with
  | [] => return none
  | t :: rest =>
    set { s with tokens := rest, position := s.position + t.length }
    checkDangling
    return some t

/-- Takes the next token if it is a certain character. -/
def accept (c : Char) : Reader Bool := do
  if (← peek) = some (.plain c) then
    let _ ← take
    return true
  else return false

/-- Takes a limited number of characters of a kind. -/
def takeWhile (p : Char → Bool) : Nat → Reader (List Char)
  | 0 => return []
  | n + 1 => do
    match ← peek with
    | some (.plain c) =>
      if p c then
        let _ ← take
        return c :: (← takeWhile p n)
      else return []
    | _ => return []

/-- The number of tokens to come. -/
def remaining : Reader Nat := do return (← get).tokens.length

/-- Takes the text up to a character, and that character too if it comes. -/
def takeThrough (stop : Char) : Nat → Reader (String × Bool)
  | 0 => return ("", false)
  | n + 1 => do
    match ← take with
    | none => return ("", false)
    | some t =>
      if t = .plain stop then return ("", true)
      else
        let (text, closed) ← takeThrough stop n
        return (t.text ++ text, closed)

/-- Takes a name up to the character that ends it. -/
def name (stop : Char) (what : String) : Reader String := do
  let (text, closed) ← takeThrough stop ((← remaining) + 1)
  if closed then
    if text.isEmpty then fail (.missing what) 1 else return text
  else if text.isEmpty then fail (.missing what) 0
  else fail (.unterminatedName stop.toString) text.length

/-! ### Groups -/

/-- The number of groups so far, the whole pattern being one. -/
def groupCount : Reader Nat := do return (← get).widths.length

/-- Whether a group has been closed. -/
def isClosed (group : Nat) : Reader Bool := do return (((← get).widths[group]?).join).isSome

/-- In a look behind only the groups before it may be referred to. -/
def checkLookBehind (group : Nat) : Reader Unit := do
  match (← get).behindFrom with
  | none => return ()
  | some first =>
    if !(← isClosed group) then fail .openGroupReference 0
    if first ≤ group then fail .lookBehindReference 0

/-- Opens a group. -/
def openGroup (name? : Option String) : Reader Nat := do
  let s ← get
  let group := s.widths.length
  set { s with widths := s.widths ++ [none] }
  match name? with
  | none => return group
  | some n =>
    match s.names.get? n with
    | some former => fail (.redefinedGroup n group former) (n.length + 1)
    | none =>
      modify fun s => { s with names := s.names.put n group }
      return group

/-- The widths of a part. -/
def width (node : Node) : Reader Width := do
  let widths := (← get).widths
  return node.width fun group => ((widths[group]?).join).getD .zero

/-- Closes a group. -/
def closeGroup (group : Nat) (body : Node) : Reader Unit := do
  let w ← width body
  modify fun s => { s with widths := s.widths.set group (some w) }

/-- Notes a fault that shows only when the whole is read.  The one whose part starts first counts,
and of two that start together the outer one. -/
def noteLate (start : Nat) (fault : Fault) : Reader Unit :=
  modify fun s =>
    match s.late with
    | none => { s with late := some (start, fault) }
    | some (start', _) => if start ≤ start' then { s with late := some (start, fault) } else s

end Reader

end ConfigVars.Pattern
