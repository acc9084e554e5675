import ConfigVars.Pattern.Node
import ConfigVars.Table

/-!
# Searching a text for a pattern

A part of a pattern is run from a place in the text (`Spot`) with what is to follow it
(`Node.run`): it tries its own matches in their order of preference and answers with the first
after which the rest succeeds.  Repetitions are the only loops.  A repetition beyond the least
number is tried only if the one before it moved on in the text, so the number of rounds is bounded
by the length of the text (`Appetite.rounds`).
-/

namespace ConfigVars.Pattern

open ConfigVars.Text

/-- A place in a text, with what stands on either side, and where the groups have matched. -/
structure Spot where
  /-- The characters before the place, nearest first. -/
  before : List Char
  /-- The characters behind the place. -/
  after : List Char
  position : Nat
  starts : Table Nat Nat
  stops : Table Nat Nat

namespace Spot

/-- The start of a text. -/
def start (text : List Char) : Spot := ⟨[], text, 0, ∅, ∅⟩

/-- The place behind the next character. -/
def next? (s : Spot) : Option (Char × Spot) :=
  match s.after with
  | [] => none
  | c :: rest =>
    some (c, { s with before := c :: s.before, after := rest, position := s.position + 1 })

/-- The place some characters back. -/
def back (s : Spot) (width : Nat) : Spot :=
  { s with
    before := s.before.drop width
    after := (s.before.take width).reverse ++ s.after
    position := s.position - width }

/-- Where a group has matched: its start and its end. -/
def range? (s : Spot) (number : Nat) : Option (Nat × Nat) :=
  match s.starts.get? number, s.stops.get? number with
  | some a, some b => if a ≤ b then some (a, b) else none
  | _, _ => none

/-- The text that a group has matched. -/
def captured? (s : Spot) (number : Nat) : Option (List Char) :=
  (s.range? number).map fun (a, b) => ((s.before.reverse ++ s.after).drop a).take (b - a)

/-- Whether the nearest of some characters belongs to a word. -/
def touchesWord (plain : Bool) : List Char → Bool
  | [] => false
  | c :: _ => Category.word.contains plain c.toNat

/-- Whether a word starts or ends at this place. -/
def atBoundary (s : Spot) (plain : Bool) : Bool :=
  touchesWord plain s.before != touchesWord plain s.after

/-- Whether the text is empty. -/
def isBare (s : Spot) : Bool := s.before.isEmpty && s.after.isEmpty

end Spot

/-- Whether a place is the one that an anchor names.  An empty text has neither word boundaries
nor other places to compare them with. -/
def Anchor.holds (s : Spot) : Anchor → Bool
  | .textStart => s.before.isEmpty
  | .lineStart => s.before.isEmpty || s.before.head? = some '\n'
  | .textEnd => s.after.isEmpty
  | .lastLineEnd => s.after.isEmpty || s.after = ['\n']
  | .lineEnd => s.after.isEmpty || s.after.head? = some '\n'
  | .wordBoundary plain => !s.isBare && s.atBoundary plain
  | .notWordBoundary plain => !s.isBare && !s.atBoundary plain

/-- What follows a part: the answer from the place where the part has ended. -/
abbrev Rest := Spot → Option Spot

/-- Runs over the characters that a group has matched. -/
def follow (comparison : Comparison) : List Char → Spot → Option Spot
  | [], s => some s
  | c :: rest, s =>
    match s.next? with
    | some (d, s') =>
      if comparison.folded c.toNat = comparison.folded d.toNat then follow comparison rest s'
      else none
    | none => none

/-- Whether one more repetition is allowed. -/
def allowsMore (most : Option Nat) (count : Nat) : Bool :=
  match most with
  | none => true
  | some n => count < n

/-- The rounds of a repetition.  `count` repetitions are done, and `last?` is where the last one
beyond the least number started. -/
def Appetite.rounds (step : Spot → Rest → Option Spot) (least : Nat) (most : Option Nat)
    (appetite : Appetite) : Nat → Nat → Option Nat → Spot → Rest → Option Spot
  | 0, _, _, s, rest => rest s
  | fuel + 1, count, last?, s, rest =>
    let again (started : Option Nat) (s' : Spot) :=
      appetite.rounds step least most fuel (count + 1) started s' rest
    let more := allowsMore most count && last? != some s.position
    if count < least then
      match appetite with
      | .possessive => (step s some).bind (again last?)
      | _ => step s (again last?)
    else
      match appetite with
      | .greedy =>
        if more then
          match step s (again (some s.position)) with
          | some s' => some s'
          | none => rest s
        else rest s
      | .lazy =>
        match rest s with
        | some s' => some s'
        | none => if more then step s (again (some s.position)) else none
      | .possessive =>
        if more then
          match step s some with
          | some s' => again (some s.position) s'
          | none => rest s
        else rest s

/-- Runs a part of a pattern from a place, and then what follows it. -/
def Node.run : Node → Spot → Rest → Option Spot
  | .empty, s, rest => rest s
  | .set chars comparison, s, rest =>
    match s.next? with
    | some (c, s') => if chars.admits comparison c then rest s' else none
    | none => none
  | .anchor a, s, rest => if a.holds s then rest s else none
  | .seq a b, s, rest => a.run s fun s' => b.run s' rest
  | .alt a b, s, rest =>
    match a.run s rest with
    | some s' => some s'
    | none => b.run s rest
  | .group number body, s, rest =>
    body.run { s with starts := s.starts.put number s.position } fun s' =>
      rest { s' with stops := s'.stops.put number s'.position }
  | .reference number comparison, s, rest =>
    ((s.captured? number).bind fun text => follow comparison text s).bind rest
  | .condition number yes no, s, rest =>
    if (s.range? number).isSome then yes.run s rest else no.run s rest
  | .lookAhead negated body, s, rest =>
    match body.run s some with
    | some s' => if negated then none else rest { s with starts := s'.starts, stops := s'.stops }
    | none => if negated then rest s else none
  | .lookBehind width negated body, s, rest =>
    if s.position < width then if negated then rest s else none
    else
      match body.run (s.back width) some with
      | some s' => if negated then none else rest { s with starts := s'.starts, stops := s'.stops }
      | none => if negated then rest s else none
  | .repeated least most appetite body, s, rest =>
    appetite.rounds (fun s' rest' => body.run s' rest') least most (least + s.after.length + 2)
      0 none s rest
  | .atomic body, s, rest => (body.run s some).bind rest

/-- Looks for a match from a place on, which has so many characters behind it. -/
def Node.searchFrom (node : Node) : Nat → Spot → Bool
  | 0, s => (node.run s some).isSome
  | n + 1, s =>
    (node.run s some).isSome ||
      match s.next? with
      | some (_, s') => node.searchFrom n s'
      | none => false

/-- Whether a part of a pattern matches somewhere in a text. -/
def Node.search (node : Node) (text : List Char) : Bool :=
  node.searchFrom text.length (.start text)

end ConfigVars.Pattern
