import ConfigVars.Number.Numeral
import ConfigVars.Pattern.Reader.FlagScope

/-!
# The kinds of groups

What stands behind an opening bracket and a question mark tells the kind of a group
(`Reader.opening`): one that is remembered under a name, a bare or an atomic one, a look ahead or
behind, a condition, a reference, a comment, or flags.
-/

namespace ConfigVars.Pattern

open ConfigVars.Text

namespace Reader

/-- The bound at and above which a group number is refused. -/
def groupBound : Nat := 2147483647

/-- The name of a group, which has to be an identifier. -/
def groupName (stop : Char) : Reader String := do
  let n ← name stop "group name"
  if !isIdentifier n.toList then fail (.badGroupName n) (n.length + 1)
  return n

/-- The group that a name stands for. -/
def namedGroup (n : String) : Reader Nat := do
  match (← get).names.get? n with
  | some group => return group
  | none => fail (.unknownGroupName n) (n.length + 1)

/-- The reference to a group by its name. -/
def namedReference (flags : Flags) : Reader Node := do
  let n ← groupName ')'
  let group ← namedGroup n
  if !(← isClosed group) then fail .openGroupReference (n.length + 1)
  checkLookBehind group
  return .reference group flags.comparison

/-- The group that a condition asks for, by name or by number. -/
def conditionGroup : Reader Nat := do
  let n ← name ')' "group name"
  let group ←
    if isIdentifier n.toList then namedGroup n
    else
      match Numeral.int? n with
      | some (.ofNat group) =>
        if group = 0 then fail .badGroupNumber (n.length + 1)
        if groupBound ≤ group then fail (.invalidReference group) (n.length + 1)
        modify fun s =>
          if s.conditions.contains group then s
          else { s with conditions := s.conditions.put group (s.position - n.length - 1) }
        pure group
      | _ => fail (.badGroupName n) (n.length + 1)
  checkLookBehind group
  return group

/-- A group of which only the kind has been read. -/
inductive Opening where
  | captured (name? : Option String)
  | bare (on off : Flags)
  | atomic
  | lookAhead (negated : Bool)
  | lookBehind (negated : Bool)
  | condition (group : Nat)
  | reference (node : Node)
  | comment
  | flags (on : Flags)

/-- What follows an opening bracket and a question mark.  `opened` is where the bracket stands. -/
def opening (flags : Flags) (opened : Nat) : Reader Opening := do
  match ← take with
  | none => fail .unexpectedEnd 0
  | some t =>
    match t with
    | .plain 'P' =>
      if ← accept '<' then return .captured (some (← groupName '>'))
      else if ← accept '=' then return .reference (← namedReference flags)
      else
        match ← take with
        | none => fail .unexpectedEnd 0
        | some t' => fail (.unknownExtension ("P" ++ t'.text)) (t'.length + 2)
    | .plain ':' => return .bare {} {}
    | .plain '#' =>
      let (_, closed) ← takeThrough ')' ((← remaining) + 1)
      if closed then return .comment else failAt .unterminatedComment opened
    | .plain '=' => return .lookAhead false
    | .plain '!' => return .lookAhead true
    | .plain '<' =>
      match ← take with
      | none => fail .unexpectedEnd 0
      | some (.plain '=') => return .lookBehind false
      | some (.plain '!') => return .lookBehind true
      | some t' => fail (.unknownExtension ("<" ++ t'.text)) (t'.length + 2)
    | .plain '(' => return .condition (← conditionGroup)
    | .plain '>' => return .atomic
    | _ =>
      if (Flags.ofLetter? t).isSome || t = .plain '-' then
        match ← flagScope t with
        | .whole on =>
          modify fun s => { s with flags := s.flags.union on }
          return .flags on
        | .part on off => return .bare on off
      else fail (.unknownExtension t.text) (t.length + 1)

end Reader

end ConfigVars.Pattern
