import ConfigVars.Pattern.Reader.Opening
import ConfigVars.Pattern.Reader.Repetition

/-!
# Reading a whole pattern

A pattern is made of alternatives, these of sequences of parts, and a part may be a group of
alternatives again (`Reader.alternatives`, `Reader.items`, `Reader.group`).  Every step takes a
token or goes down into a group, so the number of tokens bounds the steps.  A few rules need the
whole pattern and are looked at last (`Reader.wholePattern`): conditions on groups that never come,
and parts whose width matters.
-/

namespace ConfigVars.Pattern

namespace Reader

/-- The parts of a sequence, last first, as one. -/
def sequence (items : List Item) : Node :=
  match items with
  | [] => .empty
  | last :: before => before.foldl (fun node item => .seq item.node node) last.node

/-- Needs a closing bracket for the one at a place. -/
def closing (opened : Nat) : Reader Unit := do
  if !(← accept ')') then failAt .unterminatedGroup opened

/-- White space that a verbose pattern may have between its parts. -/
def isLayout (c : Char) : Bool := c = ' ' || (9 ≤ c.toNat && c.toNat ≤ 13)

/-- The anchor that a sign stands for. -/
def lineAnchor (flags : Flags) (c : Char) : Anchor :=
  if c = '^' then if flags.multiLine then .lineStart else .textStart
  else if flags.multiLine then .lineEnd else .lastLineEnd

/-- The set of characters that a point stands for. -/
def anyCharacter (flags : Flags) : Node :=
  .set ⟨if flags.dotAll then [] else [.code '\n'.toNat], true⟩ .exact

/-- The look behind that a body makes; its width has to be fixed. -/
def behind (opened : Nat) (negated : Bool) (body : Node) : Reader Node := do
  let w ← width body
  if repetitionBound < w.least then noteLate opened .farLookBehind
  else if w.least ≠ w.most then noteLate opened .variableLookBehind
  return .lookBehind w.least negated body

mutual

/-- Alternatives up to the end of the text or of the group.  `isTop` tells those of the whole
pattern. -/
def alternatives : Nat → Flags → Bool → Bool → Reader Node
  | 0, _, _, _ => fail .unexpectedEnd 0
  | fuel + 1, flags, isTop, isFirst => do
    let first ← items fuel flags (isTop && isFirst) []
    if ← accept '|' then
      let whole := (← get).flags
      return .alt first (← alternatives fuel (if isTop then whole else flags) isTop false)
    else return first

/-- The parts of a sequence, behind those that have been read.  `mayFlag` tells the place where the
flags of the whole pattern may stand. -/
def items : Nat → Flags → Bool → List Item → Reader Node
  | 0, _, _, _ => fail .unexpectedEnd 0
  | fuel + 1, flags, mayFlag, done => do
    let start := (← get).position
    match ← peek with
    | none | some (.plain '|') | some (.plain ')') => return sequence done
    | some t =>
      let _ ← take
      match t with
      | .dangling => fail .escapeAtEnd 1
      | .escaped c =>
        let (kind, node) ← escape flags c
        items fuel flags mayFlag (⟨kind, node, start⟩ :: done)
      | .plain c =>
        if flags.verbose && isLayout c then items fuel flags mayFlag done
        else if flags.verbose && c = '#' then
          let _ ← takeThrough '\n' ((← remaining) + 1)
          items fuel flags mayFlag done
        else if c = '[' then
          let node ← charSet flags start
          items fuel flags mayFlag (⟨.plain, node, start⟩ :: done)
        else if c = '*' || c = '+' || c = '?' || c = '\x7b' then
          match ← bounds c with
          | none => items fuel flags mayFlag (⟨.plain, literal flags c.toNat, start⟩ :: done)
          | some (least, most) =>
            items fuel flags mayFlag (← repeatLast flags start least most done)
        else if c = '.' then
          items fuel flags mayFlag (⟨.plain, anyCharacter flags, start⟩ :: done)
        else if c = '^' || c = '$' then
          items fuel flags mayFlag (⟨.anchor, .anchor (lineAnchor flags c), start⟩ :: done)
        else if c = '(' then
          let what ←
            if ← accept '?' then opening flags start else pure (.captured none)
          match what with
          | .comment => items fuel flags mayFlag done
          | .flags _ =>
            if !mayFlag || !done.isEmpty then failAt .lateFlags start
            let whole := (← get).flags
            items fuel whole mayFlag done
          | _ =>
            let node ← group fuel flags start what
            items fuel flags mayFlag (⟨.plain, node, start⟩ :: done)
        else items fuel flags mayFlag (⟨.plain, literal flags c.toNat, start⟩ :: done)

/-- A group of which the kind has been read. -/
def group : Nat → Flags → Nat → Opening → Reader Node
  | 0, _, _, _ => fail .unexpectedEnd 0
  | fuel + 1, flags, opened, what => do
    match what with
    | .captured name? =>
      let number ← openGroup name?
      let body ← alternatives fuel flags false true
      closing opened
      closeGroup number body
      return .group number body
    | .bare on off =>
      let body ← alternatives fuel (flags.adjusted on off) false true
      closing opened
      return body
    | .atomic =>
      let body ← alternatives fuel flags false true
      closing opened
      return .atomic body
    | .lookAhead negated =>
      let body ← alternatives fuel flags false true
      closing opened
      return .lookAhead negated body
    | .lookBehind negated =>
      let former := (← get).behindFrom
      modify fun s => { s with behindFrom := former.or (some s.widths.length) }
      let body ← alternatives fuel flags false true
      modify fun s => { s with behindFrom := former }
      closing opened
      behind opened negated body
    | .condition number =>
      let yes ← items fuel flags false []
      if ← accept '|' then
        let no ← items fuel flags false []
        if (← peek) = some (.plain '|') then fail .tooManyBranches 0
        closing opened
        return .condition number yes no
      else
        closing opened
        return .condition number yes .empty
    | .reference node => return node
    | .comment | .flags _ => return .empty

end

/-- Reads the whole pattern, and then looks at the rules that need it. -/
def wholePattern : Reader Node := do
  checkDangling
  let node ← alternatives (5 * ((← remaining) + 2)) (← get).flags true true
  let s ← get
  if s.flags.plainAlphabet && s.flags.everyScript then throw .conflictingAlphabets
  if !s.tokens.isEmpty then fail .unbalancedGroup 0
  match s.conditions.entries.find? fun (group, _) => s.widths.length ≤ group with
  | some (group, position) => failAt (.invalidReference group) position
  | none =>
    match s.late with
    | some (_, fault) => throw (.malformed fault none)
    | none => return node

end Reader

end ConfigVars.Pattern
