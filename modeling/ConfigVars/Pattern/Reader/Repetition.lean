import ConfigVars.Pattern.Reader.Escape

/-!
# Repetitions in a pattern

A repetition sign or a pair of bounds in braces repeats the part before it (`Reader.repeatLast`).
Braces that hold no bounds stand for themselves (`Reader.braces`).
-/

namespace ConfigVars.Pattern

namespace Reader

/-- The bound at and above which a number of repetitions is refused. -/
def repetitionBound : Nat := 4294967295

/-- The number that the bound of a repetition writes, if it is written. -/
def repetitions? (digits : List Char) : Reader (Option Nat) := do
  if digits.isEmpty then return none
  if Numeral.maxIntDigits < digits.length then throw (.numberTooLong digits.length)
  let n := numberIn 10 digits
  if repetitionBound ≤ n then throw .tooManyRepetitions
  return some n

/-- The bounds of a repetition behind an opening brace; nothing when the brace stands for itself. -/
def braces : Reader (Option (Nat × Option Nat)) := do
  if (← peek) = some (.plain '\x7d') then return none
  let opened ← get
  let low ← takeWhile isDecimal opened.tokens.length
  let high ← if ← accept ',' then takeWhile isDecimal opened.tokens.length else pure low
  if !(← accept '\x7d') then
    set opened
    return none
  let least := (← repetitions? low).getD 0
  let most ← repetitions? high
  if let some n := most then
    if n < least then failAt .reversedRepeat opened.position
  return some (least, most)

/-- The bounds that a repetition sign stands for. -/
def bounds (c : Char) : Reader (Option (Nat × Option Nat)) := do
  match c with
  | '?' => return some (0, some 1)
  | '*' => return some (0, none)
  | '+' => return some (1, none)
  | _ => braces

/-- Which number of repetitions is tried first. -/
def appetite : Reader Appetite := do
  if ← accept '?' then return .lazy
  else if ← accept '+' then return .possessive
  else return .greedy

/-- How messages call a repetition. -/
def operatorName : Appetite → String
  | .greedy => "MAX_REPEAT"
  | .lazy => "MIN_REPEAT"
  | .possessive => "POSSESSIVE_REPEAT"

/-- Repeats the last part of a sequence.  `sign` is where the repetition sign stands. -/
def repeatLast (flags : Flags) (sign least : Nat) (most : Option Nat) :
    List Item → Reader (List Item)
  | [] => failAt .nothingToRepeat sign
  | item :: items => do
    match item.kind with
    | .anchor => failAt .nothingToRepeat sign
    | .repeated => failAt .multipleRepeat sign
    | .plain =>
      let appetite ← appetite
      if flags.template then noteLate item.start (.templateRepeat (operatorName appetite))
      let node := .repeated least most appetite item.node
      return { item with kind := .repeated, node := node } :: items

end Reader

end ConfigVars.Pattern
