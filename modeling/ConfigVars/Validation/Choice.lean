import ConfigVars.Failure
import ConfigVars.Number.Numeral
import ConfigVars.Text.LetterCase
import ConfigVars.Value.Equality

/-!
# Choices

A choice accepts a value that is among others after a cast (`Choice.accepts`).  A cast makes a text,
a number or a truth value of a value (`Cast.apply`), or refuses it; a value that is refused is not
among the choices.  No text is made of a value that shows an integer with too many digits
(`Value.isWritable`).
-/

namespace ConfigVars

open ConfigVars.Text

mutual

/-- Whether every integer that the text of a value shows has few enough digits to be written. -/
def Value.isWritable : Value → Bool
  | .int n => n.natAbs < Nat.pow 10 Numeral.maxIntDigits
  | .list items | .tuple items => Value.allWritable items
  | .map entries => Value.entriesWritable entries
  | .problem p => p.isWritable
  | .outcome o => o.isWritable
  | _ => true

/-- Whether the values of a container can be written. -/
def Value.allWritable : List Value → Bool
  | [] => true
  | item :: rest => item.isWritable && Value.allWritable rest

/-- Whether the entries of a map can be written. -/
def Value.entriesWritable : List (Value × Value) → Bool
  | [] => true
  | (k, v) :: rest => k.isWritable && v.isWritable && Value.entriesWritable rest

/-- Whether the details of a problem can be written. -/
def Problem.isWritable : Problem → Bool
  | .general details => Value.allWritable details
  | _ => true

/-- Whether problems can be written. -/
def Problem.allWritable : List Problem → Bool
  | [] => true
  | p :: rest => p.isWritable && Problem.allWritable rest

/-- Whether the problems of an outcome can be written. -/
def Outcome.isWritable : Outcome → Bool
  | ⟨_, _, _, problems⟩ => Problem.allWritable problems

end

/-- Why a cast has no result. -/
inductive CastFault where
  | refused
  /-- The result is a number beyond all bounds. -/
  | overflow
  deriving DecidableEq, Repr

/-- The text of a value. -/
def Cast.toWritten (v : Value) : Except CastFault Value :=
  if v.isWritable then .ok (.text v.toText) else .error .refused

/-- The integer of a value. -/
def Cast.toWhole : Value → Except CastFault Value
  | .bool b => .ok (.int (bit b))
  | .int n => .ok (.int n)
  | .float .nan => .error .refused
  | .float x =>
    match x.truncate? with
    | some n => .ok (.int n)
    | none => .error .overflow
  | .text s =>
    match Numeral.int? s with
    | some n => .ok (.int n)
    | none => .error .refused
  | _ => .error .refused

/-- The decimal number of a value. -/
def Cast.toDecimal : Value → Except CastFault Value
  | .bool b => .ok (.float (.ofBool b))
  | .int n =>
    match Binary64.ofInt? n with
    | some x => .ok (.float x)
    | none => .error .overflow
  | .float x => .ok (.float x)
  | .text s =>
    match Numeral.decimal? s with
    | some x => .ok (.float x)
    | none => .error .refused
  | _ => .error .refused

/-- What a cast makes of a value. -/
def Cast.apply : Cast → Value → Except CastFault Value
  | .text, v => toWritten v
  | .whole, v => toWhole v
  | .decimal, v => toDecimal v
  | .truth, v => .ok (.bool v.isTruthy)
  | .lower, .text s => .ok (.text (Text.lower s))
  | .lower, _ => .error .refused

namespace Choice

/-- Whether a text stands somewhere in another. -/
def occursIn (word : List Char) : List Char → Bool
  | [] => word.isEmpty
  | c :: rest => word.isPrefixOf (c :: rest) || occursIn word rest

/-- Whether a value is among others: in a list or a tuple, a key of a map, or part of a text. -/
def isAmong (v : Value) : Value → Except Failure Bool
  | .list items | .tuple items => .ok (items.any v.equals)
  | .map entries => .ok (entries.any fun (k, _) => v.equals k)
  | .text s =>
    match v with
    | .text word => .ok (occursIn word.toList s.toList)
    | _ => .error .wrongKind
  | _ => .error .wrongKind

/-- Whether a value is among the choices after a cast. -/
def accepts (choices : Value) (cast : Cast) (v : Value) : Except Failure Bool :=
  match cast.apply v with
  | .ok v' => isAmong v' choices
  | .error .refused => .ok false
  | .error .overflow => .error .overflow

end Choice

end ConfigVars
