import ConfigVars.Text.Blank
import ConfigVars.Text.LetterCase
import ConfigVars.Value

/-!
# Words for truth values

A value reads as a truth value (`TruthWord.read?`) if it is a number, or a text that is one of a few
words, in any letter case and between any white space; the empty text counts as false.
-/

namespace ConfigVars.TruthWord

open ConfigVars.Text

/-- The words for true. -/
def positive : List String := ["1", "true", "yes", "on", "t", "y"]

/-- The words for false. -/
def negative : List String := ["0", "false", "no", "off", "f", "n", ""]

/-- The truth value of a word. -/
def ofWord? (word : String) : Option Bool :=
  if positive.contains word then some true
  else if negative.contains word then some false
  else none

/-- The truth value that a value spells. -/
def read? : Value → Option Bool
  | .bool b => some b
  | .int n => some (n != 0)
  | .float x => some !x.isZero
  | .text s => ofWord? (lower (trim s))
  | _ => none

/-- Whether a value spells a truth value. -/
def accepts (v : Value) : Bool := (read? v).isSome

end ConfigVars.TruthWord
