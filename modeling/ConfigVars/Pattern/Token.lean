import ConfigVars.Text.Identifier

/-!
# The tokens of a pattern

The text of a pattern is read in units: a character, or a backslash with the character behind it
(`Token.ofChars`).  The texts of the tokens, one behind the other, are the text they come from.
-/

namespace ConfigVars.Pattern

open ConfigVars.Text

/-- A unit of the text of a pattern. -/
inductive Token where
  | plain (c : Char)
  | escaped (c : Char)
  /-- A backslash at the end of the text. -/
  | dangling
  deriving DecidableEq, Repr

namespace Token

def length : Token → Nat
  | .plain _ | .dangling => 1
  | .escaped _ => 2

def text : Token → String
  | .plain c => c.toString
  | .escaped c => "\\" ++ c.toString
  | .dangling => "\\"

/-- The tokens of a text. -/
def ofChars : List Char → List Token
  | [] => []
  | [c] => [if c = '\\' then .dangling else .plain c]
  | c :: d :: rest =>
    if c = '\\' then .escaped d :: ofChars rest else .plain c :: ofChars (d :: rest)

/-- Whether a token is a letter. -/
def isLetter : Token → Bool
  | .plain c => isAlphanumeric c && isIdentifierStart c
  | _ => false

end Token

end ConfigVars.Pattern
