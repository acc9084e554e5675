import ConfigVars.Text.Quoted

/-!
# Why a pattern is refused

A text that is no pattern has a fault, at a place in most cases (`Fault`, `Refusal`).  A fault and
its place are put into words by `Refusal.message`; in a pattern of several lines the place is told
by line and column too.
-/

namespace ConfigVars.Pattern

open ConfigVars.Text

/-- A fault in the text of a pattern. -/
inductive Fault where
  | escapeAtEnd
  | badEscape (text : String)
  | incompleteEscape (text : String)
  | octalEscapeTooLarge (text : String)
  | unknownCharacterName (name : String)
  | missing (what : String)
  | unterminatedName (terminator : String)
  | openGroupReference
  | lookBehindReference
  | invalidReference (group : Nat)
  | unterminatedSet
  | badRange (first last : String)
  | nothingToRepeat
  | multipleRepeat
  | reversedRepeat
  | unexpectedEnd
  | badGroupName (name : String)
  | unknownGroupName (name : String)
  | redefinedGroup (name : String) (group former : Nat)
  | badGroupNumber
  | unknownExtension (text : String)
  | unterminatedComment
  | unterminatedGroup
  | unbalancedGroup
  | tooManyBranches
  | lateFlags
  | localeFlag
  | incompatibleFlags
  | unknownFlag
  | globalFlagTurnedOn
  | globalFlagTurnedOff
  | alphabetTurnedOff
  | flagTurnedOnAndOff
  | variableLookBehind
  | farLookBehind
  | templateRepeat (operator : String)
  deriving DecidableEq, Repr

/-- The words for a fault. -/
def Fault.message : Fault → String
  | .escapeAtEnd => "bad escape (end of pattern)"
  | .badEscape text => "bad escape " ++ text
  | .incompleteEscape text => "incomplete escape " ++ text
  | .octalEscapeTooLarge text => "octal escape value " ++ text ++ " outside of range 0-0o377"
  | .unknownCharacterName name => "undefined character name " ++ quoted name
  | .missing what => "missing " ++ what
  | .unterminatedName terminator => "missing " ++ terminator ++ ", unterminated name"
  | .openGroupReference => "cannot refer to an open group"
  | .lookBehindReference => "cannot refer to group defined in the same lookbehind subpattern"
  | .invalidReference group => "invalid group reference " ++ toString group
  | .unterminatedSet => "unterminated character set"
  | .badRange first last => "bad character range " ++ first ++ "-" ++ last
  | .nothingToRepeat => "nothing to repeat"
  | .multipleRepeat => "multiple repeat"
  | .reversedRepeat => "min repeat greater than max repeat"
  | .unexpectedEnd => "unexpected end of pattern"
  | .badGroupName name => "bad character in group name " ++ quoted name
  | .unknownGroupName name => "unknown group name " ++ quoted name
  | .redefinedGroup name group former =>
    "redefinition of group name " ++ quoted name ++ " as group " ++ toString group ++
      "; was group " ++ toString former
  | .badGroupNumber => "bad group number"
  | .unknownExtension text => "unknown extension ?" ++ text
  | .unterminatedComment => "missing ), unterminated comment"
  | .unterminatedGroup => "missing ), unterminated subpattern"
  | .unbalancedGroup => "unbalanced parenthesis"
  | .tooManyBranches => "conditional backref with more than two branches"
  | .lateFlags => "global flags not at the start of the expression"
  | .localeFlag => "bad inline flags: cannot use 'L' flag with a str pattern"
  | .incompatibleFlags => "bad inline flags: flags 'a', 'u' and 'L' are incompatible"
  | .unknownFlag => "unknown flag"
  | .globalFlagTurnedOn => "bad inline flags: cannot turn on global flag"
  | .globalFlagTurnedOff => "bad inline flags: cannot turn off global flag"
  | .alphabetTurnedOff => "bad inline flags: cannot turn off flags 'a', 'u' and 'L'"
  | .flagTurnedOnAndOff => "bad inline flags: flag turned on and off"
  | .variableLookBehind => "look-behind requires fixed-width pattern"
  | .farLookBehind => "looks too much behind"
  | .templateRepeat operator => "internal: unsupported template operator " ++ operator

/-- Why a text is no pattern that can be used. -/
inductive Refusal where
  /-- A fault in the text, at a place or in the whole. -/
  | malformed (fault : Fault) (position : Option Nat)
  /-- A number of repetitions beyond all bounds. -/
  | tooManyRepetitions
  /-- A number with more digits than a number may have. -/
  | numberTooLong (digits : Nat)
  /-- The plain alphabet and that of every script are both asked for. -/
  | conflictingAlphabets
  deriving DecidableEq, Repr

/-- A place in a text, by line and column: how many line feeds are before it, and how far the last
of them is. -/
def lineAndColumn (text : List Char) (position : Nat) : Nat × Nat :=
  let before := text.take position
  (before.count '\n' + 1, (before.reverse.takeWhile (· != '\n')).length + 1)

/-- The words for a refusal of a pattern. -/
def Refusal.message (pattern : String) : Refusal → String
  | .malformed fault none => fault.message
  | .malformed fault (some position) =>
    let text := pattern.toList
    let place := fault.message ++ " at position " ++ toString position
    if text.contains '\n' then
      let (line, column) := lineAndColumn text position
      place ++ " (line " ++ toString line ++ ", column " ++ toString column ++ ")"
    else place
  | .tooManyRepetitions => "the repetition number is too large"
  | .numberTooLong digits =>
    "Exceeds the limit (4300 digits) for integer string conversion: value has " ++
      toString digits ++
      " digits; use sys.set_int_max_str_digits() to increase the limit"
  | .conflictingAlphabets => "ASCII and UNICODE flags are incompatible"

end ConfigVars.Pattern
