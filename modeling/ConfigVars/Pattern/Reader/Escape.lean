import ConfigVars.Number.Numeral
import ConfigVars.Pattern.Reader.Basic
import ConfigVars.Text.CharacterName

/-!
# Escapes and sets in a pattern

A backslash gives the character behind it a meaning, or takes its meaning away: outside a set it is
a part of the pattern (`Reader.escape`), and inside a set a member (`Reader.setEscape`).  A set in
brackets (`Reader.charSet`) holds characters, spans and classes.
-/

namespace ConfigVars.Pattern

open ConfigVars.Text

namespace Reader

def isDecimal (c : Char) : Bool := '0' ≤ c && c ≤ '9'

def isOctal (c : Char) : Bool := '0' ≤ c && c ≤ '7'

def isHexadecimal (c : Char) : Bool :=
  isDecimal c || ('a' ≤ c && c ≤ 'f') || ('A' ≤ c && c ≤ 'F')

def isPlainLetter (c : Char) : Bool := ('a' ≤ c && c ≤ 'z') || ('A' ≤ c && c ≤ 'Z')

/-- The value of a hexadecimal digit. -/
def digitOf (c : Char) : Nat :=
  if isDecimal c then c.toNat - 48 else if c ≤ 'F' then c.toNat - 55 else c.toNat - 87

/-- The number that digits write in a base. -/
def numberIn (base : Nat) (digits : List Char) : Nat :=
  digits.foldl (fun n c => base * n + digitOf c) 0

/-- The text of an escape with what follows its letter. -/
def escapeText (c : Char) (more : List Char) : String := String.ofList ('\\' :: c :: more)

/-- Stops at an escape that means nothing. -/
def failEscape {α : Type} (c : Char) (more : List Char) : Reader α :=
  fail (.badEscape (escapeText c more)) (more.length + 2)

/-- The control character of an escape. -/
def controlCode? : Char → Option Nat
  | 'a' => some 7
  | 'b' => some 8
  | 'f' => some 12
  | 'n' => some 10
  | 'r' => some 13
  | 't' => some 9
  | 'v' => some 11
  | '\\' => some 0x5c
  | _ => none

/-- The class of characters of an escape, and whether it is meant negated. -/
def category? : Char → Option (Category × Bool)
  | 'd' => some (.digit, false)
  | 'D' => some (.digit, true)
  | 's' => some (.blank, false)
  | 'S' => some (.blank, true)
  | 'w' => some (.word, false)
  | 'W' => some (.word, true)
  | _ => none

/-- The code point of an escape with a fixed number of hexadecimal digits. -/
def hexadecimal (c : Char) (count : Nat) : Reader Nat := do
  let digits ← takeWhile isHexadecimal count
  if digits.length ≠ count then
    fail (.incompleteEscape (escapeText c digits)) (digits.length + 2)
  let code := numberIn 16 digits
  if 0x10ffff < code then failEscape c digits
  return code

/-- The code point of an escape with the name of a character. -/
def namedCode : Reader Nat := do
  if !(← accept '\x7b') then fail (.missing "\x7b") 0
  let text ← name '\x7d' "character name"
  match namedCharacter? text.toList with
  | some code => return code
  | none => fail (.unknownCharacterName text) (text.length + 4)

/-- The code point of an escape with octal digits. -/
def octal (digits : List Char) : Reader Nat := do
  let code := numberIn 8 digits
  if 0o377 < code then
    fail (.octalEscapeTooLarge (String.ofList ('\\' :: digits))) (digits.length + 1)
  return code

/-- The code point of an escape that means the same everywhere, if it is one. -/
def commonCode? (c : Char) : Reader (Option Nat) := do
  match c with
  | 'x' => return some (← hexadecimal c 2)
  | 'u' => return some (← hexadecimal c 4)
  | 'U' => return some (← hexadecimal c 8)
  | 'N' => return some (← namedCode)
  | _ => return none

/-- A character set whose members are a class of characters. -/
def categorySet (flags : Flags) (k : Category) (negated : Bool) : Node :=
  .set ⟨[.category k flags.plainAlphabet negated], false⟩ flags.comparison

/-- A set of one character. -/
def literal (flags : Flags) (code : Nat) : Node := .set ⟨[.code code], false⟩ flags.comparison

/-- What a part of a sequence is to a repetition behind it. -/
inductive Kind where
  | plain
  | anchor
  | repeated
  deriving DecidableEq, Repr

/-- A part of a sequence, and where it starts. -/
structure Item where
  kind : Kind
  node : Node
  start : Nat

/-- The reference to a group by its number. -/
def numberedReference (flags : Flags) (digits : List Char) : Reader Node := do
  let group := numberIn 10 digits
  if group < (← groupCount) then
    if !(← isClosed group) then fail .openGroupReference (digits.length + 1)
    checkLookBehind group
    return .reference group flags.comparison
  else fail (.invalidReference group) digits.length

/-- The part behind a backslash and a digit that is not zero: three octal digits are a character,
and all else is a reference. -/
def digitEscape (flags : Flags) (c : Char) : Reader Node := do
  match ← takeWhile isDecimal 1 with
  | [] => numberedReference flags [c]
  | d :: _ =>
    if isOctal c && isOctal d then
      match ← takeWhile isOctal 1 with
      | [] => numberedReference flags [c, d]
      | e :: _ => return literal flags (← octal [c, d, e])
    else numberedReference flags [c, d]

/-- The part behind a backslash outside a set. -/
def escape (flags : Flags) (c : Char) : Reader (Kind × Node) := do
  match category? c with
  | some (k, negated) => return (.plain, categorySet flags k negated)
  | none =>
    match c with
    | 'A' => return (.anchor, .anchor .textStart)
    | 'Z' => return (.anchor, .anchor .textEnd)
    | 'b' => return (.anchor, .anchor (.wordBoundary flags.plainAlphabet))
    | 'B' => return (.anchor, .anchor (.notWordBoundary flags.plainAlphabet))
    | _ =>
      match controlCode? c with
      | some code => return (.plain, literal flags code)
      | none =>
        match ← commonCode? c with
        | some code => return (.plain, literal flags code)
        | none =>
          if c = '0' then
            return (.plain, literal flags (numberIn 8 (← takeWhile isOctal 2)))
          else if isDecimal c then return (.plain, ← digitEscape flags c)
          else if isPlainLetter c then failEscape c []
          else return (.plain, literal flags c.toNat)

/-- The member behind a backslash inside a set. -/
def setEscape (flags : Flags) (c : Char) : Reader Member := do
  match category? c with
  | some (k, negated) => return .category k flags.plainAlphabet negated
  | none =>
    match controlCode? c with
    | some code => return .code code
    | none =>
      match ← commonCode? c with
      | some code => return .code code
      | none =>
        if isOctal c then return .code (← octal (c :: (← takeWhile isOctal 2)))
        else if isDecimal c || isPlainLetter c then failEscape c []
        else return .code c.toNat

/-! ### Character sets -/

/-- The member that a token in a set stands for. -/
def member (flags : Flags) : Token → Reader Member
  | .plain c => return .code c.toNat
  | .escaped c => setEscape flags c
  | .dangling => fail .escapeAtEnd 1

/-- The members of a set up to the bracket that closes it, which stands for itself when it comes
first.  `opened` is where the set starts. -/
def members (flags : Flags) (opened : Nat) : Nat → Bool → Reader (List Member)
  | 0, _ => failAt .unterminatedSet opened
  | fuel + 1, isFirst => do
    match ← take with
    | none => failAt .unterminatedSet opened
    | some t =>
      if t = .plain ']' && !isFirst then return []
      let low ← member flags t
      if ← accept '-' then
        match ← take with
        | none => failAt .unterminatedSet opened
        | some (.plain ']') => return [low, .code '-'.toNat]
        | some t' =>
          let high ← member flags t'
          match low, high with
          | .code a, .code b =>
            if b < a then fail (.badRange t.text t'.text) (t.length + 1 + t'.length)
            return .span a b :: (← members flags opened fuel false)
          | _, _ => fail (.badRange t.text t'.text) (t.length + 1 + t'.length)
      else return low :: (← members flags opened fuel false)

/-- A set behind its opening bracket. -/
def charSet (flags : Flags) (opened : Nat) : Reader Node := do
  let negated ← accept '^'
  let ms ← members flags opened ((← remaining) + 1) true
  return .set ⟨ms, negated⟩ flags.comparison

end Reader

end ConfigVars.Pattern
