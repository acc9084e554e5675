import ConfigVars.Text.LetterCase

/-!
# Letters that match each other

Where a pattern ignores case, a character matches every character with the same lower case, and
besides those whose lower cases share an upper case, such as the two small sigmas
(`sharedUpperCase`).  `variants` lists all of them for a code point.
-/

namespace ConfigVars.Pattern

open ConfigVars.Text

/-- How a part of a pattern compares characters. -/
inductive Comparison where
  /-- Only equal characters match. -/
  | exact
  /-- Case is ignored in every script. -/
  | anyCase
  /-- Case is ignored among the plain letters only. -/
  | plainAnyCase
  deriving DecidableEq, Repr

/-- Classes of small letters that have one upper case. -/
def sharedUpperCase : List (List Nat) :=
  [[0x69, 0x131], [0x73, 0x17f], [0xb5, 0x3bc], [0x345, 0x3b9, 0x1fbe], [0x390, 0x1fd3],
   [0x3b0, 0x1fe3], [0x3b2, 0x3d0], [0x3b5, 0x3f5], [0x3b8, 0x3d1], [0x3ba, 0x3f0],
   [0x3c0, 0x3d6], [0x3c1, 0x3f1], [0x3c2, 0x3c3], [0x3c6, 0x3d5], [0x432, 0x1c80],
   [0x434, 0x1c81], [0x43e, 0x1c82], [0x441, 0x1c83], [0x442, 0x1c84, 0x1c85],
   [0x44a, 0x1c86], [0x463, 0x1c87], [0x1c88, 0xa64b], [0x1e61, 0x1e9b], [0xfb05, 0xfb06]]

/-- The code points with a given lower case, other than itself. -/
def capitals (code : Nat) : List Nat :=
  lowerRuns.filterMap fun (first, last, step, target) =>
    if target ≤ code && code - target ≤ last - first && (code - target) % step = 0 then
      some (first + (code - target))
    else none

/-- The lower case of a plain letter. -/
def plainLower (code : Nat) : Nat := if 0x41 ≤ code ∧ code ≤ 0x5a then code + 0x20 else code

/-- What two characters have in common that count as the same letter in a repetition of a group. -/
def Comparison.folded : Comparison → Nat → Nat
  | .exact, code => code
  | .anyCase, code => lowerIn lowerRuns code
  | .plainAnyCase, code => plainLower code

/-- All code points that match a code point. -/
def Comparison.variants : Comparison → Nat → List Nat
  | .exact, code => [code]
  | .anyCase, code =>
    let small := lowerIn lowerRuns code
    let smalls := (sharedUpperCase.find? fun letters => letters.contains small).getD [small]
    smalls ++ smalls.flatMap capitals
  | .plainAnyCase, code =>
    let small := plainLower code
    if 0x61 ≤ small ∧ small ≤ 0x7a then [small, small - 0x20] else [small]

end ConfigVars.Pattern
