import ConfigVars.Pattern.Letters
import ConfigVars.Pattern.Token

/-!
# The flags of a pattern

Flags say how a pattern or a part of it compares characters, and what its signs mean.  A part turns
some on and others off for itself (`Flags.adjusted`).
-/

namespace ConfigVars.Pattern

/-- The flags of a pattern or of a part of it. -/
structure Flags where
  ignoreCase : Bool := false
  multiLine : Bool := false
  dotAll : Bool := false
  verbose : Bool := false
  /-- Classes and case are those of the plain alphabet. -/
  plainAlphabet : Bool := false
  /-- Classes and case are those of every script, as is said explicitly. -/
  everyScript : Bool := false
  template : Bool := false
  deriving DecidableEq, Repr

namespace Flags

/-- The flags of either. -/
def union (a b : Flags) : Flags where
  ignoreCase := a.ignoreCase || b.ignoreCase
  multiLine := a.multiLine || b.multiLine
  dotAll := a.dotAll || b.dotAll
  verbose := a.verbose || b.verbose
  plainAlphabet := a.plainAlphabet || b.plainAlphabet
  everyScript := a.everyScript || b.everyScript
  template := a.template || b.template

/-- The flags of the first without those of the second. -/
def without (a b : Flags) : Flags where
  ignoreCase := a.ignoreCase && !b.ignoreCase
  multiLine := a.multiLine && !b.multiLine
  dotAll := a.dotAll && !b.dotAll
  verbose := a.verbose && !b.verbose
  plainAlphabet := a.plainAlphabet && !b.plainAlphabet
  everyScript := a.everyScript && !b.everyScript
  template := a.template && !b.template

/-- Whether an alphabet is chosen. -/
def choosesAlphabet (a : Flags) : Bool := a.plainAlphabet || a.everyScript

/-- Whether two sets of flags have one in common. -/
def meets (a b : Flags) : Bool := a.without b != a

/-- The flags of a part that turns some on and others off. -/
def adjusted (a on off : Flags) : Flags :=
  let kept :=
    if on.choosesAlphabet then { a with plainAlphabet := false, everyScript := false } else a
  (kept.union on).without off

/-- How letters are compared. -/
def comparison (a : Flags) : Comparison :=
  if !a.ignoreCase then .exact else if a.plainAlphabet then .plainAnyCase else .anyCase

/-- The flag of a letter. -/
def ofLetter? : Token → Option Flags
  | .plain 'i' => some { ignoreCase := true }
  | .plain 'm' => some { multiLine := true }
  | .plain 's' => some { dotAll := true }
  | .plain 'x' => some { verbose := true }
  | .plain 'a' => some { plainAlphabet := true }
  | .plain 't' => some { template := true }
  | .plain 'u' => some { everyScript := true }
  | .plain 'L' => some {}
  | _ => none

end Flags

end ConfigVars.Pattern
