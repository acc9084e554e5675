import ConfigVars.Pattern.Reader.Basic

/-!
# Flags inside a pattern

Behind an opening bracket and a question mark, letters turn flags on, and behind a minus sign off.
A closing bracket makes them flags of the whole pattern, and a colon those of the group that
follows (`Reader.flagScope`).
-/

namespace ConfigVars.Pattern

namespace Reader

/-- The flags that are turned off, from the first letter on. -/
def flagsOff : Nat → Token → Reader Flags
  | 0, _ => fail (.missing ":") 0
  | fuel + 1, t => do
    match Flags.ofLetter? t with
    | none => fail (.missing ":") 0
    | some flag =>
      if flag.choosesAlphabet || t = .plain 'L' then fail .alphabetTurnedOff 0
      match ← take with
      | none => fail (.missing ":") 0
      | some (.plain ':') => return flag
      | some t' =>
        if (Flags.ofLetter? t').isNone then
          fail (if t'.isLetter then .unknownFlag else .missing ":") t'.length
        return flag.union (← flagsOff fuel t')

/-- The flags that are turned on, from the first letter on, and the character that ends them. -/
def flagsOn : Nat → Flags → Token → Reader (Flags × Token)
  | 0, _, _ => fail (.missing "-, : or )") 0
  | fuel + 1, before, t => do
    match Flags.ofLetter? t with
    | none => fail (.missing "-, : or )") 0
    | some flag =>
      if t = .plain 'L' then fail .localeFlag 0
      let flags := before.union flag
      if flag.choosesAlphabet && flags.plainAlphabet && flags.everyScript then
        fail .incompatibleFlags 0
      match ← take with
      | none => fail (.missing "-, : or )") 0
      | some t' =>
        if t' = .plain ')' || t' = .plain '-' || t' = .plain ':' then return (flags, t')
        if (Flags.ofLetter? t').isNone then
          fail (if t'.isLetter then .unknownFlag else .missing "-, : or )") t'.length
        flagsOn fuel flags t'

/-- What flags in a pattern are for: the whole pattern, or the group that they open. -/
inductive FlagScope where
  | whole (on : Flags)
  | part (on off : Flags)

/-- The flags in a pattern, from the first letter or the minus sign on. -/
def flagScope (t : Token) : Reader FlagScope := do
  let (on, stop) ←
    if t = .plain '-' then pure (({} : Flags), t) else flagsOn ((← remaining) + 1) {} t
  if stop = .plain ')' then return .whole on
  if on.template then fail .globalFlagTurnedOn 1
  let off ←
    if stop = .plain '-' then
      match ← take with
      | none => fail (.missing "flag") 0
      | some t' =>
        if (Flags.ofLetter? t').isNone then
          fail (if t'.isLetter then .unknownFlag else .missing "flag") t'.length
        flagsOff ((← remaining) + 1) t'
    else pure {}
  if off.template then fail .globalFlagTurnedOff 1
  if on.meets off then fail .flagTurnedOnAndOff 1
  return .part on off

end Reader

end ConfigVars.Pattern
