import ConfigVars.Number.Binary64
import ConfigVars.Text.Blank
import ConfigVars.Text.Digit

/-!
# Numerals

Reading numbers from text.  A numeral may stand between white space (`unpadded`), has a sign or
none, and consists of digits, where one underscore may stand between two of them; a decimal has a
point and an exponent besides, or is one of the words for infinity and for not a number.  Which
characters are digits, and whether underscores are allowed, differs from reader to reader
(`Digits`); the grammar is the same.
-/

namespace ConfigVars.Numeral

open ConfigVars.Text

/-- What a reader takes for digits and between them. -/
structure Digits where
  /-- The value of a digit. -/
  value? : Char → Option Nat
  /-- Whether one underscore may stand between two digits. -/
  underscores : Bool

/-- The digits of every script, with underscores. -/
def everyScript : Digits := ⟨digitValue?, true⟩

/-- The ten digits of plain numerals only. -/
def plain : Digits := ⟨fun c => if '0' ≤ c ∧ c ≤ '9' then some (c.toNat - 48) else none, false⟩

/-- White space around a numeral: the blanks apart from the four separators. -/
def isPadding (c : Char) : Bool := isBlank c && !(0x1c ≤ c.toNat && c.toNat ≤ 0x1f)

/-- A numeral without the white space around it.  In a text that is not all plain characters, the
four separators count as white space too. -/
def unpadded (cs : List Char) : List Char :=
  trimWhile (if cs.all fun c => c.toNat ≤ 0x7f then isPadding else isBlank) cs

/-- The digits behind a digit, and what follows them. -/
def Digits.more (d : Digits) : List Char → List Nat × List Char
  | [] => ([], [])
  | [c] =>
    match d.value? c with
    | some v => ([v], [])
    | none => ([], [c])
  | c :: next :: rest =>
    match d.value? c with
    | some v =>
      let (vs, rest) := d.more (next :: rest)
      (v :: vs, rest)
    | none =>
      if c = '_' && d.underscores then
        match d.value? next with
        | some v =>
          let (vs, rest) := d.more rest
          (v :: vs, rest)
        | none => ([], c :: next :: rest)
      else ([], c :: next :: rest)

/-- The digits at the front, and what follows them. -/
def Digits.run (d : Digits) : List Char → List Nat × List Char
  | [] => ([], [])
  | c :: rest =>
    match d.value? c with
    | some v =>
      let (vs, rest) := d.more rest
      (v :: vs, rest)
    | none => ([], c :: rest)

/-- The number that digits write. -/
def ofDigits (ds : List Nat) : Nat := ds.foldl (fun n d => 10 * n + d) 0

/-- Splits off a sign; `true` stands for minus. -/
def sign : List Char → Bool × List Char
  | '-' :: rest => (true, rest)
  | '+' :: rest => (false, rest)
  | cs => (false, cs)

/-- The most digits that an integer is read from. -/
def maxIntDigits : Nat := 4300

/-- The integer of a numeral without padding. -/
def readInt? (d : Digits) (cs : List Char) : Option Int :=
  let (negative, cs) := sign cs
  match d.run cs with
  | (v :: vs, []) =>
    if maxIntDigits < vs.length + 1 then none
    else
      let n : Int := ofDigits (v :: vs)
      some (if negative then -n else n)
  | _ => none

/-- The lower case of a plain letter. -/
def plainLower (c : Char) : Char := if 'A' ≤ c ∧ c ≤ 'Z' then Char.ofNat (c.toNat + 32) else c

/-- The number that a word stands for. -/
def readWord? (negative : Bool) (cs : List Char) : Option Binary64 :=
  let word := String.ofList (cs.map plainLower)
  if word = "nan" then some .nan
  else if word = "inf" || word = "infinity" then some (.infinite negative)
  else none

/-- The exponent at the end of a decimal, zero when there is none. -/
def readExponent? (d : Digits) : List Char → Option Int
  | [] => some 0
  | c :: rest =>
    if c = 'e' || c = 'E' then
      let (negative, rest) := sign rest
      match d.run rest with
      | (v :: vs, []) =>
        let n : Int := ofDigits (v :: vs)
        some (if negative then -n else n)
      | _ => none
    else none

/-- The digits behind a point, if a point is there, and what follows them. -/
def readFraction (d : Digits) : List Char → List Nat × List Char
  | '.' :: rest => d.run rest
  | cs => ([], cs)

/-- The number of a decimal without padding. -/
def readDecimal? (d : Digits) (cs : List Char) : Option Binary64 :=
  let (negative, cs) := sign cs
  match readWord? negative cs with
  | some x => some x
  | none =>
    let (whole, rest) := d.run cs
    let (fraction, rest) := readFraction d rest
    if whole.isEmpty && fraction.isEmpty then none
    else
      (readExponent? d rest).map fun e =>
        .ofDecimal negative (ofDigits (whole ++ fraction)) (e - fraction.length)

/-- The integer that a text spells. -/
def int? (s : String) : Option Int := readInt? everyScript (unpadded s.toList)

/-- The number that a text spells. -/
def decimal? (s : String) : Option Binary64 := readDecimal? everyScript (unpadded s.toList)

end ConfigVars.Numeral
