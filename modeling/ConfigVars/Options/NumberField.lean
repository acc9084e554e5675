import ConfigVars.Options.Reading
import ConfigVars.Validation.Choice

/-!
# Number fields

A field for an integer takes integers, truth values, decimals without a fraction, and texts that
spell an integer (`FieldReader.whole`); such a text may have zeros in front, underscores between its
digits, and a fraction of zeros.  A field for a decimal takes every number and texts that spell one
(`FieldReader.decimal`).
-/

namespace ConfigVars.FieldReader

open ConfigVars.Text

/-- A text that spells no integer. -/
def unclearWhole {α : Type} : Except (List Rejection) α :=
  reject "int_parsing" "Input should be a valid integer, unable to parse string as an integer"

/-- An integer with too many digits. -/
def longWhole {α : Type} : Except (List Rejection) α :=
  reject "int_parsing_size"
    "Unable to parse input string as an integer, exceeded maximum size"

/-- A numeral without a plus sign in front. -/
def withoutPlus : List Char → Option (List Char)
  | '+' :: '-' :: _ => none
  | '+' :: rest => some rest
  | cs => some cs

/-- A numeral behind its first zero, without further zeros, and with the one before a point. -/
def behindZero : List Char → Option (List Char)
  | [] => some ['0']
  | ['0'] => some ['0']
  | ['_'] => some ['_']
  | '0' :: rest => behindZero rest
  | '_' :: '.' :: rest => some ('_' :: '.' :: rest)
  | '_' :: rest => behindZero rest
  | '.' :: rest => some ('0' :: '.' :: rest)
  | c :: rest => if '1' ≤ c && c ≤ '9' then some (c :: rest) else none

/-- A numeral without zeros in front. -/
def withoutLeadingZeros : List Char → Option (List Char)
  | '0' :: rest => behindZero rest
  | c :: rest => if c = '-' || ('1' ≤ c && c ≤ '9') then some (c :: rest) else none
  | [] => none

/-- A numeral without a fraction of zeros. -/
def withoutZeroFraction (cs : List Char) : List Char :=
  match cs.dropWhile (· ≠ '.') with
  | _ :: fraction => if fraction.all (· = '0') then cs.takeWhile (· ≠ '.') else cs
  | [] => cs

/-- Whether two underscores stand side by side. -/
def hasDoubleUnderscore : List Char → Bool
  | '_' :: '_' :: _ => true
  | _ :: rest => hasDoubleUnderscore rest
  | [] => false

/-- A numeral without underscores, if each of them is between other characters. -/
def withoutUnderscores (cs : List Char) : List Char :=
  if cs.head? = some '_' || cs.getLast? = some '_' || hasDoubleUnderscore cs then cs
  else cs.filter (· ≠ '_')

/-- The digits of an integer: a zero alone, or digits of which the first is no zero. -/
def digitsOf? : List Char → Option Nat
  | ['0'] => some 0
  | '0' :: _ => none
  | cs =>
    match Numeral.plain.run cs with
    | (v :: vs, []) => some (Numeral.ofDigits (v :: vs))
    | _ => none

/-- The integer that a text spells. -/
def wholeOfText (s : String) : Except (List Rejection) Int :=
  let cs := trimWhile Numeral.isPadding s.toList
  if Numeral.maxIntDigits < cs.length then longWhole
  else
    match (withoutPlus cs).bind withoutLeadingZeros with
    | none => unclearWhole
    | some cs =>
      match withoutUnderscores (withoutZeroFraction cs) with
      | '-' :: rest =>
        match digitsOf? rest with
        | some n => .ok (-(n : Int))
        | none => unclearWhole
      | cs =>
        match digitsOf? cs with
        | some n => .ok n
        | none => unclearWhole

/-- The integer of a decimal without a fraction. -/
def wholeOfDecimal (x : Binary64) : Except (List Rejection) Int :=
  match x.truncate? with
  | none => reject "finite_number" "Input should be a finite number"
  | some n =>
    if !x.isIntegral then
      reject "int_from_float"
        "Input should be a valid integer, got a number with a fractional part"
    else if isInnerShort n then .ok n
    else longWhole

/-- An integer, or a value that stands for one. -/
def whole : FieldReader Int
  | .bool b => .ok (bit b)
  | .int n => .ok n
  | .float x => wholeOfDecimal x
  | .text s => wholeOfText s
  | _ => reject "int_type" "Input should be a valid integer"

/-- The decimal that a text spells.  It may have white space around it, or underscores between its
characters, but not both. -/
def decimalOfText (s : String) : Except (List Rejection) Binary64 :=
  match (Numeral.readDecimal? Numeral.plain (trimWhile Numeral.isPadding s.toList)).or
      (Numeral.readDecimal? Numeral.plain (withoutUnderscores s.toList)) with
  | some x => .ok x
  | none =>
    reject "float_parsing" "Input should be a valid number, unable to parse string as a number"

/-- A decimal, or a value that stands for one. -/
def decimal : FieldReader Binary64
  | .float x => .ok x
  | .text s => decimalOfText s
  | v =>
    match v with
    | .bool _ | .int _ =>
      match Cast.decimal.apply v with
      | .ok (.float x) => .ok x
      | _ => reject "float_type" "Input should be a valid number"
    | _ => reject "float_type" "Input should be a valid number"

end ConfigVars.FieldReader
