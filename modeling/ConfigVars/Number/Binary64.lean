/-!
# Binary floating point numbers

The numbers of the 64 bit binary format, written exactly (`Binary64`): not a number, the two
infinities, and the finite numbers `±m · 2^e`.  A finite number is canonical (`IsCanonical`) when
its mantissa has 53 bits, or fewer at the least exponent.  A quotient of natural numbers is rounded
to the nearest number, and to the one with the even mantissa of two that are equally near
(`ofRatio`); from there come the numbers of integers and of decimals.
-/

namespace ConfigVars

/-- A 64 bit binary floating point number. -/
inductive Binary64 where
  | nan
  | infinite (negative : Bool)
  | finite (negative : Bool) (mantissa : Nat) (exponent : Int)
  deriving DecidableEq, Repr

namespace Binary64

/-- The least exponent of a finite number. -/
def minExponent : Int := -1074

/-- The greatest exponent of a finite number. -/
def maxExponent : Int := 971

/-- The bound of the mantissas: they have at most 53 bits. -/
def mantissaBound : Nat := Nat.pow 2 53

/-- A finite number is written in the one way that the format has for it. -/
def IsCanonical : Binary64 → Prop
  | nan | infinite _ => True
  | finite _ m e =>
    m < mantissaBound ∧ minExponent ≤ e ∧ e ≤ maxExponent ∧
      (mantissaBound ≤ 2 * m ∨ e = minExponent)

/-- The quotient of two natural numbers, rounded to the nearest one, a half to the even one. -/
def roundHalfEven (num den : Nat) : Nat :=
  let q := num / den
  let r := num % den
  if den < 2 * r || (2 * r = den && q % 2 = 1) then q + 1 else q

/-- Numerator and denominator of `num / den / 2^e`. -/
def scaleDown (num den : Nat) (e : Int) : Nat × Nat :=
  if 0 ≤ e then (num, den * Nat.pow 2 e.toNat) else (num * Nat.pow 2 (-e).toNat, den)

/-- The finite number `±m · 2^e` for a mantissa that rounding may have carried to its bound, and
the infinity when the exponent is too large. -/
def ofRounded (negative : Bool) (m : Nat) (e : Int) : Binary64 :=
  let (m, e) := if m = mantissaBound then (m / 2, e + 1) else (m, e)
  if maxExponent < e then infinite negative else finite negative m e

/-- The number nearest to `±num / den`. -/
def ofRatio (negative : Bool) (num den : Nat) : Binary64 :=
  if num = 0 then finite negative 0 minExponent
  else
    let guess : Int := (num.log2 : Int) - den.log2 - 52
    let (n, d) := scaleDown num den guess
    let e := max (if n < d * (mantissaBound / 2) then guess - 1 else guess) minExponent
    let (n, d) := scaleDown num den e
    ofRounded negative (roundHalfEven n d) e

/-- The number nearest to an integer; an integer beyond all finite numbers has none. -/
def ofInt? (n : Int) : Option Binary64 :=
  match ofRatio (n < 0) n.natAbs 1 with
  | infinite _ => none
  | x => some x

/-- How many decimal digits a natural number has. -/
def decimalLength (n : Nat) : Nat := (Nat.toDigits 10 n).length

/-- The number nearest to `±digits · 10^power`.  Powers out of all proportion are answered without
computing them. -/
def ofDecimal (negative : Bool) (digits : Nat) (power : Int) : Binary64 :=
  if digits = 0 then finite negative 0 minExponent
  else
    let point := (decimalLength digits : Int) + power
    if 310 < point then infinite negative
    else if point < -330 then finite negative 0 minExponent
    else if 0 ≤ power then ofRatio negative (digits * Nat.pow 10 power.toNat) 1
    else ofRatio negative digits (Nat.pow 10 (-power).toNat)

/-- The numbers one and zero. -/
def ofBool (b : Bool) : Binary64 := if b then ofRatio false 1 1 else ofRatio false 0 1

def isZero : Binary64 → Bool
  | finite _ m _ => m = 0
  | _ => false

/-- The integer that a finite number lies at or next to, on the side of zero. -/
def truncate? : Binary64 → Option Int
  | finite negative m e =>
    let magnitude := if 0 ≤ e then m * Nat.pow 2 e.toNat else m / Nat.pow 2 (-e).toNat
    some (if negative then -(magnitude : Int) else magnitude)
  | _ => none

/-- Whether a number is finite and an integer. -/
def isIntegral : Binary64 → Bool
  | finite _ m e => 0 ≤ e || m % Nat.pow 2 (-e).toNat = 0
  | _ => false

/-- Whether a number is the given integer. -/
def equalsInt (x : Binary64) (n : Int) : Bool := x.isIntegral && x.truncate? = some n

/-- Whether two numbers are equal: not a number equals nothing, and the two zeros are equal. -/
def equals (x y : Binary64) : Bool :=
  match x, y with
  | nan, _ | _, nan => false
  | x, y => x = y || (x.isZero && y.isZero)

end Binary64

end ConfigVars
