import ConfigVars.Number.Binary64

/-!
# The shortest decimal of a number

A finite number is shown by the decimal with the fewest digits that reads back as the number, and
of several such the one nearest to it (`shortest`).  The reals that read back as `m · 2^e` form an
interval (`Interval`); for one digit, two digits and so on the two neighbours of the number among
the decimals with so many digits are tried, and the first that lies in the interval is taken.

How the digits are laid out is a matter of the text and not of the number; it is left to a record
(`Layout`, `Binary64.render`).
-/

namespace ConfigVars

/-- The quotient of two natural numbers. -/
structure Ratio where
  num : Nat
  den : Nat

namespace Ratio

/-- The quotient `a · 2^e`. -/
def binary (a : Nat) (e : Int) : Ratio :=
  if 0 ≤ e then ⟨a * Nat.pow 2 e.toNat, 1⟩ else ⟨a, Nat.pow 2 (-e).toNat⟩

/-- The quotient `a · 10^k`. -/
def decimal (a : Nat) (k : Int) : Ratio :=
  if 0 ≤ k then ⟨a * Nat.pow 10 k.toNat, 1⟩ else ⟨a, Nat.pow 10 (-k).toNat⟩

def le (x y : Ratio) : Bool := x.num * y.den ≤ y.num * x.den

def lt (x y : Ratio) : Bool := !y.le x

/-- The integral part of `x / 10^k`. -/
def floorDecimal (x : Ratio) (k : Int) : Nat :=
  if 0 ≤ k then x.num / (x.den * Nat.pow 10 k.toNat)
  else x.num * Nat.pow 10 (-k).toNat / x.den

/-- The power of ten `p` with `10^(p-1) ≤ x < 10^p`, for a quotient above zero. -/
def point (x : Ratio) : Int :=
  let p : Int := (Binary64.decimalLength x.num : Int) - Binary64.decimalLength x.den
  if x.lt (decimal 1 p) then p else p + 1

end Ratio

/-- The reals that round to a number: between two quotients, with or without the ends. -/
structure Interval where
  low : Ratio
  high : Ratio
  closed : Bool

namespace Interval

/-- The reals that round to `m · 2^e`.  Below the least mantissa of 53 bits the numbers lie twice
as close, and the ends belong to the even mantissa. -/
def around (m : Nat) (e : Int) : Interval where
  low :=
    let step := if 2 * m = Binary64.mantissaBound ∧ Binary64.minExponent < e then 1 else 2
    .binary (4 * m - step) (e - 2)
  high := .binary (4 * m + 2) (e - 2)
  closed := m % 2 = 0

def contains (i : Interval) (x : Ratio) : Bool :=
  if i.closed then i.low.le x && x.le i.high else i.low.lt x && x.lt i.high

end Interval

/-- Whether `x` lies nearer to `(c + 1) · 10^k` than to `c · 10^k`, or halfway with an odd `c`. -/
def nearerAbove (x : Ratio) (c : Nat) (k : Int) : Bool :=
  let twice : Ratio := ⟨2 * x.num, x.den⟩
  let middle := Ratio.decimal (2 * c + 1) k
  middle.lt twice || (middle.le twice && c % 2 = 1)

/-- Of the two neighbours of `x` with so many digits the one to show, if any lies in the
interval: the decimal `c · 10^k`. -/
def candidate? (x : Ratio) (i : Interval) (k : Int) : Option (Nat × Int) :=
  let c := x.floorDecimal k
  match i.contains (.decimal c k), i.contains (.decimal (c + 1) k) with
  | true, true => some (if nearerAbove x c k then c + 1 else c, k)
  | true, false => some (c, k)
  | false, true => some (c + 1, k)
  | false, false => none

/-- The most digits that a number needs to read back. -/
def maxDigits : Nat := 17

/-- The shortest decimal `c · 10^k` of `m · 2^e`, for a mantissa above zero. -/
def shortest (m : Nat) (e : Int) : Nat × Int :=
  let x := Ratio.binary m e
  let i := Interval.around m e
  let point := x.point
  ((List.range maxDigits).findSome? fun (n : Nat) => candidate? x i (point - (n + 1))).getD
    (x.floorDecimal (point - maxDigits), point - maxDigits)

/-- How the digits of a number are laid out. -/
structure Layout where
  /-- The point stands among the digits from this place on, counted from the first digit. -/
  firstPoint : Int
  /-- The point stands among the digits up to this place. -/
  lastPoint : Int
  /-- How many digits an exponent has at least. -/
  exponentWidth : Nat
  notANumber : String
  infinity : String

/-- The decimal digits of a natural number. -/
def decimalDigits (n : Nat) : List Char := Nat.toDigits 10 n

/-- Digits with the point at a place among, before or behind them; at least one digit stands on
either side. -/
def placePoint (digits : List Char) (point : Int) : List Char :=
  if point ≤ 0 then '0' :: '.' :: (List.replicate (-point).toNat '0' ++ digits)
  else
    let whole := digits.take point.toNat
    let fraction := digits.drop point.toNat
    whole ++ List.replicate (point.toNat - digits.length) '0' ++
      '.' :: (if fraction.isEmpty then ['0'] else fraction)

/-- An exponent with its sign. -/
def exponentText (width : Nat) (e : Int) : List Char :=
  let digits := decimalDigits e.natAbs
  (if e < 0 then '-' else '+') :: (List.replicate (width - digits.length) '0' ++ digits)

/-- Digits with the point behind the first one and an exponent. -/
def scientific (width : Nat) (digits : List Char) (point : Int) : List Char :=
  let mantissa :=
    match digits with
    | d :: r :: rest => d :: '.' :: r :: rest
    | ds => ds
  mantissa ++ 'e' :: exponentText width (point - 1)

/-- The digits of `c` without the zeros at the end. -/
def significantDigits (c : Nat) : List Char :=
  ((decimalDigits c).reverse.dropWhile (· = '0')).reverse

/-- The text of `c · 10^k`. -/
def Layout.decimal (l : Layout) (c : Nat) (k : Int) : List Char :=
  let point := (decimalDigits c).length + k
  let digits := significantDigits c
  if l.firstPoint ≤ point && point ≤ l.lastPoint then placePoint digits point
  else scientific l.exponentWidth digits point

/-- The text of a number. -/
def Binary64.render (l : Layout) : Binary64 → String
  | .nan => l.notANumber
  | .infinite negative => (if negative then "-" else "") ++ l.infinity
  | .finite negative m e =>
    let digits := if m = 0 then placePoint ['0'] 1 else
      let (c, k) := shortest m e
      l.decimal c k
    (if negative then "-" else "") ++ String.ofList digits

end ConfigVars
