import SelfUpdate.Decimal.Binary64

/-!
# Shortest decimal text

The decimal text of a binary floating point number has the fewest digits that read back as the same
number, and of those the ones nearest to it.
-/

namespace SelfUpdate.Decimal

/-- The decimal `digits * 10 ^ exponent`. -/
structure Numeral where
  digits : Nat
  exponent : Int
  deriving DecidableEq, Repr

namespace Binary64

/-- The reals that round to a positive number: the lower and the upper end over one denominator, and
whether the ends themselves do. The gap below a power of two is half the gap above it. -/
structure Interval where
  lower : Nat
  value : Nat
  upper : Nat
  denominator : Nat
  closed : Bool

def interval (x : Binary64) : Interval :=
  let quarter := x.exponent - 2
  let scale := 1 <<< quarter.toNat
  let below := if x.significand = 1 <<< 52 ∧ x.exponent > leastExponent then 1 else 2
  { lower := (4 * x.significand - below) * scale
    value := 4 * x.significand * scale
    upper := (4 * x.significand + 2) * scale
    denominator := 1 <<< (-quarter).toNat
    closed := x.significand % 2 == 0 }

/-- Whether the decimal `digits * 10 ^ exponent` lies in the interval. -/
def Interval.holds (i : Interval) (candidate : Numeral) : Bool :=
  let up := Nat.pow 10 candidate.exponent.toNat
  let down := Nat.pow 10 (-candidate.exponent).toNat
  let point := candidate.digits * up * i.denominator
  if i.closed then i.lower * down ≤ point && point ≤ i.upper * down
  else i.lower * down < point && point < i.upper * down

/-- The largest multiple of `10 ^ exponent` that does not exceed the value, and whether the value is
nearer to the multiple above it; a tie goes to the even digit. -/
def Interval.neighbours (i : Interval) (exponent : Int) : Nat × Bool :=
  let up := Nat.pow 10 exponent.toNat
  let down := Nat.pow 10 (-exponent).toNat
  let num := i.value * down
  let den := i.denominator * up
  let floor := num / den
  let twice := 2 * (num % den)
  (floor, twice > den || (twice == den && floor % 2 == 1))

/-- The decimal on the grid of `10 ^ exponent` that reads back, if there is one. -/
def Interval.onGrid (i : Interval) (exponent : Int) : Option Numeral :=
  let (floor, upper) := i.neighbours exponent
  let down : Numeral := ⟨floor, exponent⟩
  let up : Numeral := ⟨floor + 1, exponent⟩
  match i.holds down, i.holds up with
  | true, true => some (if upper then up else down)
  | true, false => some down
  | false, true => some up
  | false, false => none

/-- How many decimal digits the integer part of a positive ratio has, counted on below zero for the
zeros that follow the point. -/
def magnitude (num den : Nat) : Int :=
  if num ≥ den then (Nat.toDigits 10 (num / den)).length
  else 1 - (Nat.toDigits 10 ((den - 1) / num)).length

/-- Tries grids from the coarsest to the finest. -/
def shortestFrom (i : Interval) (magnitude : Int) : Nat → Nat → Option Numeral
  | 0, _ => none
  | left + 1, digits =>
    match i.onGrid (magnitude - digits) with
    | some found => some found
    | none => shortestFrom i magnitude left (digits + 1)

/-- Seventeen digits always read back. -/
def shortest (x : Binary64) : Numeral :=
  let i := x.interval
  (shortestFrom i (magnitude i.value i.denominator) 17 1).getD ⟨0, 0⟩

end Binary64

/-- How a decimal is written: the scientific exponents that are written positionally. -/
structure Format where
  leastPositional : Int
  greatestPositional : Int

/-- Numbers from 10^-5 up to 10^16 are written positionally. -/
def Format.standard : Format := ⟨-5, 15⟩

def zeros (count : Nat) : List Char := List.replicate count '0'

/-- The text of the decimal whose first digit stands for `10 ^ exponent`. -/
def Format.text (format : Format) (digits : List Char) (exponent : Int) : List Char :=
  if format.leastPositional ≤ exponent ∧ exponent ≤ format.greatestPositional then
    if exponent < 0 then
      '0' :: '.' :: zeros ((-exponent).toNat - 1) ++ digits
    else
      let whole := exponent.toNat + 1
      let fraction := digits.drop whole
      digits.take whole ++ zeros (whole - digits.length) ++
        '.' :: (if fraction.isEmpty then ['0'] else fraction)
  else
    let sign := if exponent < 0 then '-' else '+'
    let point := match digits with
      | [] => []
      | [d] => [d]
      | d :: more => d :: '.' :: more
    point ++ 'e' :: sign :: Nat.toDigits 10 exponent.natAbs

/-- The significant digits of a decimal, without the zeros at its end. -/
def Numeral.significant (x : Numeral) : List Char :=
  ((Nat.toDigits 10 x.digits).reverse.dropWhile (· == '0')).reverse

namespace Binary64

def toText (x : Binary64) : String :=
  let sign := if x.negative then ['-'] else []
  if x.isZero then String.ofList (sign ++ ['0', '.', '0'])
  else
    let decimal := x.shortest
    let exponent : Int := decimal.exponent + ((Nat.toDigits 10 decimal.digits).length : Int) - 1
    String.ofList (sign ++ Format.standard.text decimal.significant exponent)

end Binary64

end SelfUpdate.Decimal
