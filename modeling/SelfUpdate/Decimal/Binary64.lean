/-!
# Binary floating point numbers

Finite numbers with 53 significant bits, as an integer times a power of two. Every operation is the
exact result, rounded to the nearest such number, a tie to the even one.
-/

namespace SelfUpdate.Decimal

/-- The number `significand * 2 ^ exponent`, with the sign kept apart so that zero has one too. -/
structure Binary64 where
  negative : Bool
  significand : Nat
  exponent : Int
  deriving DecidableEq, Repr

namespace Binary64

/-- The exponent of the smallest positive number. -/
def leastExponent : Int := -1074

/-- The exponent of the largest number. -/
def greatestExponent : Int := 971

def zero : Binary64 := ⟨false, 0, leastExponent⟩

def isZero (x : Binary64) : Bool := x.significand == 0

/-- A quotient rounded to the nearest integer, a tie to the even one. -/
def divideToEven (num den : Nat) : Nat :=
  let quotient := num / den
  let twice := 2 * (num % den)
  if twice > den ∨ (twice = den ∧ quotient % 2 = 1) then quotient + 1 else quotient

/-- The ratio `num / den` in units of `2 ^ exponent`, as a ratio again. -/
def inUnits (num den : Nat) (exponent : Int) : Nat × Nat :=
  if 0 ≤ exponent then (num, den <<< exponent.toNat) else (num <<< (-exponent).toNat, den)

/-- The exponent at which the integer part of a positive ratio has 53 bits. -/
def exponentOf (num den : Nat) : Int :=
  let guess : Int := (Nat.log2 num : Int) - Nat.log2 den - 53
  let (n, d) := inUnits num den guess
  if n / d ≥ 1 <<< 53 then guess + 1 else guess

/-- The number nearest to `num / den`, or nothing when it exceeds every finite number. -/
def round (negative : Bool) (num den : Nat) : Option Binary64 :=
  if num = 0 then some { zero with negative }
  else
    let exponent := max (exponentOf num den) leastExponent
    let (n, d) := inUnits num den exponent
    let significand := divideToEven n d
    let carried := significand = 1 <<< 53
    let exponent := if carried then exponent + 1 else exponent
    if exponent > greatestExponent then none
    else some ⟨negative, if carried then 1 <<< 52 else significand, exponent⟩

/-- A number without its sign as an exact ratio. -/
def ratio (x : Binary64) : Nat × Nat :=
  if 0 ≤ x.exponent then (x.significand <<< x.exponent.toNat, 1)
  else (x.significand, 1 <<< (-x.exponent).toNat)

def negate (x : Binary64) : Binary64 := { x with negative := !x.negative }

def ofNat? (n : Nat) : Option Binary64 := round false n 1

def mul? (x y : Binary64) : Option Binary64 :=
  let (a, b) := x.ratio
  let (c, d) := y.ratio
  round (x.negative != y.negative) (a * c) (b * d)

/-- The quotient by a number other than zero. -/
def div? (x y : Binary64) : Option Binary64 :=
  let (a, b) := x.ratio
  let (c, d) := y.ratio
  round (x.negative != y.negative) (a * d) (b * c)

end Binary64

end SelfUpdate.Decimal
