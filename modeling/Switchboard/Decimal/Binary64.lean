/-!
Finite binary floating-point numbers of 64 bits, with exact arithmetic before each rounding.
-/

namespace Switchboard.Decimal

/-- The number `significand * 2 ^ exponent`, or its negation; zero has both signs. -/
structure Binary64 where
  negative : Bool
  significand : Nat
  exponent : Int
deriving DecidableEq

namespace Binary64

def minExponent : Int := -1074

def maxExponent : Int := 971

/-- The significand of a number that is not among the smallest has this many bits, less one. -/
def precision : Nat := 52

def zero (negative : Bool) : Binary64 :=
  ⟨negative, 0, 0⟩

def isZero (x : Binary64) : Bool :=
  x.significand == 0

def neg (x : Binary64) : Binary64 :=
  { x with negative := !x.negative }

def scale (exponent : Int) (num den : Nat) : Nat × Nat :=
  if 0 ≤ exponent then (num * Nat.pow 2 exponent.toNat, den)
  else (num, den * Nat.pow 2 (-exponent).toNat)

def fraction (x : Binary64) : Nat × Nat :=
  scale x.exponent x.significand 1

/-- The exponent at which a positive fraction has a significand of full precision. -/
def fullExponent (num den : Nat) : Int :=
  let guess : Int := (num.log2 : Int) - den.log2 - precision
  let (n, d) := scale (-guess) num den
  if n < Nat.pow 2 precision * d then guess - 1 else guess

/-- The nearest number to a fraction, the even neighbour where two are as near; none when that
would be too large. -/
def round (negative : Bool) (num den : Nat) : Option Binary64 :=
  if num = 0 then some (zero negative)
  else
    let exponent := max (fullExponent num den) minExponent
    let (n, d) := scale (-exponent) num den
    let quotient := n / d
    let rest := n % d
    let up := d < 2 * rest || (2 * rest = d && quotient % 2 = 1)
    let significand := if up then quotient + 1 else quotient
    if significand = 0 then some (zero negative)
    else if significand = Nat.pow 2 (precision + 1) then
      if maxExponent < exponent + 1 then none
      else some ⟨negative, Nat.pow 2 precision, exponent + 1⟩
    else if maxExponent < exponent then none
    else some ⟨negative, significand, exponent⟩

def ofNat? (n : Nat) : Option Binary64 :=
  round false n 1

def mul? (x y : Binary64) : Option Binary64 :=
  let (n, d) := x.fraction
  let (n', d') := y.fraction
  round (x.negative != y.negative) (n * n') (d * d')

/-- The rounded quotient; none when the divisor is zero. -/
def div? (x y : Binary64) : Option Binary64 :=
  if y.isZero then none
  else
    let (n, d) := x.fraction
    let (n', d') := y.fraction
    round (x.negative != y.negative) (n * d') (d * n')

def pow10? (k : Nat) : Option Binary64 :=
  round false (Nat.pow 10 k) 1

/-- Equality of values: the zeros of both signs are equal. -/
def same (x y : Binary64) : Bool :=
  x == y || (x.isZero && y.isZero)

end Binary64

end Switchboard.Decimal
