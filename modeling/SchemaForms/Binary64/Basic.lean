/-! Floating point numbers of 64 bits as bit patterns, with exact values and correct rounding in
natural numbers. -/
namespace SchemaForms

structure Binary64 where
  bits : UInt64
deriving DecidableEq, Inhabited

namespace Binary64

def isNegative (x : Binary64) : Bool := Nat.pow 2 63 ≤ x.bits.toNat

/-- The pattern without its sign; it grows with the absolute value. -/
def magnitude (x : Binary64) : Nat := x.bits.toNat % Nat.pow 2 63

def infinity : Nat := 2047 * Nat.pow 2 52

def isFinite (x : Binary64) : Bool := x.magnitude < infinity

def ofMagnitude (negative : Bool) (magnitude : Nat) : Binary64 :=
  ⟨UInt64.ofNat (magnitude + if negative then Nat.pow 2 63 else 0)⟩

/-- Position in the total order, in which negative zero precedes zero. -/
def rank (x : Binary64) : Int :=
  if x.isNegative then -(x.magnitude : Int) - 1 else x.magnitude

/-- The absolute value is `significand * 2 ^ exponent`. -/
def significand (x : Binary64) : Nat :=
  if x.magnitude < Nat.pow 2 52 then x.magnitude
  else x.magnitude % Nat.pow 2 52 + Nat.pow 2 52

def exponent (x : Binary64) : Int :=
  if x.magnitude < Nat.pow 2 52 then -1074 else (x.magnitude / Nat.pow 2 52 : Nat) - 1075

/-- The nearest whole number to `num / den`, an even one in a tie. -/
def roundedQuotient (num den : Nat) : Nat :=
  let quotient := num / den
  let twice := 2 * (num % den)
  if den < twice ∨ (twice = den ∧ quotient % 2 = 1) then quotient + 1 else quotient

/-- Numerator and denominator of `num / den / 2 ^ exponent`. -/
def shifted (num den : Nat) (exponent : Int) : Nat × Nat :=
  (num * Nat.pow 2 (-exponent).toNat, den * Nat.pow 2 exponent.toNat)

/-- The exponent at which `num / den` has 53 binary digits, or the least one there is. -/
def unitExponent (num den : Nat) : Int :=
  let low : Int := (num.log2 : Int) - den.log2 - 53
  let (n, d) := shifted num den low
  max (if Nat.pow 2 53 ≤ n / d then low + 1 else low) (-1074)

/-- The number nearest to `num / den`; too large a quotient gives infinity. -/
def ofRatio (negative : Bool) (num den : Nat) : Binary64 :=
  if num = 0 then ofMagnitude negative 0
  else
    let unit := unitExponent num den
    let (n, d) := shifted num den unit
    let magnitude := (unit + 1074).toNat * Nat.pow 2 52 + roundedQuotient n d
    ofMagnitude negative (min magnitude infinity)

def ofInt (n : Int) : Binary64 := ofRatio (n < 0) n.natAbs 1

def ratio (x : Binary64) : Nat × Nat :=
  (x.significand * Nat.pow 2 x.exponent.toNat, Nat.pow 2 (-x.exponent).toNat)

def isZero (x : Binary64) : Bool := x.magnitude = 0

def neg (x : Binary64) : Binary64 := ofMagnitude (!x.isNegative) x.magnitude

def mul (x y : Binary64) : Binary64 :=
  ofRatio (x.isNegative ^^ y.isNegative) (x.ratio.1 * y.ratio.1) (x.ratio.2 * y.ratio.2)

def div (x y : Binary64) : Binary64 :=
  ofRatio (x.isNegative ^^ y.isNegative) (x.ratio.1 * y.ratio.2) (x.ratio.2 * y.ratio.1)

/-- The number nearest to `digits * 10 ^ scale`. Scales that decide the answer alone are cut off
before any power is formed. -/
def ofDecimal (negative : Bool) (digits : Nat) (scale : Int) : Binary64 :=
  let places : Int := (Nat.toDigits 10 digits).length + scale
  if digits = 0 ∨ places < -330 then ofMagnitude negative 0
  else if 310 < places then ofMagnitude negative infinity
  else ofRatio negative (digits * Nat.pow 10 scale.toNat) (Nat.pow 10 (-scale).toNat)

end Binary64
end SchemaForms
