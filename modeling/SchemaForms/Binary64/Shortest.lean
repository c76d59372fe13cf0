import SchemaForms.Binary64.Basic
/-! The shortest decimal that rounds to a given number, and its written form. -/
namespace SchemaForms.Binary64

/-- The decimal `digits * 10 ^ scale`. -/
structure Decimal where
  digits : Nat
  scale : Int
deriving DecidableEq, Repr

/-- Exponent of the first decimal digit of `num / den`. -/
def leadingExponent (num den : Nat) : Int :=
  if den ≤ num then (Nat.toDigits 10 (num / den)).length - 1
  else
    match (List.range 330).find? (fun k => den ≤ num * Nat.pow 10 (k + 1)) with
    | some k => -(k + 1 : Int)
    | none => -330

/-- A quarter of a unit in the last binary place, in which the ends of the rounding interval are
whole numbers. -/
def quarterUnit (x : Binary64) : Nat × Nat :=
  (Nat.pow 2 (x.exponent - 2).toNat, Nat.pow 2 (2 - x.exponent).toNat)

/-- Below a power of two the neighbours are half as far apart. -/
def lowerGap (x : Binary64) : Nat :=
  if x.magnitude % Nat.pow 2 52 = 0 ∧ Nat.pow 2 53 ≤ x.magnitude then 1 else 2

/-- Whether `digits * 10 ^ scale` rounds to the absolute value of `x`; ties go to even. -/
def roundsTo (x : Binary64) (digits : Nat) (scale : Int) : Bool :=
  let (num, den) := x.quarterUnit
  let value := digits * Nat.pow 10 scale.toNat * den
  let unit := num * Nat.pow 10 (-scale).toNat
  let low := (4 * x.significand - x.lowerGap) * unit
  let high := (4 * x.significand + 2) * unit
  if x.significand % 2 = 0 then low ≤ value && value ≤ high else low < value && value < high

/-- The neighbour of `x` on the grid of `10 ^ scale` that rounds to `x`: the nearer of the two,
an even one in a tie. -/
def onGrid? (x : Binary64) (scale : Int) : Option Nat :=
  let num := x.ratio.1 * Nat.pow 10 (-scale).toNat
  let den := x.ratio.2 * Nat.pow 10 scale.toNat
  let below := num / den
  match x.roundsTo below scale, x.roundsTo (below + 1) scale with
  | true, true => some (roundedQuotient num den)
  | true, false => some below
  | false, true => some (below + 1)
  | false, false => none

def withoutTrailingZeros (fuel digits : Nat) (scale : Int) : Decimal :=
  match fuel with
  | 0 => ⟨digits, scale⟩
  | fuel + 1 =>
    if digits ≠ 0 ∧ digits % 10 = 0 then withoutTrailingZeros fuel (digits / 10) (scale + 1)
    else ⟨digits, scale⟩

/-- The fewest digits that read back, nearest to the number among those. -/
def shortest (x : Binary64) : Decimal :=
  let lead := leadingExponent x.ratio.1 x.ratio.2
  let found := (List.range 17).findSome? fun (count : Nat) =>
    (x.onGrid? (lead - count)).map (withoutTrailingZeros 18 · (lead - count))
  found.getD ⟨0, 0⟩

/-- Exponents of the first digit that are written without an exponent. -/
structure Layout where
  leastPlain : Int
  greatestPlain : Int

/-- Plain decimals from 0.00001 up to sixteen whole places. -/
def jsonLayout : Layout := ⟨-5, 15⟩

def zeros (count : Nat) : List Char := List.replicate count '0'

/-- A plain decimal always has a point with a digit on both sides. -/
def plainDecimal (digits : List Char) (lead : Int) : List Char :=
  if lead < 0 then ['0', '.'] ++ zeros (-lead - 1).toNat ++ digits
  else
    let whole := lead.toNat + 1
    let fraction := digits.drop whole
    digits.take whole ++ zeros (whole - digits.length) ++ ['.'] ++
      if fraction.isEmpty then ['0'] else fraction

def scientific (digits : List Char) (lead : Int) : List Char :=
  digits.take 1 ++ (if digits.length ≤ 1 then [] else '.' :: digits.drop 1) ++
    ['e', if lead < 0 then '-' else '+'] ++ Nat.toDigits 10 lead.natAbs

def Layout.write (layout : Layout) (value : Decimal) : List Char :=
  let digits := Nat.toDigits 10 value.digits
  let lead := value.scale + digits.length - 1
  if layout.leastPlain ≤ lead ∧ lead ≤ layout.greatestPlain then plainDecimal digits lead
  else scientific digits lead

def text (x : Binary64) : String :=
  let absolute := if x.isZero then ['0', '.', '0'] else jsonLayout.write x.shortest
  String.ofList (if x.isNegative then '-' :: absolute else absolute)

end SchemaForms.Binary64
