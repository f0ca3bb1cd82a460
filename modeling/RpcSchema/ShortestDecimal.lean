import RpcSchema.Text

/-! Decimal numbers and their nearest numbers of 53 binary digits. A number is shown by
the shortest decimal that is nearest to the same binary number. -/
namespace RpcSchema

structure Decimal where
  coefficient : Nat
  exponent : Int
deriving DecidableEq, Repr

/-- `significand * 2 ^ exponent` -/
structure BinaryFloat where
  significand : Nat
  exponent : Int
deriving DecidableEq, Repr

/-- A numerator and a denominator that is not zero. -/
abbrev Fraction := Nat × Nat

namespace Fraction

def scale (x : Fraction) (base : Nat) (exponent : Int) : Fraction :=
  if 0 ≤ exponent then (x.1 * base.pow exponent.toNat, x.2)
  else (x.1, x.2 * base.pow (-exponent).toNat)

def floor (x : Fraction) : Nat := x.1 / x.2

/-- The nearest whole number, and of two the even one. -/
def round (x : Fraction) : Nat :=
  let n := x.floor
  let rest := 2 * (x.1 % x.2)
  if rest < x.2 then n else if x.2 < rest then n + 1 else n + n % 2

/-- The exponent of the highest power of two that is not above a positive fraction. -/
def log2 (x : Fraction) : Int :=
  let e : Int := x.1.log2 - x.2.log2
  let y := x.scale 2 (-e)
  if y.2 ≤ y.1 then e else e - 1

def log10 (x : Fraction) : Int :=
  if x.2 ≤ x.1 then (Nat.toDigits 10 (x.1 / x.2)).length - 1
  else -(Nat.toDigits 10 ((x.2 - 1) / x.1)).length

end Fraction

namespace BinaryFloat

def zero : BinaryFloat := ⟨0, -1074⟩

def fraction (b : BinaryFloat) : Fraction := Fraction.scale (b.significand, 1) 2 b.exponent

/-- The nearest number with at most 53 binary digits, the last of which is worth
`2 ^ -1074` or more. -/
def nearest (x : Fraction) : BinaryFloat :=
  if x.1 = 0 then zero
  else
    let exponent := max (-1074) (x.log2 - 52)
    let significand := (x.scale 2 (-exponent)).round
    if significand = Nat.pow 2 53 then ⟨Nat.pow 2 52, exponent + 1⟩ else ⟨significand, exponent⟩

def isFinite (b : BinaryFloat) : Bool := b.exponent ≤ 971

end BinaryFloat

namespace Decimal

def fraction (d : Decimal) : Fraction := Fraction.scale (d.coefficient, 1) 10 d.exponent

def digitCount (d : Decimal) : Nat := (Text.ofNat d.coefficient).length

/-- The nearest binary number. Decimals far out of range are not calculated. -/
def toBinary (d : Decimal) : BinaryFloat :=
  let magnitude := d.exponent + d.digitCount
  if d.coefficient = 0 ∨ magnitude < -400 then .zero
  else if 400 < magnitude then ⟨Nat.pow 2 52, 972⟩
  else .nearest d.fraction

/-- The decimal of a given number of digits that is nearest to `b`, of the two around
it, among those that have `b` as their nearest binary number. Ties go up. -/
def withDigits (b : BinaryFloat) (count : Nat) : Option Decimal :=
  let x := b.fraction
  let exponent := x.log10 - count + 1
  let y := x.scale 10 (-exponent)
  let down : Decimal := ⟨y.floor, exponent⟩
  let up : Decimal := ⟨y.floor + 1, exponent⟩
  match decide (down.toBinary = b), decide (up.toBinary = b) with
  | true, true => some (if 2 * (y.1 % y.2) < y.2 then down else up)
  | true, false => some down
  | false, true => some up
  | false, false => none

/-- The shortest decimal for a binary number; seventeen digits are always enough. -/
def shortest (b : BinaryFloat) : Decimal :=
  if b.significand = 0 then ⟨0, 0⟩
  else ((List.range 17).findSome? fun n => withDigits b (n + 1)).getD ⟨0, 0⟩

def text (d : Decimal) : Text :=
  let digits := Text.ofNat d.coefficient
  if 0 ≤ d.exponent then digits ++ List.replicate d.exponent.toNat '0' ++ ".0".toList
  else
    let places := (-d.exponent).toNat
    let padded := List.replicate (places + 1 - digits.length) '0' ++ digits
    let whole := padded.take (padded.length - places)
    let part := (padded.drop (padded.length - places)).reverse.dropWhile (· == '0')
    whole ++ '.' :: (if part.isEmpty then ['0'] else part.reverse)

/-- A decimal as it is shown once it has been taken for a binary number. -/
def shown (d : Decimal) : Text :=
  if d.coefficient = 0 then "0.0".toList else (shortest d.toBinary).text

end Decimal

end RpcSchema
