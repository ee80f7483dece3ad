import VpcMachines.Decimal.Shortest

/-!
# Numbers from digits, and integers from numbers

The number nearest to a decimal, and the integer that a number is, if it is one.
-/

namespace VpcMachines.Decimal

/-- The number nearest to `digits * 10^exponent`. Exponents so far out that the result is an infinity
or zero whatever the digits are settled first. -/
def nearest (negative : Bool) (digits : Nat) (exponent : Int) : Float :=
  let size : Int := (Nat.toDigits 10 digits).length
  let x : Float :=
    if digits = 0 then 0.0
    else if 400 < exponent + size then 1.0 / 0.0
    else if exponent + size < -400 then 0.0
    else Float.ofScientific digits (exponent < 0) exponent.natAbs
  if negative then -x else x

/-- What a number is, as far as integers are concerned. -/
inductive Integrality where
  | integer (n : Int)
  | fractional
  | notFinite
  deriving DecidableEq, Repr

def integrality (x : Float) : Integrality :=
  if x.isNaN || x.isInf then .notFinite
  else
    let m := Magnitude.ofBits x.toBits
    let sign : Int := if x.toBits >>> 63 != 0 then -1 else 1
    if 0 ≤ m.exponent then .integer (sign * (m.mantissa * Nat.pow 2 m.exponent.toNat : Nat))
    else
      let unit := Nat.pow 2 (-m.exponent).toNat
      if m.mantissa % unit = 0 then .integer (sign * (m.mantissa / unit : Nat)) else .fractional

example : integrality 80.0 = .integer 80 := by decide +kernel
example : integrality 0.5 = .fractional := by decide +kernel

end VpcMachines.Decimal
