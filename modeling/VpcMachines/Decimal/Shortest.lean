/-!
# The fewest digits that identify a number

A finite binary64 number is `m * 2^q`. The reals that are read back as this number form an interval,
with its ends exactly when `m` is even. Of the decimals in that interval, those with the fewest
digits are shortest; of these the nearest to the number is chosen, and of two equally near the one
with the even last digit. The search compares naturals only.
-/

namespace VpcMachines.Decimal

/-- A finite number without its sign: `mantissa * 2^exponent`. At a power of two the gap to the
number below is half the gap to the number above. -/
structure Magnitude where
  mantissa : Nat
  exponent : Int
  narrowBelow : Bool

/-- The magnitude that the bits of a finite number stand for. -/
def Magnitude.ofBits (bits : UInt64) : Magnitude :=
  let e := ((bits >>> 52) &&& 0x7FF).toNat
  let f := (bits &&& 0xFFFFFFFFFFFFF).toNat
  if e = 0 then ⟨f, -1074, false⟩ else ⟨Nat.pow 2 52 + f, (e : Int) - 1075, f == 0 && e > 1⟩

/-- The value `digits * 10^exponent`. -/
structure Digits where
  digits : Nat
  exponent : Int
  deriving DecidableEq, Repr

/-- Compares `a * 10^i` with `n * 2^j`. -/
def compareScaled (a : Nat) (i : Int) (n : Nat) (j : Int) : Ordering :=
  compare (a * Nat.pow 10 i.toNat * Nat.pow 2 (-j).toNat)
    (n * Nat.pow 2 j.toNat * Nat.pow 10 (-i).toNat)

/-- Whether a decimal lies among the reals that are read back as the number. -/
def Magnitude.identifiedBy (x : Magnitude) (d : Digits) : Bool :=
  let low := if x.narrowBelow then 4 * x.mantissa - 1 else 4 * x.mantissa - 2
  let high := 4 * x.mantissa + 2
  let closed := x.mantissa % 2 == 0
  let atLow := compareScaled d.digits d.exponent low (x.exponent - 2)
  let atHigh := compareScaled d.digits d.exponent high (x.exponent - 2)
  (atLow == .gt || (closed && atLow == .eq)) && (atHigh == .lt || (closed && atHigh == .eq))

/-- The largest multiple of `10^exponent` that is not above the number, in that unit. -/
def Magnitude.floorAt (x : Magnitude) (exponent : Int) : Nat :=
  (x.mantissa * Nat.pow 2 x.exponent.toNat * Nat.pow 10 (-exponent).toNat) /
    (Nat.pow 2 (-x.exponent).toNat * Nat.pow 10 exponent.toNat)

/-- The least `k` with `x < 10^k`, found upwards from an estimate that is not too large. -/
def Magnitude.scaleFrom (x : Magnitude) : Nat → Int → Int
  | 0, k => k
  | steps + 1, k =>
    if compareScaled 1 k x.mantissa x.exponent == .gt then k else x.scaleFrom steps (k + 1)

def Magnitude.scale (x : Magnitude) : Int :=
  x.scaleFrom 8 (((x.mantissa.log2 : Int) + x.exponent) * 30103 / 100000 - 2)

/-- The better of the two neighbours of the number on the grid of step `10^exponent`, if one
identifies it. -/
def Magnitude.onGrid? (x : Magnitude) (exponent : Int) : Option Digits :=
  let below := x.floorAt exponent
  let lower : Digits := ⟨below, exponent⟩
  let upper : Digits := ⟨below + 1, exponent⟩
  match x.identifiedBy lower, x.identifiedBy upper with
  | false, false => none
  | true, false => some lower
  | false, true => some upper
  | true, true =>
    match compareScaled (2 * below + 1) exponent (2 * x.mantissa) x.exponent with
    | .gt => some lower
    | .lt => some upper
    | .eq => some (if below % 2 = 0 then lower else upper)

/-- Moves zeros at the end of the digits into the exponent. -/
def Digits.stripZeros : Nat → Digits → Digits
  | 0, d => d
  | steps + 1, d =>
    if d.digits % 10 = 0 ∧ d.digits ≠ 0 then Digits.stripZeros steps ⟨d.digits / 10, d.exponent + 1⟩
    else d

/-- All the digits of the number, for the case that no short decimal identifies it. -/
def Magnitude.exact (x : Magnitude) : Digits :=
  if 0 ≤ x.exponent then ⟨x.mantissa * Nat.pow 2 x.exponent.toNat, 0⟩
  else ⟨x.mantissa * Nat.pow 5 (-x.exponent).toNat, x.exponent⟩

/-- The shortest decimal of a number that is not zero. -/
def Magnitude.shortest (x : Magnitude) : Digits :=
  let k := x.scale
  let found := (List.range 17).findSome? fun (n : Nat) ↦ x.onGrid? (k - 1 - (n : Nat))
  (found.getD x.exact).stripZeros 400

example : (Magnitude.ofBits 0x3FB999999999999A).shortest = ⟨1, -1⟩ := by decide +kernel
example : (Magnitude.ofBits 0x0000000000000001).shortest = ⟨5, -324⟩ := by decide +kernel

end VpcMachines.Decimal
