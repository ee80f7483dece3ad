import VpcMachines.Decimal.Shortest

/-!
# How a number is written

The decisions that turn the shortest digits of a number into text: which exponents are written
positionally, whether an integral value keeps its point, and how an exponent looks.
-/

namespace VpcMachines.Decimal

structure Layout where
  /-- Exponents of the leading digit from `plainFrom` up to but not including `plainBelow` are
  written positionally. -/
  plainFrom : Int
  plainBelow : Int
  /-- The least number of digits of an exponent. -/
  exponentWidth : Nat
  infinity : String
  notANumber : String

/-- The digits of a natural number as characters. -/
def digitChars (n : Nat) : List Char := Nat.toDigits 10 n

namespace Layout

/-- Digits with the point behind the digit of exponent `lead` zero; an integral value ends in `.0`. -/
def plain (digits : List Char) (lead : Int) : List Char :=
  if lead < 0 then '0' :: '.' :: (List.replicate (-lead - 1).toNat '0' ++ digits)
  else
    let whole := lead.toNat + 1
    if digits.length ≤ whole then
      digits ++ List.replicate (whole - digits.length) '0' ++ ['.', '0']
    else digits.take whole ++ '.' :: digits.drop whole

def scientific (f : Layout) (digits : List Char) (lead : Int) : List Char :=
  let mantissa :=
    match digits with
    | [] => []
    | [d] => [d]
    | d :: rest => d :: '.' :: rest
  let magnitude := digitChars lead.natAbs
  let zeros := List.replicate (f.exponentWidth - magnitude.length) '0'
  mantissa ++ 'e' :: (if lead < 0 then '-' else '+') :: (zeros ++ magnitude)

/-- A decimal that is not zero, laid out. -/
def layOut (f : Layout) (d : Digits) : List Char :=
  let digits := digitChars d.digits
  let lead := d.exponent + digits.length - 1
  if f.plainFrom ≤ lead ∧ lead < f.plainBelow then plain digits lead else f.scientific digits lead

/-- The text of a number. Zero keeps its sign. -/
def write (f : Layout) (x : Float) : String :=
  if x.isNaN then f.notANumber
  else
    let negative := x.toBits >>> 63 != 0
    let sign := if negative then "-" else ""
    if x.isInf then sign ++ f.infinity
    else
      let magnitude := Magnitude.ofBits x.toBits
      if magnitude.mantissa = 0 then sign ++ "0.0"
      else sign ++ String.ofList (f.layOut magnitude.shortest)

end Layout

/-- Numbers are written with the fewest digits that identify them, positionally from `0.0001` up to
below ten to the sixteenth, otherwise with a signed exponent of at least two digits. -/
def standardLayout : Layout := ⟨-4, 16, 2, "inf", "nan"⟩

example : standardLayout.write 0.1 = "0.1" := by decide +kernel
example : standardLayout.write 1e16 = "1e+16" := by decide +kernel
example : standardLayout.write 0.00001 = "1e-05" := by decide +kernel
example : standardLayout.write 123456789.125 = "123456789.125" := by decide +kernel

end VpcMachines.Decimal
