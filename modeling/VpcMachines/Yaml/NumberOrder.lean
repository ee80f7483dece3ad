import VpcMachines.Yaml.Atom

/-!
# The order of a set of numbers

A set of numbers is written in the order of a table, in which each number has a place that follows from
its value modulo a prime. A number whose place is taken goes to one of the next nine places, and if there
is none free, or if they would reach beyond the table, to a place that depends on the higher bits too.
-/

namespace VpcMachines.Yaml.NumberOrder

def modulus : Nat := Nat.pow 2 61 - 1

/-- The residue of a number: equal numbers have equal ones, and minus one is left out. -/
def signedResidue (negative : Bool) (n : Nat) : Int :=
  let residue : Int := if negative then -(n % modulus : Nat) else (n % modulus : Nat)
  if residue = -1 then -2 else residue

/-- The residue of a number that is no integer. A factor of two to the 61st does not count. -/
def fractionResidue (x : Float) : Int :=
  let negative := x.toBits >>> 63 != 0
  if x.isInf then if negative then -314159 else 314159
  else
    let m := Decimal.Magnitude.ofBits x.toBits
    signedResidue negative (m.mantissa * Nat.pow 2 (m.exponent % 61).toNat)

/-- The residue of a number; other atoms have none. -/
def residue? (a : Atom) : Option Int :=
  match a.numeric? with
  | none => none
  | some (.integer n) => some (signedResidue (decide (n < 0)) n.natAbs)
  | some (.other x) => if x.isNaN then none else some (fractionResidue x)

/-- How many places the table of a set has: a power of two, at least eight, and for five members or more
beyond twice their number. -/
def tableSize (count : Nat) : Nat := if count < 5 then 8 else Nat.pow 2 (Nat.log2 (2 * count) + 1)

/-- The first free place of a search that has come to `place`; `rest` are the bits to come. -/
def freePlace (size : Nat) (taken : List Nat) : (fuel place rest : Nat) → Nat
  | 0, place, _ => place
  | fuel + 1, place, rest =>
    let reach := if place + 9 < size then 10 else 1
    match ((List.range reach).map (place + ·)).find? fun p ↦ !taken.contains p with
    | some p => p
    | none =>
      let rest := rest / 32
      freePlace size taken fuel ((place * 5 + 1 + rest) % size) rest

/-- The places of some numbers by their residues, each found in turn. -/
def places (size : Nat) (taken : List Nat) : List Int → List Nat
  | [] => []
  | residue :: others =>
    let bits := (residue % Nat.pow 2 64).toNat
    let place := freePlace size taken (size + 13) (bits % size) bits
    place :: places size (place :: taken) others

/-- The members of a set in the order of the table, if all of them are numbers, and otherwise as they
are. -/
def arrange {α : Type} (atom : α → Atom) (members : List α) : List α :=
  match members.mapM fun a ↦ residue? (atom a) with
  | none => members
  | some residues =>
    let size := tableSize members.length
    let placed := (places size [] residues).zip members
    (List.range size).filterMap fun place ↦ placed.lookup place

example : arrange Atom.int [10, 1, 0] = [0, 1, 10] := by decide +kernel

end VpcMachines.Yaml.NumberOrder
