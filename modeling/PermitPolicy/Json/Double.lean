import PermitPolicy.Basic

/-! Finite double-precision numbers, held exactly.  A double is a signed multiple
of `2 ^ -1074`, so order, equality and rounding are integer arithmetic and every
comparison of doubles is a comparison of integers. -/

namespace PermitPolicy.Json
set_option autoImplicit false

/-- The number `± significand * 2 ^ shift` in units of `2 ^ -1074`. -/
structure Double where
  negative : Bool
  significand : Nat
  shift : Nat
  canonical : significand < twoPow 53 ∧ shift ≤ 2045 ∧ (twoPow 52 ≤ significand ∨ shift = 0)
deriving DecidableEq

namespace Double

def magnitude (x : Double) : Nat := x.significand * twoPow x.shift

def units (x : Double) : Int := if x.negative then -(x.magnitude : Int) else x.magnitude

def zero (negative : Bool) : Double := ⟨negative, 0, 0, by decide⟩

instance : Inhabited Double := ⟨zero false⟩

/-- The quotient rounded to the nearest natural number, a half to the even neighbour. -/
def roundDiv (num den : Nat) : Nat :=
  let q := num / den
  let twice := 2 * (num % den)
  if twice < den then q
  else if twice = den then q + q % 2
  else q + 1

/-- The count of low bits that a magnitude of this size has to give up. -/
def excessBits (n : Nat) : Nat := (n.log2 + 1) - 53

/-- The significand and shift nearest to `num / den` units; the shift may exceed the
largest one of a double. -/
def nearest (num den : Nat) : Nat × Nat :=
  let shift := excessBits (num / den)
  let significand := roundDiv num (den * twoPow shift)
  if significand = twoPow 53 then (twoPow 52, shift + 1) else (significand, shift)

def ofUnits? (negative : Bool) (num den : Nat) : Option Double :=
  let (significand, shift) := nearest num den
  if h : significand < twoPow 53 ∧ shift ≤ 2045 ∧ (twoPow 52 ≤ significand ∨ shift = 0) then
    some ⟨negative, significand, shift, h⟩
  else none

def ofNat? (n : Nat) : Option Double := ofUnits? false (n * twoPow 1074) 1

/-- The units of the nearest double of a whole number, however large. -/
def unitsOfInt (n : Int) : Int :=
  let (significand, shift) := nearest (n.natAbs * twoPow 1074) 1
  n.sign * (significand * twoPow shift : Nat)

def neg (x : Double) : Double := { x with negative := !x.negative }

def mul? (x y : Double) : Option Double :=
  ofUnits? (x.negative != y.negative) (x.magnitude * y.magnitude) (twoPow 1074)

def div? (x y : Double) : Option Double :=
  ofUnits? (x.negative != y.negative) (x.magnitude * twoPow 1074) y.magnitude

def tenPow? (k : Nat) : Option Double := ofNat? (tenPow k)

end Double
end PermitPolicy.Json
