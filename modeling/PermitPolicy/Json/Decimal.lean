import PermitPolicy.Json.Double

/-! Decimal text of doubles.  Writing takes the fewest digits that read back as the same
double and, of those, the nearest; reading rounds the leading digits to a double and
scales that by a power of ten. -/

namespace PermitPolicy.Json.Decimal
set_option autoImplicit false

structure Interval where
  low : Nat
  middle : Nat
  high : Nat
  closed : Bool

/-- A magnitude rounds to the double when it lies between the two midpoints, and also on
them when the significand is even. -/
def Interval.of (x : Double) : Interval :=
  let step := twoPow x.shift
  let below := if x.significand = twoPow 52 ∧ 0 < x.shift then step else 2 * step
  let middle := 4 * x.significand * step
  ⟨middle - below, middle, middle + 2 * step, x.significand % 2 = 0⟩

def Interval.contains (i : Interval) (num den : Nat) : Bool :=
  if i.closed then i.low * den ≤ num && num ≤ i.high * den
  else i.low * den < num && num < i.high * den

def exponentOf (magnitude : Nat) : Int :=
  ((Nat.toDigits 10 (magnitude * tenPow 330 / twoPow 1074)).length : Int) - 331

/-- The member of a decimal grid nearest to the double, if one reads back as it.  The grid
step is `10 ^ place`. -/
def onGrid (i : Interval) (place : Int) : Option Nat :=
  -- a grid point c is worth c * up / down quarter units
  let up := 4 * twoPow 1074 * tenPow place.toNat
  let down := tenPow (-place).toNat
  let target := i.middle * down
  let floor := target / up
  let hit (c : Nat) : Bool := i.contains (c * up) down
  let below := target - floor * up
  let above := (floor + 1) * up - target
  match hit floor, hit (floor + 1) with
  | false, false => none
  | true, false => some floor
  | false, true => some (floor + 1)
  | true, true =>
    if below < above then some floor
    else if above < below then some (floor + 1)
    else some (floor + floor % 2)

def searchGrids (i : Interval) (exponent : Int) : (tries count : Nat) → Nat × Int
  | 0, count =>
    let place := exponent - count
    ((onGrid i place).getD 0, place)
  | tries + 1, count =>
    let place := exponent - count
    match onGrid i place with
    | some c => (c, place)
    | none => searchGrids i exponent tries (count + 1)

/-- The fewest digits that read back as a positive double: a whole number and the place of
its last digit. -/
def shortest (x : Double) : Nat × Int :=
  searchGrids (.of x) (exponentOf x.magnitude) 17 0

def trimZeros (digits : List Char) : List Char :=
  match (digits.reverse.dropWhile (· == '0')).reverse with
  | [] => ['0']
  | kept => kept

def scientific (x : Double) : List Char × Int :=
  if x.significand = 0 then (['0'], 0)
  else
    let (c, place) := shortest x
    let digits := Nat.toDigits 10 c
    (trimZeros digits, place + (digits.length : Int) - 1)

structure Layout where
  leastPositional : Int
  greatestPositional : Int

def documentLayout : Layout := ⟨-5, 15⟩

def positional (digits : List Char) (exponent : Int) : List Char :=
  if exponent < 0 then
    '0' :: '.' :: (List.replicate (-exponent - 1).toNat '0' ++ digits)
  else
    let whole := exponent.toNat + 1
    let padded := digits ++ List.replicate (whole - digits.length) '0'
    let fraction := match padded.drop whole with
      | [] => ['0']
      | rest => rest
    padded.take whole ++ '.' :: fraction

def exponential (digits : List Char) (exponent : Int) : List Char :=
  let sign := if exponent < 0 then '-' else '+'
  let mark := 'e' :: sign :: Nat.toDigits 10 exponent.natAbs
  match digits with
  | [] => mark
  | [d] => d :: mark
  | d :: rest => d :: '.' :: (rest ++ mark)

def write (layout : Layout) (x : Double) : String :=
  let (digits, exponent) := scientific x
  let body :=
    if layout.leastPositional ≤ exponent ∧ exponent ≤ layout.greatestPositional then
      positional digits exponent
    else exponential digits exponent
  String.ofList (if x.negative then '-' :: body else body)

def largestStep : Nat := 308

def scaleDown (x : Double) (places : Nat) : Option Double :=
  if x.significand = 0 then some x
  else if places ≤ largestStep then do x.div? (← Double.tenPow? places)
  else do
    let smaller ← x.div? (← Double.tenPow? largestStep)
    scaleDown smaller (places - largestStep)
termination_by places
decreasing_by simp [largestStep] at *; omega

/-- The double read from `± digits * 10 ^ exponent`: the digits are rounded to a double, which
is then scaled.  There is none when the number is too large. -/
def read? (negative : Bool) (digits : Nat) (exponent : Int) : Option Double := do
  let x ← Double.ofNat? digits
  let scaled ←
    if 0 ≤ exponent then
      if exponent.toNat ≤ largestStep then do x.mul? (← Double.tenPow? exponent.toNat)
      else if x.significand = 0 then some x
      else none
    else scaleDown x (-exponent).toNat
  return if negative then scaled.neg else scaled

end PermitPolicy.Json.Decimal
