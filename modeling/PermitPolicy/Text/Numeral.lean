import PermitPolicy.Basic

/-! Whole numbers in decimal digits, read within bounds. -/

namespace PermitPolicy.Text
set_option autoImplicit false

inductive NumeralFault where
  | empty | badDigit | tooLarge | tooSmall
deriving DecidableEq

def NumeralFault.message : NumeralFault → String
  | .empty => "cannot parse integer from empty string"
  | .badDigit => "invalid digit found in string"
  | .tooLarge => "number too large to fit in target type"
  | .tooSmall => "number too small to fit in target type"

/-- The number of digits after the number `n` read so far, never above a largest one. -/
def readDigits (largest n : Nat) : List Char → Except NumeralFault Nat
  | [] => .ok n
  | c :: cs =>
    if !c.isDigit then .error .badDigit
    else
      let m := n * 10 + (c.toNat - '0'.toNat)
      if m ≤ largest then readDigits largest m cs else .error .tooLarge

def readNatural (largest : Nat) : List Char → Except NumeralFault Nat
  | [] => .error .badDigit
  | cs => readDigits largest 0 cs

def readNat (largest : Nat) : List Char → Except NumeralFault Nat
  | [] => .error .empty
  | '+' :: rest => readNatural largest rest
  | cs => readNatural largest cs

def readInt : List Char → Except NumeralFault Int
  | '-' :: rest =>
    match readNatural (twoPow 63) rest with
    | .ok n => .ok (-(n : Int))
    | .error .tooLarge => .error .tooSmall
    | .error fault => .error fault
  | cs => (readNat (twoPow 63 - 1) cs).map Int.ofNat

def parseNat? (largest : Nat) (cs : List Char) : Option Nat := (readNat largest cs).toOption

end PermitPolicy.Text
