import PermitPolicy.Json.Double
import PermitPolicy.Table

/-! JSON documents.  Whole numbers are exact and differ from doubles of the same size;
members of an object are entries in key order. -/

namespace PermitPolicy.Json
set_option autoImplicit false

inductive Number where
  | int (n : Int)
  | double (x : Double)
deriving DecidableEq, Inhabited

namespace Number

/-- The value as a double, in units of `2 ^ -1074`. -/
def units : Number → Int
  | .int n => Double.unitsOfInt n
  | .double x => x.units

/-- Equal kinds and equal values; a whole number never equals a double. -/
def same : Number → Number → Bool
  | .int m, .int n => m == n
  | .double x, .double y => x.units == y.units
  | _, _ => false

def toInt64? : Number → Option Int
  | .int n => if -(twoPow 63 : Int) ≤ n ∧ n < twoPow 63 then some n else none
  | .double _ => none

end Number

inductive Value where
  | null
  | bool (b : Bool)
  | number (n : Number)
  | string (s : String)
  | array (items : List Value)
  | object (members : List (String × Value))
deriving Inhabited

namespace Value

def int (n : Int) : Value := .number (.int n)

def ofMembers (ms : List (String × Value)) : Value := .object (Entries.ofList ms)

def ofTable (t : Table Value) : Value := .object t.entries

def strings (ss : List String) : Value := .array (ss.map .string)

def isNull : Value → Bool
  | .null => true
  | _ => false

def isString : Value → Bool
  | .string _ => true
  | _ => false

def isNumber : Value → Bool
  | .number _ => true
  | _ => false

def isArray : Value → Bool
  | .array _ => true
  | _ => false

def isObject : Value → Bool
  | .object _ => true
  | _ => false

def string? : Value → Option String
  | .string s => some s
  | _ => none

def array? : Value → Option (List Value)
  | .array items => some items
  | _ => none

def units? : Value → Option Int
  | .number n => some n.units
  | _ => none

def int64? : Value → Option Int
  | .number n => n.toInt64?
  | _ => none

def get? (key : String) : Value → Option Value
  | .object ms => Entries.get? key ms
  | _ => none

def at? (index : Nat) : Value → Option Value
  | .array items => items[index]?
  | _ => none

def descend? : List String → Value → Option Value
  | [], v => some v
  | key :: keys, v => (v.get? key).bind (descend? keys)

mutual
def same : Value → Value → Bool
  | .null, .null => true
  | .bool a, .bool b => a == b
  | .number m, .number n => m.same n
  | .string s, .string t => s == t
  | .array xs, .array ys => sameItems xs ys
  | .object xs, .object ys => sameMembers xs ys
  | _, _ => false

def sameItems : List Value → List Value → Bool
  | [], [] => true
  | x :: xs, y :: ys => same x y && sameItems xs ys
  | _, _ => false

def sameMembers : List (String × Value) → List (String × Value) → Bool
  | [], [] => true
  | (k, x) :: xs, (l, y) :: ys => k == l && same x y && sameMembers xs ys
  | _, _ => false
end

mutual
/-- Every object in the document has its members in key order. -/
def Canonical : Value → Prop
  | .array items => CanonicalItems items
  | .object ms => Entries.Sorted ms ∧ CanonicalMembers ms
  | _ => True

def CanonicalItems : List Value → Prop
  | [] => True
  | x :: xs => Canonical x ∧ CanonicalItems xs

def CanonicalMembers : List (String × Value) → Prop
  | [] => True
  | (_, x) :: xs => Canonical x ∧ CanonicalMembers xs
end

mutual
def decCanonical : (v : Value) → Decidable v.Canonical
  | .array items => decCanonicalItems items
  | .object ms =>
    have := decCanonicalMembers ms
    inferInstanceAs (Decidable (Entries.Sorted ms ∧ CanonicalMembers ms))
  | .null | .bool _ | .number _ | .string _ => isTrue trivial

def decCanonicalItems : (items : List Value) → Decidable (CanonicalItems items)
  | [] => isTrue trivial
  | x :: xs =>
    have := decCanonical x
    have := decCanonicalItems xs
    inferInstanceAs (Decidable (Canonical x ∧ CanonicalItems xs))

def decCanonicalMembers : (ms : List (String × Value)) → Decidable (CanonicalMembers ms)
  | [] => isTrue trivial
  | (_, x) :: xs =>
    have := decCanonical x
    have := decCanonicalMembers xs
    inferInstanceAs (Decidable (Canonical x ∧ CanonicalMembers xs))
end

instance (v : Value) : Decidable v.Canonical := decCanonical v

@[simp] theorem get?_object (key : String) (ms : List (String × Value)) :
    (Value.object ms).get? key = Entries.get? key ms := rfl

end Value

mutual
def Value.decEq : (a b : Value) → Decidable (a = b)
  | .null, .null => isTrue rfl
  | .bool a, .bool b => decidable_of_iff (a = b) (by simp)
  | .number a, .number b => decidable_of_iff (a = b) (by simp)
  | .string a, .string b => decidable_of_iff (a = b) (by simp)
  | .array a, .array b =>
    have := Value.decEqItems a b
    decidable_of_iff (a = b) (by simp)
  | .object a, .object b =>
    have := Value.decEqMembers a b
    decidable_of_iff (a = b) (by simp)
  | .null, .bool _ | .null, .number _ | .null, .string _ | .null, .array _ | .null, .object _
  | .bool _, .null | .bool _, .number _ | .bool _, .string _ | .bool _, .array _
  | .bool _, .object _
  | .number _, .null | .number _, .bool _ | .number _, .string _ | .number _, .array _
  | .number _, .object _
  | .string _, .null | .string _, .bool _ | .string _, .number _ | .string _, .array _
  | .string _, .object _
  | .array _, .null | .array _, .bool _ | .array _, .number _ | .array _, .string _
  | .array _, .object _
  | .object _, .null | .object _, .bool _ | .object _, .number _ | .object _, .string _
  | .object _, .array _ => isFalse nofun

def Value.decEqItems : (a b : List Value) → Decidable (a = b)
  | [], [] => isTrue rfl
  | x :: xs, y :: ys =>
    have := Value.decEq x y
    have := Value.decEqItems xs ys
    decidable_of_iff (x = y ∧ xs = ys) (by simp)
  | [], _ :: _ | _ :: _, [] => isFalse nofun

def Value.decEqMembers : (a b : List (String × Value)) → Decidable (a = b)
  | [], [] => isTrue rfl
  | (k, x) :: xs, (l, y) :: ys =>
    have := Value.decEq x y
    have := Value.decEqMembers xs ys
    decidable_of_iff (k = l ∧ x = y ∧ xs = ys) (by simp [and_assoc])
  | [], _ :: _ | _ :: _, [] => isFalse nofun
end

instance : DecidableEq Value := Value.decEq

end PermitPolicy.Json
