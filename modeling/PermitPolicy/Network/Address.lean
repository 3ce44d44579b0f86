import PermitPolicy.Basic

/-! Network addresses as text.  An address of version 6 may leave out one run of zero groups
and may end in the bytes of an address of version 4. -/

namespace PermitPolicy.Network
set_option autoImplicit false

inductive IpAddress where
  | v4 (bytes : Vector UInt8 4)
  | v6 (groups : Vector UInt16 8)
deriving DecidableEq

def isHexDigit (c : Char) : Bool :=
  c.isDigit || ('a' ≤ c && c ≤ 'f') || ('A' ≤ c && c ≤ 'F')

def digitValue (c : Char) : Nat :=
  if c.isDigit then c.toNat - '0'.toNat else c.toLower.toNat - 'a'.toNat + 10

def digitsValue (base : Nat) (digits : List Char) : Nat :=
  digits.foldl (fun n c => n * base + digitValue c) 0

def byte? (cs : List Char) : Option UInt8 :=
  let padded := 1 < cs.length && cs.head? == some '0'
  if cs.isEmpty || 3 < cs.length || padded || !cs.all Char.isDigit then none
  else
    let n := digitsValue 10 cs
    if n < 256 then some n.toUInt8 else none

def group? (cs : List Char) : Option UInt16 :=
  if cs.isEmpty || 4 < cs.length || !cs.all isHexDigit then none
  else some (digitsValue 16 cs).toUInt16

def bytes? (cs : List Char) : Option (Vector UInt8 4) :=
  match Text.splitAt (· = '.') cs with
  | [a, b, c, d] => do return #v[← byte? a, ← byte? b, ← byte? c, ← byte? d]
  | _ => none

def groupOfBytes (high low : UInt8) : UInt16 := high.toUInt16 * 256 + low.toUInt16

def groupsOfBytes (bytes : Vector UInt8 4) : List UInt16 :=
  [groupOfBytes bytes[0] bytes[1], groupOfBytes bytes[2] bytes[3]]

/-- The groups of pieces; the last piece may be four bytes if that is wanted. -/
def groupsOf? (bytesLast : Bool) : List (List Char) → Option (List UInt16)
  | [] => some []
  | [piece] =>
    match bytesLast, bytes? piece with
    | true, some bytes => some (groupsOfBytes bytes)
    | _, _ => (group? piece).map fun g => [g]
  | piece :: others => do return (← group? piece) :: (← groupsOf? bytesLast others)

def groups? (bytesLast : Bool) (cs : List Char) : Option (List UInt16) :=
  if cs.isEmpty then some [] else groupsOf? bytesLast (Text.splitAt (· = ':') cs)

def splitGap? : List Char → Option (List Char × List Char)
  | ':' :: ':' :: after => some ([], after)
  | c :: cs => (splitGap? cs).map fun (before, after) => (c :: before, after)
  | [] => none

def ofGroups? (groups : List UInt16) : Option IpAddress :=
  if h : groups.length = 8 then some (.v6 ⟨groups.toArray, by simpa using h⟩) else none

/-- The eight groups of an address of version 6; a gap stands for one zero group or more. -/
def readV6? (cs : List Char) : Option IpAddress :=
  match splitGap? cs with
  | none => do ofGroups? (← groups? true cs)
  | some (before, after) => do
    let front ← groups? false before
    let back ← groups? true after
    let missing := 8 - (front.length + back.length)
    if missing = 0 then none else ofGroups? (front ++ List.replicate missing 0 ++ back)

namespace IpAddress

def read? (text : String) : Option IpAddress :=
  match bytes? text.toList with
  | some bytes => some (.v4 bytes)
  | none => readV6? text.toList

def localHost : IpAddress := .v4 #v[127, 0, 0, 1]

end IpAddress

def zerosAhead (gs : List UInt16) : Nat := (gs.takeWhile (· = 0)).length

/-- Where the first of the longest runs of zeros begins, and its length. -/
def longestZeros : List UInt16 → Nat × Nat
  | [] => (0, 0)
  | g :: gs =>
    let ahead := zerosAhead (g :: gs)
    let (start, length) := longestZeros gs
    if length ≤ ahead then (0, ahead) else (start + 1, length)

def groupText (g : UInt16) : String := String.ofList (Nat.toDigits 16 g.toNat)

def groupsText (gs : List UInt16) : String := ":".intercalate (gs.map groupText)

def bytesText (bytes : List UInt8) : String :=
  ".".intercalate (bytes.map fun b => toString b.toNat)

/-- The groups of an address, the longest run of two zeros or more left out; an address of
version 4 in the range set aside for them keeps its bytes. -/
def writeV6 (gs : List UInt16) : String :=
  match gs with
  | [0, 0, 0, 0, 0, 0xFFFF, high, low] =>
    "::ffff:" ++ bytesText
      [(high / 256).toUInt8, (high % 256).toUInt8, (low / 256).toUInt8, (low % 256).toUInt8]
  | _ =>
    let (start, length) := longestZeros gs
    if length ≤ 1 then groupsText gs
    else groupsText (gs.take start) ++ "::" ++ groupsText (gs.drop (start + length))

structure SocketAddress where
  address : IpAddress
  port : UInt16
deriving DecidableEq

def SocketAddress.write (s : SocketAddress) : String :=
  match s.address with
  | .v4 bytes => s!"{bytesText bytes.toList}:{s.port.toNat}"
  | .v6 groups => s!"[{writeV6 groups.toList}]:{s.port.toNat}"

end PermitPolicy.Network
