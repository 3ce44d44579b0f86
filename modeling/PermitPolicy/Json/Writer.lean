import PermitPolicy.Json.Decimal
import PermitPolicy.Json.Value

/-! Writing documents as JSON text, on one line or indented.  Only quotes, backslashes and
control characters are escaped. -/

namespace PermitPolicy.Json
set_option autoImplicit false

def hexDigit (n : Nat) : Char := (Nat.digitChar n)

def escapeChar (c : Char) : List Char :=
  match c with
  | '"' => ['\\', '"']
  | '\\' => ['\\', '\\']
  | '\x08' => ['\\', 'b']
  | '\x0c' => ['\\', 'f']
  | '\n' => ['\\', 'n']
  | '\r' => ['\\', 'r']
  | '\t' => ['\\', 't']
  | c =>
    if c < ' ' then
      ['\\', 'u', '0', '0', hexDigit (c.toNat / 16), hexDigit (c.toNat % 16)]
    else [c]

def quote (s : String) : String :=
  String.ofList ('"' :: (s.toList.flatMap escapeChar ++ ['"']))

def Number.write : Number → String
  | .int n => toString n
  | .double x => Decimal.write Decimal.documentLayout x

namespace Value

mutual
def compact : Value → String
  | .null => "null"
  | .bool b => if b then "true" else "false"
  | .number n => n.write
  | .string s => quote s
  | .array items => "[" ++ compactItems items ++ "]"
  | .object ms => "\x7b" ++ compactMembers ms ++ "\x7d"

def compactItems : List Value → String
  | [] => ""
  | [x] => compact x
  | x :: rest => compact x ++ "," ++ compactItems rest

def compactMembers : List (String × Value) → String
  | [] => ""
  | [(k, x)] => quote k ++ ":" ++ compact x
  | (k, x) :: rest => quote k ++ ":" ++ compact x ++ "," ++ compactMembers rest
end

def lineBreak (level : Nat) : String := "\n" ++ String.ofList (List.replicate (2 * level) ' ')

mutual
/-- The text with one item a line and two blanks a level. -/
def indentedAt (level : Nat) : Value → String
  | .null => "null"
  | .bool b => if b then "true" else "false"
  | .number n => n.write
  | .string s => quote s
  | .array [] => "[]"
  | .array items => "[" ++ indentedItems (level + 1) items ++ lineBreak level ++ "]"
  | .object [] => "\x7b\x7d"
  | .object ms => "\x7b" ++ indentedMembers (level + 1) ms ++ lineBreak level ++ "\x7d"

def indentedItems (level : Nat) : List Value → String
  | [] => ""
  | [x] => lineBreak level ++ indentedAt level x
  | x :: rest => lineBreak level ++ indentedAt level x ++ "," ++ indentedItems level rest

def indentedMembers (level : Nat) : List (String × Value) → String
  | [] => ""
  | [(k, x)] => lineBreak level ++ quote k ++ ": " ++ indentedAt level x
  | (k, x) :: rest =>
    lineBreak level ++ quote k ++ ": " ++ indentedAt level x ++ "," ++
      indentedMembers level rest
end

def indented (v : Value) : String := indentedAt 0 v

end Value
end PermitPolicy.Json
