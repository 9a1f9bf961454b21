import GatewayConsole.Decimal.Layout
import GatewayConsole.Json.Tree

/-!
# Printing JSON

The compact form of a value has no blanks; the indented form puts every item and member on
a line of its own, two spaces further in than its container. Strings escape quotes,
backslashes and control characters only.
-/

namespace GatewayConsole
namespace Json

/-! ## Leaves -/

def hexDigit (value : Nat) : Char :=
  if value < 10 then Char.ofNat ('0'.toNat + value) else Char.ofNat ('a'.toNat + (value - 10))

def escape (char : Char) : List Char :=
  match char with
  | '"' => ['\\', '"']
  | '\\' => ['\\', '\\']
  | '\x08' => ['\\', 'b']
  | '\x0c' => ['\\', 'f']
  | '\n' => ['\\', 'n']
  | '\r' => ['\\', 'r']
  | '\t' => ['\\', 't']
  | other =>
      if other.toNat < 0x20 then
        ['\\', 'u', '0', '0', hexDigit (other.toNat / 16), hexDigit (other.toNat % 16)]
      else [other]

def quote (text : String) : String :=
  String.ofList ('"' :: text.toList.flatMap escape ++ ['"'])

def realText (value : Float) : String :=
  Decimal.Layout.json.write value

/-! ## Compact form -/

mutual
def compact : Json → String
  | .null => "null"
  | .bool value => if value then "true" else "false"
  | .integer value => toString value
  | .real value => realText value
  | .text value => quote value
  | .array items => "[" ++ compactItems items ++ "]"
  | .object members => "\x7b" ++ compactMembers members ++ "\x7d"

def compactItems : List Json → String
  | [] => ""
  | [item] => compact item
  | item :: next :: rest => compact item ++ "," ++ compactItems (next :: rest)

def compactMembers : List (String × Json) → String
  | [] => ""
  | [(key, value)] => quote key ++ ":" ++ compact value
  | (key, value) :: next :: rest =>
      quote key ++ ":" ++ compact value ++ "," ++ compactMembers (next :: rest)
end

/-! ## Indented form -/

def lineBreak (level : Nat) : String :=
  String.ofList ('\n' :: List.replicate (2 * level) ' ')

mutual
def indentedAt (level : Nat) : Json → String
  | .null => "null"
  | .bool value => if value then "true" else "false"
  | .integer value => toString value
  | .real value => realText value
  | .text value => quote value
  | .array [] => "[]"
  | .array (item :: rest) =>
      "[" ++ indentedItems (level + 1) (item :: rest) ++ lineBreak level ++ "]"
  | .object [] => "\x7b\x7d"
  | .object (member :: rest) =>
      "\x7b" ++ indentedMembers (level + 1) (member :: rest) ++ lineBreak level ++ "\x7d"

def indentedItems (level : Nat) : List Json → String
  | [] => ""
  | [item] => lineBreak level ++ indentedAt level item
  | item :: next :: rest =>
      lineBreak level ++ indentedAt level item ++ "," ++ indentedItems level (next :: rest)

def indentedMembers (level : Nat) : List (String × Json) → String
  | [] => ""
  | [(key, value)] => lineBreak level ++ quote key ++ ": " ++ indentedAt level value
  | (key, value) :: next :: rest =>
      lineBreak level ++ quote key ++ ": " ++ indentedAt level value ++ ","
        ++ indentedMembers level (next :: rest)
end

def indented (value : Json) : String :=
  indentedAt 0 value

end Json
end GatewayConsole
