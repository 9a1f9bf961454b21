/-!
# Escaped characters

An address holds only some characters as they are. Every other character is written as the
bytes that encode it, each as a percent sign with two hexadecimal digits. Which characters
are escaped depends on the part of the address.
-/

namespace GatewayConsole
namespace Url

/-! ## Parts of an address -/

inductive Component
  | user
  | path
  | webQuery
  | query
  | fragment
  | plain
deriving DecidableEq, Repr

namespace Component

def queryMarks : List Char := [' ', '"', '#', '<', '>']

def fragmentMarks : List Char := [' ', '"', '<', '>', '\x60']

def pathMarks : List Char := fragmentMarks ++ ['#', '?', '\x7b', '\x7d']

def marks : Component → List Char
  | .user => pathMarks ++ ['/', ':', ';', '=', '@', '[', '\\', ']', '^', '|']
  | .path => pathMarks
  | .webQuery => queryMarks ++ ['\'']
  | .query => queryMarks
  | .fragment => fragmentMarks
  | .plain => []

def escapes (component : Component) (char : Char) : Bool :=
  char.toNat < 0x20 || 0x7F ≤ char.toNat || component.marks.contains char

end Component

/-! ## Writing -/

def hexDigit (value : Nat) : Char :=
  Char.ofNat (if value < 10 then 48 + value else 55 + value)

def escapedByte (byte : UInt8) : List Char :=
  ['%', hexDigit (byte.toNat / 16), hexDigit (byte.toNat % 16)]

def escape (component : Component) (chars : List Char) : List Char :=
  chars.flatMap fun char =>
    if component.escapes char then (String.utf8EncodeChar char).flatMap escapedByte else [char]

example : escape .path ['a', ' ', 'é'] = "a%20%C3%A9".toList := by decide +kernel

/-! ## Reading -/

def hexValue? (char : Char) : Option Nat :=
  if char.isDigit then some (char.toNat - 48)
  else if 'a' ≤ char && char ≤ 'f' then some (char.toNat - 87)
  else if 'A' ≤ char && char ≤ 'F' then some (char.toNat - 55)
  else none

/-- The bytes that a text with escapes stands for. A percent sign without two digits
stands for itself. -/
def unescape : List Char → List UInt8
  | [] => []
  | '%' :: high :: low :: rest =>
      match hexValue? high, hexValue? low with
      | some high, some low => UInt8.ofNat (16 * high + low) :: unescape rest
      | _, _ => String.utf8EncodeChar '%' ++ unescape (high :: low :: rest)
  | char :: rest => String.utf8EncodeChar char ++ unescape rest

example : unescape "%41b%".toList = [0x41, 0x62, 0x25] := by decide +kernel

end Url
end GatewayConsole
