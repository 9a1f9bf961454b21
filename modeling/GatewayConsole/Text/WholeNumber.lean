import GatewayConsole.Power

/-!
# Whole numbers in text

Decimal digits with an optional sign in front. A text of digits is the number they spell
in base ten, however many of them there are.
-/

namespace GatewayConsole
namespace Text

def digitsValue (digits : List Char) : Nat :=
  digits.foldl (fun value digit => 10 * value + (digit.toNat - '0'.toNat)) 0

def digits? (chars : List Char) : Option Nat :=
  if chars.isEmpty || !chars.all Char.isDigit then none else some (digitsValue chars)

def natural? (chars : List Char) : Option Nat :=
  match chars with
  | '+' :: digits => digits? digits
  | digits => digits? digits

def integer? (chars : List Char) : Option Int :=
  match chars with
  | '-' :: digits => (digits? digits).map fun value => -(value : Int)
  | chars => (natural? chars).map fun value => (value : Int)

def word? (text : String) : Option UInt64 :=
  (natural? text.toList).bind fun value => if value < 2 ^ 64 then some (.ofNat value) else none

def halfWord? (text : String) : Option UInt32 :=
  (integer? text.toList).bind fun value =>
    if 0 ≤ value ∧ value < 2 ^ 32 then some (.ofNat value.toNat) else none

def signed? (text : String) : Option Int64 :=
  (integer? text.toList).bind fun value =>
    if -2 ^ 63 ≤ value ∧ value < 2 ^ 63 then some (.ofInt value) else none

example : integer? ['-', '1', '2'] = some (-12) := by decide

example : natural? ['-', '0'] = none := by decide

end Text
end GatewayConsole
