import GatewayConsole.Power

/-!
# Reading decimal numbers

The double for a decimal numeral. At most as many digits as fit into 64 bits are kept;
the resulting whole number is rounded to a double once and then multiplied or divided by a
power of ten, with one more rounding. A magnitude beyond the doubles is refused, while one
below them becomes zero.
-/

namespace GatewayConsole
namespace Decimal

def wordLimit : Nat := 2 ^ 64 - 1

/-- Whole digits that are being collected, and the power of ten they are scaled by. -/
structure Digits where
  value : Nat
  scale : Int
deriving DecidableEq

namespace Digits

/-- Collect digits before the point. From the first digit that does not fit, digits only
add to the scale. -/
def collectWhole (collected : Digits) (digits : List Nat) : Digits :=
  match digits with
  | [] => collected
  | digit :: rest =>
      if collected.value * 10 + digit ≤ wordLimit then
        collectWhole { collected with value := collected.value * 10 + digit } rest
      else { collected with scale := collected.scale + (rest.length + 1) }

/-- Collect digits behind the point. From the first digit that does not fit, digits are
dropped. -/
def collectFraction (collected : Digits) (digits : List Nat) : Digits :=
  match digits with
  | [] => collected
  | digit :: rest =>
      if collected.value * 10 + digit ≤ wordLimit then
        collectFraction ⟨collected.value * 10 + digit, collected.scale - 1⟩ rest
      else collected

example : (collectWhole ⟨0, 0⟩ [1, 2]).collectFraction [5] = ⟨125, -1⟩ := by decide

def greatestPower : Nat := 308

def powerOfTen (exponent : Nat) : Float :=
  Float.ofScientific 1 false exponent

/-- Divide by the greatest power of ten until what is left of the scale is a power of ten
too. A 64-bit number is zero after three such divisions. -/
def divide (number : Float) (exponent : Nat) : Nat → Float
  | 0 => number
  | steps + 1 =>
      if exponent ≤ greatestPower then number / powerOfTen exponent
      else divide (number / powerOfTen greatestPower) (exponent - greatestPower) steps

def magnitude? (digits : Digits) : Option Float :=
  let number := digits.value.toUInt64.toFloat
  if digits.value == 0 then some number
  else if digits.scale < 0 then some (divide number digits.scale.natAbs 4)
  else if digits.scale.toNat ≤ greatestPower then
    let scaled := number * powerOfTen digits.scale.toNat
    if scaled.isInf then none else some scaled
  else none

def number? (negative : Bool) (digits : Digits) : Option Float :=
  digits.magnitude?.map fun magnitude => if negative then -magnitude else magnitude

end Digits
end Decimal
end GatewayConsole
