import GatewayConsole.Power

/-!
# Shortest decimal digits

The fewest decimal digits that identify a double among all doubles. A double stands for
every real number that rounds to it; the digits are those of the coarsest decimal grid
with a point in that interval, and of two such points the nearer one.
-/

namespace GatewayConsole
namespace Decimal

/-! ## Doubles as exact numbers -/

/-- The magnitude `significand * 2 ^ exponent` of a double, with what is needed to find
its neighbours: `narrowBelow` says that the gap to the next smaller double is only half of
the gap to the next larger one. -/
structure Magnitude where
  significand : Nat
  exponent : Int
  narrowBelow : Bool
deriving DecidableEq

namespace Magnitude

def ofBits (bits : Nat) : Magnitude :=
  let fraction : Nat := bits % 2 ^ 52
  let biased : Nat := bits / 2 ^ 52 % 2 ^ 11
  if biased == 0 then ⟨fraction, -1074, false⟩
  else ⟨fraction + 2 ^ 52, (biased : Int) - 1075, fraction == 0 && decide (1 < biased)⟩

example : ofBits 0x3FF0000000000000 = ⟨2 ^ 52, -52, true⟩ := by decide +kernel

end Magnitude

def isNegative (number : Float) : Bool :=
  number.toBits.toNat / 2 ^ 63 == 1

def magnitude (number : Float) : Magnitude :=
  .ofBits (number.toBits.toNat % 2 ^ 63)

/-! ## Decimal grids -/

structure Point where
  coefficient : Nat
  scale : Int
deriving DecidableEq, Repr

inductive Tie
  | upward
  | toEven
deriving DecidableEq

/-- A double and the interval that rounds to it, measured in a unit in which the points
of one decimal grid are the multiples of `spacing`. -/
structure Measured where
  low : Nat
  value : Nat
  high : Nat
  spacing : Nat
  closed : Bool

namespace Measured

def ofMagnitude (number : Magnitude) (scale : Int) : Measured :=
  let exponent := number.exponent - 2
  let unit := 2 ^ exponent.toNat * 10 ^ (-scale).toNat
  let below := if number.narrowBelow then 1 else 2
  { low := (4 * number.significand - below) * unit
    value := 4 * number.significand * unit
    high := (4 * number.significand + 2) * unit
    spacing := 2 ^ (-exponent).toNat * 10 ^ scale.toNat
    closed := number.significand % 2 == 0 }

def admits (measured : Measured) (coefficient : Nat) : Bool :=
  let position := coefficient * measured.spacing
  if measured.closed then decide (measured.low ≤ position) && decide (position ≤ measured.high)
  else decide (measured.low < position) && decide (position < measured.high)

/-- The multiple of the spacing that stands for the double, if there is one: only the two
multiples next to the double can be nearest. -/
def nearest? (tie : Tie) (measured : Measured) : Option Nat :=
  let below := measured.value / measured.spacing
  let above := below + 1
  match measured.admits below, measured.admits above with
  | true, true =>
      let down := measured.value - below * measured.spacing
      let up := above * measured.spacing - measured.value
      if down < up then some below
      else if up < down then some above
      else match tie with
        | .upward => some above
        | .toEven => some (if below % 2 == 0 then below else above)
  | true, false => some below
  | false, true => some above
  | false, false => none

end Measured

/-! ## The coarsest grid with a point -/

def searchGrids (tie : Tie) (number : Magnitude) (scale : Int) : Nat → Point
  | 0 => ⟨0, 0⟩
  | steps + 1 =>
      match (Measured.ofMagnitude number scale).nearest? tie with
      | some coefficient => ⟨coefficient, scale⟩
      | none => searchGrids tie number (scale - 1) steps

/-- A power of ten above the magnitude: three tenths of the binary order, rounded up. -/
def orderAbove (number : Magnitude) : Int :=
  (number.exponent + (Nat.log2 number.significand : Int) + 1) * 30103 / 100000 + 1

/-- The shortest decimal for a magnitude. Seventeen digits always suffice, and the first
grid tried is at most two places too coarse. -/
def shortest (tie : Tie) (number : Magnitude) : Point :=
  if number.significand == 0 then ⟨0, 0⟩
  else searchGrids tie number (orderAbove number) 24

example : shortest .toEven (.ofBits 0x3FB999999999999A) = ⟨1, -1⟩ := by decide +kernel

example : shortest .toEven (.ofBits 1) = ⟨5, -324⟩ := by decide +kernel

example : shortest .upward (.ofBits 0x7FEFFFFFFFFFFFFF) = ⟨17976931348623157, 292⟩ := by
  decide +kernel

example : (shortest .upward (.ofBits 0x4300000000000002)).coefficient = 5629499534213123 ∧
    (shortest .toEven (.ofBits 0x4300000000000002)).coefficient = 5629499534213122 := by
  decide +kernel

end Decimal
end GatewayConsole
