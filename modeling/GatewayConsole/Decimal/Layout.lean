import GatewayConsole.Decimal.Shortest

/-!
# Layout of decimal numbers

How the shortest digits of a double are written: which point positions are written out,
and whether a whole number keeps a zero after its point. `Layout.plain` is the form used
in labels and `Layout.json` the form used inside JSON text.
-/

namespace GatewayConsole
namespace Decimal

structure Layout where
  tie : Tie
  /-- A whole number is written with a zero after its point. -/
  keepsPoint : Bool
  /-- The least and the greatest place of the point, counted from in front of the first
  digit, that is written without an exponent. -/
  places : Option (Int × Int)

namespace Layout

/-- Every digit is written out, and a whole number has no point. -/
def plain : Layout := ⟨.upward, false, none⟩

/-- Sixteen places before the point and four zeros behind it are written out; other
numbers have an exponent. -/
def json : Layout := ⟨.toEven, true, some (-4, 16)⟩

def zeros (count : Nat) : List Char :=
  List.replicate count '0'

/-- Digits with the point after the first `place` of them, filled up with zeros. -/
def positional (keepsPoint : Bool) (digits : List Char) (place : Int) : List Char :=
  if place ≤ 0 then '0' :: '.' :: zeros (-place).toNat ++ digits
  else if place.toNat < digits.length then
    digits.take place.toNat ++ '.' :: digits.drop place.toNat
  else digits ++ zeros (place.toNat - digits.length) ++ if keepsPoint then ['.', '0'] else []

def exponent (power : Int) : List Char :=
  (if power < 0 then '-' else '+') :: Nat.toDigits 10 power.natAbs

def scientific (digits : List Char) (place : Int) : List Char :=
  let mantissa := match digits with
    | first :: next :: rest => first :: '.' :: next :: rest
    | short => short
  mantissa ++ 'e' :: exponent (place - 1)

def unsigned (layout : Layout) (point : Point) : List Char :=
  let digits := Nat.toDigits 10 point.coefficient
  let place : Int := if point.coefficient == 0 then 1 else digits.length + point.scale
  match layout.places with
  | some (least, greatest) =>
      if decide (least ≤ place) && decide (place ≤ greatest) then
        positional layout.keepsPoint digits place
      else scientific digits place
  | none => positional layout.keepsPoint digits place

def write (layout : Layout) (number : Float) : String :=
  let digits := layout.unsigned (shortest layout.tie (magnitude number))
  String.ofList (if isNegative number then '-' :: digits else digits)

example : plain.unsigned ⟨15, -1⟩ = ['1', '.', '5'] := by decide +kernel

example : json.unsigned ⟨4, 0⟩ = ['4', '.', '0'] := by decide +kernel

example : json.unsigned ⟨1, 21⟩ = ['1', 'e', '+', '2', '1'] := by decide +kernel

example : json.unsigned ⟨1, -5⟩ = ['0', '.', '0', '0', '0', '0', '1'] := by decide +kernel

example : json.unsigned ⟨12, -7⟩ = ['1', '.', '2', 'e', '-', '6'] := by decide +kernel

end Layout
end Decimal
end GatewayConsole
