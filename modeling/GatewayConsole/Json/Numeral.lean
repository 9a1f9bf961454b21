import GatewayConsole.Decimal.Reading
import GatewayConsole.Json.Tree

/-!
# JSON numerals

The grammar of numbers and their values. A numeral without point and exponent is a whole
number if it fits into 64 bits; every other numeral, and minus zero, is a double. A
numeral beyond the doubles has no value.
-/

namespace GatewayConsole

structure Numeral where
  negative : Bool
  whole : List Nat
  fraction : List Nat
  exponent : Option Int
deriving DecidableEq, Repr

namespace Numeral

def digit? (char : Char) : Option Nat :=
  if '0' ≤ char ∧ char ≤ '9' then some (char.toNat - '0'.toNat) else none

def splitDigits (chars : List Char) : List Nat × List Char :=
  (chars.takeWhile (·.isDigit) |>.filterMap digit?, chars.dropWhile (·.isDigit))

def ofDigits (digits : List Nat) : Nat :=
  digits.foldl (fun value digit => value * 10 + digit) 0

/-! ## Grammar -/

def exponent? : List Char → Option (Option Int)
  | [] => some none
  | letter :: chars => do
      guard (letter == 'e' || letter == 'E')
      let (negative, chars) := match chars with
        | '-' :: rest => (true, rest)
        | '+' :: rest => (false, rest)
        | other => (false, other)
      let (digits, rest) := splitDigits chars
      guard (!digits.isEmpty && rest.isEmpty)
      let magnitude : Int := ofDigits digits
      some (some (if negative then -magnitude else magnitude))

/-- Read a whole text as a numeral. A leading zero stands alone, and a point has digits
on both sides. -/
def ofChars? (chars : List Char) : Option Numeral := do
  let (negative, chars) := match chars with
    | '-' :: rest => (true, rest)
    | other => (false, other)
  let (whole, rest) := splitDigits chars
  guard (!whole.isEmpty && (whole.head? != some 0 || whole.length == 1))
  let (fraction, rest) ← match rest with
    | '.' :: rest =>
        let (fraction, rest) := splitDigits rest
        if fraction.isEmpty then none else some (fraction, rest)
    | rest => some ([], rest)
  let exponent ← exponent? rest
  some ⟨negative, whole, fraction, exponent⟩

example : ofChars? ['-', '1', '.', '5', 'e', '3'] = some ⟨true, [1], [5], some 3⟩ := by
  decide +kernel

example : ofChars? ['1', '.'] = none := by decide +kernel

example : ofChars? ['0', '1'] = none := by decide +kernel

/-! ## Values -/

def isWhole (numeral : Numeral) : Bool :=
  numeral.fraction.isEmpty && numeral.exponent.isNone

/-- The whole number a numeral denotes, if it is written as one and fits into 64 bits.
Minus zero is not a whole number. -/
def integer? (numeral : Numeral) : Option Int :=
  let magnitude := ofDigits numeral.whole
  if !numeral.isWhole then none
  else if numeral.negative then
    if 0 < magnitude ∧ magnitude ≤ 2 ^ 63 then some (-magnitude) else none
  else if magnitude < 2 ^ 64 then some magnitude
  else none

def real? (numeral : Numeral) : Option Float :=
  let whole := Decimal.Digits.collectWhole ⟨0, 0⟩ numeral.whole
  let collected := whole.collectFraction numeral.fraction
  { collected with scale := collected.scale + numeral.exponent.getD 0 }.number? numeral.negative

def toDocument (numeral : Numeral) : Document :=
  match numeral.integer? with
  | some value => .integer value
  | none =>
      match numeral.real? with
      | some value => .real value
      | none => .gap ()

example : integer? ⟨false, [1, 2], [], none⟩ = some 12 := by decide

example : integer? ⟨true, [0], [], none⟩ = none := by decide

end Numeral
end GatewayConsole
