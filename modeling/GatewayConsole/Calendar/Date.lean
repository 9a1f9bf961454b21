import GatewayConsole.Json.Tree
import GatewayConsole.Text.Blank

/-!
# Calendar dates

Days of the Gregorian calendar, extended to all years that dates are kept for. A date is
written as year, month and day with hyphens between them; a year beyond four digits has a
sign. Reading is more generous: leading zeros may be missing, and blanks may stand around
the numbers.
-/

namespace GatewayConsole

/-! ## Months and years -/

namespace Calendar

def isLeap (year : Int) : Bool :=
  year % 4 == 0 && (year % 100 != 0 || year % 400 == 0)

def daysIn (year : Int) (month : Nat) : Nat :=
  match month with
  | 2 => if isLeap year then 29 else 28
  | 4 | 6 | 9 | 11 => 30
  | _ => 31

def firstYear : Int := -262143

def lastYear : Int := 262142

def isDay (year : Int) (month day : Nat) : Bool :=
  decide (firstYear ≤ year) && decide (year ≤ lastYear) && decide (1 ≤ month)
    && decide (month ≤ 12) && decide (1 ≤ day) && decide (day ≤ daysIn year month)

example : isDay 2024 2 29 = true ∧ isDay 1900 2 29 = false ∧ isDay 2000 2 29 = true := by
  decide

end Calendar

structure Date where
  year : Int
  month : Nat
  day : Nat
  exists_day : Calendar.isDay year month day = true
deriving DecidableEq

namespace Date

def ofParts? (year : Int) (month day : Nat) : Option Date :=
  if found : Calendar.isDay year month day = true then some ⟨year, month, day, found⟩ else none

/-! ## Writing -/

def padded (width number : Nat) : List Char :=
  let digits := Nat.toDigits 10 number
  List.replicate (width - digits.length) '0' ++ digits

def yearChars (year : Int) : List Char :=
  if 0 ≤ year ∧ year ≤ 9999 then padded 4 year.toNat
  else (if year < 0 then '-' else '+') :: padded 4 year.natAbs

def toChars (date : Date) : List Char :=
  yearChars date.year ++ '-' :: padded 2 date.month ++ '-' :: padded 2 date.day

def toText (date : Date) : String :=
  String.ofList date.toChars

/-! ## Reading -/

/-- A number of at most `width` digits at the front of a text, and the rest of it. -/
def number? (width : Nat) (chars : List Char) : Option (Nat × List Char) :=
  let digits := (chars.take width).takeWhile (·.isDigit)
  if digits.isEmpty then none
  else
    some (digits.foldl (fun value digit => value * 10 + (digit.toNat - '0'.toNat)) 0,
      chars.drop digits.length)

/-- A year at the front of a text. With a sign it may have any number of digits. -/
def year? (chars : List Char) : Option (Int × List Char) :=
  match chars with
  | '-' :: rest => (number? rest.length rest).map fun (number, rest) => (-(number : Int), rest)
  | '+' :: rest => (number? rest.length rest).map fun (number, rest) => ((number : Int), rest)
  | _ => (number? 4 chars).map fun (number, rest) => ((number : Int), rest)

def hyphen? (chars : List Char) : Option (List Char) :=
  match Text.dropBlanks chars with
  | '-' :: rest => some rest
  | _ => none

def ofChars? (chars : List Char) : Option Date := do
  let (year, rest) ← year? (Text.dropBlanks chars)
  let rest ← hyphen? rest
  let (month, rest) ← number? 2 (Text.dropBlanks rest)
  let rest ← hyphen? rest
  let (day, rest) ← number? 2 (Text.dropBlanks rest)
  if (Text.dropBlanks rest).isEmpty then ofParts? year month day else none

def ofText? (text : String) : Option Date :=
  ofChars? text.toList

def ofTree? {Gap : Type} (tree : JsonTree Gap) : Option Date :=
  tree.asText?.bind ofText?

def toJson (date : Date) : Json :=
  .text date.toText

example : (ofText? "2024-02-29").map toText = some "2024-02-29" := by decide +kernel

example : (ofText? " 24-2 - 9").map toText = some "0024-02-09" := by decide +kernel

example : (ofText? "2023-02-29").isNone = true := by decide +kernel

end Date
end GatewayConsole
