import GatewayConsole.Calendar.Date

/-!
# Instants

Points in time, counted in seconds from the beginning of 1970 in universal time, and the
date and the time of day they fall on.
-/

namespace GatewayConsole
namespace Calendar

def secondsPerDay : Int := 86400

/-- The year, the month and the day that are a number of days after the first of March of
the year zero. Years are counted from March, so that leap days come last. -/
def partsOfDays (days : Int) : Int × Nat × Nat :=
  let era := days / 146097
  let dayOfEra := (days % 146097).toNat
  let yearOfEra := (dayOfEra - dayOfEra / 1460 + dayOfEra / 36524 - dayOfEra / 146096) / 365
  let dayOfYear := dayOfEra - (365 * yearOfEra + yearOfEra / 4 - yearOfEra / 100)
  let monthFromMarch := (5 * dayOfYear + 2) / 153
  let day := dayOfYear - (153 * monthFromMarch + 2) / 5 + 1
  let month := if monthFromMarch < 10 then monthFromMarch + 3 else monthFromMarch - 9
  let year := era * 400 + yearOfEra + if month ≤ 2 then 1 else 0
  (year, month, day)

def daysToEpoch : Int := 719468

def dateOf? (seconds : Int) : Option Date :=
  let (year, month, day) := partsOfDays (seconds / secondsPerDay + daysToEpoch)
  Date.ofParts? year month day

def instantText? (seconds : Int) : Option String := do
  let date ← dateOf? seconds
  let rest := (seconds % secondsPerDay).toNat
  some <| String.ofList <|
    date.toChars ++ 'T' :: Date.padded 2 (rest / 3600) ++ ':' :: Date.padded 2 (rest / 60 % 60)
      ++ ':' :: Date.padded 2 (rest % 60) ++ ['+', '0', '0', ':', '0', '0']

example : instantText? 1709208000 = some "2024-02-29T12:00:00+00:00" := by decide +kernel

example : (dateOf? 253402300800).map Date.toText = some "+10000-01-01" := by decide +kernel

end Calendar
end GatewayConsole
