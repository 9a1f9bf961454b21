import GatewayConsole.Power
import GatewayConsole.Text.Split

/-!
# Names in other scripts

A label of a host name that holds characters outside ASCII is written in ASCII letters and
digits behind a mark: first its ASCII characters, then, for each other character in
ascending order, how far to go to it from the one before. The distances are numbers in base
36 whose least digits have a threshold that adapts to the distances so far.
-/

namespace GatewayConsole
namespace Punycode

/-! ## Digits -/

def digit (value : Nat) : Char :=
  Char.ofNat (if value < 26 then 97 + value else 22 + value)

def threshold (place bias : Nat) : Nat :=
  min 26 (max 1 (place - bias))

def digits (bias place distance : Nat) : List Char :=
  let limit := threshold place bias
  if distance < limit then [digit distance]
  else
    digit (limit + (distance - limit) % (36 - limit))
      :: digits bias (place + 36) ((distance - limit) / (36 - limit))
termination_by distance
decreasing_by
  have smaller : (distance - threshold place bias) / (36 - threshold place bias)
      ≤ distance - threshold place bias := Nat.div_le_self _ _
  have positive : 1 ≤ threshold place bias := by unfold threshold; omega
  omega

/-- Divide a distance until it is small, counting places. -/
def settle (distance places : Nat) : Nat :=
  if 455 < distance then settle (distance / 35) (places + 36)
  else places + 36 * distance / (distance + 38)
termination_by distance
decreasing_by omega

/-- The bias after a distance, of which `count` characters have been written. -/
def adapt (distance count : Nat) (first : Bool) : Nat :=
  let damped := if first then distance / 700 else distance / 2
  settle (damped + damped / count) 0

/-! ## Labels -/

/-- What has been written, the distance since, the bias, and how many characters have been
dealt with. -/
structure Progress where
  written : List Char
  distance : Nat
  bias : Nat
  handled : Nat

def pass (basic point : Nat) (progress : Progress) (char : Char) : Progress :=
  if char.toNat < point then { progress with distance := progress.distance + 1 }
  else if char.toNat = point then
    { written := progress.written ++ digits progress.bias 36 progress.distance
      distance := 0
      bias := adapt progress.distance (progress.handled + 1) (progress.handled == basic)
      handled := progress.handled + 1 }
  else progress

/-- Write the characters of a label that are listed in ascending order, the last one
written being below `next`. -/
def writeFrom (label : List Char) (basic next : Nat) (progress : Progress) :
    List Nat → Progress
  | [] => progress
  | point :: rest =>
      let begun :=
        { progress with
          distance := progress.distance + (point - next) * (progress.handled + 1) }
      let done := label.foldl (pass basic point) begun
      writeFrom label basic (point + 1) { done with distance := done.distance + 1 } rest

def insert (number : Nat) : List Nat → List Nat
  | [] => [number]
  | other :: rest =>
      if number < other then number :: other :: rest
      else if number = other then other :: rest
      else other :: insert number rest

def encode (label : List Char) : List Char :=
  let basic := label.filter (·.toNat < 0x80)
  let points :=
    (label.filter (0x80 ≤ ·.toNat)).foldl (fun sorted char => insert char.toNat sorted) []
  let progress := writeFrom label basic.length 0x80 ⟨[], 0, 72, basic.length⟩ points
  basic ++ (if basic.isEmpty then [] else ['-']) ++ progress.written

/-! ## Reading -/

def digitValue? (char : Char) : Option Nat :=
  if 'a' ≤ char ∧ char ≤ 'z' then some (char.toNat - 97)
  else if '0' ≤ char ∧ char ≤ '9' then some (char.toNat - 22)
  else none

/-- What has been read: the characters so far, the last one put in and the place behind it,
the bias, and the distance being read with the place and the weight of its next digit. -/
structure Recovery where
  written : List Char
  point : Nat
  start : Nat
  bias : Nat
  distance : Nat
  place : Nat
  weight : Nat

def Recovery.begun (basic : List Char) : Recovery :=
  ⟨basic, 0x80, 0, 72, 0, 36, 1⟩

/-- Put in the character that a distance leads to. The way goes through all places of the
text for one character after the other. -/
def Recovery.put? (recovery : Recovery) (distance : Nat) : Option Recovery :=
  let count := recovery.written.length + 1
  let onward := recovery.start + distance
  let point := recovery.point + onward / count
  let place := onward % count
  if point.isValidChar then
    some {
      written := recovery.written.insertIdx place (Char.ofNat point)
      point := point
      start := place + 1
      bias := adapt distance count (recovery.start == 0)
      distance := 0
      place := 36
      weight := 1 }
  else none

def Recovery.read? (recovery : Recovery) (char : Char) : Option Recovery := do
  let value ← digitValue? char
  let distance := recovery.distance + value * recovery.weight
  let limit := threshold recovery.place recovery.bias
  let weight := recovery.weight * (36 - limit)
  if 2 ^ 32 ≤ recovery.start + distance then none
  else if value < limit then recovery.put? distance
  else if 2 ^ 32 ≤ weight then none
  else some { recovery with distance := distance, place := recovery.place + 36, weight := weight }

/-- The label that is written in ASCII: behind the last hyphen are the distances, of which
there is at least one, and in front of it the characters that stand as they are. -/
def decode? (code : List Char) : Option (List Char) := do
  let (basic, digits) := (Text.splitAtLast? '-' code).getD ([], code)
  if digits.isEmpty || (basic.isEmpty && digits.length < code.length)
      || basic.any (0x80 ≤ ·.toNat) then
    none
  else
    let recovery ← digits.foldlM Recovery.read? (.begun basic)
    if recovery.place = 36 then some recovery.written else none

example : decode? "bcher-kva".toList = some "bücher".toList := by decide +kernel

example : decode? "a-0".toList = none := by decide +kernel

/-! ## Writing labels -/

def label (chars : List Char) : List Char :=
  if chars.all (·.toNat < 0x80) then chars else "xn--".toList ++ encode chars

example : label "bücher".toList = "xn--bcher-kva".toList := by decide +kernel

example : label "例え".toList = "xn--r8jz45g".toList := by decide +kernel

end Punycode
end GatewayConsole
