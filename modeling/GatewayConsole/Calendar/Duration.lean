import GatewayConsole.Power

/-!
# Durations

Lengths of time in nanoseconds. There is a longest duration; a product beyond it is that
duration.
-/

namespace GatewayConsole

def nanosecondsPerSecond : Nat := 1000000000

/-- A length of time: fewer seconds than 64 bits can count. -/
structure Duration where
  nanoseconds : Nat
  bounded : nanoseconds < 2 ^ 64 * nanosecondsPerSecond
deriving DecidableEq

namespace Duration

def greatest : Nat := 2 ^ 64 * nanosecondsPerSecond - 1

def zero : Duration := ⟨0, by decide⟩

instance : Inhabited Duration := ⟨zero⟩

def saturating (nanoseconds : Nat) : Duration :=
  ⟨min nanoseconds greatest, by
    have positive : 0 < 2 ^ 64 * nanosecondsPerSecond := by decide
    unfold greatest
    omega⟩

def ofSeconds (seconds : UInt64) : Duration :=
  ⟨seconds.toNat * nanosecondsPerSecond,
    Nat.mul_lt_mul_of_pos_right seconds.toNat_lt (by decide)⟩

def ofMilliseconds (milliseconds : UInt64) : Duration :=
  ⟨milliseconds.toNat * 1000000, by
    have small := milliseconds.toNat_lt
    unfold nanosecondsPerSecond
    omega⟩

def times (duration : Duration) (factor : Nat) : Duration :=
  saturating (duration.nanoseconds * factor)

def shorter (first second : Duration) : Duration :=
  if first.nanoseconds ≤ second.nanoseconds then first else second

@[simp] theorem nanoseconds_shorter (first second : Duration) :
    (shorter first second).nanoseconds = min first.nanoseconds second.nanoseconds := by
  unfold shorter
  split <;> omega

def microseconds (duration : Duration) : Nat :=
  duration.nanoseconds / 1000

example : (times (ofMilliseconds 500) 4) = ofSeconds 2 := by decide +kernel

end Duration
end GatewayConsole
