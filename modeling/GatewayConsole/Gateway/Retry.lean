import GatewayConsole.Calendar.Duration

/-!
# Retrying

How often a request is attempted, and how long the pauses between attempts are. Pauses may
double from one attempt to the next, up to a limit.
-/

namespace GatewayConsole

/-- When to attempt a request again. Attempts are counted from one; there is always a
first. -/
structure RetryPolicy where
  maxAttempts : UInt32
  basePause : Duration
  doubling : Bool
  maxPause : Duration
deriving DecidableEq

namespace RetryPolicy

def attempts (count : UInt32) : RetryPolicy :=
  ⟨max count 1, .ofMilliseconds 500, true, .ofSeconds 30⟩

def standard : RetryPolicy := attempts 3

def once : RetryPolicy := ⟨1, .zero, false, .zero⟩

instance : Inhabited RetryPolicy := ⟨standard⟩

def mayRetry (policy : RetryPolicy) (attempt : Nat) : Bool :=
  attempt < policy.maxAttempts.toNat

def maxFactor : Nat := 2 ^ 32 - 1

def factor (attempt : Nat) : Nat :=
  if attempt - 1 < 32 then 2 ^ (attempt - 1) else maxFactor

def pause (policy : RetryPolicy) (attempt : Nat) : Duration :=
  let wanted :=
    if policy.doubling then policy.basePause.times (factor attempt) else policy.basePause
  wanted.shorter policy.maxPause

theorem factor_eq (attempt : Nat) : factor attempt = min (2 ^ (attempt - 1)) maxFactor := by
  unfold factor maxFactor
  split
  next small =>
    have bound : 2 ^ (attempt - 1) ≤ 2 ^ 31 := Nat.pow_le_pow_right (by decide) (by omega)
    omega
  next large =>
    have bound : 2 ^ 32 ≤ 2 ^ (attempt - 1) := Nat.pow_le_pow_right (by decide) (by omega)
    omega

example : standard.pause 3 = .ofSeconds 2 := by decide +kernel

end RetryPolicy
end GatewayConsole
