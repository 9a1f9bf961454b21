import GatewayConsole.Gateway.Retry

/-!
# Pauses in exact arithmetic

A pause is the first pause times a power of two, up to a limit. It is computed in words: the
power stops at the greatest word of 32 bits, and the product at the longest duration. No word
overflows on the way, and where the product stops, the limit of the policy has stopped it
before. So a pause is what exact arithmetic makes of it, and none is shorter than an earlier
one.
-/

namespace GatewayConsole

/-! ## Powers in words -/

namespace Word

def kept? (bits value : Nat) : Option Nat :=
  if value < 2 ^ bits then some value else none

/-- A number times a power of a base, by squaring the base. All products are kept in words, and
the base is squared only while it is still needed. -/
def timesPower? (bits base done exponent : Nat) : Option Nat :=
  if exponent = 0 then some done
  else
    (if exponent % 2 = 1 then kept? bits (done * base) else some done).bind fun done =>
      if exponent = 1 then some done
      else
        (kept? bits (base * base)).bind fun square => timesPower? bits square done (exponent / 2)
termination_by exponent

variable {bits base done value : Nat}

theorem kept?_of_lt (small : value < 2 ^ bits) : kept? bits value = some value :=
  if_pos small

theorem kept?_of_le (large : 2 ^ bits ≤ value) : kept? bits value = none :=
  if_neg (Nat.not_lt.mpr large)

/-- A part that is no greater than the whole makes no difference: it is kept whenever the whole
is. -/
theorem kept?_bind {part whole : Nat} {next : Nat → Option Nat} (within : part ≤ whole)
    (fitting : part < 2 ^ bits → next part = kept? bits whole) :
    (kept? bits part).bind next = kept? bits whole := by
  by_cases small : part < 2 ^ bits
  · rw [kept?_of_lt small, Option.bind_some, fitting small]
  · have large := Nat.not_lt.mp small
    rw [kept?_of_le large, kept?_of_le (Nat.le_trans large within), Option.bind_none]

theorem kept?_bind_add (bits first second : Nat) :
    ((kept? bits first).bind fun first => kept? bits (first + second)) =
      kept? bits (first + second) :=
  kept?_bind (Nat.le_add_right first second) fun _ => rfl

/-- The factor for the lowest bit of an exponent, and those for the others. -/
theorem pow_eq_mul_pow_square (base exponent : Nat) :
    base ^ exponent = base ^ (exponent % 2) * (base * base) ^ (exponent / 2) := by
  rw [← Nat.pow_two, ← Nat.pow_mul, ← Nat.pow_add, Nat.mod_add_div]

theorem lowestFactor_eq (small : done < 2 ^ bits) (base exponent : Nat) :
    (if exponent % 2 = 1 then kept? bits (done * base) else some done) =
      kept? bits (done * base ^ (exponent % 2)) := by
  split
  next odd => rw [odd, Nat.pow_one]
  next even =>
    have zero : exponent % 2 = 0 := by omega
    rw [zero, Nat.pow_zero, Nat.mul_one, kept?_of_lt small]

theorem lowestFactor_le (positive : 0 < base) (done exponent : Nat) :
    done * base ^ (exponent % 2) ≤ done * base ^ exponent := by
  apply Nat.mul_le_mul_left
  exact Nat.pow_le_pow_right positive (Nat.mod_le exponent 2)

theorem square_le {exponent : Nat} (positive : 0 < base) (begun : 0 < done)
    (long : 2 ≤ exponent) : base * base ≤ done * base ^ exponent := calc
  base * base = base ^ 2 := (Nat.pow_two base).symm
  _ ≤ base ^ exponent := Nat.pow_le_pow_right positive long
  _ ≤ done * base ^ exponent := Nat.le_mul_of_pos_left _ begun

/-- No product on the way is greater than the last one, so none of them is too large for a word
unless that one is. -/
theorem timesPower?_eq (positive : 0 < base) (begun : 0 < done) (small : done < 2 ^ bits)
    (exponent : Nat) :
    timesPower? bits base done exponent = kept? bits (done * base ^ exponent) := by
  induction exponent using Nat.strongRecOn generalizing base done with
  | ind exponent induction =>
      rw [timesPower?, lowestFactor_eq small]
      by_cases zero : exponent = 0
      · rw [if_pos zero, zero, Nat.pow_zero, Nat.mul_one, kept?_of_lt small]
      rw [if_neg zero]
      refine kept?_bind (lowestFactor_le positive done exponent) fun fits => ?_
      by_cases one : exponent = 1
      · subst one
        rw [if_pos rfl, ← kept?_of_lt fits]
      rw [if_neg one]
      have long : 2 ≤ exponent := by omega
      refine kept?_bind (square_le positive begun long) fun squareFits => ?_
      -- What is done takes the lowest bit in; the other bits are an exponent of the square.
      have begun := Nat.mul_pos begun (Nat.pow_pos (n := exponent % 2) positive)
      have shorter : exponent / 2 < exponent := by omega
      rw [induction (exponent / 2) shorter (Nat.mul_pos positive positive) begun fits,
        Nat.mul_assoc, ← pow_eq_mul_pow_square]

end Word

/-! ## Durations in words -/

namespace Duration

structure Parts where
  seconds : Nat
  rest : Nat
deriving DecidableEq

def parts (duration : Duration) : Parts :=
  ⟨duration.nanoseconds / nanosecondsPerSecond, duration.nanoseconds % nanosecondsPerSecond⟩

def longest : Duration :=
  saturating greatest

/-- A product of a duration, in words of 64 bits: nothing when the product of the rest is too
large for its word, and the longest duration when the seconds are. -/
def timesInWords? (duration : Duration) (factor : Nat) : Option Parts :=
  (Word.kept? 64 (duration.parts.rest * factor)).map fun rest =>
    let seconds := (Word.kept? 64 (duration.parts.seconds * factor)).bind fun seconds =>
      Word.kept? 64 (seconds + rest / nanosecondsPerSecond)
    seconds.elim longest.parts fun seconds => ⟨seconds, rest % nanosecondsPerSecond⟩

def Parts.isAtMost (first second : Parts) : Bool :=
  first.seconds < second.seconds || first.seconds == second.seconds && first.rest ≤ second.rest

variable (first second duration : Duration)

theorem nanoseconds_le_greatest : duration.nanoseconds ≤ greatest := by
  have bounded := duration.bounded
  unfold greatest
  omega

theorem isAtMost_parts_iff :
    first.parts.isAtMost second.parts = true ↔ first.nanoseconds ≤ second.nanoseconds := by
  simp only [Parts.isAtMost, Bool.or_eq_true, Bool.and_eq_true, decide_eq_true_eq, beq_iff_eq]
  simp only [parts, nanosecondsPerSecond]
  omega

theorem shorter_parts :
    (if first.parts.isAtMost second.parts then first.parts else second.parts) =
      (first.shorter second).parts := by
  rw [shorter]
  by_cases short : first.nanoseconds ≤ second.nanoseconds
  · rw [if_pos short, if_pos ((isAtMost_parts_iff first second).mpr short)]
  · rw [if_neg short, if_neg (mt (isAtMost_parts_iff first second).mp short)]

theorem times_eq_saturating (factor : Nat) :
    duration.times factor =
      saturating (nanosecondsPerSecond * (duration.parts.seconds * factor)
        + duration.parts.rest * factor) := by
  have whole : nanosecondsPerSecond * duration.parts.seconds + duration.parts.rest =
      duration.nanoseconds := Nat.div_add_mod _ _
  rw [times, ← whole, Nat.add_mul, Nat.mul_assoc]

theorem parts_saturating_of_lt {seconds rest : Nat}
    (fits : seconds + rest / nanosecondsPerSecond < 2 ^ 64) :
    (saturating (nanosecondsPerSecond * seconds + rest)).parts =
      ⟨seconds + rest / nanosecondsPerSecond, rest % nanosecondsPerSecond⟩ := by
  simp only [parts, saturating, greatest, nanosecondsPerSecond, Parts.mk.injEq] at fits ⊢
  omega

theorem saturating_of_le {seconds rest : Nat}
    (large : 2 ^ 64 ≤ seconds + rest / nanosecondsPerSecond) :
    saturating (nanosecondsPerSecond * seconds + rest) = longest := by
  simp only [saturating, longest, greatest, nanosecondsPerSecond, Duration.mk.injEq] at large ⊢
  omega

/-- The product of the rest always has room in its word, and that of the seconds has room unless
the whole product is too long for a duration. -/
theorem timesInWords?_eq {factor : Nat} (word : factor < 2 ^ 32) :
    duration.timesInWords? factor = some (duration.times factor).parts := by
  have rest : duration.parts.rest < nanosecondsPerSecond := Nat.mod_lt _ (by decide)
  have room : duration.parts.rest * factor < 2 ^ 64 := calc
    duration.parts.rest * factor ≤ nanosecondsPerSecond * 2 ^ 32 :=
      Nat.mul_le_mul (Nat.le_of_lt rest) (Nat.le_of_lt word)
    _ < 2 ^ 64 := by decide
  rw [timesInWords?, Word.kept?_of_lt room, Option.map_some, Word.kept?_bind_add,
    times_eq_saturating]
  by_cases fits : duration.parts.seconds * factor +
      duration.parts.rest * factor / nanosecondsPerSecond < 2 ^ 64
  · rw [Word.kept?_of_lt fits, parts_saturating_of_lt fits, Option.elim_some]
  · have large := Nat.not_lt.mp fits
    rw [Word.kept?_of_le large, saturating_of_le large, Option.elim_none]

end Duration

/-! ## Pauses -/

namespace RetryPolicy

/-- The factor of a pause in a word of 32 bits. An exponent is never below zero, and a power that
is too large for the word is the greatest word. -/
def factorInWord (attempt : UInt32) : Nat :=
  let exponent := if 1 ≤ attempt then attempt - 1 else 0
  (Word.timesPower? 32 2 1 exponent.toNat).getD maxFactor

def pauseInWords? (policy : RetryPolicy) (attempt : UInt32) : Option Duration.Parts := do
  let wanted ←
    if policy.doubling then policy.basePause.timesInWords? (factorInWord attempt)
    else some policy.basePause.parts
  return if wanted.isAtMost policy.maxPause.parts then wanted else policy.maxPause.parts

theorem factorInWord_eq (attempt : UInt32) : factorInWord attempt = factor attempt.toNat := by
  have exponent : (if 1 ≤ attempt then attempt - 1 else 0).toNat = attempt.toNat - 1 := by
    split
    next some => exact UInt32.toNat_sub_of_le _ _ some
    next none =>
      rw [UInt32.le_iff_toNat_le, UInt32.toNat_one] at none
      rw [UInt32.toNat_zero]
      omega
  rw [factorInWord, exponent, Word.timesPower?_eq (by decide) (by decide) (by decide), Nat.one_mul,
    factor_eq, Word.kept?]
  split
  next small =>
    unfold maxFactor
    rw [Option.getD_some]
    omega
  next large =>
    unfold maxFactor
    rw [Option.getD_none]
    omega

theorem factor_le_maxFactor (attempt : Nat) : factor attempt ≤ maxFactor := by
  rw [factor_eq]
  exact Nat.min_le_right _ _

theorem factor_mono {earlier later : Nat} (inOrder : earlier ≤ later) :
    factor earlier ≤ factor later := by
  have powers : 2 ^ (earlier - 1) ≤ 2 ^ (later - 1) :=
    Nat.pow_le_pow_right (by decide) (Nat.sub_le_sub_right inOrder 1)
  rw [factor_eq, factor_eq]
  omega

variable (policy : RetryPolicy)

theorem pauseInWords?_eq (attempt : UInt32) :
    policy.pauseInWords? attempt = some (policy.pause attempt.toNat).parts := by
  have word : factor attempt.toNat < 2 ^ 32 :=
    Nat.lt_of_le_of_lt (factor_le_maxFactor _) (by decide)
  rw [pauseInWords?, pause, factorInWord_eq]
  split
  next doubles =>
    rw [Duration.timesInWords?_eq _ word]
    exact congrArg some (Duration.shorter_parts _ _)
  next stays =>
    exact congrArg some (Duration.shorter_parts _ _)

theorem nanoseconds_pause (attempt : Nat) :
    (policy.pause attempt).nanoseconds =
      min policy.maxPause.nanoseconds
        (policy.basePause.nanoseconds * if policy.doubling then factor attempt else 1) := by
  have limit := policy.maxPause.nanoseconds_le_greatest
  rw [pause, Duration.nanoseconds_shorter]
  split
  next doubles =>
    simp only [Duration.times, Duration.saturating]
    omega
  next stays =>
    rw [Nat.mul_one, Nat.min_comm]

theorem pause_mono {earlier later : Nat} (inOrder : earlier ≤ later) :
    (policy.pause earlier).nanoseconds ≤ (policy.pause later).nanoseconds := by
  have factors : (if policy.doubling then factor earlier else 1) ≤
      if policy.doubling then factor later else 1 := by
    split
    · exact factor_mono inOrder
    · exact Nat.le_refl 1
  have products := Nat.mul_le_mul_left policy.basePause.nanoseconds factors
  rw [nanoseconds_pause, nanoseconds_pause]
  omega

/-- A pause is computed without leaving the words, and is as long as in exact arithmetic: the
first pause times a power of two that is no greater than the greatest word, up to the limit of
the policy, or only the first pause up to that limit. It never exceeds the limit, and no later
pause is shorter. -/
theorem pauses_are_exact :
    (∀ attempt : UInt32,
      policy.pauseInWords? attempt = some (policy.pause attempt.toNat).parts ∧
      (policy.doubling = true →
        (policy.pause attempt.toNat).nanoseconds =
          min policy.maxPause.nanoseconds
            (policy.basePause.nanoseconds * min (2 ^ (attempt.toNat - 1)) (2 ^ 32 - 1))) ∧
      (policy.doubling = false →
        (policy.pause attempt.toNat).nanoseconds =
          min policy.maxPause.nanoseconds policy.basePause.nanoseconds) ∧
      (policy.pause attempt.toNat).nanoseconds ≤ policy.maxPause.nanoseconds) ∧
    ∀ earlier later : UInt32, earlier ≤ later →
      (policy.pause earlier.toNat).nanoseconds ≤ (policy.pause later.toNat).nanoseconds := by
  constructor
  · intro attempt
    refine ⟨policy.pauseInWords?_eq attempt, ?_, ?_, ?_⟩
    · intro doubles
      rw [nanoseconds_pause, if_pos doubles, factor_eq, maxFactor]
    · intro stays
      rw [nanoseconds_pause, stays, if_neg Bool.false_ne_true, Nat.mul_one]
    · rw [nanoseconds_pause]
      exact Nat.min_le_left _ _
  · intro earlier later inOrder
    exact policy.pause_mono (UInt32.le_iff_toNat_le.mp inOrder)

/-- Ten seconds are doubled once below a limit of half a minute. Where the limit is the longest
duration, a product that is longer stops there. -/
theorem pauses_are_exact_of_long_pauses :
    let policy : RetryPolicy := ⟨50, .ofSeconds 10, true, .ofSeconds 30⟩
    let patient : RetryPolicy := ⟨50, .ofSeconds 4611686018427387904, true, .longest⟩
    let steady : RetryPolicy := ⟨50, .ofSeconds 10, false, .ofSeconds 30⟩
    (policy.pause 2).nanoseconds = 20000000000 ∧ (policy.pause 40).nanoseconds = 30000000000 ∧
      (policy.pause 2).nanoseconds ≤ (policy.pause 40).nanoseconds ∧
      (patient.pause 40).nanoseconds = Duration.greatest ∧
      (steady.pause 40).nanoseconds = 10000000000 := by
  intro policy patient steady
  have second := ((pauses_are_exact policy).1 2).2.1 rfl
  have late := ((pauses_are_exact policy).1 40).2.1 rfl
  have inOrder := (pauses_are_exact policy).2 2 40 (by decide)
  have longest := ((pauses_are_exact patient).1 40).2.1 rfl
  have same := ((pauses_are_exact steady).1 40).2.2.1 rfl
  exact ⟨second.trans (by decide +kernel), late.trans (by decide +kernel), inOrder,
    longest.trans (by decide +kernel), same.trans (by decide +kernel)⟩

end RetryPolicy
end GatewayConsole
