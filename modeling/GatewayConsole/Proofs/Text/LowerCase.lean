import GatewayConsole.Proofs.Text.Trimming
import GatewayConsole.Text.LowerCase

/-!
# Texts in lower case

No small form of a letter is a capital letter or a blank. So lower-casing twice is
lower-casing once, and a trimmed text is still trimmed in lower case. No small form is a mark
either: the marks of a text in lower case are in the text.
-/

namespace GatewayConsole
namespace Text

/-! ## Runs of capital letters -/

namespace CapitalRun

theorem holds_iff (run : CapitalRun) (point : Nat) :
    run.holds point = true ↔
      run.first ≤ point ∧ point ≤ run.last ∧ (point - run.first) % run.step = 0 := by
  simp [holds, and_assoc]

def smallFirst (run : CapitalRun) : Nat :=
  (run.first + run.shift).toNat

def smallLast (run : CapitalRun) : Nat :=
  (run.last + run.shift).toNat

/-- Whether no small letter of a run is a capital letter of another one. Where the letters of
two runs take turns, the ones have even and the others odd code points. -/
def isApart (run other : CapitalRun) : Bool :=
  Nat.blt run.smallLast other.first || (Nat.blt other.last run.smallFirst
    || ((Nat.beq run.step 2 || Nat.beq run.first run.last) && Nat.beq other.step 2
      && Nat.beq ((run.smallFirst + other.first) % 2) 1))

theorem not_holds_of_isApart {run other : CapitalRun} {point small : Nat}
    (holds : run.holds point = true) (shifted : (small : Int) = point + run.shift)
    (positive : 0 < run.smallFirst) (isApart : run.isApart other = true) :
    ¬ other.holds small = true := by
  intro held
  rw [holds_iff] at holds held
  rcases holds with ⟨first, last, stepped⟩
  rcases held with ⟨otherFirst, otherLast, otherStepped⟩
  simp only [smallFirst] at positive
  simp only [CapitalRun.isApart, smallFirst, smallLast, Bool.or_eq_true, Bool.and_eq_true,
    Nat.blt_eq, Nat.beq_eq] at isApart
  rcases isApart with below | above | ⟨⟨every, otherEvery⟩, odd⟩
  · omega
  · omega
  · rw [otherEvery] at otherStepped
    rcases every with every | single
    · rw [every] at stepped
      omega
    · omega

end CapitalRun

theorem isApart_of_mem {run other : CapitalRun} (member : run ∈ capitalRuns)
    (otherMember : other ∈ capitalRuns) : run.isApart other = true := by
  have all : (capitalRuns.all fun run => capitalRuns.all run.isApart) = true := by
    decide +kernel
  exact List.all_eq_true.mp (List.all_eq_true.mp all run member) other otherMember

/-- Only the first run has letters among the first 128 characters. -/
theorem first_of_mem {run : CapitalRun} (member : run ∈ capitalRuns) :
    (run.first = 0x41 ∧ run.last = 0x5A) ∨ 0x80 ≤ run.first := by
  have all : (capitalRuns.all fun run =>
      (Nat.beq run.first 0x41 && Nat.beq run.last 0x5A) || Nat.ble 0x80 run.first) = true := by
    decide +kernel
  simpa using List.all_eq_true.mp all run member

/-! ## Where small letters lie -/

def smallRegions : List (Nat × Nat) :=
  [(0x21, 0x84), (0xA1, 0x12F), (0x131, 0x167F), (0x1681, 0x1FFF), (0x2060, 0x2FFF),
    (0x3001, 0xD7FF), (0xE000, 0x10FFFF)]

def InSmallRegion (first last : Nat) : Prop :=
  ∃ region ∈ smallRegions, region.1 ≤ first ∧ last ≤ region.2

theorem inSmallRegion_of_mem {run : CapitalRun} (member : run ∈ capitalRuns) :
    InSmallRegion run.smallFirst run.smallLast := by
  have all : (capitalRuns.all fun run => smallRegions.any fun region =>
      Nat.ble region.1 run.smallFirst && Nat.ble run.smallLast region.2) = true := by
    decide +kernel
  rcases List.any_eq_true.mp (List.all_eq_true.mp all run member) with ⟨region, listed, inside⟩
  rw [Bool.and_eq_true, Nat.ble_eq, Nat.ble_eq] at inside
  exact ⟨region, listed, inside⟩

namespace InSmallRegion

theorem positive {first last : Nat} (inside : InSmallRegion first last) : 0 < first := by
  have positive : ∀ region ∈ smallRegions, 0 < region.1 := by decide
  rcases inside with ⟨region, listed, first, _⟩
  exact Nat.lt_of_lt_of_le (positive region listed) first

theorem isValidChar {point : Nat} (inside : InSmallRegion point point) : point.isValidChar := by
  have valid : ∀ region ∈ smallRegions,
      region.2 < 0xD800 ∨ 0xDFFF < region.1 ∧ region.2 < 0x110000 := by
    decide
  rcases inside with ⟨region, listed, first, last⟩
  rcases valid region listed with low | ⟨high, low⟩
  · exact .inl (Nat.lt_of_le_of_lt last low)
  · exact .inr ⟨Nat.lt_of_lt_of_le high first, Nat.lt_of_le_of_lt last low⟩

theorem not_isBlank {char : Char} (inside : InSmallRegion char.toNat char.toNat) :
    isBlank char = false := by
  rcases inside with ⟨region, listed, first, last⟩
  simp only [smallRegions, List.mem_cons, List.not_mem_nil, or_false] at listed
  simp only [isBlank, Bool.or_eq_false_iff, Bool.and_eq_false_iff, decide_eq_false_iff_not,
    beq_eq_false_iff_ne]
  rcases listed with rfl | rfl | rfl | rfl | rfl | rfl | rfl <;> omega

end InSmallRegion

/-! ## Single letters -/

def isCapital (char : Char) : Bool :=
  capitalRuns.any (·.holds char.toNat)

theorem isCapital_iff (char : Char) :
    isCapital char = true ↔ ∃ run ∈ capitalRuns, run.holds char.toNat = true :=
  List.any_eq_true

theorem smallLetter_cases (char : Char) :
    (isCapital char = false ∧ smallLetter char = char) ∨
      ∃ run ∈ capitalRuns, run.holds char.toNat = true ∧
        smallLetter char = Char.ofNat (Int.toNat (char.toNat + run.shift)) := by
  simp only [← Bool.not_eq_true, isCapital_iff]
  unfold smallLetter
  split
  next ascii =>
    have bounds : ('A' ≤ char && char ≤ 'Z') = true ↔ 0x41 ≤ char.toNat ∧ char.toNat ≤ 0x5A := by
      rw [Bool.and_eq_true, decide_eq_true_eq, decide_eq_true_eq]
      exact Iff.rfl
    split
    next capital =>
      refine .inr ⟨⟨0x41, 0x5A, 1, 32⟩, List.mem_cons_self, ?_, rfl⟩
      have inside := bounds.mp capital
      exact (CapitalRun.holds_iff _ _).mpr ⟨inside.1, inside.2, Nat.mod_one _⟩
    next small =>
      refine .inl ⟨?_, rfl⟩
      rintro ⟨run, member, holds⟩
      rw [CapitalRun.holds_iff] at holds
      rw [bounds] at small
      rcases first_of_mem member with ⟨first, last⟩ | first <;> omega
  next =>
    split
    next run found =>
      have holds := List.find?_some found
      exact .inr ⟨run, List.mem_of_find?_eq_some found, holds, rfl⟩
    next missing =>
      refine .inl ⟨?_, rfl⟩
      rintro ⟨run, member, holds⟩
      exact absurd holds (List.find?_eq_none.mp missing run member)

theorem smallLetter_of_not_isCapital {char : Char} (small : isCapital char = false) :
    smallLetter char = char := by
  rcases smallLetter_cases char with ⟨_, same⟩ | ⟨run, member, holds, _⟩
  · exact same
  · have capital := (isCapital_iff char).mpr ⟨run, member, holds⟩
    exact absurd capital (by simp [small])

theorem exists_run_of_isCapital {char : Char} (capital : isCapital char = true) :
    ∃ run ∈ capitalRuns, run.holds char.toNat = true ∧
      ((smallLetter char).toNat : Int) = char.toNat + run.shift ∧
      run.smallFirst ≤ (smallLetter char).toNat ∧ (smallLetter char).toNat ≤ run.smallLast := by
  rcases smallLetter_cases char with ⟨small, _⟩ | ⟨run, member, holds, shifted⟩
  · exact absurd capital (by simp [small])
  have inside := inSmallRegion_of_mem member
  have positive := inside.positive
  have inRun := (CapitalRun.holds_iff _ _).mp holds
  generalize away : Int.toNat (char.toNat + run.shift) = small at shifted
  rw [CapitalRun.smallFirst] at positive
  have shift : (small : Int) = char.toNat + run.shift := by omega
  have bounds : run.smallFirst ≤ small ∧ small ≤ run.smallLast := by
    rw [CapitalRun.smallFirst, CapitalRun.smallLast]
    omega
  have reached : InSmallRegion small small := by
    rcases inside with ⟨region, listed, first, last⟩
    exact ⟨region, listed, by omega, by omega⟩
  have code : (smallLetter char).toNat = small := by
    rw [shifted, Char.ofNat, dif_pos reached.isValidChar]
    rfl
  rw [code]
  exact ⟨run, member, holds, shift, bounds⟩

theorem smallLetter_of_isCapital {char : Char} (capital : isCapital char = true) :
    InSmallRegion (smallLetter char).toNat (smallLetter char).toNat ∧
      isCapital (smallLetter char) = false := by
  rcases exists_run_of_isCapital capital with ⟨run, member, holds, shift, first, last⟩
  rcases inSmallRegion_of_mem member with ⟨region, listed, regionFirst, regionLast⟩
  have positive := (inSmallRegion_of_mem member).positive
  rw [← Bool.not_eq_true, isCapital_iff]
  refine ⟨⟨region, listed, by omega, by omega⟩, ?_⟩
  rintro ⟨other, otherMember, held⟩
  -- No run has its small letters among the capital letters of another one.
  exact CapitalRun.not_holds_of_isApart holds shift positive
    (isApart_of_mem member otherMember) held

theorem isCapital_smallLetter (char : Char) : isCapital (smallLetter char) = false := by
  cases capital : isCapital char with
  | true => exact (smallLetter_of_isCapital capital).2
  | false => rw [smallLetter_of_not_isCapital capital, capital]

theorem isBlank_smallLetter {char : Char} (notBlank : isBlank char = false) :
    isBlank (smallLetter char) = false := by
  cases capital : isCapital char with
  | true => exact (smallLetter_of_isCapital capital).1.not_isBlank
  | false => rw [smallLetter_of_not_isCapital capital, notBlank]

theorem smallLetter_ne_dotted {char : Char} (undotted : char ≠ '\u0130') :
    smallLetter char ≠ '\u0130' := by
  cases capital : isCapital char with
  | true =>
      intro dotted
      rcases (smallLetter_of_isCapital capital).1 with ⟨region, listed, inside⟩
      rw [dotted] at inside
      have outside : ∀ region ∈ smallRegions, ¬ (region.1 ≤ 0x130 ∧ 0x130 ≤ region.2) := by decide
      exact outside region listed inside
  | false => rwa [smallLetter_of_not_isCapital capital]

/-! ## Letters in a text -/

def IsSmall (char : Char) : Prop :=
  char ≠ 'Σ' ∧ smallLetters char = [char]

theorem isSmall_of_not_isCapital {char : Char} (small : isCapital char = false)
    (undotted : char ≠ '\u0130') : IsSmall char := by
  constructor
  · rintro rfl
    exact absurd small (by decide +kernel)
  · rw [smallLetters, if_neg (by simpa using undotted), smallLetter_of_not_isCapital small]

theorem isSmall_of_mem_smallLetters {char small : Char} (member : small ∈ smallLetters char) :
    IsSmall small := by
  unfold smallLetters at member
  split at member
  next =>
    have each : small = 'i' ∨ small = '\u0307' := by simpa using member
    rcases each with rfl | rfl <;>
      exact isSmall_of_not_isCapital (by decide +kernel) (by decide)
  next undotted =>
    rw [List.mem_singleton.mp member]
    exact isSmall_of_not_isCapital (isCapital_smallLetter char)
      (smallLetter_ne_dotted (by simpa using undotted))

/-- What a character becomes between the characters around it. -/
def smallLettersBetween (before : List Char) (char : Char) (after : List Char) : List Char :=
  if char == 'Σ' then [if isFinalSigma before after then 'ς' else 'σ'] else smallLetters char

theorem lowerAfter_cons (before : List Char) (char : Char) (after : List Char) :
    lowerAfter before (char :: after) =
      smallLettersBetween before char after ++ lowerAfter (char :: before) after :=
  rfl

variable {before after chars : List Char} {char small : Char}

theorem smallLettersBetween_ne_nil (before : List Char) (char : Char) (after : List Char) :
    smallLettersBetween before char after ≠ [] := by
  unfold smallLettersBetween smallLetters
  split
  · exact List.cons_ne_nil _ _
  · split <;> exact List.cons_ne_nil _ _

theorem isSmall_of_mem_smallLettersBetween
    (member : small ∈ smallLettersBetween before char after) : IsSmall small := by
  unfold smallLettersBetween at member
  split at member
  · rw [List.mem_singleton.mp member]
    split <;> exact isSmall_of_not_isCapital (by decide +kernel) (by decide)
  · exact isSmall_of_mem_smallLetters member

theorem isBlank_of_mem_smallLettersBetween (notBlank : isBlank char = false)
    (member : small ∈ smallLettersBetween before char after) : isBlank small = false := by
  unfold smallLettersBetween smallLetters at member
  split at member
  · rw [List.mem_singleton.mp member]
    split <;> rfl
  · split at member
    · have each : small = 'i' ∨ small = '\u0307' := by simpa using member
      rcases each with rfl | rfl <;> rfl
    · rw [List.mem_singleton.mp member]
      exact isBlank_smallLetter notBlank

/-! ## Lower-casing twice -/

theorem isSmall_of_mem_lowerAfter (member : small ∈ lowerAfter before chars) : IsSmall small := by
  induction chars generalizing before with
  | nil => exact absurd member List.not_mem_nil
  | cons char after induction =>
      rw [lowerAfter_cons, List.mem_append] at member
      rcases member with here | later
      · exact isSmall_of_mem_smallLettersBetween here
      · exact induction later

theorem lowerAfter_of_isSmall (small : ∀ char ∈ chars, IsSmall char) :
    lowerAfter before chars = chars := by
  induction chars generalizing before with
  | nil => rfl
  | cons char after induction =>
      have here := small char List.mem_cons_self
      have alone : smallLettersBetween before char after = [char] := by
        rw [smallLettersBetween, if_neg (by simpa using here.1), here.2]
      rw [lowerAfter_cons, alone, induction fun other member =>
        small other (List.mem_cons_of_mem char member)]
      rfl

@[simp] theorem lower_lower (text : String) : lower (lower text) = lower text := by
  apply String.toList_inj.mp
  rw [toList_lower, toList_lower]
  exact lowerAfter_of_isSmall fun _ => isSmall_of_mem_lowerAfter

/-! ## Trimmed texts -/

theorem lowerAfter_append_singleton (before chars : List Char) (char : Char) :
    ∃ front earlier, lowerAfter before (chars ++ [char]) =
      front ++ smallLettersBetween earlier char [] := by
  induction chars generalizing before with
  | nil => exact ⟨[], before, by rw [List.nil_append, lowerAfter_cons, lowerAfter, List.append_nil,
      List.nil_append]⟩
  | cons first rest induction =>
      rcases induction (first :: before) with ⟨front, earlier, equal⟩
      refine ⟨smallLettersBetween before first (rest ++ [char]) ++ front, earlier, ?_⟩
      rw [List.cons_append, lowerAfter_cons, equal, List.append_assoc]

theorem isTrimmed_lowerAfter (trimmed : IsTrimmed chars) : IsTrimmed (lowerAfter before chars) := by
  constructor
  · intro small member
    cases chars with
    | nil => cases member
    | cons char after =>
        rw [lowerAfter_cons, List.head?_append,
          List.head?_eq_some_head (smallLettersBetween_ne_nil before char after)] at member
        have here : small ∈ smallLettersBetween before char after :=
          Option.some.inj member ▸ List.head_mem _
        exact isBlank_of_mem_smallLettersBetween (trimmed.1 char rfl) here
  · intro small member
    rcases List.eq_nil_or_concat chars with rfl | ⟨front, char, rfl⟩
    · cases member
    · rw [List.concat_eq_append] at member trimmed
      rcases lowerAfter_append_singleton before front char with ⟨smallFront, earlier, equal⟩
      rw [equal, List.getLast?_append,
        List.getLast?_eq_some_getLast (smallLettersBetween_ne_nil earlier char [])] at member
      have here : small ∈ smallLettersBetween earlier char [] :=
        Option.some.inj member ▸ List.getLast_mem _
      exact isBlank_of_mem_smallLettersBetween (trimmed.2 char (by simp)) here

theorem trim_lower_trim (text : String) : trim (lower (trim text)) = lower (trim text) := by
  apply String.toList_inj.mp
  rw [toList_trim, toList_lower, toList_trim]
  exact trimChars_of_isTrimmed (isTrimmed_lowerAfter (isTrimmed_trimChars text.toList))

/-! ## Marks -/

def IsMark (char : Char) : Prop :=
  char.toNat < 0x61 ∨ 0x7A < char.toNat ∧ char.toNat < 0x80

instance : DecidablePred IsMark := fun char =>
  inferInstanceAs (Decidable (char.toNat < 0x61 ∨ 0x7A < char.toNat ∧ char.toNat < 0x80))

theorem small_of_mem {run : CapitalRun} (member : run ∈ capitalRuns) :
    (0x61 ≤ run.smallFirst ∧ run.smallLast ≤ 0x7A) ∨ 0x80 ≤ run.smallFirst := by
  have all : (capitalRuns.all fun run =>
      (Nat.ble 0x61 run.smallFirst && Nat.ble run.smallLast 0x7A) ||
        Nat.ble 0x80 run.smallFirst) = true := by
    decide +kernel
  simpa using List.all_eq_true.mp all run member

theorem not_isMark_of_isCapital (capital : isCapital char = true) :
    ¬ IsMark (smallLetter char) := by
  rcases exists_run_of_isCapital capital with ⟨run, member, _, _, first, last⟩
  have small := small_of_mem member
  rw [IsMark]
  omega

theorem eq_of_isMark_of_mem_smallLettersBetween (isMark : IsMark small)
    (member : small ∈ smallLettersBetween before char after) : small = char := by
  unfold smallLettersBetween smallLetters at member
  split at member
  · rw [List.mem_singleton.mp member] at isMark
    split at isMark <;> exact absurd isMark (by decide)
  · split at member
    · have each : small = 'i' ∨ small = '\u0307' := by simpa using member
      rcases each with rfl | rfl <;> exact absurd isMark (by decide)
    · rw [List.mem_singleton.mp member] at isMark ⊢
      cases capital : isCapital char with
      | true => exact absurd isMark (not_isMark_of_isCapital capital)
      | false => exact smallLetter_of_not_isCapital capital

theorem mem_of_isMark_of_mem_lowerAfter (isMark : IsMark small)
    (member : small ∈ lowerAfter before chars) : small ∈ chars := by
  induction chars generalizing before with
  | nil => exact absurd member List.not_mem_nil
  | cons char after induction =>
      rw [lowerAfter_cons, List.mem_append] at member
      rcases member with here | later
      · rw [eq_of_isMark_of_mem_smallLettersBetween isMark here]
        exact List.mem_cons_self
      · exact List.mem_cons_of_mem char (induction later)

end Text
end GatewayConsole
