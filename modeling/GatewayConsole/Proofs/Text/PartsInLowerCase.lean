import GatewayConsole.Proofs.Text.LowerCase

/-!
# Parts of a text in lower case

Lower-casing a text goes letter by letter, but for the capital sigma, whose small form depends
on the letters around it. So a part of a text looks in lower case as it does on its own exactly
when its sigmas end a word in the text where they do so in the part.
-/

namespace GatewayConsole
namespace Text

variable {before other chars after later : List Char} {char : Char}

/-! ## Sigmas -/

/-- Whether the sigmas among characters end a word between some characters exactly where they do
so between others. The characters in front are listed nearest first. -/
def SigmasAgree (before other chars after later : List Char) : Prop :=
  ∀ front rest, chars = front ++ 'Σ' :: rest →
    isFinalSigma (front.reverse ++ before) (rest ++ after) =
      isFinalSigma (front.reverse ++ other) (rest ++ later)

theorem sigmasAgree_cons_iff :
    SigmasAgree before other (char :: chars) after later ↔
      (char = 'Σ' → isFinalSigma before (chars ++ after) = isFinalSigma other (chars ++ later)) ∧
        SigmasAgree (char :: before) (char :: other) chars after later := by
  constructor
  · intro agree
    constructor
    · rintro rfl
      exact agree [] chars rfl
    · intro front rest same
      have here := agree (char :: front) rest (congrArg (char :: ·) same)
      simpa using here
  · rintro ⟨first, others⟩ front rest same
    cases front with
    | nil =>
        cases same
        exact first rfl
    | cons head front =>
        cases same
        simpa using others front rest rfl

theorem sigmasAgree_of_not_mem (none : 'Σ' ∉ chars) :
    SigmasAgree before other chars after later := by
  rintro front rest rfl
  exact absurd (List.mem_append_right front List.mem_cons_self) none

/-! ## Lower case between other characters -/

theorem smallLettersBetween_eq_iff :
    smallLettersBetween before char after = smallLettersBetween other char later ↔
      (char = 'Σ' → isFinalSigma before after = isFinalSigma other later) := by
  by_cases sigma : char = 'Σ'
  · simp only [smallLettersBetween, sigma, beq_self_eq_true, if_true, forall_const]
    cases isFinalSigma before after <;> cases isFinalSigma other later <;> decide
  · simp [smallLettersBetween, sigma]

theorem length_smallLettersBetween :
    (smallLettersBetween before char after).length =
      (smallLettersBetween other char later).length := by
  unfold smallLettersBetween
  split <;> rfl

def lowerBetween (before chars after : List Char) : List Char :=
  match chars with
  | [] => []
  | char :: rest =>
      smallLettersBetween before char (rest ++ after) ++ lowerBetween (char :: before) rest after

theorem lowerAfter_append (before chars after : List Char) :
    lowerAfter before (chars ++ after) =
      lowerBetween before chars after ++ lowerAfter (chars.reverse ++ before) after := by
  induction chars generalizing before with
  | nil => rfl
  | cons char rest induction =>
      rw [List.cons_append, lowerAfter_cons, induction, lowerBetween, List.append_assoc,
        List.reverse_cons, List.append_assoc, List.singleton_append]

theorem lowerBetween_eq_iff :
    lowerBetween before chars after = lowerBetween other chars later ↔
      SigmasAgree before other chars after later := by
  induction chars generalizing before other with
  | nil => exact iff_of_true rfl fun front rest same => nomatch List.append_eq_nil_iff.mp same.symm
  | cons char rest induction =>
      -- A character becomes as many on either side, so they can be compared one by one.
      rw [sigmasAgree_cons_iff, ← smallLettersBetween_eq_iff, ← induction]
      constructor
      · exact fun same => List.append_inj same length_smallLettersBetween
      · rintro ⟨first, others⟩
        rw [lowerBetween, first, others, lowerBetween]

/-! ## Parts of a text -/

/-- Whether a part of a text looks in lower case as it does on its own. -/
def LooksAlone (before chars after : List Char) : Prop :=
  lowerBetween before.reverse chars after = lowerChars chars

theorem looksAlone_iff :
    LooksAlone before chars after ↔ SigmasAgree before.reverse [] chars after [] := by
  have alone : lowerChars chars = lowerBetween [] chars [] := by
    have whole := lowerAfter_append [] chars []
    rwa [List.append_nil, lowerAfter, List.append_nil] at whole
  rw [LooksAlone, alone, lowerBetween_eq_iff]

theorem infix_of_looksAlone (alone : LooksAlone before chars after) :
    lowerChars chars <:+: lowerChars (before ++ chars ++ after) := by
  have parts : lowerChars (before ++ chars ++ after) =
      lowerBetween [] before (chars ++ after) ++
        (lowerBetween before.reverse chars after ++
          lowerAfter (chars.reverse ++ before.reverse) after) := by
    rw [lowerChars, List.append_assoc, lowerAfter_append, List.append_nil, lowerAfter_append]
  rw [parts, alone, ← List.append_assoc]
  exact List.infix_append _ _ _

end Text
end GatewayConsole
