import GatewayConsole.Calendar.Date
import GatewayConsole.Proofs.Text.Digits

/-!
# The text of dates

A date is read back from its text. Month and day have two digits; a year of four digits
stands alone, and every other year has a sign, behind which any number of digits is read.
-/

namespace GatewayConsole
namespace Date

/-! ## Padded numbers -/

theorem isDigit_of_mem_padded {width number : Nat} {char : Char}
    (member : char ∈ padded width number) : char.isDigit = true := by
  rcases List.mem_append.mp member with zero | digit
  · rw [List.eq_of_mem_replicate zero]
    rfl
  · exact Digits.isDigit_of_mem digit

theorem length_padded {width number : Nat} (positive : 0 < width) (small : number < 10 ^ width) :
    (padded width number).length = width := by
  have digits : (Nat.toDigits 10 number).length ≤ width :=
    (Nat.length_toDigits_le_iff (by decide) positive).mpr small
  rw [padded, List.length_append, List.length_replicate]
  omega

theorem padded_ne_nil {width number : Nat} : padded width number ≠ [] := by
  intro empty
  exact Nat.toDigits_ne_nil (List.append_eq_nil_iff.mp empty).2

theorem exists_cons_padded (width number : Nat) :
    ∃ first others, padded width number = first :: others ∧ first.isDigit = true := by
  rcases List.exists_cons_of_ne_nil (@padded_ne_nil width number) with ⟨first, others, split⟩
  have member : first ∈ padded width number := split ▸ List.mem_cons_self
  exact ⟨first, others, split, isDigit_of_mem_padded member⟩

theorem value_padded (width number : Nat) : Digits.value (padded width number) = number := by
  rw [padded, Digits.value_zeros_append, Digits.value_toDigits]

/-! ## Reading the parts -/

theorem dropBlanks_of_not_blank {char : Char} (notBlank : Text.isBlank char = false)
    (rest : List Char) : Text.dropBlanks (char :: rest) = char :: rest := by
  rw [Text.dropBlanks, List.dropWhile_cons_of_neg (by simp [notBlank])]

theorem isBlank_of_isDigit {char : Char} (isDigit : char.isDigit = true) :
    Text.isBlank char = false := by
  simp only [Char.isDigit, Bool.and_eq_true, decide_eq_true_eq] at isDigit
  have least : 48 ≤ char.toNat := isDigit.1
  have greatest : char.toNat ≤ 57 := isDigit.2
  simp only [Text.isBlank, Bool.or_eq_false_iff, Bool.and_eq_false_iff, decide_eq_false_iff_not,
    beq_eq_false_iff_ne]
  omega

theorem dropBlanks_padded (width number : Nat) (rest : List Char) :
    Text.dropBlanks (padded width number ++ rest) = padded width number ++ rest := by
  rcases exists_cons_padded width number with ⟨first, others, split, isDigit⟩
  rw [split]
  exact dropBlanks_of_not_blank (isBlank_of_isDigit isDigit) _

theorem number?_append {width : Nat} {digits rest : List Char} (nonempty : digits ≠ [])
    (all : ∀ char ∈ digits, char.isDigit = true) (short : digits.length ≤ width)
    (ends : digits.length = width ∨ EndsRun (·.isDigit) rest) :
    number? width (digits ++ rest) = some (Digits.value digits, rest) := by
  have ended : EndsRun (·.isDigit) (rest.take (width - digits.length)) := by
    rcases ends with full | ends
    · rw [full, Nat.sub_self]
      exact EndsRun.nil
    · exact ends.take _
  have run : ((digits ++ rest).take width).takeWhile (·.isDigit) = digits := by
    rw [List.take_append, List.take_of_length_le short]
    exact EndsRun.takeWhile_append all ended
  simp only [number?, run, List.isEmpty_iff, nonempty, if_false, List.drop_left]
  rfl

theorem number?_padded {width number : Nat} (positive : 0 < width) (small : number < 10 ^ width)
    (rest : List Char) : number? width (padded width number ++ rest) = some (number, rest) := by
  have length := length_padded positive small
  rw [number?_append padded_ne_nil (fun _ => isDigit_of_mem_padded) (Nat.le_of_eq length)
    (.inl length), value_padded]

theorem hyphen?_hyphen (rest : List Char) : hyphen? ('-' :: rest) = some rest := by
  rw [hyphen?, dropBlanks_of_not_blank rfl]
  rfl

theorem year?_padded {number : Nat} (small : number < 10 ^ 4) (rest : List Char) :
    year? (padded 4 number ++ rest) = some ((number : Int), rest) := by
  have read := number?_padded (by decide) small rest
  rcases exists_cons_padded 4 number with ⟨first, others, split, isDigit⟩
  rw [split, List.cons_append] at read
  rw [split, List.cons_append, year?, read, Option.map_some]
  · intro others minus
    rw [(List.cons.inj minus).1] at isDigit
    exact absurd isDigit (by decide)
  · intro others plus
    rw [(List.cons.inj plus).1] at isDigit
    exact absurd isDigit (by decide)

theorem year?_yearChars (year : Int) (rest : List Char) :
    year? (Text.dropBlanks (yearChars year ++ '-' :: rest)) = some (year, '-' :: rest) := by
  have hyphen : EndsRun (·.isDigit) ('-' :: rest) := EndsRun.cons rfl
  have signed (number : Nat) :
      number? (padded 4 number ++ '-' :: rest).length (padded 4 number ++ '-' :: rest) =
        some (number, '-' :: rest) := by
    rw [number?_append padded_ne_nil (fun _ => isDigit_of_mem_padded) (by simp) (.inr hyphen),
      value_padded]
  rw [yearChars]
  split
  next ordinary =>
    have small : year.toNat < 10 ^ 4 := by omega
    have same : (year.toNat : Int) = year := by omega
    rw [dropBlanks_padded, year?_padded small, same]
  next other =>
    split
    next negative =>
      rw [List.cons_append, dropBlanks_of_not_blank rfl]
      simp only [year?, signed, Option.map_some]
      congr 2
      omega
    next positive =>
      rw [List.cons_append, dropBlanks_of_not_blank rfl]
      simp only [year?, signed, Option.map_some]
      congr 2
      omega

/-! ## Dates -/

theorem month_day_small (date : Date) : date.month < 10 ^ 2 ∧ date.day < 10 ^ 2 := by
  have exists_day := date.exists_day
  have days : Calendar.daysIn date.year date.month ≤ 31 := by
    unfold Calendar.daysIn
    repeat' split
    all_goals decide
  simp only [Calendar.isDay, Bool.and_eq_true, decide_eq_true_eq] at exists_day
  omega

theorem ofText?_toText (date : Date) : ofText? date.toText = some date := by
  rcases month_day_small date with ⟨monthSmall, daySmall⟩
  have month := number?_padded (by decide) monthSmall ('-' :: padded 2 date.day)
  have day := number?_padded (by decide) daySmall []
  have blanks := dropBlanks_padded 2 date.day []
  rw [List.append_nil] at day blanks
  rw [ofText?, toText, String.toList_ofList, toChars, ofChars?]
  simp only [List.append_assoc, List.cons_append, year?_yearChars, hyphen?_hyphen,
    dropBlanks_padded, month, blanks, day, Option.bind_eq_bind, Option.bind_some]
  exact dif_pos date.exists_day

end Date
end GatewayConsole
