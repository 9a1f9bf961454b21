/-!
# Runs of characters and decimal digits

A run of characters of one kind is split off a text exactly when something else follows.
The digits of a number in base ten are digits, and only zero begins with a zero.
-/

namespace GatewayConsole

/-! ## Runs -/

def EndsRun (test : Char → Bool) (rest : List Char) : Prop :=
  ∀ char ∈ rest.head?, test char = false

namespace EndsRun

variable {test : Char → Bool} {run rest : List Char}

theorem nil : EndsRun test [] := nofun

theorem cons {char : Char} (other : test char = false) : EndsRun test (char :: rest) := by
  intro first head
  rw [List.head?_cons, Option.mem_some] at head
  exact head ▸ other

theorem take (ends : EndsRun test rest) (count : Nat) : EndsRun test (rest.take count) := by
  cases count with
  | zero => exact nil
  | succ count =>
      cases rest with
      | nil => exact nil
      | cons char rest => exact cons (ends char rfl)

theorem takeWhile_append (all : ∀ char ∈ run, test char = true) (ends : EndsRun test rest) :
    (run ++ rest).takeWhile test = run := by
  rw [List.takeWhile_append_of_pos all]
  cases rest with
  | nil => simp
  | cons char rest => simp [ends char rfl]

theorem dropWhile_append (all : ∀ char ∈ run, test char = true) (ends : EndsRun test rest) :
    (run ++ rest).dropWhile test = rest := by
  rw [List.dropWhile_append_of_pos all]
  cases rest with
  | nil => rfl
  | cons char rest => simp [ends char rfl]

end EndsRun

/-! ## Digits -/

namespace Digits

theorem isDigit_of_mem {number : Nat} {char : Char} (member : char ∈ Nat.toDigits 10 number) :
    char.isDigit = true :=
  Nat.isDigit_of_mem_toDigits (by decide) (by decide) member

theorem head?_ne_zero {number : Nat} (positive : 0 < number) :
    (Nat.toDigits 10 number).head? ≠ some '0' := by
  induction number using Nat.strongRecOn with
  | ind number induction =>
      rw [Nat.toDigits_eq_if (by decide)]
      split
      next small =>
        rw [List.head?_cons, ne_eq, Option.some.injEq, Nat.digitChar_eq_zero]
        exact Nat.pos_iff_ne_zero.mp positive
      next large =>
        rw [List.head?_append, Option.or_of_isSome]
        · exact induction (number / 10) (by omega) (by omega)
        · exact List.isSome_head?.mpr Nat.toDigits_ne_nil

def value (digits : List Char) : Nat :=
  digits.foldl (fun value digit => value * 10 + (digit.toNat - '0'.toNat)) 0

theorem value_eq_ofDigitChars (digits : List Char) :
    value digits = Nat.ofDigitChars 10 digits 0 := by
  simp only [value, Nat.ofDigitChars_eq_foldl, Nat.mul_comm _ 10]

theorem value_toDigits (number : Nat) : value (Nat.toDigits 10 number) = number := by
  rw [value_eq_ofDigitChars]
  exact Nat.ofDigitChars_ten_toDigits

theorem value_zeros_append (count : Nat) (digits : List Char) :
    value (List.replicate count '0' ++ digits) = value digits := by
  rw [value_eq_ofDigitChars, value_eq_ofDigitChars, Nat.ofDigitChars_append,
    Nat.ofDigitChars_replicate_zero, Nat.mul_zero]

end Digits
end GatewayConsole
