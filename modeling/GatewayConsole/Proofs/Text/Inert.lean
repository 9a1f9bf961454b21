import GatewayConsole.Decimal.Layout
import GatewayConsole.Proofs.Calendar.DateText

/-!
# Texts without escapes

A terminal takes what follows an escape character as an instruction. Texts without one are
shown as they are; numbers and dates are such texts, and so is what is put together from them.
-/

namespace GatewayConsole
namespace Text

def IsInert (text : String) : Prop :=
  '\x1b' ∉ text.toList

instance (text : String) : Decidable (IsInert text) :=
  inferInstanceAs (Decidable ('\x1b' ∉ text.toList))

variable {first second separator : String} {texts : List String} {chars : List Char}

theorem isInert_ofList (inert : '\x1b' ∉ chars) : IsInert (String.ofList chars) := by
  rwa [IsInert, String.toList_ofList]

@[simp] theorem isInert_append_iff :
    IsInert (first ++ second) ↔ IsInert first ∧ IsInert second := by
  rw [IsInert, String.toList_append, List.mem_append, not_or]
  exact Iff.rfl

theorem isInert_intercalate (separatorInert : IsInert separator)
    (inert : ∀ text ∈ texts, IsInert text) : IsInert (separator.intercalate texts) := by
  rw [IsInert, String.toList_intercalate]
  induction texts with
  | nil => exact List.not_mem_nil
  | cons text rest induction =>
      have here := inert text List.mem_cons_self
      cases rest with
      | nil =>
          rw [List.map_cons, List.map_nil, List.intercalate_singleton]
          exact here
      | cons next others =>
          have later := induction fun other member => inert other (List.mem_cons_of_mem text member)
          rw [List.map_cons, List.map_cons, List.intercalate_cons_cons, ← List.map_cons]
          intro member
          rcases List.mem_append.mp member with front | back
          · exact (List.mem_append.mp front).elim here separatorInert
          · exact later back

/-! ## Numbers -/

theorem not_mem_of_digits (areDigits : ∀ char ∈ chars, char.isDigit = true) : '\x1b' ∉ chars :=
  fun member => absurd (areDigits _ member) (by decide)

@[simp] theorem isInert_natural (number : Nat) : IsInert number.repr := by
  rw [IsInert, Nat.toList_repr]
  exact not_mem_of_digits fun _ => Digits.isDigit_of_mem

@[simp] theorem isInert_integer (number : Int) : IsInert number.repr := by
  cases number with
  | ofNat number => exact isInert_natural number
  | negSucc number => exact isInert_append_iff.mpr ⟨by decide, isInert_natural (number + 1)⟩

end Text

namespace Decimal.Layout

theorem mem_positional {keepsPoint : Bool} {digits : List Char} {place : Int} {char : Char}
    (member : char ∈ positional keepsPoint digits place) :
    char ∈ digits ∨ char = '0' ∨ char = '.' := by
  have isZero {count : Nat} (filled : char ∈ zeros count) : char = '0' :=
    List.eq_of_mem_replicate filled
  rw [positional] at member
  split at member
  next =>
    simp only [List.cons_append, List.mem_cons, List.mem_append] at member
    grind
  next =>
    split at member
    next =>
      rcases List.mem_append.mp member with front | back
      · exact .inl (List.mem_of_mem_take front)
      · rcases List.mem_cons.mp back with point | behind
        · exact .inr (.inr point)
        · exact .inl (List.mem_of_mem_drop behind)
    next =>
      simp only [List.mem_append] at member
      grind

@[simp] theorem isInert_write_plain (number : Float) : Text.IsInert (plain.write number) := by
  have unsigned (point : Point) : '\x1b' ∉ plain.unsigned point := by
    intro member
    rcases mem_positional member with digit | zero | point
    · exact Text.not_mem_of_digits (fun _ => Digits.isDigit_of_mem) digit
    · exact absurd zero (by decide)
    · exact absurd point (by decide)
  refine Text.isInert_ofList ?_
  split
  · exact List.not_mem_cons_of_ne_of_not_mem (by decide) (unsigned _)
  · exact unsigned _

end Decimal.Layout

namespace Date

theorem not_mem_padded (width number : Nat) : '\x1b' ∉ padded width number :=
  Text.not_mem_of_digits fun _ => isDigit_of_mem_padded

theorem not_mem_yearChars (year : Int) : '\x1b' ∉ yearChars year := by
  rw [yearChars]
  split
  · exact not_mem_padded 4 _
  · refine List.not_mem_cons_of_ne_of_not_mem ?_ (not_mem_padded 4 _)
    split <;> decide

@[simp] theorem isInert_toText (date : Date) : Text.IsInert date.toText := by
  refine Text.isInert_ofList fun member => ?_
  rcases List.mem_append.mp member with front | day
  · rcases List.mem_append.mp front with year | month
    · exact not_mem_yearChars date.year year
    · exact List.not_mem_cons_of_ne_of_not_mem (by decide) (not_mem_padded 2 _) month
  · exact List.not_mem_cons_of_ne_of_not_mem (by decide) (not_mem_padded 2 _) day

end Date
end GatewayConsole
