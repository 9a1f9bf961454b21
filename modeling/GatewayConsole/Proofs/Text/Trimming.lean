import GatewayConsole.Text.Blank

/-!
# Trimmed texts

What dropping characters from an end of a text leaves does not have one of them at that end,
and a text without one of them there is left as it is. So trimming leaves exactly the texts
that have a blank at neither end.
-/

namespace GatewayConsole
namespace Text

variable {test : Char → Bool} {chars front rest : List Char} {char : Char}

/-! ## Dropping from an end -/

theorem not_of_mem_head_dropWhile (member : char ∈ (chars.dropWhile test).head?) :
    test char = false := by
  have head := List.head?_dropWhile_not test chars
  rw [Option.mem_def.mp member] at head
  simpa using head

theorem not_of_mem_getLast_dropEndWhile (member : char ∈ (dropEndWhile test chars).getLast?) :
    test char = false := by
  rw [dropEndWhile, List.getLast?_reverse] at member
  exact not_of_mem_head_dropWhile member

theorem dropWhile_of_head (first : ∀ char ∈ chars.head?, test char = false) :
    chars.dropWhile test = chars := by
  cases chars with
  | nil => rfl
  | cons char after => rw [List.dropWhile_cons_of_neg (by simp [first char rfl])]

theorem dropEndWhile_of_getLast (last : ∀ char ∈ chars.getLast?, test char = false) :
    dropEndWhile test chars = chars := by
  rw [← List.head?_reverse] at last
  rw [dropEndWhile, dropWhile_of_head last, List.reverse_reverse]

theorem dropEndWhile_append (drops : ∀ char ∈ rest, test char = true) :
    dropEndWhile test (front ++ rest) = dropEndWhile test front := by
  have drops : ∀ char ∈ rest.reverse, test char = true :=
    fun char member => drops char (List.mem_reverse.mp member)
  rw [dropEndWhile, List.reverse_append, List.dropWhile_append_of_pos drops, dropEndWhile]

theorem exists_dropEndWhile_append (test : Char → Bool) (chars : List Char) :
    ∃ rest, chars = dropEndWhile test chars ++ rest ∧ ∀ char ∈ rest, test char = true := by
  refine ⟨(chars.reverse.takeWhile test).reverse, ?_, fun char member => ?_⟩
  · rw [dropEndWhile, ← List.reverse_append, List.takeWhile_append_dropWhile,
      List.reverse_reverse]
  · exact List.all_eq_true.mp List.all_takeWhile char (List.mem_reverse.mp member)

theorem mem_head_of_mem_head_dropEndWhile (member : char ∈ (dropEndWhile test chars).head?) :
    char ∈ chars.head? := by
  rcases dropEndWhile_isPrefix test chars with ⟨rest, whole⟩
  rw [← whole, List.head?_append, Option.mem_def.mp member]
  rfl

/-! ## Trimming -/

def IsTrimmed (chars : List Char) : Prop :=
  (∀ char ∈ chars.head?, isBlank char = false) ∧ ∀ char ∈ chars.getLast?, isBlank char = false

theorem trimChars_sublist (chars : List Char) : (trimChars chars).Sublist chars :=
  (dropEndWhile_isPrefix isBlank _).sublist.trans (List.dropWhile_suffix isBlank).sublist

theorem isTrimmed_trimChars (chars : List Char) : IsTrimmed (trimChars chars) := by
  constructor
  · intro char member
    exact not_of_mem_head_dropWhile (mem_head_of_mem_head_dropEndWhile member)
  · intro char member
    exact not_of_mem_getLast_dropEndWhile member

theorem trimChars_of_isTrimmed (trimmed : IsTrimmed chars) : trimChars chars = chars := by
  rw [trimChars, dropBlanks, dropWhile_of_head trimmed.1, dropEndWhile_of_getLast trimmed.2]

theorem trimChars_of_blank (blank : chars.all isBlank = true) : trimChars chars = [] := by
  have dropped : dropBlanks chars = [] := by
    rw [dropBlanks, ← List.append_nil chars,
      List.dropWhile_append_of_pos (List.all_eq_true.mp blank)]
    rfl
  rw [trimChars, dropped]
  rfl

end Text
end GatewayConsole
