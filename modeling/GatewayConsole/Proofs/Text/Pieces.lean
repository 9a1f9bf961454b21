import GatewayConsole.Text.Split
import Mathlib.Data.List.Forall2

/-!
# Pieces of texts

Pieces hold none of the characters that a text is cut at. So they come back from the text in
which such characters stand between them, and it does not matter which.
-/

namespace GatewayConsole
namespace Text

variable {test : Char → Bool} {chars other piece : List Char} {char mark : Char}

theorem splitWhere_eq_splitOnP (test : Char → Bool) (chars : List Char) :
    splitWhere test chars = chars.splitOnP test := by
  induction chars with
  | nil => rfl
  | cons char rest induction =>
      rw [splitWhere, List.splitOnP_cons_eq_if_modifyHead, induction]
      cases pieces : rest.splitOnP test with
      | nil => exact absurd pieces (List.splitOnP_ne_nil test rest)
      | cons piece others => rfl

theorem flatten_splitOnP (test : Char → Bool) (chars : List Char) :
    (chars.splitOnP test).flatten = chars.filter (!test ·) := by
  induction chars with
  | nil => rfl
  | cons char rest induction =>
      rw [List.splitOnP_cons_eq_if_modifyHead]
      split
      next cut =>
        rw [List.flatten_cons, List.nil_append, induction,
          List.filter_cons_of_neg (by simpa using cut)]
      next uncut =>
        rw [List.filter_cons_of_pos (by simpa using uncut), ← induction]
        cases pieces : rest.splitOnP test with
        | nil => exact absurd pieces (List.splitOnP_ne_nil test rest)
        | cons piece others => rfl

theorem mem_of_mem_piece (isPiece : piece ∈ chars.splitOnP test) (member : char ∈ piece) :
    char ∈ chars ∧ test char = false := by
  have kept : char ∈ chars.filter (!test ·) := by
    rw [← flatten_splitOnP]
    exact List.mem_flatten_of_mem isPiece member
  simpa using List.mem_filter.mp kept

/-! ## Separators -/

def SameButFor (test : Char → Bool) (chars other : List Char) : Prop :=
  List.Forall₂ (fun char mark => char = mark ∨ test char = true ∧ test mark = true) chars other

instance (test : Char → Bool) (chars other : List Char) : Decidable (SameButFor test chars other) :=
  inferInstanceAs (Decidable (List.Forall₂ _ chars other))

theorem SameButFor.splitOnP_eq (same : SameButFor test chars other) :
    chars.splitOnP test = other.splitOnP test := by
  induction same with
  | nil => rfl
  | cons alike _ induction =>
      rw [List.splitOnP_cons_eq_if_modifyHead, List.splitOnP_cons_eq_if_modifyHead, induction]
      rcases alike with rfl | ⟨isMark, isOther⟩
      · rfl
      · rw [if_pos isMark, if_pos isOther]

theorem splitOnP_intercalate (isMark : test mark = true) {pieces : List (List Char)}
    (occupied : pieces ≠ []) (uncut : ∀ piece ∈ pieces, ∀ char ∈ piece, test char = false) :
    ([mark].intercalate pieces).splitOnP test = pieces := by
  induction pieces with
  | nil => exact absurd rfl occupied
  | cons piece rest induction =>
      have alone := List.splitOnP_eq_singleton (uncut piece List.mem_cons_self)
      cases rest with
      | nil => rw [List.intercalate_singleton, alone]
      | cons next others =>
          have later := induction (List.cons_ne_nil next others) fun other member =>
            uncut other (List.mem_cons_of_mem piece member)
          rw [List.intercalate_cons_cons, List.append_assoc, List.singleton_append,
            List.splitOnP_append_cons _ _ isMark, alone, later, List.singleton_append]

end Text
end GatewayConsole
