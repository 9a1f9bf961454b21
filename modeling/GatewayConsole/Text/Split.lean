/-!
# Pieces of a text

Cutting a text at separators, and looking for a text inside another one.
-/

namespace GatewayConsole
namespace Text

/-- The pieces between the characters that satisfy a test. There is always at least one
piece, and pieces may be empty. -/
def splitWhere (test : Char → Bool) : List Char → List (List Char)
  | [] => [[]]
  | char :: rest =>
      match splitWhere test rest with
      | piece :: others => if test char then [] :: piece :: others else (char :: piece) :: others
      | [] => if test char then [[], []] else [[char]]

example : splitWhere (· == ',') ['a', ',', 'b'] = [['a'], ['b']] := by decide

example : splitWhere (· == ',') [',', ','] = [[], [], []] := by decide

def splitAtLast? (mark : Char) (chars : List Char) : Option (List Char × List Char) :=
  if chars.contains mark then
    let back := (chars.reverse.takeWhile (· != mark)).reverse
    some (chars.take (chars.length - back.length - 1), back)
  else none

example : splitAtLast? '-' ['a', '-', 'b', '-', 'c'] = some (['a', '-', 'b'], ['c']) := by decide

def occursIn (part : List Char) : List Char → Bool
  | [] => part.isEmpty
  | char :: rest => part.isPrefixOf (char :: rest) || occursIn part rest

def contains (text part : String) : Bool :=
  occursIn part.toList text.toList

theorem occursIn_iff (part chars : List Char) : occursIn part chars = true ↔ part <:+: chars := by
  induction chars with
  | nil => cases part <;> simp [occursIn]
  | cons char rest induction =>
      rw [occursIn, Bool.or_eq_true, induction, List.isPrefixOf_iff_prefix, List.infix_cons_iff]

end Text
end GatewayConsole
