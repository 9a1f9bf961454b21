import GatewayConsole.Text.Blank
import GatewayConsole.Text.Split

/-!
# Tables of characters

Tables of characters are written as the standard writes them: code points in hexadecimal,
`41-5A` for a range, and blanks between the entries.
-/

namespace GatewayConsole
namespace Text

def inRanges (ranges : List (Nat × Nat)) (point : Nat) : Bool :=
  ranges.any fun (first, last) => decide (first ≤ point) && decide (point ≤ last)

namespace Table

def number (digits : List Char) : Nat :=
  digits.foldl (fun value digit =>
    16 * value + if digit.isDigit then digit.toNat - 48 else digit.toNat - 55) 0

def entries (table : String) : List (List Char) :=
  (splitWhere isBlank table.toList).filter (!·.isEmpty)

def cut (mark : Char) (entry : List Char) : List Char × List Char :=
  let front := entry.takeWhile (· != mark)
  (front, entry.drop (front.length + 1))

def range (entry : List Char) : Nat × Nat :=
  match cut '-' entry with
  | (first, []) => (number first, number first)
  | (first, last) => (number first, number last)

def ranges (table : String) : List (Nat × Nat) :=
  (entries table).map range

example : ranges "41-5A B7" = [(0x41, 0x5A), (0xB7, 0xB7)] := by decide +kernel

end Table
end Text
end GatewayConsole
