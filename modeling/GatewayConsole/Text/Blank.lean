/-!
# Blanks and trimming

Blank characters are those of the property `White_Space`. Trimming removes them from
both ends of a text; what is left neither begins nor ends with a blank.
-/

namespace GatewayConsole
namespace Text

/-! ## Blank characters -/

def isBlank (char : Char) : Bool :=
  let point := char.toNat
  (0x09 ≤ point && point ≤ 0x0D) || point == 0x20 || point == 0x85 || point == 0xA0
    || point == 0x1680 || (0x2000 ≤ point && point ≤ 0x200A) || point == 0x2028
    || point == 0x2029 || point == 0x202F || point == 0x205F || point == 0x3000

example : isBlank '\u3000' = true := rfl

example : isBlank '\u200B' = false := rfl

/-! ## Trimming -/

def dropBlanks (chars : List Char) : List Char :=
  chars.dropWhile isBlank

def dropEndWhile (test : Char → Bool) (chars : List Char) : List Char :=
  (chars.reverse.dropWhile test).reverse

def trimChars (chars : List Char) : List Char :=
  dropEndWhile isBlank (dropBlanks chars)

def trim (text : String) : String :=
  String.ofList (trimChars text.toList)

def isBlankText (text : String) : Bool :=
  text.toList.all isBlank

@[simp] theorem toList_trim (text : String) :
    (trim text).toList = trimChars text.toList := by
  simp [trim]

theorem dropEndWhile_isPrefix (test : Char → Bool) (chars : List Char) :
    dropEndWhile test chars <+: chars := by
  have dropped := List.dropWhile_suffix test (l := chars.reverse)
  have reversed := List.reverse_prefix.mpr dropped
  simpa [dropEndWhile] using reversed

end Text
end GatewayConsole
