import GatewayConsole.Text.Blank
import GatewayConsole.Text.LowerCase
import GatewayConsole.Text.Split

/-!
# Tags

Tags are written in one text, cut by commas, semicolons or bars. A tag has no blanks at its
ends, is in lower case and counts once, where it first appears.
-/

namespace GatewayConsole
namespace Tags

def isDelimiter (char : Char) : Bool :=
  char == ',' || char == ';' || char == '|'

def normalForm (tag : String) : String :=
  Text.lower (Text.trim tag)

def pieces (raw : String) : List String :=
  (Text.splitWhere isDelimiter raw.toList).map String.ofList

def firstOccurrences : List String → List String
  | [] => []
  | name :: rest => name :: (firstOccurrences rest).filter (· ≠ name)

def ofText (raw : String) : List String :=
  firstOccurrences (((pieces raw).map normalForm).filter (· ≠ ""))

example : firstOccurrences ["new", "fast", "new"] = ["new", "fast"] := by decide

end Tags
end GatewayConsole
