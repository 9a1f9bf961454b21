import GatewayConsole.Text.LowerCase

/-!
# Display order

The order in which lists of names are shown: by their lower-case forms, and among names
with one lower-case form by the names themselves. Both comparisons go by code point, so
the order is total, and sorting brings equal names together.
-/

namespace GatewayConsole
namespace Text

def displayOrder (left right : String) : Ordering :=
  (compare (lower left) (lower right)).then (compare left right)

def displaysBefore (left right : String) : Bool :=
  displayOrder left right != .gt

def dropRepeats : List String → List String
  | [] => []
  | [name] => [name]
  | name :: next :: rest =>
      if name == next then dropRepeats (next :: rest) else name :: dropRepeats (next :: rest)

def sortedUnique (names : List String) : List String :=
  dropRepeats (names.mergeSort displaysBefore)

example : dropRepeats ["a", "a", "b", "a"] = ["a", "b", "a"] := by decide

end Text
end GatewayConsole
