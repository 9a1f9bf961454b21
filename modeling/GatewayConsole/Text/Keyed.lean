/-!
# Keyed lists

Lists of pairs in strictly ascending order of their keys. Putting a pair in keeps the
order; of two pairs with one key the later one stays.
-/

namespace GatewayConsole

abbrev Keyed (α : Type) := List (String × α)

namespace Keyed

variable {α β : Type}

def put (key : String) (value : α) : Keyed α → Keyed α
  | [] => [(key, value)]
  | (other, old) :: rest =>
      if key < other then (key, value) :: (other, old) :: rest
      else if key = other then (key, value) :: rest
      else (other, old) :: put key value rest

/-- Sort pairs by key, keeping the last of those with one key. -/
def ofPairs (pairs : List (String × α)) : Keyed α :=
  pairs.foldl (fun sorted (key, value) => put key value sorted) []

def find? (keyed : Keyed α) (key : String) : Option α :=
  (List.find? (fun pair => pair.1 == key) keyed).map (·.2)

def keys (keyed : Keyed α) : List String :=
  keyed.map (·.1)

example : ofPairs [("b", 1), ("a", 2), ("b", 3)] = [("a", 2), ("b", 3)] := by decide +kernel

end Keyed
end GatewayConsole
