import GatewayConsole.Power
import GatewayConsole.Text.Keyed

/-!
# JSON trees

The values of JSON, and the documents they are read from. A document has the shape of a
value, but may hold gaps: parts that follow the grammar and yet denote no value. A reader
that has no use for a member never looks into its gaps; a value has none.
-/

namespace GatewayConsole

/-- A JSON tree whose parts without a value are of type `Gap`. Members of an object keep
the order in which they are written. -/
inductive JsonTree (Gap : Type) where
  | null
  | bool (value : Bool)
  | integer (value : Int)
  | real (value : Float)
  | text (value : String)
  | array (items : List (JsonTree Gap))
  | object (members : List (String × JsonTree Gap))
  | gap (reason : Gap)
deriving Inhabited

abbrev Json := JsonTree Empty

abbrev Document := JsonTree Unit

namespace JsonTree

variable {Gap : Type}

/-! ## Parts of a tree -/

/-- The value of the last member with a key; a tree that is no object has no members. -/
def member? (tree : JsonTree Gap) (key : String) : Option (JsonTree Gap) :=
  match tree with
  | .object members => (members.reverse.find? (·.1 == key)).map (·.2)
  | _ => none

def asText? : JsonTree Gap → Option String
  | .text value => some value
  | _ => none

def asBool? : JsonTree Gap → Option Bool
  | .bool value => some value
  | _ => none

def asWord? : JsonTree Gap → Option UInt64
  | .integer value => if 0 ≤ value ∧ value < 2 ^ 64 then some (.ofNat value.toNat) else none
  | _ => none

def asHalfWord? : JsonTree Gap → Option UInt32
  | .integer value => if 0 ≤ value ∧ value < 2 ^ 32 then some (.ofNat value.toNat) else none
  | _ => none

def asSigned? : JsonTree Gap → Option Int64
  | .integer value =>
      if -2 ^ 63 ≤ value ∧ value < 2 ^ 63 then some (.ofInt value) else none
  | _ => none

def asReal? : JsonTree Gap → Option Float
  | .real value => some value
  | .integer value =>
      let magnitude := value.natAbs.toUInt64.toFloat
      some (if value < 0 then -magnitude else magnitude)
  | _ => none

def asItems? : JsonTree Gap → Option (List (JsonTree Gap))
  | .array items => some items
  | _ => none

def nullable? {α : Type} (read : JsonTree Gap → Option α) : JsonTree Gap → Option (Option α)
  | .null => some none
  | tree => (read tree).map some

/-! ## Complete trees -/

mutual
def isComplete : JsonTree Gap → Bool
  | .array items => itemsComplete items
  | .object members => membersComplete members
  | .gap _ => false
  | _ => true

def itemsComplete : List (JsonTree Gap) → Bool
  | [] => true
  | item :: rest => isComplete item && itemsComplete rest

def membersComplete : List (String × JsonTree Gap) → Bool
  | [] => true
  | (_, value) :: rest => isComplete value && membersComplete rest
end

/-! ## Sorted objects -/

mutual
/-- The value of a tree without gaps. Its objects are sorted by key, and of several
members with one key the last is kept. -/
def value? : JsonTree Gap → Option Json
  | .null => some .null
  | .bool value => some (.bool value)
  | .integer value => some (.integer value)
  | .real value => some (.real value)
  | .text value => some (.text value)
  | .array items => (itemValues? items).map .array
  | .object members => (memberValues? [] members).map .object
  | .gap _ => none

def itemValues? : List (JsonTree Gap) → Option (List Json)
  | [] => some []
  | item :: rest => do
      let first ← value? item
      let others ← itemValues? rest
      some (first :: others)

def memberValues? (sorted : Keyed Json) :
    List (String × JsonTree Gap) → Option (Keyed Json)
  | [] => some sorted
  | (key, value) :: rest => do
      let member ← value? value
      memberValues? (Keyed.put key member sorted) rest
end

end JsonTree

example :
    let document : Document := .object [("b", .null), ("a", .bool true), ("b", .bool false)]
    (document.value?.bind (·.member? "b")).bind (·.asBool?) = some false := by
  decide +kernel

end GatewayConsole
