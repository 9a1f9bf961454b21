import GatewayConsole.Json.Tree

/-!
# Records in JSON

A record is written as an object of its fields, or as an array of their values in order of
declaration. An object may hold other members, which are not looked at, but names each
field at most once. Fields are read strictly or leniently: a lenient field whose value has
the wrong type counts as absent.
-/

namespace GatewayConsole

abbrev Fields (Gap : Type) := List (String × JsonTree Gap)

namespace JsonTree

variable {Gap : Type}

def namesOnce : List String → Bool
  | [] => true
  | name :: rest => !rest.contains name && namesOnce rest

def fields? (names : List String) : JsonTree Gap → Option (Fields Gap)
  | .object members =>
      let given := members.filter fun member => names.contains member.1
      if namesOnce (given.map (·.1)) then some given else none
  | .array items => if items.length ≤ names.length then some (names.zip items) else none
  | _ => none

/-- A choice among names, written as the name or as an object that maps it to `null`. -/
def asVariant? : JsonTree Gap → Option String
  | .text name => some name
  | .object [(name, .null)] => some name
  | _ => none

def asList? {α : Type} (read : JsonTree Gap → Option α) : JsonTree Gap → Option (List α)
  | .array items => items.mapM read
  | _ => none

def asTable? {α : Type} (read : JsonTree Gap → Option α) : JsonTree Gap → Option (Keyed α)
  | .object members => do
      let pairs ← members.mapM fun (key, value) => (read value).map (key, ·)
      some (Keyed.ofPairs pairs)
  | _ => none

end JsonTree

namespace Fields

variable {Gap α : Type}

def find? (fields : Fields Gap) (name : String) : Option (JsonTree Gap) :=
  (List.find? (fun field => field.1 == name) fields).map (·.2)

def required (fields : Fields Gap) (name : String) (read : JsonTree Gap → Option α) :
    Option α :=
  (fields.find? name).bind read

def optional (fields : Fields Gap) (name : String) (default : α)
    (read : JsonTree Gap → Option α) : Option α :=
  match fields.find? name with
  | some tree => read tree
  | none => some default

/-- A field that counts as absent when its value is not of the right type. Only a gap is
refused. -/
def lenient (fields : Fields Gap) (name : String) (read : JsonTree Gap → Option α) :
    Option (Option α) :=
  match fields.find? name with
  | some tree => if tree.isComplete then some (read tree) else none
  | none => some none

end Fields

def Json.presentMember (key : String) (value : Option Json) : List (String × Json) :=
  (value.map fun json => (key, json)).toList

example :
    ((JsonTree.object [("a", .null), ("b", .gap ())] : Document).fields? ["a"]).isSome = true := by
  decide +kernel

example :
    ((JsonTree.object [("a", .null), ("a", .null)] : Document).fields? ["a"]).isNone = true := by
  decide +kernel

end GatewayConsole
