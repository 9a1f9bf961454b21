import GatewayConsole.Json.Token

/-!
# Reading JSON documents

A document is built token by token over a stack of the arrays and objects that are still
open. Arrays and objects below the depth limit have no value, and neither has an object
with a key that has none.
-/

namespace GatewayConsole

/-- An array or object whose end has not been read. What it holds so far is kept last
first. -/
inductive OpenContainer
  | array (items : List Document)
  | object (members : List (Option String × Document))

inductive Expected
  | value
  | firstItem
  | firstKey
  | nextKey
  | colon (key : Option String)
  | memberValue (key : Option String)
  | separator
  | nothing (result : Document)

structure Reader where
  containers : List OpenContainer
  expected : Expected

namespace Reader

def start : Reader := ⟨[], .value⟩

/-- The number of arrays and objects that may enclose a value, itself included. -/
def depthLimit : Nat := 127

def keyed? : List (Option String × Document) → Option (List (String × Document))
  | [] => some []
  | (key, value) :: rest => do
      let name ← key
      let others ← keyed? rest
      some ((name, value) :: others)

def finished (container : OpenContainer) (depth : Nat) : Document :=
  if depthLimit ≤ depth then .gap ()
  else match container with
    | .array items => .array items.reverse
    | .object members =>
        match keyed? members.reverse with
        | some members => .object members
        | none => .gap ()

def put (containers : List OpenContainer) (key : Option (Option String)) (value : Document) :
    Option Reader :=
  match containers, key with
  | [], none => some ⟨[], .nothing value⟩
  | .array items :: outer, none => some ⟨.array (value :: items) :: outer, .separator⟩
  | .object members :: outer, some key =>
      some ⟨.object ((key, value) :: members) :: outer, .separator⟩
  | _, _ => none

/-- Close the innermost container. The key under which it stands was left below it. -/
def close (container : OpenContainer) (outer : List OpenContainer) : Option Reader :=
  let value := finished container outer.length
  match outer with
  | .object ((key, _) :: members) :: rest => put (.object members :: rest) (some key) value
  | _ => put outer none value

/-- Begin a value with one token. A container that is the value of a member leaves its
key, with a placeholder, in the object around it. -/
def beginValue (containers : List OpenContainer) (key : Option (Option String)) :
    JsonToken → Option Reader
  | .null => put containers key .null
  | .bool value => put containers key (.bool value)
  | .number numeral => put containers key numeral.toDocument
  | .string (some value) => put containers key (.text value)
  | .string none => put containers key (.gap ())
  | .openArray => do
      let around ← hold containers key
      some ⟨.array [] :: around, .firstItem⟩
  | .openObject => do
      let around ← hold containers key
      some ⟨.object [] :: around, .firstKey⟩
  | _ => none
where
  /-- Remember the key of a container in the object around it. -/
  hold : List OpenContainer → Option (Option String) → Option (List OpenContainer)
    | .object members :: outer, some key => some (.object ((key, .null) :: members) :: outer)
    | containers, none => some containers
    | _, _ => none

def step (reader : Reader) (token : JsonToken) : Option Reader :=
  match reader.expected, reader.containers, token with
  | .firstItem, .array [] :: outer, .closeArray => close (.array []) outer
  | .firstItem, containers, token => beginValue containers none token
  | .value, containers, token => beginValue containers none token
  | .memberValue key, containers, token => beginValue containers (some key) token
  | .firstKey, .object [] :: outer, .closeObject => close (.object []) outer
  | .firstKey, containers, .string key => some ⟨containers, .colon key⟩
  | .nextKey, containers, .string key => some ⟨containers, .colon key⟩
  | .colon key, containers, .colon => some ⟨containers, .memberValue key⟩
  | .separator, .array items :: outer, .comma => some ⟨.array items :: outer, .value⟩
  | .separator, .object members :: outer, .comma => some ⟨.object members :: outer, .nextKey⟩
  | .separator, .array items :: outer, .closeArray => close (.array items) outer
  | .separator, .object members :: outer, .closeObject => close (.object members) outer
  | _, _, _ => none

def result? (reader : Reader) : Option Document :=
  match reader.expected with
  | .nothing result => some result
  | _ => none

end Reader

namespace Document

def ofTokens? (tokens : List JsonToken) : Option Document := do
  let reader ← tokens.foldlM Reader.step .start
  reader.result?

def ofText? (text : String) : Option Document := do
  let tokens ← JsonToken.ofText? text
  ofTokens? tokens

end Document

def Json.ofText? (text : String) : Option Json := do
  let document ← Document.ofText? text
  document.value?

example : (Document.ofTokens? [.openArray, .null, .comma, .closeArray]).isNone = true := rfl

example : (Document.ofTokens? [.openArray, .openArray, .closeArray, .closeArray]).isSome = true :=
  rfl

end GatewayConsole
