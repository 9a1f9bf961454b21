import GatewayConsole.Json.Record
import GatewayConsole.Navigation.Link

/-!
# Links in JSON

A link is a record with a key, a text, a mark for links that require a login, and a
target. The target is an object whose only key names its kind.
-/

namespace GatewayConsole
namespace Link

/-! ## Writing -/

def record (key text : String) (requiresLogin : Bool) (kind : String) (value : Json) : Json :=
  .object
    [("key", .text key), ("text", .text text), ("requires_auth", .bool requiresLogin),
      ("target", .object [(kind, value)])]

mutual
def toJson : Link → Json
  | .page key text requiresLogin path =>
      record key text requiresLogin "path" (.text path)
  | .site key text requiresLogin url =>
      record key text requiresLogin "external" (.text url)
  | .menu key text requiresLogin links =>
      record key text requiresLogin "menu" (.array (toJsons links))

def toJsons : List Link → List Json
  | [] => []
  | link :: rest => toJson link :: toJsons rest
end

/-! ## Reading -/

inductive Target
  | page (path : String)
  | site (url : String)
  | menu (links : List Link)

def Target.link (target : Target) (key text : String) (requiresLogin : Bool) : Link :=
  match target with
  | .page path => .page key text requiresLogin path
  | .site url => .site key text requiresLogin url
  | .menu links => .menu key text requiresLogin links

def fieldNames : List String := ["key", "text", "requires_auth", "target"]

variable {Gap : Type}

def ofFields? (fields : Fields Gap) (target : Option Target) : Option Link := do
  let key ← fields.required "key" (·.asText?)
  let text ← fields.required "text" (·.asText?)
  let requiresLogin ← fields.optional "requires_auth" false (·.asBool?)
  let target ← target
  some (target.link key text requiresLogin)

mutual
def ofTree? : JsonTree Gap → Option Link
  | .object members => do
      let fields ← (JsonTree.object members).fields? fieldNames
      ofFields? fields (memberTarget? members)
  | .array items => do
      let fields ← (JsonTree.array items).fields? fieldNames
      ofFields? fields (itemTarget? 3 items)
  | _ => none

def memberTarget? : List (String × JsonTree Gap) → Option Target
  | [] => none
  | (key, value) :: rest => if key = "target" then target? value else memberTarget? rest

def itemTarget? : Nat → List (JsonTree Gap) → Option Target
  | _, [] => none
  | 0, item :: _ => target? item
  | position + 1, _ :: rest => itemTarget? position rest

def target? : JsonTree Gap → Option Target
  | .object [(kind, value)] =>
      if kind = "path" then value.asText?.map .page
      else if kind = "external" then value.asText?.map .site
      else if kind = "menu" then menu? value
      else none
  | _ => none

def menu? : JsonTree Gap → Option Target
  | .array items => (ofTrees? items).map .menu
  | _ => none

def ofTrees? : List (JsonTree Gap) → Option (List Link)
  | [] => some []
  | item :: rest => do
      let link ← ofTree? item
      let others ← ofTrees? rest
      some (link :: others)
end

def listOfTree? : JsonTree Gap → Option (List Link)
  | .array items => ofTrees? items
  | _ => none

end Link
end GatewayConsole
