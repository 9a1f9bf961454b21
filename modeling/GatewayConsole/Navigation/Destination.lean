import GatewayConsole.Account.User
import GatewayConsole.Json.Record
import GatewayConsole.Navigation.Link
import GatewayConsole.Navigation.Switches

/-!
# Destinations

Where a link takes a visitor. Links that require a login, and links in menus that do, lead
anonymous visitors to the login page; so does the pricing page while it requires a login.
Links to other sites always keep their address.
-/

namespace GatewayConsole

structure Visitor where
  loggedIn : Bool
  pricingRequiresLogin : Bool
deriving DecidableEq, Repr

namespace Visitor

def ofSession (session : Session) (switches : Switches) : Visitor :=
  ⟨session.isLoggedIn, switches.pricing.requiresLogin⟩

def fieldNames : List String := ["authenticated", "pricing_require_auth"]

def ofTree? {Gap : Type} (tree : JsonTree Gap) : Option Visitor := do
  let fields ← tree.fields? fieldNames
  let loggedIn ← fields.required "authenticated" (·.asBool?)
  let pricingRequiresLogin ← fields.required "pricing_require_auth" (·.asBool?)
  some { loggedIn, pricingRequiresLogin }

def toJson (visitor : Visitor) : Json :=
  .object
    [("authenticated", .bool visitor.loggedIn),
      ("pricing_require_auth", .bool visitor.pricingRequiresLogin)]

end Visitor

namespace Link

def loginPath : String := "/login"

def isPricing (link : Link) (parent : Option Link) : Bool :=
  link.key == HeaderModule.pricing.key || parent.any (·.key == HeaderModule.pricing.key)

def isClosed (link : Link) (parent : Option Link) (visitor : Visitor) : Bool :=
  (link.requiresLogin || parent.any (·.requiresLogin)
    || (link.isPricing parent && visitor.pricingRequiresLogin)) && !visitor.loggedIn

def targetPath? (link : Link) (parent : Option Link) (visitor : Visitor) : Option String :=
  if link.isClosed parent visitor then some loginPath else link.path?

end Link

/-! ## Resolved links -/

inductive ResolvedLink
  | mk (key text : String) (href : Option String) (external : Bool) (children : List ResolvedLink)

namespace ResolvedLink

def key : ResolvedLink → String
  | .mk key .. => key

def text : ResolvedLink → String
  | .mk _ text .. => text

def href : ResolvedLink → Option String
  | .mk _ _ href .. => href

def external : ResolvedLink → Bool
  | .mk _ _ _ external _ => external

def children : ResolvedLink → List ResolvedLink
  | .mk _ _ _ _ children => children

mutual
def toJson : ResolvedLink → Json
  | .mk key text href external children =>
      .object <|
        [("key", .text key), ("text", .text text)]
          ++ Json.presentMember "href" (href.map .text)
          ++ [("external", .bool external)]
          ++ (if children.isEmpty then [] else [("children", .array (toJsons children))])

def toJsons : List ResolvedLink → List Json
  | [] => []
  | link :: rest => toJson link :: toJsons rest
end

/-! ## Reading resolved links -/

def fieldNames : List String := ["key", "text", "href", "external", "children"]

variable {Gap : Type}

def ofFields? (fields : Fields Gap) (children : Option (List ResolvedLink)) :
    Option ResolvedLink := do
  let key ← fields.required "key" (·.asText?)
  let text ← fields.required "text" (·.asText?)
  let href ← fields.optional "href" none (JsonTree.nullable? (·.asText?))
  let external ← fields.required "external" (·.asBool?)
  let children ← children
  some (.mk key text href external children)

mutual
/-- Read a resolved link. Its children must be given, even when there are none. -/
def ofTree? : JsonTree Gap → Option ResolvedLink
  | .object members => do
      let fields ← (JsonTree.object members).fields? fieldNames
      ofFields? fields (memberChildren? members)
  | .array items => do
      let fields ← (JsonTree.array items).fields? fieldNames
      ofFields? fields (itemChildren? 4 items)
  | _ => none

def memberChildren? : List (String × JsonTree Gap) → Option (List ResolvedLink)
  | [] => none
  | (key, value) :: rest => if key = "children" then children? value else memberChildren? rest

def itemChildren? : Nat → List (JsonTree Gap) → Option (List ResolvedLink)
  | _, [] => none
  | 0, item :: _ => children? item
  | position + 1, _ :: rest => itemChildren? position rest

def children? : JsonTree Gap → Option (List ResolvedLink)
  | .array items => ofTrees? items
  | _ => none

def ofTrees? : List (JsonTree Gap) → Option (List ResolvedLink)
  | [] => some []
  | item :: rest => do
      let link ← ofTree? item
      let others ← ofTrees? rest
      some (link :: others)
end

end ResolvedLink

namespace Link

mutual
def resolveIn (visitor : Visitor) (parent : Option Link) : Link → ResolvedLink
  | .page key text requiresLogin path =>
      .mk key text ((Link.page key text requiresLogin path).targetPath? parent visitor) false []
  | .site key text _ url => .mk key text (some url) true []
  | .menu key text requiresLogin links =>
      let menu := Link.menu key text requiresLogin links
      .mk key text (menu.targetPath? parent visitor) false (resolveAll visitor (some menu) links)

def resolveAll (visitor : Visitor) (parent : Option Link) : List Link → List ResolvedLink
  | [] => []
  | link :: rest => resolveIn visitor parent link :: resolveAll visitor parent rest
end

def resolve (links : List Link) (visitor : Visitor) : List ResolvedLink :=
  resolveAll visitor none links

end Link
end GatewayConsole
