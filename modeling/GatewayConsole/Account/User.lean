import GatewayConsole.Json.Record

/-!
# Users and sessions

The user who is logged in, as the gateway describes them. Roles are numbers: users have
role 1, administrators at least role 10.
-/

namespace GatewayConsole

structure User where
  id : Int64
  username : String
  displayName : String
  role : Int64
deriving DecidableEq, Repr

namespace User

def fieldNames : List String := ["id", "username", "display_name", "role"]

def ofTree? {Gap : Type} (tree : JsonTree Gap) : Option User := do
  let fields ← tree.fields? fieldNames
  let id ← fields.required "id" (·.asSigned?)
  let username ← fields.optional "username" "" (·.asText?)
  let displayName ← fields.optional "display_name" "" (·.asText?)
  let role ← fields.optional "role" 0 (·.asSigned?)
  some { id, username, displayName, role }

def toJson (user : User) : Json :=
  .object
    [("id", .integer user.id.toInt), ("username", .text user.username),
      ("display_name", .text user.displayName), ("role", .integer user.role.toInt)]

end User

structure Session where
  user : Option User
deriving DecidableEq, Repr

namespace Session

def anonymous : Session := ⟨none⟩

def isLoggedIn (session : Session) : Bool :=
  session.user.isSome

def role? (session : Session) : Option Int64 :=
  session.user.map (·.role)

def toJson (session : Session) : Json :=
  .object [("user", (session.user.map User.toJson).getD .null)]

end Session
end GatewayConsole
