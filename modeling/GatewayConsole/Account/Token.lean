import GatewayConsole.Json.Record

/-!
# Access tokens

The tokens a user calls the gateway with. A token is shown without the middle of its key:
of a long key the first and last four characters remain, of a short one nothing.
-/

namespace GatewayConsole

/-! ## States -/

inductive TokenStatus
  | enabled
  | disabled
  | expired
  | exhausted
deriving DecidableEq, Repr

namespace TokenStatus

def code : TokenStatus → Int
  | .enabled => 1
  | .disabled => 2
  | .expired => 3
  | .exhausted => 4

def ofCode? : Int → Option TokenStatus
  | 1 => some .enabled
  | 2 => some .disabled
  | 3 => some .expired
  | 4 => some .exhausted
  | _ => none

theorem ofCode?_code (status : TokenStatus) : ofCode? status.code = some status := by
  cases status <;> rfl

def label : TokenStatus → String
  | .enabled => "Enabled"
  | .disabled => "Disabled"
  | .expired => "Expired"
  | .exhausted => "Exhausted"

end TokenStatus

/-! ## Tokens -/

/-- A token with its key and its quota. Times are seconds since 1970; a token that never
expires has the time -1. -/
structure Token where
  id : Int64
  name : String
  key : String
  status : TokenStatus
  remainingQuota : Int64
  usedQuota : Int64
  unlimitedQuota : Bool
  group : String
  createdTime : Int64
  expiredTime : Int64
deriving DecidableEq, Repr

namespace Token

variable {Gap : Type}

def hiddenLength : Nat := 8

def shownLength : Nat := 4

def mask (key : List Char) : List Char :=
  if key.length ≤ hiddenLength then List.replicate key.length '*'
  else
    key.take shownLength ++ List.replicate (key.length - 2 * shownLength) '*'
      ++ key.drop (key.length - shownLength)

def maskedKey (token : Token) : String :=
  "sk-" ++ String.ofList (mask token.key.toList)

theorem length_mask (key : List Char) : (mask key).length = key.length := by
  unfold mask hiddenLength shownLength
  split
  · simp
  · simp
    omega

example : mask "abcdefghij".toList = "abcd**ghij".toList := by decide +kernel

/-- What is left of the quota, and the whole quota, which wraps around as words do. -/
def quotaUsage (token : Token) : String :=
  if token.unlimitedQuota then "unlimited"
  else
    toString token.remainingQuota.toInt ++ "/"
      ++ toString (token.remainingQuota + token.usedQuota).toInt

/-! ## Tokens in JSON -/

def fieldNames : List String :=
  ["id", "name", "key", "status", "remain_quota", "used_quota", "unlimited_quota", "group",
    "created_time", "expired_time"]

def ofTree? (tree : JsonTree Gap) : Option Token := do
  let fields ← tree.fields? fieldNames
  let id ← fields.required "id" (·.asSigned?)
  let name ← fields.optional "name" "" (·.asText?)
  let key ← fields.optional "key" "" (·.asText?)
  let status ← fields.required "status" fun tree =>
    tree.asSigned?.bind fun code => TokenStatus.ofCode? code.toInt
  let remainingQuota ← fields.optional "remain_quota" 0 (·.asSigned?)
  let usedQuota ← fields.optional "used_quota" 0 (·.asSigned?)
  let unlimitedQuota ← fields.optional "unlimited_quota" false (·.asBool?)
  let group ← fields.optional "group" "" (·.asText?)
  let createdTime ← fields.optional "created_time" 0 (·.asSigned?)
  let expiredTime ← fields.optional "expired_time" (-1) (·.asSigned?)
  some
    { id, name, key, status, remainingQuota, usedQuota, unlimitedQuota, group, createdTime,
      expiredTime }

def toJson (token : Token) : Json :=
  .object
    [("id", .integer token.id.toInt), ("name", .text token.name), ("key", .text token.key),
      ("status", .integer token.status.code),
      ("remain_quota", .integer token.remainingQuota.toInt),
      ("used_quota", .integer token.usedQuota.toInt),
      ("unlimited_quota", .bool token.unlimitedQuota), ("group", .text token.group),
      ("created_time", .integer token.createdTime.toInt),
      ("expired_time", .integer token.expiredTime.toInt)]

end Token
end GatewayConsole
