import GatewayConsole.Pricing.Billing
import GatewayConsole.Pricing.Choice

/-!
# Search criteria

Five independent choices and a text to search for. The vendor may also be chosen as
unknown, for models that have none; the word `unknown` stands for that.
-/

namespace GatewayConsole

/-! ## Vendors -/

inductive Vendor
  | named (name : String)
  | unknown
deriving DecidableEq, Repr

namespace Vendor

def unknownWord : String := "unknown"

def ofText (word : String) : Vendor :=
  if word = unknownWord then .unknown else .named word

def toText : Vendor → String
  | .named name => name
  | .unknown => unknownWord

def isVendor (vendor : Vendor) (given : Option String) : Bool :=
  match vendor, given with
  | .named name, some other => name == other
  | .unknown, none => true
  | _, _ => false

def ofTree? {Gap : Type} (tree : JsonTree Gap) : Option Vendor :=
  tree.asText?.map ofText

def toJson (vendor : Vendor) : Json :=
  .text vendor.toText

end Vendor

/-! ## Dimensions -/

inductive Dimension
  | vendor
  | tag
  | group
  | billing
  | endpointType
deriving DecidableEq, Repr

namespace Dimension

def all : List Dimension := [.vendor, .tag, .group, .billing, .endpointType]

theorem mem_all (dimension : Dimension) : dimension ∈ all := by
  cases dimension <;> decide

def name : Dimension → String
  | .vendor => "vendor"
  | .tag => "tag"
  | .group => "group"
  | .billing => "quota_type"
  | .endpointType => "endpoint_type"

def ofName? (text : String) : Option Dimension :=
  all.find? (·.name == text)

end Dimension

/-! ## Criteria -/

structure Criteria where
  vendor : Choice Vendor
  tag : Choice String
  group : Choice String
  billing : Choice Billing
  endpointType : Choice String
  search : String
deriving DecidableEq, Repr

namespace Criteria

variable {Gap : Type}

def unrestricted : Criteria := ⟨.all, .all, .all, .all, .all, ""⟩

instance : Inhabited Criteria := ⟨unrestricted⟩

def isUnrestricted (criteria : Criteria) : Bool :=
  criteria == unrestricted

def fieldNames : List String :=
  ["vendor", "tag", "group", "quota_type", "endpoint_type", "search"]

def ofTree? (tree : JsonTree Gap) : Option Criteria := do
  let fields ← tree.fields? fieldNames
  let vendor ← fields.optional "vendor" .all (Choice.ofTree? Vendor.ofTree?)
  let tag ← fields.optional "tag" .all (Choice.ofTree? (·.asText?))
  let group ← fields.optional "group" .all (Choice.ofTree? (·.asText?))
  let billing ← fields.optional "quota_type" .all (Choice.ofTree? Billing.ofTree?)
  let endpointType ← fields.optional "endpoint_type" .all (Choice.ofTree? (·.asText?))
  let search ← fields.optional "search" "" (·.asText?)
  some { vendor, tag, group, billing, endpointType, search }

def toJson (criteria : Criteria) : Json :=
  .object
    [("vendor", criteria.vendor.toJson Vendor.toJson),
      ("tag", criteria.tag.toJson .text),
      ("group", criteria.group.toJson .text),
      ("quota_type", criteria.billing.toJson Billing.toJson),
      ("endpoint_type", criteria.endpointType.toJson .text),
      ("search", .text criteria.search)]

end Criteria
end GatewayConsole
