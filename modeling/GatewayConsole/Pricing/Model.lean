import GatewayConsole.Json.Record
import GatewayConsole.Pricing.Billing
import GatewayConsole.Pricing.Tags

/-!
# Priced models

A model as the gateway offers it. Descriptions of models come from elsewhere and may be
malformed: a field whose value has the wrong type counts as absent, and so do the members
of a list that are no strings.
-/

namespace GatewayConsole

structure Model where
  name : String
  vendorName : Option String
  tags : Option String
  groups : List String
  billing : Option Billing
  endpointTypes : List String
  description : Option String
  ratio : Option Float
  completionRatio : Option Float
  price : Option Float
deriving Inhabited

namespace Model

variable {Gap : Type}

/-- The vendor of a model. An empty name is none. -/
def vendor (model : Model) : Option String :=
  model.vendorName.filter (· ≠ "")

def tagList (model : Model) : List String :=
  (model.tags.map Tags.ofText).getD []

/-! ## Models in JSON -/

def fieldNames : List String :=
  ["model_name", "vendor_name", "tags", "enable_groups", "quota_type",
    "supported_endpoint_types", "description", "model_ratio", "completion_ratio",
    "model_price"]

def texts? (tree : JsonTree Gap) : Option (List String) :=
  tree.asItems?.map (·.filterMap (·.asText?))

def ofTree? (tree : JsonTree Gap) : Option Model := do
  let fields ← tree.fields? fieldNames
  let name ← fields.lenient "model_name" (·.asText?)
  let vendorName ← fields.lenient "vendor_name" (·.asText?)
  let tags ← fields.lenient "tags" (·.asText?)
  let groups ← fields.lenient "enable_groups" texts?
  let billing ← fields.lenient "quota_type" Billing.ofTree?
  let endpointTypes ← fields.lenient "supported_endpoint_types" texts?
  let description ← fields.lenient "description" (·.asText?)
  let ratio ← fields.lenient "model_ratio" (·.asReal?)
  let completionRatio ← fields.lenient "completion_ratio" (·.asReal?)
  let price ← fields.lenient "model_price" (·.asReal?)
  some
    { name := name.getD ""
      vendorName, tags
      groups := groups.getD []
      billing
      endpointTypes := endpointTypes.getD []
      description, ratio, completionRatio, price }

def toJson (model : Model) : Json :=
  .object <|
    [("model_name", .text model.name)]
      ++ Json.presentMember "vendor_name" (model.vendorName.map .text)
      ++ Json.presentMember "tags" (model.tags.map .text)
      ++ [("enable_groups", .array (model.groups.map .text))]
      ++ Json.presentMember "quota_type" (model.billing.map Billing.toJson)
      ++ [("supported_endpoint_types", .array (model.endpointTypes.map .text))]
      ++ Json.presentMember "description" (model.description.map .text)
      ++ Json.presentMember "model_ratio" (model.ratio.map .real)
      ++ Json.presentMember "completion_ratio" (model.completionRatio.map .real)
      ++ Json.presentMember "model_price" (model.price.map .real)

end Model
end GatewayConsole
