import GatewayConsole.Pricing.Catalog
import GatewayConsole.Pricing.Matching
import GatewayConsole.Text.Collation
import GatewayConsole.Text.Translator

/-!
# Facets

A facet lists the options on one dimension, each with the number of models it would leave.
Options come from all models, so that they stay while other choices are made; numbers are
taken among the models that meet the criteria on all other dimensions.
-/

namespace GatewayConsole

/-- An option that can be chosen, with its label and the number of models behind it. An
option without models is disabled. -/
structure FacetOption (α : Type) where
  value : Choice α
  label : String
  count : Nat
  disabled : Bool
deriving DecidableEq

namespace FacetOption

variable {α : Type}

def all (label : String) (count : Nat) : FacetOption α :=
  ⟨.all, label, count, false⟩

def only (value : α) (label : String) (count : Nat) : FacetOption α :=
  ⟨.only value, label, count, count == 0⟩

def toJson (write : α → Json) (choice : FacetOption α) : Json :=
  .object
    [("value", choice.value.toJson write), ("label", .text choice.label),
      ("count", .integer choice.count), ("disabled", .bool choice.disabled)]

end FacetOption

structure Facets where
  vendor : List (FacetOption Vendor)
  tag : List (FacetOption String)
  group : List (FacetOption String)
  billing : List (FacetOption Billing)
  endpointType : List (FacetOption String)

namespace Facets

/-! ## Options from models -/

def vendorNames (models : List Model) : List String :=
  Text.sortedUnique (models.filterMap (·.vendor))

def tagNames (models : List Model) : List String :=
  Text.sortedUnique (models.flatMap (·.tagList))

def endpointTypeNames (models : List Model) : List String :=
  Text.sortedUnique (models.flatMap (·.endpointTypes))

/-- The option for the unknown vendor, offered when some model has no vendor. -/
def unknownVendor (models baseline : List Model) (translate : Translator) :
    List (FacetOption Vendor) :=
  if models.any (·.vendor.isNone) then
    [.only .unknown (translate "Unknown vendor") (baseline.countP (·.vendor.isNone))]
  else []

def vendorFacet (models : List Model) (criteria : Criteria) (translate : Translator) :
    List (FacetOption Vendor) :=
  let baseline := criteria.selectExcept (some .vendor) models
  .all (translate "All vendors") baseline.length
    :: (vendorNames models).map
        (fun name => .only (.named name) name (baseline.countP (·.vendor == some name)))
    ++ unknownVendor models baseline translate

def tagFacet (models : List Model) (criteria : Criteria) (translate : Translator) :
    List (FacetOption String) :=
  let baseline := criteria.selectExcept (some .tag) models
  .all (translate "All tags") baseline.length
    :: (tagNames models).map fun tag => .only tag tag (baseline.countP (·.hasTag tag))

/-- The facet of groups. Its options are the configured groups, used or not. -/
def groupFacet (models : List Model) (criteria : Criteria) (groups : Groups)
    (translate : Translator) : List (FacetOption String) :=
  let baseline := criteria.selectExcept (some .group) models
  .all (translate "All groups") baseline.length
    :: groups.groupKeys.map fun key =>
        .only key (key ++ " (" ++ groups.ratioText key ++ ")")
          (baseline.countP (·.groups.contains key))

def billingFacet (models : List Model) (criteria : Criteria) (translate : Translator) :
    List (FacetOption Billing) :=
  let baseline := criteria.selectExcept (some .billing) models
  .all (translate "All types") baseline.length
    :: Billing.all.map fun billing =>
        .only billing (translate billing.label) (baseline.countP (·.billing == some billing))

def endpointTypeFacet (models : List Model) (criteria : Criteria) (translate : Translator) :
    List (FacetOption String) :=
  let baseline := criteria.selectExcept (some .endpointType) models
  .all (translate "All endpoints") baseline.length
    :: (endpointTypeNames models).map fun name =>
        .only name name (baseline.countP (·.endpointTypes.contains name))

def compute (models : List Model) (criteria : Criteria) (groups : Groups)
    (translate : Translator) : Facets where
  vendor := vendorFacet models criteria translate
  tag := tagFacet models criteria translate
  group := groupFacet models criteria groups translate
  billing := billingFacet models criteria translate
  endpointType := endpointTypeFacet models criteria translate

def toJson (facets : Facets) : Json :=
  .object
    [("vendor", .array (facets.vendor.map (·.toJson Vendor.toJson))),
      ("tag", .array (facets.tag.map (·.toJson .text))),
      ("group", .array (facets.group.map (·.toJson .text))),
      ("quota_type", .array (facets.billing.map (·.toJson Billing.toJson))),
      ("endpoint_type", .array (facets.endpointType.map (·.toJson .text)))]

end Facets
end GatewayConsole
