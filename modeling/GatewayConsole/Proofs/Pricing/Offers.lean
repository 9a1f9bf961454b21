import GatewayConsole.Proofs.Pricing.ByDimension
import GatewayConsole.Proofs.Pricing.FacetCounts

/-!
# What a facet offers

Every facet has one form: the open choice, and then an option for each value that is offered
on the dimension, with its label and its count. The values come from all models and from the
groups; the criteria only tell which models are counted.
-/

namespace GatewayConsole

def Dimension.openLabel : Dimension → String
  | .vendor => "All vendors"
  | .tag => "All tags"
  | .group => "All groups"
  | .billing => "All types"
  | .endpointType => "All endpoints"

def Vendor.label (translate : Translator) : Vendor → String
  | .named name => name
  | .unknown => translate "Unknown vendor"

def Groups.label (groups : Groups) (key : String) : String :=
  key ++ " (" ++ groups.ratioText key ++ ")"

namespace Facets

def vendors (models : List Model) : List Vendor :=
  (vendorNames models).map .named ++ if models.any (·.vendor.isNone) then [.unknown] else []

def offered (models : List Model) (groups : Groups) : (dimension : Dimension) → List dimension.Value
  | .vendor => vendors models
  | .tag => tagNames models
  | .group => groups.groupKeys
  | .billing => Billing.all
  | .endpointType => endpointTypeNames models

def label (groups : Groups) (translate : Translator) :
    (dimension : Dimension) → dimension.Value → String
  | .vendor, vendor => vendor.label translate
  | .tag, tag => tag
  | .group, key => groups.label key
  | .billing, billing => translate billing.label
  | .endpointType, name => name

def option (groups : Groups) (translate : Translator) (dimension : Dimension)
    (baseline : List Model) (value : dimension.Value) : FacetOption dimension.Value :=
  .only value (label groups translate dimension value) (baseline.countP (·.carries dimension value))

variable (models : List Model) (criteria : Criteria) (groups : Groups) (translate : Translator)

theorem vendorFacet_eq :
    vendorFacet models criteria translate =
      .all (translate "All vendors") (criteria.selectExcept (some .vendor) models).length ::
        (vendors models).map fun vendor =>
          .only vendor (vendor.label translate)
            ((criteria.selectExcept (some .vendor) models).countP (vendor.isVendor ·.vendor)) := by
  simp only [vendorFacet, unknownVendor, vendors, List.map_append, List.map_map, List.cons_append,
    ← Vendor.isVendor_named, ← Vendor.isVendor_unknown]
  split <;> rfl

theorem on_eq_offered (dimension : Dimension) :
    (compute models criteria groups translate).on dimension =
      .all (translate dimension.openLabel) (criteria.selectExcept (some dimension) models).length ::
        (offered models groups dimension).map
          (option groups translate dimension (criteria.selectExcept (some dimension) models)) := by
  cases dimension with
  | vendor => exact vendorFacet_eq models criteria translate
  | tag | group | billing | endpointType => rfl

theorem values_on (dimension : Dimension) :
    ((compute models criteria groups translate).on dimension).map (·.value) =
      .all :: (offered models groups dimension).map .only := by
  rw [on_eq_offered, List.map_cons, List.map_map]
  rfl

end Facets
end GatewayConsole
