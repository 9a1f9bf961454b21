import GatewayConsole.Pricing.Criteria
import GatewayConsole.Pricing.Model

/-!
# Matching models

Which models meet which criteria. Vendors, groups and endpoint types are compared as they
stand, tags in normal form, and the search looks for its text, in lower case, in names and
vendors. Models that meet all criteria keep their order.
-/

namespace GatewayConsole

namespace Model

/-- Whether a model has a tag, in any spelling. -/
def hasTag (model : Model) (tag : String) : Bool :=
  (model.tags.map Tags.ofText).any (·.contains (Tags.normalForm tag))

def meets (model : Model) (criteria : Criteria) : Dimension → Bool
  | .vendor => criteria.vendor.admits (·.isVendor model.vendor)
  | .tag => criteria.tag.admits model.hasTag
  | .group => criteria.group.admits model.groups.contains
  | .billing => criteria.billing.admits (model.billing == some ·)
  | .endpointType => criteria.endpointType.admits model.endpointTypes.contains

/-- Whether the name or the vendor of a model holds a keyword, which is in lower case. -/
def mentions (model : Model) (keyword : String) : Bool :=
  keyword == "" || Text.contains (Text.lower model.name) keyword
    || model.vendor.any fun vendor => Text.contains (Text.lower vendor) keyword

def isFound (model : Model) (criteria : Criteria) : Bool :=
  model.mentions (Tags.normalForm criteria.search)

end Model

namespace Criteria

def admitsExcept (criteria : Criteria) (left : Option Dimension) (model : Model) : Bool :=
  model.isFound criteria
    && Dimension.all.all fun dimension => some dimension == left || model.meets criteria dimension

/-- The models that meet all criteria but the choice on one dimension, if one is left
out. -/
def selectExcept (criteria : Criteria) (left : Option Dimension) (models : List Model) :
    List Model :=
  models.filter (criteria.admitsExcept left)

def select (criteria : Criteria) (models : List Model) : List Model :=
  criteria.selectExcept none models

end Criteria
end GatewayConsole
