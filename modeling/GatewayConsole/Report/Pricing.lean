import GatewayConsole.Pricing.Facet
import GatewayConsole.Report.Styled

/-!
# Reports on prices

What is shown of a catalog: the models on a page with what they cost, and the options on
every dimension with a mark at the ones that are chosen.
-/

namespace GatewayConsole

/-! ## Facets -/

structure FacetLine where
  selected : Bool
  label : String
  count : Nat
  disabled : Bool
deriving DecidableEq, Repr

namespace FacetLine

def marker (line : FacetLine) : String :=
  if line.selected then "●" else "○"

def text (line : FacetLine) : Styled :=
  let whole := "  " ++ line.marker ++ " " ++ line.label ++ " (" ++ toString line.count ++ ")"
  if line.disabled then .inStyle .dim whole else .plain whole

def ofOptions {α : Type} [DecidableEq α] (options : List (FacetOption α)) (chosen : Choice α) :
    List FacetLine :=
  options.map fun choice =>
    ⟨decide (choice.value = chosen), choice.label, choice.count, choice.disabled⟩

def listText {α : Type} [DecidableEq α] (title : String) (options : List (FacetOption α))
    (chosen : Choice α) : Styled :=
  .join "\n" (.inStyle .bold title :: (ofOptions options chosen).map text)

end FacetLine

namespace Facets

def text (facets : Facets) (criteria : Criteria) (translate : Translator) : Styled :=
  .join "\n\n"
    [FacetLine.listText (translate "Vendor") facets.vendor criteria.vendor,
      FacetLine.listText (translate "Tag") facets.tag criteria.tag,
      FacetLine.listText (translate "Group") facets.group criteria.group,
      FacetLine.listText (translate "Billing type") facets.billing criteria.billing,
      FacetLine.listText (translate "Endpoint type") facets.endpointType criteria.endpointType]

end Facets

/-! ## Models -/

namespace Model

def priced (text : String) (number : Option Float) : String :=
  match number with
  | some number => text ++ Decimal.Layout.plain.write number
  | none => ""

def billingText (model : Model) (translate : Translator) : Styled :=
  match model.billing with
  | some .perToken =>
      .plain (translate Billing.perToken.label ++ priced " x" model.ratio
        ++ priced " / out x" model.completionRatio)
  | some .perRequest => .plain (translate Billing.perRequest.label ++ priced " $" model.price)
  | none => .inStyle .dim "-"

def tagsText (tags : List String) : Styled :=
  if tags.isEmpty then [] else .plain "  " ++ .inStyle .cyan (", ".intercalate tags)

def line (model : Model) (translate : Translator) : Styled :=
  .plain "  " ++ .inStyle .bold model.name ++ .plain "  "
    ++ .inStyle .dim (model.vendor.getD (translate "Unknown vendor")) ++ .plain "  "
    ++ model.billingText translate ++ tagsText model.tagList

def listText (models : List Model) (translate : Translator) : Styled :=
  if models.isEmpty then .inStyle .dim (translate "No matching models")
  else .join "\n" (models.map (·.line translate))

end Model

/-! ## The whole report -/

/-- A page of models with its facets. Models are left out when only facets are asked
for. -/
structure PricingReport where
  criteria : Criteria
  total : Nat
  page : UInt64
  pageSize : UInt64
  models : Option (List Model)
  facets : Facets

namespace PricingReport

def toJson (report : PricingReport) : Json :=
  .object <|
    [("filters", report.criteria.toJson), ("total", .integer report.total),
      ("page", .integer report.page.toNat), ("pageSize", .integer report.pageSize.toNat)]
      ++ Json.presentMember "models"
        (report.models.map fun models => .array (models.map (·.toJson)))
      ++ [("facets", report.facets.toJson)]

end PricingReport
end GatewayConsole
