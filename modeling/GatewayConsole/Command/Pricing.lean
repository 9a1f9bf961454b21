import GatewayConsole.Command.World
import GatewayConsole.Pricing.Page
import GatewayConsole.Report.Pricing

/-!
# Showing prices

The models that meet the criteria, one page of them, and the options on every dimension.
Criteria are those of the saved view, with what the options set in place of it.
-/

namespace GatewayConsole
namespace PricingOptions

def setsCriteria (options : PricingOptions) : Bool :=
  options.vendor.isSome || options.tag.isSome || options.group.isSome || options.billing.isSome
    || options.endpointType.isSome || options.search.isSome

def applyTo (options : PricingOptions) (criteria : Criteria) : Criteria :=
  { vendor := options.vendor.getD criteria.vendor
    tag := options.tag.getD criteria.tag
    group := options.group.getD criteria.group
    billing := options.billing.getD criteria.billing
    endpointType := options.endpointType.getD criteria.endpointType
    search := options.search.getD criteria.search }

def withPage (options : PricingOptions) (view : PricingView) : PricingView :=
  match options.page with
  | some page => { view with page := max page 1 }
  | none => view

def view (options : PricingOptions) (saved : PricingView) : PricingView :=
  let start := if options.reset then .initial else saved
  options.withPage
    (if options.setsCriteria then start.changeCriteria options.applyTo else start)

def modelsPerPage (options : PricingOptions) : UInt64 :=
  options.pageSize.getD 20

def catalog (options : PricingOptions) (around : Surroundings) (shared : GlobalOptions)
    (settings : Settings) : Task Catalog := do
  match options.catalogFile with
  | some path =>
      let text ← Task.fileText .catalog path
      match (Document.ofText? text).bind Catalog.ofTree? with
      | some catalog => return catalog
      | none => Task.fail (.invalidCatalog path)
  | none =>
      let client ← Task.connect settings shared
      Task.call around client.pricing

def report (options : PricingOptions) (translate : Translator) (catalog : Catalog)
    (view : PricingView) : PricingView × PricingReport :=
  let matching := view.criteria.select catalog.models
  let (page, shown) := Page.paginate matching view.page options.modelsPerPage
  ({ view with page },
    { criteria := view.criteria
      total := matching.length
      page
      pageSize := max options.modelsPerPage 1
      models := if options.facetsOnly then none else some shown
      facets := .compute catalog.models view.criteria catalog.groups translate })

def output (shared : GlobalOptions) (translate : Translator) (report : PricingReport) : String :=
  if shared.writesJson then Output.json shared report.toJson
  else
    let models := match report.models with
      | some models =>
          Output.header
              ("Models (" ++ toString report.total ++ " matching, page "
                ++ toString report.page.toNat ++ ")")
            ++ Output.styled shared (Model.listText models translate) ++ Output.line ""
      | none => ""
    models ++ Output.header "Filters"
      ++ Output.styled shared (report.facets.text report.criteria translate)

def run (options : PricingOptions) (around : Surroundings) (shared : GlobalOptions) :
    Task String := do
  let store ← Task.loadStore around shared
  let translate ← Task.loadTranslator shared
  let catalog ← options.catalog around shared store.settings
  let (view, report) := options.report translate catalog (options.view store.settings.pricing)
  if options.save || options.reset then
    discard (Task.saveStore (store.setPricingView view))
  return output shared translate report

end PricingOptions
end GatewayConsole
