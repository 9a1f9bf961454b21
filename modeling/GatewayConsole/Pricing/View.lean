import GatewayConsole.Pricing.Criteria

/-!
# The pricing view

What a user has set on the pricing page: the criteria, how prices are shown, and the page
of the result. A change of criteria goes back to the first page.
-/

namespace GatewayConsole

/-! ## Display preferences -/

inductive Currency
  | dollar
  | yuan
  | custom
deriving DecidableEq, Repr

namespace Currency

def name : Currency → String
  | .dollar => "USD"
  | .yuan => "CNY"
  | .custom => "CUSTOM"

def ofName? (text : String) : Option Currency :=
  [.dollar, .yuan, .custom].find? (name · == text)

end Currency

inductive ViewMode
  | card
  | table
deriving DecidableEq, Repr

namespace ViewMode

def name : ViewMode → String
  | .card => "card"
  | .table => "table"

def ofName? (text : String) : Option ViewMode :=
  [.card, .table].find? (name · == text)

end ViewMode

inductive TokenUnit
  | million
  | thousand
deriving DecidableEq, Repr

namespace TokenUnit

def name : TokenUnit → String
  | .million => "M"
  | .thousand => "K"

def ofName? (text : String) : Option TokenUnit :=
  [.million, .thousand].find? (name · == text)

def tokens : TokenUnit → Nat
  | .million => 1000000
  | .thousand => 1000

end TokenUnit

/-! ## The view -/

structure PricingView where
  criteria : Criteria
  showWithRecharge : Bool
  currency : Currency
  showRatio : Bool
  mode : ViewMode
  tokenUnit : TokenUnit
  page : UInt64
deriving DecidableEq, Repr

namespace PricingView

variable {Gap : Type}

def initial : PricingView :=
  ⟨.unrestricted, false, .dollar, false, .card, .million, 1⟩

instance : Inhabited PricingView := ⟨initial⟩

/-- Change the criteria, which leads back to the first page. -/
def changeCriteria (view : PricingView) (change : Criteria → Criteria) : PricingView :=
  { view with criteria := change view.criteria, page := 1 }

def selectGroup (view : PricingView) (group : Choice String) : PricingView :=
  view.changeCriteria fun criteria => { criteria with group }

def fieldNames : List String :=
  ["filters", "show_with_recharge", "currency", "show_ratio", "view_mode", "token_unit",
    "current_page"]

def ofTree? (tree : JsonTree Gap) : Option PricingView := do
  let fields ← tree.fields? fieldNames
  let criteria ← fields.optional "filters" .unrestricted Criteria.ofTree?
  let showWithRecharge ← fields.optional "show_with_recharge" false (·.asBool?)
  let currency ← fields.optional "currency" .dollar (·.asVariant?.bind Currency.ofName?)
  let showRatio ← fields.optional "show_ratio" false (·.asBool?)
  let mode ← fields.optional "view_mode" .card (·.asVariant?.bind ViewMode.ofName?)
  let tokenUnit ← fields.optional "token_unit" .million (·.asVariant?.bind TokenUnit.ofName?)
  let page ← fields.optional "current_page" 1 (·.asWord?)
  some { criteria, showWithRecharge, currency, showRatio, mode, tokenUnit, page }

def toJson (view : PricingView) : Json :=
  .object
    [("filters", view.criteria.toJson),
      ("show_with_recharge", .bool view.showWithRecharge),
      ("currency", .text view.currency.name),
      ("show_ratio", .bool view.showRatio),
      ("view_mode", .text view.mode.name),
      ("token_unit", .text view.tokenUnit.name),
      ("current_page", .integer view.page.toNat)]

end PricingView
end GatewayConsole
