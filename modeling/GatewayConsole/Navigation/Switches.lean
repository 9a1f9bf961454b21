import GatewayConsole.Json.Document
import GatewayConsole.Json.Printer
import GatewayConsole.Navigation.Module

/-!
# Header switches

Which modules of the header are shown, and whether the pricing page requires a login. The
gateway stores the switches as JSON that may be incomplete or malformed: a module without
a switch is shown, one with a switch only if the switch is exactly `true`, and what is no
object at all shows everything.
-/

namespace GatewayConsole

/-! ## The pricing switches -/

structure PricingSwitch where
  enabled : Bool
  requiresLogin : Bool
deriving DecidableEq, Repr

namespace PricingSwitch

def initial : PricingSwitch := ⟨true, false⟩

/-- Read the pricing switches: a boolean shows or hides the page, and an object gives each
switch by name. -/
def ofJson : Option Json → PricingSwitch
  | some (.bool enabled) => ⟨enabled, false⟩
  | some (.object members) =>
      let value : Json := .object members
      { enabled := ((value.member? "enabled").bind (·.asBool?)).getD initial.enabled
        requiresLogin :=
          ((value.member? "requireAuth").bind (·.asBool?)).getD initial.requiresLogin }
  | _ => initial

def toJson (pricing : PricingSwitch) : Json :=
  .object [("enabled", .bool pricing.enabled), ("requireAuth", .bool pricing.requiresLogin)]

end PricingSwitch

/-! ## All switches -/

structure Switches where
  home : Bool
  console : Bool
  token : Bool
  wallet : Bool
  account : Bool
  logs : Bool
  pricing : PricingSwitch
  docs : Bool
  about : Bool
deriving DecidableEq, Repr

namespace Switches

def initial : Switches :=
  ⟨true, true, true, true, true, true, .initial, true, true⟩

instance : Inhabited Switches := ⟨initial⟩

def isEnabled (switches : Switches) : HeaderModule → Bool
  | .home => switches.home
  | .console => switches.console
  | .token => switches.token
  | .wallet => switches.wallet
  | .account => switches.account
  | .logs => switches.logs
  | .pricing => switches.pricing.enabled
  | .docs => switches.docs
  | .about => switches.about

def setEnabled (switches : Switches) (entry : HeaderModule) (enabled : Bool) : Switches :=
  match entry with
  | .home => { switches with home := enabled }
  | .console => { switches with console := enabled }
  | .token => { switches with token := enabled }
  | .wallet => { switches with wallet := enabled }
  | .account => { switches with account := enabled }
  | .logs => { switches with logs := enabled }
  | .pricing => { switches with pricing := { switches.pricing with enabled } }
  | .docs => { switches with docs := enabled }
  | .about => { switches with about := enabled }

def setRequiresLogin (switches : Switches) (requiresLogin : Bool) : Switches :=
  { switches with pricing := { switches.pricing with requiresLogin } }

@[simp] theorem isEnabled_setEnabled_same (switches : Switches) (entry : HeaderModule)
    (enabled : Bool) : (switches.setEnabled entry enabled).isEnabled entry = enabled := by
  cases entry <;> rfl

theorem isEnabled_setEnabled_other (switches : Switches) {entry other : HeaderModule}
    (enabled : Bool) (different : other ≠ entry) :
    (switches.setEnabled entry enabled).isEnabled other = switches.isEnabled other := by
  cases entry <;> cases other <;> simp_all [setEnabled, isEnabled]

/-! ## Switches in JSON -/

def flag (value : Json) (key : String) : Bool :=
  match value.member? key with
  | none => true
  | some given => given.asBool? == some true

def ofJson (value : Json) : Switches :=
  match value with
  | .object _ =>
      { home := flag value "home"
        console := flag value "console"
        token := flag value "token"
        wallet := flag value "wallet"
        account := flag value "account"
        logs := flag value "logs"
        pricing := PricingSwitch.ofJson (value.member? "pricing")
        docs := flag value "docs"
        about := flag value "about" }
  | _ => initial

def toJson (switches : Switches) : Json :=
  .object
    [("home", .bool switches.home), ("console", .bool switches.console),
      ("token", .bool switches.token), ("wallet", .bool switches.wallet),
      ("account", .bool switches.account), ("logs", .bool switches.logs),
      ("pricing", switches.pricing.toJson), ("docs", .bool switches.docs),
      ("about", .bool switches.about)]

theorem flag_of_member {value : Json} {key : String} {enabled : Bool}
    (given : value.member? key = some (.bool enabled)) : flag value key = enabled := by
  cases enabled <;> simp [flag, given, JsonTree.asBool?]

theorem ofJson_toJson (switches : Switches) : ofJson switches.toJson = switches := by
  have read (key : String) (enabled : Bool)
      (given : switches.toJson.member? key = some (.bool enabled)) :
      flag switches.toJson key = enabled := flag_of_member given
  have pricing : PricingSwitch.ofJson (switches.toJson.member? "pricing") = switches.pricing := by
    rfl
  show Switches.mk _ _ _ _ _ _ _ _ _ = switches
  cases switches
  congr 1 <;> exact read _ _ rfl

/-! ## The stored option -/

def optionKey : String := "HeaderNavModules"

def ofText? (text : String) : Option Switches :=
  (Json.ofText? text).map ofJson

/-- The switches that a stored option stands for. An option that is missing, blank or
malformed shows everything. -/
def ofOption (stored : Option String) : Switches :=
  match stored.map Text.trim with
  | none => initial
  | some "" => initial
  | some text => (ofText? text).getD initial

def toText (switches : Switches) : String :=
  switches.toJson.compact

example : ofOption none = initial := rfl

end Switches
end GatewayConsole
