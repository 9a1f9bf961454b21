import GatewayConsole.Text.Blank
import GatewayConsole.Text.LowerCase

/-!
# Header modules

The entries of the header that an operator may switch on and off, with the keys they are
stored under and the labels of the screen they are switched on.
-/

namespace GatewayConsole

inductive HeaderModule
  | home
  | console
  | token
  | wallet
  | account
  | logs
  | pricing
  | docs
  | about
deriving DecidableEq, Repr

namespace HeaderModule

def all : List HeaderModule :=
  [.home, .console, .token, .wallet, .account, .logs, .pricing, .docs, .about]

theorem mem_all (entry : HeaderModule) : entry ∈ all := by
  cases entry <;> decide

def key : HeaderModule → String
  | .home => "home"
  | .console => "console"
  | .token => "token"
  | .wallet => "wallet"
  | .account => "account"
  | .logs => "logs"
  | .pricing => "pricing"
  | .docs => "docs"
  | .about => "about"

def ofKey? (text : String) : Option HeaderModule :=
  all.find? (·.key == text)

theorem ofKey?_key (entry : HeaderModule) : ofKey? entry.key = some entry := by
  cases entry <;> decide +kernel

/-- The module named by a text, in any letter case and with blanks around it. -/
def ofText? (text : String) : Option HeaderModule :=
  ofKey? (Text.lower (Text.trim text))

def title : HeaderModule → String
  | .home => "Home"
  | .console => "Console"
  | .token => "Token Management"
  | .wallet => "Wallet"
  | .account => "Account"
  | .logs => "Logs"
  | .pricing => "Model Marketplace"
  | .docs => "Docs"
  | .about => "About"

def description : HeaderModule → String
  | .home => "Landing page with system information"
  | .console => "Control panel for managing the account"
  | .token => "Authentication tokens for API calls, keep them safe"
  | .wallet => "Wallet management"
  | .account => "Personal settings"
  | .logs => "Usage logs / Drawing logs / Task logs"
  | .pricing => "Model pricing, may require login"
  | .docs => "System documentation and help"
  | .about => "Details about the system"

/-- Whether a module has a second switch. Only the pricing page may require a login. -/
def hasLoginSwitch (entry : HeaderModule) : Bool :=
  entry == .pricing

end HeaderModule
end GatewayConsole
