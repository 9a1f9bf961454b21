import GatewayConsole.Account.User
import GatewayConsole.Navigation.Link
import GatewayConsole.Navigation.Switches
import GatewayConsole.Text.Translator

/-!
# The header

The fixed list of header links, and the part of it that a visitor sees: modules that are
switched on, the console only for administrators, and the documentation only when there is
a link to it.
-/

namespace GatewayConsole
namespace Header

def administratorRole : Int64 := 10

def logsMenu (translate : Translator) : Link :=
  .menu "logs" (translate "Logs") true
    [.page "usage-log" (translate "Usage Logs") true "/log",
      .page "drawing-log" (translate "Drawing Logs") true "/midjourney",
      .page "task-log" (translate "Task Logs") true "/task"]

/-- The link of every module. The documentation has none unless a link is configured. -/
def link? (translate : Translator) (docsLink : Option String) : HeaderModule → Option Link
  | .home => some (.page "home" (translate "Home") false "/")
  | .console => some (.page "console" (translate "Console") true "/console")
  | .token => some (.page "token" (translate "Tokens") true "/token")
  | .wallet => some (.page "wallet" (translate "Wallet") true "/wallet")
  | .account => some (.page "account" (translate "Account") true "/account")
  | .logs => some (logsMenu translate)
  | .pricing => some (.page "pricing" (translate "Models") false "/pricing")
  | .docs => (docsLink.filter (· ≠ "")).map fun url => .site "docs" (translate "Docs") false url
  | .about => some (.page "about" (translate "About") false "/about")

/-- Whether a module is shown to a visitor. Without a role a visitor is no
administrator. -/
def isShown (switches : Switches) (role : Option Int64) (entry : HeaderModule) : Bool :=
  switches.isEnabled entry
    && (entry != .console || decide (administratorRole ≤ role.getD 0))

def links (translate : Translator) (docsLink : Option String) (switches : Switches)
    (role : Option Int64) : List Link :=
  (HeaderModule.all.filter (isShown switches role)).filterMap (link? translate docsLink)

end Header
end GatewayConsole
