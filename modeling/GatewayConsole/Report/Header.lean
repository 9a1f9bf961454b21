import GatewayConsole.Navigation.Destination
import GatewayConsole.Report.Styled
import GatewayConsole.Text.Translator

/-!
# Reports on the header

What is shown of the header: its links with their destinations, and the switches of its
modules.
-/

namespace GatewayConsole

/-! ## Links -/

structure HeaderReport where
  visitor : Visitor
  links : List ResolvedLink

namespace HeaderReport

def toJson (report : HeaderReport) : Json :=
  .object
    [("authenticated", .bool report.visitor.loggedIn),
      ("pricingRequireAuth", .bool report.visitor.pricingRequiresLogin),
      ("links", .array (ResolvedLink.toJsons report.links))]

end HeaderReport

namespace ResolvedLink

def indentation (depth : Nat) : String :=
  String.ofList (List.replicate (2 * depth) ' ')

def destination (href : Option String) (external : Bool) : Styled :=
  match href, external with
  | some href, true =>
      .inStyle .blue href ++ .plain " " ++ .inStyle .dim "(external)"
  | some href, false => .inStyle .cyan href
  | none, _ => .inStyle .dim "menu"

mutual
def lines (depth : Nat) : ResolvedLink → List Styled
  | .mk _ text href external children =>
      (.plain (indentation depth) ++ .inStyle .bold text ++ .plain " → "
        ++ destination href external) :: allLines (depth + 1) children

def allLines (depth : Nat) : List ResolvedLink → List Styled
  | [] => []
  | link :: rest => lines depth link ++ allLines depth rest
end

def listText (links : List ResolvedLink) : Styled :=
  .join "\n" (allLines 1 links)

end ResolvedLink

/-! ## Switches -/

structure ModuleRow where
  entry : HeaderModule
  title : String
  description : String
  enabled : Bool
  requiresLogin : Option Bool
deriving DecidableEq, Repr

namespace ModuleRow

def ofSwitches (switches : Switches) (translate : Translator) : List ModuleRow :=
  HeaderModule.all.map fun entry =>
    { entry
      title := translate entry.title
      description := translate entry.description
      enabled := switches.isEnabled entry
      requiresLogin := if entry.hasLoginSwitch then some switches.pricing.requiresLogin else none }

def toJson (row : ModuleRow) : Json :=
  .object <|
    [("key", .text row.entry.key), ("title", .text row.title),
      ("description", .text row.description), ("enabled", .bool row.enabled)]
      ++ Json.presentMember "requireAuth" (row.requiresLogin.map .bool)

def lines (row : ModuleRow) : List Styled :=
  let state : Styled := if row.enabled then .inStyle .green "on " else .inStyle .red "off"
  let first :=
    .plain "  [" ++ state ++ .plain "] " ++ .inStyle .bold row.title ++ .plain "  "
      ++ .inStyle .dim row.description
  match row.requiresLogin with
  | some requiresLogin =>
      [first, .plain ("      login required: " ++ if requiresLogin then "yes" else "no")]
  | none => [first]

def listText (rows : List ModuleRow) : Styled :=
  .join "\n" (rows.flatMap lines)

end ModuleRow
end GatewayConsole
