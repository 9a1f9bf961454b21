import GatewayConsole.Calendar.Date
import GatewayConsole.HomePage
import GatewayConsole.Navigation.Switches
import GatewayConsole.Pricing.View

/-!
# Settings

What the console remembers between runs: how to reach the gateway and as whom, the pricing
view, and what the gateway last sent. The file of settings is JSON; every field may be
left out of it and then has its initial value.
-/

namespace GatewayConsole

/-! ## Log levels -/

inductive LogLevel
  | error
  | warn
  | info
  | debug
  | trace
deriving DecidableEq, Repr

namespace LogLevel

def name : LogLevel → String
  | .error => "error"
  | .warn => "warn"
  | .info => "info"
  | .debug => "debug"
  | .trace => "trace"

def ofName? (text : String) : Option LogLevel :=
  [.error, .warn, .info, .debug, .trace].find? (name · == text)

end LogLevel

/-! ## Settings -/

structure Settings where
  serverUrl : String
  accessToken : Option String
  userId : Option Int64
  timeoutSeconds : UInt64
  logLevel : LogLevel
  pricing : PricingView
  noticeClosedOn : Option Date
  homePage : Option String
  footer : Option String
  headerModules : Option String
  docsLink : Option String
deriving DecidableEq

namespace Settings

variable {Gap : Type}

def initialServerUrl : String := "http://localhost:3000"

def initial : Settings :=
  ⟨initialServerUrl, none, none, 30, .warn, .initial, none, none, none, none, none⟩

instance : Inhabited Settings := ⟨initial⟩

/-- The seconds after which a request is given up. It is never given up at once. -/
def effectiveTimeout (settings : Settings) : UInt64 :=
  max settings.timeoutSeconds 1

def isLoggedIn (settings : Settings) : Bool :=
  settings.accessToken.any (· ≠ "")

def switches (settings : Settings) : Switches :=
  .ofOption settings.headerModules

def homeContents (settings : Settings) : HomePage :=
  .classify (settings.homePage.getD "")

/-! ## Settings in JSON -/

def fieldNames : List String :=
  ["server_url", "access_token", "user_id", "request_timeout_secs", "log_level", "pricing",
    "notice_close_date", "home_page_content", "footer_html", "header_nav_modules", "docs_link"]

def ofTree? (tree : JsonTree Gap) : Option Settings := do
  let fields ← tree.fields? fieldNames
  let text? (name : String) := fields.optional name none (JsonTree.nullable? (·.asText?))
  let serverUrl ← fields.optional "server_url" initialServerUrl (·.asText?)
  let accessToken ← text? "access_token"
  let userId ← fields.optional "user_id" none (JsonTree.nullable? (·.asSigned?))
  let timeoutSeconds ← fields.optional "request_timeout_secs" 30 (·.asWord?)
  let logLevel ← fields.optional "log_level" .warn (·.asVariant?.bind LogLevel.ofName?)
  let pricing ← fields.optional "pricing" .initial PricingView.ofTree?
  let noticeClosedOn ←
    fields.optional "notice_close_date" none (JsonTree.nullable? Date.ofTree?)
  let homePage ← text? "home_page_content"
  let footer ← text? "footer_html"
  let headerModules ← text? "header_nav_modules"
  let docsLink ← text? "docs_link"
  some
    { serverUrl, accessToken, userId, timeoutSeconds, logLevel, pricing, noticeClosedOn,
      homePage, footer, headerModules, docsLink }

def textOrNull (text : Option String) : Json :=
  (text.map .text).getD .null

/-- Settings in JSON. Credentials that are missing are left out; everything else that is
missing is `null`. -/
def toJson (settings : Settings) : Json :=
  .object <|
    [("server_url", .text settings.serverUrl)]
      ++ Json.presentMember "access_token" (settings.accessToken.map .text)
      ++ Json.presentMember "user_id" (settings.userId.map fun id => .integer id.toInt)
      ++ [("request_timeout_secs", .integer settings.timeoutSeconds.toNat),
        ("log_level", .text settings.logLevel.name),
        ("pricing", settings.pricing.toJson),
        ("notice_close_date", (settings.noticeClosedOn.map Date.toJson).getD .null),
        ("home_page_content", textOrNull settings.homePage),
        ("footer_html", textOrNull settings.footer),
        ("header_nav_modules", textOrNull settings.headerModules),
        ("docs_link", textOrNull settings.docsLink)]

def ofText? (text : String) : Option Settings := do
  let document ← Document.ofText? text
  ofTree? document

def toText (settings : Settings) : String :=
  settings.toJson.indented

end Settings
end GatewayConsole
