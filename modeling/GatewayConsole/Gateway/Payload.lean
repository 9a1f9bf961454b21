import GatewayConsole.Account.Token
import GatewayConsole.Text.Blank

/-!
# Payloads

What the gateway sends in its envelopes: its public status, the rows of its option table,
and pages of tokens.
-/

namespace GatewayConsole

/-! ## Status -/

structure SiteStatus where
  systemName : String
  version : String
  serverAddress : String
  docsLink : Option String
  footer : Option String
  headerModules : Option String
  demoSite : Bool
deriving DecidableEq, Repr

namespace SiteStatus

variable {Gap : Type}

def fieldNames : List String :=
  ["system_name", "version", "server_address", "docs_link", "footer_html", "HeaderNavModules",
    "demo_site_enabled"]

def ofTree? (tree : JsonTree Gap) : Option SiteStatus := do
  let fields ← tree.fields? fieldNames
  let systemName ← fields.optional "system_name" "" (·.asText?)
  let version ← fields.optional "version" "" (·.asText?)
  let serverAddress ← fields.optional "server_address" "" (·.asText?)
  let docsLink ← fields.optional "docs_link" none (JsonTree.nullable? (·.asText?))
  let footer ← fields.optional "footer_html" none (JsonTree.nullable? (·.asText?))
  let headerModules ← fields.optional "HeaderNavModules" none (JsonTree.nullable? (·.asText?))
  let demoSite ← fields.optional "demo_site_enabled" false (·.asBool?)
  some { systemName, version, serverAddress, docsLink, footer, headerModules, demoSite }

def textOrNull (text : Option String) : Json :=
  (text.map .text).getD .null

def toJson (status : SiteStatus) : Json :=
  .object
    [("system_name", .text status.systemName), ("version", .text status.version),
      ("server_address", .text status.serverAddress), ("docs_link", textOrNull status.docsLink),
      ("footer_html", textOrNull status.footer),
      ("HeaderNavModules", textOrNull status.headerModules),
      ("demo_site_enabled", .bool status.demoSite)]

def unlessBlank (text : Option String) : Option String :=
  text.filter fun text => !Text.isBlankText text

def shownDocsLink (status : SiteStatus) : Option String :=
  unlessBlank status.docsLink

def shownFooter (status : SiteStatus) : Option String :=
  unlessBlank status.footer

end SiteStatus

/-! ## Options -/

structure OptionEntry where
  key : String
  value : String
deriving DecidableEq, Repr

namespace OptionEntry

variable {Gap : Type}

def fieldNames : List String := ["key", "value"]

def ofTree? (tree : JsonTree Gap) : Option OptionEntry := do
  let fields ← tree.fields? fieldNames
  let key ← fields.required "key" (·.asText?)
  let value ← fields.optional "value" "" (·.asText?)
  some { key, value }

def toJson (entry : OptionEntry) : Json :=
  .object [("key", .text entry.key), ("value", .text entry.value)]

def lookup? (entries : List OptionEntry) (key : String) : Option String :=
  (entries.find? (·.key == key)).map (·.value)

end OptionEntry

/-! ## Tokens -/

structure TokenPage where
  items : List Token
  total : UInt64
  page : UInt32
  pageSize : UInt32
deriving DecidableEq, Repr

namespace TokenPage

variable {Gap : Type}

def fieldNames : List String := ["items", "total", "page", "page_size"]

def ofTree? (tree : JsonTree Gap) : Option TokenPage := do
  let fields ← tree.fields? fieldNames
  let items ← fields.optional "items" [] (·.asList? Token.ofTree?)
  let total ← fields.optional "total" 0 (·.asWord?)
  let page ← fields.optional "page" 0 (·.asHalfWord?)
  let pageSize ← fields.optional "page_size" 0 (·.asHalfWord?)
  some { items, total, page, pageSize }

end TokenPage
end GatewayConsole
