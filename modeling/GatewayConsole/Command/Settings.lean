import GatewayConsole.Command.World

/-!
# Showing and changing the settings

The settings are shown without the access token. An access token is only stored after the
gateway has said whose it is.
-/

namespace GatewayConsole

/-! ## Showing -/

namespace Settings

def hiddenToken : String := "********"

def redacted (settings : Settings) : Settings :=
  { settings with accessToken := settings.accessToken.map fun _ => hiddenToken }

def criteriaLines (criteria : Criteria) : List String :=
  if criteria.isUnrestricted then ["Pricing filters: none saved"]
  else
    ["Pricing filters:",
      "  vendor:   " ++ (criteria.vendor.toJson Vendor.toJson).compact,
      "  tag:      " ++ (criteria.tag.toJson .text).compact,
      "  group:    " ++ (criteria.group.toJson .text).compact,
      "  billing:  " ++ (criteria.billing.toJson Billing.toJson).compact,
      "  endpoint: " ++ (criteria.endpointType.toJson .text).compact]
      ++ if criteria.search.isEmpty then [] else ["  search:   " ++ criteria.search]

def lines (settings : Settings) : List String :=
  ["", "Server:          " ++ settings.serverUrl,
    "Logged in:       " ++ (if settings.isLoggedIn then "true" else "false")]
    ++ (settings.userId.map fun id => "User id:         " ++ toString id.toInt).toList
    ++ ["Request timeout: " ++ toString settings.effectiveTimeout.toNat ++ "s",
      "Log level:       " ++ settings.logLevel.name, ""]
    ++ criteriaLines settings.pricing.criteria
    ++ ["Notice dismissed: " ++ (settings.noticeClosedOn.map Date.toText).getD "never"]

def output (shared : GlobalOptions) (settings : Settings) : String :=
  let shown := settings.redacted
  if shared.writesJson then Output.json shared shown.toJson
  else Output.header "Tollgate Configuration" ++ String.join (shown.lines.map Output.line)

end Settings

/-! ## Actions -/

namespace SettingsAction

def pathsOutput (around : Surroundings) (shared : GlobalOptions) : String :=
  let file := Task.settingsFile around shared
  if shared.writesJson then
    Output.json shared
      (.object [("config_dir", .text around.settingsDirectory), ("settings_file", .text file)])
  else
    Output.header "Configuration Paths" ++ Output.line ""
      ++ Output.line ("Config dir:    " ++ around.settingsDirectory)
      ++ Output.line ("Settings file: " ++ file)

def setServerIn (store : SettingsStore) (url : String) : Task String := do
  match store.setServerUrl url with
  | .ok changed =>
      let saved ← Task.saveStore changed
      return Output.line ("Server set to: " ++ saved.settings.serverUrl)
  | .error error => Task.fail (.store error)

/-- The client for a login: it goes with the new access token and nothing stored. -/
def loginClient (settings : Settings) (shared : GlobalOptions) (token : String) :
    Task GatewayClient :=
  match GatewayClient.ofAddress (Task.serverOf settings shared) with
  | .ok client => return client.withCredentials token shared.userId
  | .error error => Task.fail (.gateway (.invalidAddress error))

def nameOf (user : User) : String :=
  if user.displayName.isEmpty then user.username else user.displayName

def loginTo (store : SettingsStore) (around : Surroundings) (shared : GlobalOptions)
    (token : String) : Task String := do
  let client ← loginClient store.settings shared token
  let user ← Task.call around client.currentUser
  discard (Task.saveStore (store.setCredentials token (some (shared.userId.getD user.id))))
  return Output.line
    ("Logged in as " ++ nameOf user ++ " (role " ++ toString user.role.toInt ++ ")")

def resetIn (store : SettingsStore) : Task String := do
  let world ← get
  if world.work.disk.holds store.path then
    let (result, work) := world.work.act (.delete store.path)
    set { world with work }
    match result with
    | .ok () => return Output.line "Configuration reset to defaults"
    | .error _ => Task.fail .isDirectory
  else return Output.line "No configuration file to reset"

def run (action : SettingsAction) (around : Surroundings) (shared : GlobalOptions) :
    Task String := do
  let store ← Task.loadStore around shared
  match action with
  | .present => return store.settings.output shared
  | .paths => return pathsOutput around shared
  | .setServer url => setServerIn store url
  | .login token => loginTo store around shared token
  | .logout => do
      discard (Task.saveStore store.clearCredentials)
      return Output.line "Logged out"
  | .reset => resetIn store

end SettingsAction
end GatewayConsole
