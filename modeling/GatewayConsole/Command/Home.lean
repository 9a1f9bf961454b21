import GatewayConsole.Command.World
import GatewayConsole.Report.Contents

/-!
# Showing the home page

The home page and the footer of the gateway. When the gateway cannot be reached, what it
sent before is shown; when it refuses, the command fails.
-/

namespace GatewayConsole
namespace HomeReport

def isBridged : GatewayError → Bool
  | .transport _ => true
  | error => error.isTransient

def fetch (around : Surroundings) (client : GatewayClient) (store : SettingsStore)
    (footer : Option String) : Task HomeReport := do
  match ← Task.attempt around client.homePage with
  | .ok contents =>
      discard (Task.keepStore (store.cacheHomePage contents))
      return ⟨false, .classify contents, footer⟩
  | .error error =>
      if isBridged error then return ⟨true, store.settings.homeContents, footer⟩
      else Task.fail (.gateway error)

def run (around : Surroundings) (shared : GlobalOptions) : Task String := do
  let loaded ← Task.loadStore around shared
  let client ← Task.connect loaded.settings shared
  let (snapshot, store) ← SiteSnapshot.refresh around client loaded
  let report ← fetch around client store snapshot.footer
  return Output.report shared "Home" report.text report.toJson

end HomeReport
end GatewayConsole
