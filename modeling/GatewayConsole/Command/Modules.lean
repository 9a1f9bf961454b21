import GatewayConsole.Command.World
import GatewayConsole.Report.Header

/-!
# Showing and changing the switches of the header

The switches are an option of the gateway. A change reads the option, changes it, and
stores it again; what is stored is then remembered in the settings.
-/

namespace GatewayConsole
namespace ModulesAction

def edit? (action : ModulesAction) (switches : Switches) : Option Switches :=
  match action with
  | .present => none
  | .enable entry => some (switches.setEnabled entry true)
  | .disable entry => some (switches.setEnabled entry false)
  | .requireLogin required => some (switches.setRequiresLogin required)
  | .reset => some .initial

def remember (store : SettingsStore) (switches : Switches) : SettingsStore :=
  store.cacheStatus (some switches.toText) store.settings.docsLink

def publish (around : Surroundings) (client : GatewayClient) (store : SettingsStore)
    (switches : Switches) : Task Unit := do
  Task.call around (client.updateOption Switches.optionKey switches.toText)
  discard (Task.keepStore (remember store switches))

def run (action : ModulesAction) (around : Surroundings) (shared : GlobalOptions) :
    Task String := do
  let store ← Task.loadStore around shared
  let client ← Task.connect store.settings shared
  let current := Switches.ofOption (← Task.call around (client.option Switches.optionKey))
  let edited := action.edit? current
  if let some switches := edited then
    publish around client store switches
  let translate ← Task.loadTranslator shared
  let rows := ModuleRow.ofSwitches (edited.getD current) translate
  return Output.report shared "Header Modules" (ModuleRow.listText rows)
    (.array (rows.map (·.toJson)))

end ModulesAction
end GatewayConsole
