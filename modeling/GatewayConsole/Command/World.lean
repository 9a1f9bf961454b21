import GatewayConsole.Command.Error
import GatewayConsole.Command.Options
import GatewayConsole.Gateway.Client
import GatewayConsole.Report.Styled
import GatewayConsole.Text.Translator

/-!
# The world of a command

What a command finds when it runs, what it changes, and the steps that all commands have in
common: loading the settings, reaching the gateway, and writing a report.
-/

namespace GatewayConsole

structure Surroundings where
  gateway : Gateway
  /-- Where settings are kept unless another file is named. -/
  settingsDirectory : String
  today : Date

structure World where
  work : Work
  traffic : Traffic

/-- A part of a command. What it has changed stays changed when it fails. -/
abbrev Task (α : Type) := ExceptT CommandError (StateM World) α

namespace Task

def runIn {α : Type} (task : Task α) (world : World) : Except CommandError α × World :=
  StateT.run (ExceptT.run task) world

def fail {α : Type} (error : CommandError) : Task α :=
  throw error

def attempt {α : Type} (around : Surroundings) (call : GatewayClient.Call α) :
    Task (Except GatewayError α) := do
  let world ← get
  let (result, traffic) := call around.gateway world.traffic
  set { world with traffic }
  return result

def call {α : Type} (around : Surroundings) (call : GatewayClient.Call α) : Task α := do
  match ← attempt around call with
  | .ok value => return value
  | .error error => fail (.gateway error)

def fileText (role : FileRole) (path : String) : Task String := do
  match (← get).work.disk.text? (Path.ofText path) with
  | some text => return text
  | none => fail (.unreadable role path)

/-! ## Settings -/

def settingsFile (around : Surroundings) (options : GlobalOptions) : String :=
  options.settingsFile.getD (around.settingsDirectory ++ "/settings.json")

def loadStore (around : Surroundings) (options : GlobalOptions) : Task SettingsStore := do
  return .load (← get).work.disk (Path.ofText (settingsFile around options))

def saveStore (store : SettingsStore) : Task SettingsStore := do
  let world ← get
  let (result, store, work) := store.saveWith world.work
  set { world with work }
  match result with
  | .ok () => return store
  | .error error => fail (.store error)

/-- Save settings that have unsaved updates. It is no failure when that cannot be done. -/
def keepStore (store : SettingsStore) : Task SettingsStore := do
  let world ← get
  let (_, store, work) := store.saveIfChangedWith world.work
  set { world with work }
  return store

/-! ## The gateway -/

def credentials? (settings : Settings) (options : GlobalOptions) : Option Credentials :=
  ((options.token.or settings.accessToken).filter (· ≠ "")).map
    (⟨·, options.userId.or settings.userId⟩)

def serverOf (settings : Settings) (options : GlobalOptions) : String :=
  options.server.getD settings.serverUrl

def connect (settings : Settings) (options : GlobalOptions) : Task GatewayClient :=
  let server := serverOf settings options
  match GatewayClient.ofAddress server with
  | .ok client => return { client with credentials := credentials? settings options }
  | .error error => fail (.invalidServer server error)

/-! ## Labels -/

/-- The texts of labels. Without a file of them, labels stay as they are. -/
def loadTranslator (options : GlobalOptions) : Task Translator := do
  match options.labelsFile with
  | none => return Translator.unchanged
  | some path =>
      let text ← fileText .labels path
      match (Document.ofText? text).bind (·.asTable? (·.asText?)) with
      | some table => return Translator.ofTable table
      | none => fail (.invalidLabels path)

end Task

/-! ## The status of the gateway -/

structure SiteSnapshot where
  switches : Switches
  docsLink : Option String
  footer : Option String
  cached : Bool
deriving DecidableEq, Repr

namespace SiteSnapshot

def ofSettings (settings : Settings) : SiteSnapshot :=
  ⟨settings.switches, settings.docsLink, settings.footer, true⟩

def ofStatus (status : SiteStatus) : SiteSnapshot :=
  ⟨.ofOption status.headerModules, status.shownDocsLink, status.shownFooter, false⟩

def remember (store : SettingsStore) (status : SiteStatus) : SettingsStore :=
  (store.cacheStatus status.headerModules status.shownDocsLink).cacheFooter status.shownFooter

/-- Ask the gateway, and remember what it says; what it said before stands in when it does
not answer. -/
def refresh (around : Surroundings) (client : GatewayClient) (store : SettingsStore) :
    Task (SiteSnapshot × SettingsStore) := do
  match ← Task.attempt around client.status with
  | .ok status =>
      let store ← Task.keepStore (remember store status)
      return (.ofStatus status, store)
  | .error _ => return (.ofSettings store.settings, store)

end SiteSnapshot

/-! ## Output -/

namespace Output

def rule : String := String.ofList (List.replicate 40 '─')

def line (text : String) : String := text ++ "\n"

def header (title : String) : String :=
  line title ++ line rule

def styled (options : GlobalOptions) (text : Styled) : String :=
  line (text.render !options.noColor)

def json (options : GlobalOptions) (value : Json) : String :=
  line (if options.pretty then value.indented else value.compact)

def report (options : GlobalOptions) (title : String) (text : Styled) (value : Json) : String :=
  if options.writesJson then json options value else header title ++ styled options text

end Output
end GatewayConsole
