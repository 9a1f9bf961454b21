import GatewayConsole.Command.World
import GatewayConsole.Navigation.Header
import GatewayConsole.Report.Header

/-!
# Showing the header

The header as a visitor sees it: somebody with a role, an anonymous visitor, or the user of
the access token.
-/

namespace GatewayConsole
namespace HeaderOptions

def someoneWith (role : Int64) : User := ⟨0, "", "", role⟩

/-- Who the header is shown to. A user who cannot be asked for is anonymous. -/
def session (options : HeaderOptions) (around : Surroundings) (client : GatewayClient) :
    Task Session := do
  if options.anonymous then return .anonymous
  match options.role with
  | some role => return ⟨some (someoneWith role)⟩
  | none =>
      if client.credentials.isSome then
        match ← Task.attempt around client.currentUser with
        | .ok user => return ⟨some user⟩
        | .error _ => return .anonymous
      else return .anonymous

/-- What is known about the header: what was remembered, or what the gateway says. -/
def snapshot (options : HeaderOptions) (around : Surroundings) (client : GatewayClient)
    (store : SettingsStore) : Task SiteSnapshot := do
  if options.offline then return .ofSettings store.settings
  return (← SiteSnapshot.refresh around client store).1

def switches (options : HeaderOptions) (snapshot : SiteSnapshot) : Task Switches := do
  match options.modulesFile with
  | some path => return .ofOption (some (← Task.fileText .modules path))
  | none => return snapshot.switches

def report (options : HeaderOptions) (translate : Translator) (snapshot : SiteSnapshot)
    (switches : Switches) (session : Session) : HeaderReport :=
  let visitor := Visitor.ofSession session switches
  let links :=
    Header.links translate (options.docsLink.or snapshot.docsLink) switches session.role?
  ⟨visitor, Link.resolve links visitor⟩

def title (session : Session) : String :=
  match session.role? with
  | some role => "Header Navigation (role " ++ toString role.toInt ++ ")"
  | none => "Header Navigation (anonymous)"

def run (options : HeaderOptions) (around : Surroundings) (shared : GlobalOptions) :
    Task String := do
  let store ← Task.loadStore around shared
  let client ← Task.connect store.settings shared
  let translate ← Task.loadTranslator shared
  let snapshot ← options.snapshot around client store
  let switches ← options.switches snapshot
  let session ← options.session around client
  let report := options.report translate snapshot switches session
  return Output.report shared (title session) (ResolvedLink.listText report.links) report.toJson

end HeaderOptions
end GatewayConsole
