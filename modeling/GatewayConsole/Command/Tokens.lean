import GatewayConsole.Command.World
import GatewayConsole.Report.Tokens

/-!
# Showing tokens

A page of the tokens of a user, with some of them selected.
-/

namespace GatewayConsole
namespace TokensOptions

def wantedPage (options : TokensOptions) : UInt32 :=
  max (options.page.getD 1) 1

def wantedSize (options : TokensOptions) : UInt32 :=
  max (options.pageSize.getD 10) 1

def selection (options : TokensOptions) (page : TokenPage) : Selection :=
  let chosen := Selection.ofIds options.selected
  if options.selectPage then chosen.togglePage (page.items.map (·.id)) else chosen

def report (options : TokensOptions) (page : TokenPage) : TokenReport :=
  .ofTokens page.page page.pageSize page.total page.items (options.selection page)

def run (options : TokensOptions) (around : Surroundings) (shared : GlobalOptions) :
    Task String := do
  let store ← Task.loadStore around shared
  let client ← Task.connect store.settings shared
  let page ← Task.call around (client.tokens options.wantedPage options.wantedSize)
  let report := options.report page
  return Output.report shared "API Tokens" report.text report.toJson

end TokensOptions
end GatewayConsole
