import GatewayConsole.Gateway.Error
import GatewayConsole.Settings.Store

/-!
# Errors of commands

Why a command fails, and the exit code that says so.
-/

namespace GatewayConsole

inductive FileRole
  | labels
  | modules
  | catalog
deriving DecidableEq, Repr

def FileRole.word : FileRole → String
  | .labels => "translations"
  | .modules => "modules"
  | .catalog => "catalog"

inductive CommandError
  | gateway (error : GatewayError)
  | store (error : StoreError)
  | invalidServer (server : String) (error : UrlError)
  | unreadable (role : FileRole) (path : String)
  | invalidLabels (path : String)
  | invalidCatalog (path : String)
  | isDirectory
deriving DecidableEq, Repr

namespace CommandError

def message : CommandError → String
  | .gateway error => error.message
  | .store error => error.message
  | .invalidServer server _ => "invalid server URL: " ++ server
  | .unreadable role path => "cannot read " ++ role.word ++ " from " ++ path
  | .invalidLabels path => "translations in " ++ path ++ " must be a JSON object of strings"
  | .invalidCatalog path => "invalid catalog in " ++ path
  | .isDirectory => "Is a directory (os error 21)"

/-- The exit code of a command that fails: trouble with credentials and the refusal of the
gateway have codes of their own. -/
def exitCode : CommandError → Nat
  | .gateway error =>
      if error.isAboutCredentials then 2
      else match error with
        | .rejected _ => 3
        | _ => 1
  | _ => 1

end CommandError
end GatewayConsole
