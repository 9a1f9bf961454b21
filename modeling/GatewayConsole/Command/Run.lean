import GatewayConsole.Command.CommandLine
import GatewayConsole.Command.Header
import GatewayConsole.Command.Home
import GatewayConsole.Command.Modules
import GatewayConsole.Command.Notice
import GatewayConsole.Command.Pricing
import GatewayConsole.Command.Settings
import GatewayConsole.Command.Tokens

/-!
# Running commands

From a command line to what is printed, what is changed, and the exit code.
-/

namespace GatewayConsole

def Command.run (command : Command) (around : Surroundings) (shared : GlobalOptions) :
    Task String :=
  match command with
  | .header options => options.run around shared
  | .pricing options => options.run around shared
  | .modules action => action.run around shared
  | .notice options => options.run around shared
  | .home => HomeReport.run around shared
  | .tokens options => options.run around shared
  | .settings action => action.run around shared

inductive RunResult
  | refused
  | help
  | version
  | succeeded (output : String)
  | failed (error : CommandError)
deriving DecidableEq, Repr

namespace RunResult

def versionText : String := "tollgate 0.1.0"

def exitCode : RunResult → Nat
  | .refused => 2
  | .help | .version | .succeeded _ => 0
  | .failed error => error.exitCode

def output : RunResult → String
  | .version => Output.line versionText
  | .succeeded output => output
  | _ => ""

end RunResult

def runCommandLine (around : Surroundings) (environment : Keyed String) (arguments : List String)
    (world : World) : RunResult × World :=
  match CommandLine.read environment arguments with
  | .refused => (.refused, world)
  | .help => (.help, world)
  | .version => (.version, world)
  | .command shared command =>
      match (command.run around shared).runIn world with
      | (.ok output, world) => (.succeeded output, world)
      | (.error error, world) => (.failed error, world)

end GatewayConsole
