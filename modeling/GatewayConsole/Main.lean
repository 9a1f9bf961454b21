import GatewayConsole.Command.Run
import Std.Time.Zoned

/-!
# The program

The command line of the console. It reads the files that a command may look at, runs the
command, and carries out on the real disk what the command has done to the disk it was
given. It makes no connections: commands find no gateway, and show what they remember.
-/

namespace GatewayConsole
namespace Program

def filesOf (around : Surroundings) (shared : GlobalOptions) (command : Command) : List String :=
  let own := match command with
    | .header options => options.modulesFile.toList
    | .pricing options => options.catalogFile.toList
    | _ => []
  Task.settingsFile around shared :: shared.labelsFile.toList ++ own

def fileText? (path : String) : IO (Option String) := do
  try
    let text ← IO.FS.readFile path
    return some text
  catch _ => return none

def isDirectory (path : String) : IO Bool := do
  try
    (← IO.FS.realPath path).isDir
  catch _ => return false

def loadDirectory (path : Path) (disk : Disk) : IO Disk := do
  if ← isDirectory path.text then
    match disk.perform (.makeDirectory path) with
    | .ok disk => return disk
    | .error _ => return disk
  else return disk

def loadFile (disk : Disk) (text : String) : IO Disk := do
  let path := Path.ofText text
  let disk ← path.ancestors.foldrM loadDirectory disk
  match ← fileText? text with
  | some contents => return disk.withFile path contents
  | none => return disk

def loadDisk (paths : List String) : IO Disk :=
  paths.foldlM loadFile Disk.empty

def accessOf (bits : Nat) : IO.AccessRight :=
  { read := bits / 4 % 2 == 1, write := bits / 2 % 2 == 1, execution := bits % 2 == 1 }

def rightsOf (mode : Mode) : IO.FileRight :=
  { user := accessOf (mode / 64), group := accessOf (mode / 8 % 8), other := accessOf (mode % 8) }

def carryOut (operation : Disk.Operation) : IO Unit :=
  match operation with
  | .makeDirectory path => IO.FS.createDirAll path.text
  | .write path text => IO.FS.writeFile path.text text
  | .setMode path mode => IO.setAccessRights path.text (rightsOf mode)
  | .rename source target => IO.FS.rename source.text target.text
  | .delete path => IO.FS.removeFile path.text

def loadEnvironment : IO (Keyed String) := do
  let names :=
    [CommandLine.serverVariable, CommandLine.tokenVariable, CommandLine.userVariable]
  let found ← names.mapM fun name => do
    return (← IO.getEnv name).map (name, ·)
  return Keyed.ofPairs (found.filterMap id)

def settingsDirectory : IO String := do
  let directory ← match ← IO.getEnv "XDG_CONFIG_HOME" with
    | some directory => pure directory
    | none => do
        match ← IO.getEnv "HOME" with
        | some home => pure (home ++ "/.config")
        | none => pure "."
  return directory ++ "/tollgate"

def today : IO Date := do
  let date ← Std.Time.PlainDate.now
  match Date.ofParts? date.year.toInt date.month.toNat date.day.toNat with
  | some date => return date
  | none => throw (IO.userError "the calendar has no such day")

end Program
end GatewayConsole

open GatewayConsole in
def main (arguments : List String) : IO UInt32 := do
  let around : Surroundings := ⟨.absent, ← Program.settingsDirectory, ← Program.today⟩
  let environment ← Program.loadEnvironment
  let (disk, quiet) ← match CommandLine.read environment arguments with
    | .command shared command =>
        pure (← Program.loadDisk (Program.filesOf around shared command), shared.quiet)
    | _ => pure (Disk.empty, false)
  let (result, world) :=
    runCommandLine around environment arguments ⟨.start disk [], .silent⟩
  for change in world.work.changes.reverse do
    Program.carryOut change.operation
  IO.print result.output
  match result with
  | .failed error => if !quiet then IO.eprintln ("Error: " ++ error.message)
  | .refused => IO.eprintln "error: the command line is not understood"
  | _ => pure ()
  return .ofNat result.exitCode
