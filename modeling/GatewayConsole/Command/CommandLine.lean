import GatewayConsole.Command.Arguments
import GatewayConsole.Command.Options
import GatewayConsole.Text.Split
import GatewayConsole.Text.WholeNumber

/-!
# The command line

The forms of all commands and options, and how a command line is read with them. Options
that every command has may be given at any level; where they are not given at all, some of
them are taken from the environment.
-/

namespace GatewayConsole
namespace CommandLine

/-! ## Values -/

def path? (text : String) : Option String :=
  if text.isEmpty then none else some text

def numbers? (text : String) : Option (List Int64) :=
  (Text.splitWhere (· == ',') text.toList).mapM fun piece => Text.signed? (String.ofList piece)

def switch? (text : String) : Option Bool :=
  if text == "on" then some true else if text == "off" then some false else none

/-! ## Options of every command -/

def globalForms : List (OptionForm GlobalOptions) :=
  [.value "format" (some 'f') OutputFormat.ofName? (·.format)
      fun format options => { options with format := some format },
    .mark "pretty" none (·.pretty) fun options => { options with pretty := true },
    .value "server" none some (·.server)
      fun server options => { options with server := some server },
    .value "token" none some (·.token) fun token options => { options with token := some token },
    .value "user-id" none Text.signed? (·.userId)
      fun userId options => { options with userId := some userId },
    .value "config" none path? (·.settingsFile)
      fun file options => { options with settingsFile := some file },
    .value "translations" none path? (·.labelsFile)
      fun file options => { options with labelsFile := some file },
    .mark "verbose" (some 'v') (·.verbose) fun options => { options with verbose := true },
    .mark "no-color" none (·.noColor) fun options => { options with noColor := true },
    .mark "quiet" (some 'q') (·.quiet) fun options => { options with quiet := true }]

structure Record (α : Type) where
  shared : GlobalOptions
  own : α

def levelOf {α : Type} (forms : List (OptionForm α)) (commands : List String)
    (operand : String → α → Option α) : ArgumentLevel (Record α) where
  options :=
    (globalForms.map fun form =>
        form.within (·.shared) fun shared record => { record with shared })
      ++ forms.map fun form => form.within (·.own) fun own record => { record with own }
  commands := commands
  operand := fun text record => (operand text record.own).map fun own => { record with own }
  tellsVersion := false

def noOperand {α : Type} : String → α → Option α := fun _ _ => none

def oneOperand {α : Type} (read : String → Option α) :
    String → Option α → Option (Option α) :=
  fun text given => if given.isSome then none else (read text).map some

/-! ## Options of single commands -/

def headerForms : List (OptionForm HeaderOptions) :=
  [.value "role" none Text.signed? (·.role) fun role options => { options with role := some role },
    .mark "anonymous" none (·.anonymous) fun options => { options with anonymous := true },
    .value "docs-link" none some (·.docsLink)
      fun docsLink options => { options with docsLink := some docsLink },
    .value "modules" none path? (·.modulesFile)
      fun file options => { options with modulesFile := some file },
    .mark "offline" none (·.offline) fun options => { options with offline := true }]

def pricingForms : List (OptionForm PricingOptions) :=
  [.value "vendor" none (Choice.ofText? (some ∘ Vendor.ofText)) (·.vendor)
      fun vendor options => { options with vendor := some vendor },
    .value "tag" none (Choice.ofText? some) (·.tag)
      fun tag options => { options with tag := some tag },
    .value "group" none (Choice.ofText? some) (·.group)
      fun group options => { options with group := some group },
    .value "quota-type" none (Choice.ofText? Billing.ofText?) (·.billing)
      fun billing options => { options with billing := some billing },
    .value "endpoint" none (Choice.ofText? some) (·.endpointType)
      fun endpointType options => { options with endpointType := some endpointType },
    .value "search" none some (·.search)
      fun search options => { options with search := some search },
    .value "input" none path? (·.catalogFile)
      fun file options => { options with catalogFile := some file },
    .mark "facets-only" none (·.facetsOnly) fun options => { options with facetsOnly := true },
    .value "page" none Text.word? (·.page) fun page options => { options with page := some page },
    .value "page-size" none Text.word? (·.pageSize)
      fun pageSize options => { options with pageSize := some pageSize },
    .mark "reset" none (·.reset) fun options => { options with reset := true },
    .mark "save" none (·.save) fun options => { options with save := true }]

def noticeForms : List (OptionForm NoticeOptions) :=
  [.mark "dismiss" none (·.dismiss) fun options => { options with dismiss := true },
    .mark "force" none (·.force) fun options => { options with force := true }]

def tokensForms : List (OptionForm TokensOptions) :=
  [.value "page" none Text.halfWord? (·.page)
      fun page options => { options with page := some page },
    .value "page-size" none Text.halfWord? (·.pageSize)
      fun pageSize options => { options with pageSize := some pageSize },
    ⟨"select", none, .value fun text options =>
      (numbers? text).map fun ids => { options with selected := options.selected ++ ids }⟩,
    .mark "select-page" none (·.selectPage) fun options => { options with selectPage := true }]

/-! ## Reading -/

inductive Reading
  | refused
  | help
  | version
  | command (options : GlobalOptions) (command : Command)
deriving DecidableEq

def serverVariable : String := "TOLLGATE_SERVER"

def tokenVariable : String := "TOLLGATE_TOKEN"

def userVariable : String := "TOLLGATE_USER_ID"

/-- Whether the environment can stand in for the options that a level does not give. -/
def acceptsVariables (environment : Keyed String) (options : GlobalOptions) : Bool :=
  options.userId.isSome
    || (environment.find? userVariable).all fun text => (Text.signed? text).isSome

def withVariables (environment : Keyed String) (options : GlobalOptions) : GlobalOptions :=
  { options with
    server := options.server.or (environment.find? serverVariable)
    token := options.token.or (environment.find? tokenVariable)
    userId := options.userId.or ((environment.find? userVariable).bind Text.signed?) }

def complete (environment : Keyed String) (levels : Option (List GlobalOptions))
    (command : Option Command) : Reading :=
  match levels, command with
  | none, _ | _, none => .refused
  | some levels, some command =>
      if levels.all (acceptsVariables environment) then
        .command (withVariables environment (levels.foldl GlobalOptions.within .initial)) command
      else .refused

/-- Read a request for help. Every word of the topic must lead on from the words before it;
the word for help is one of them where there are any. -/
def readHelp (wordsBehind : List String → List String) (path : List String) :
    List String → Reading
  | [] => .help
  | word :: rest =>
      let words := wordsBehind path
      if words.contains word || (!words.isEmpty && word == "help") then
        readHelp wordsBehind (path ++ [word]) rest
      else .refused

def readLast {α : Type} (environment : Keyed String) (outer : List (Option GlobalOptions))
    (level : ArgumentLevel (Record α)) (own : α) (arguments : List String)
    (command : α → Option Command) : Reading :=
  match level.readAll ⟨.initial, own⟩ arguments with
  | .refused | .command .. => .refused
  | .help _ => .help
  | .version => .version
  | .finished record =>
      complete environment ((outer ++ [some record.shared]).mapM id) (command record.own)

def readWords (commands : List String) (arguments : List String)
    (next : String → List String → Option GlobalOptions → Reading) : Reading :=
  match (levelOf [] commands noOperand).readAll ⟨.initial, ()⟩ arguments with
  | .refused | .finished _ => .refused
  | .help topic => readHelp (fun path => if path.isEmpty then commands else []) [] topic
  | .version => .version
  | .command word rest record => next word rest (record.map (·.shared))

def modulesWords : List String := ["show", "enable", "disable", "require-auth", "reset"]

def settingsWords : List String := ["show", "path", "set-server", "login", "logout", "reset"]

def readModules (environment : Keyed String) (outer : Option GlobalOptions)
    (arguments : List String) : Reading :=
  readWords modulesWords arguments fun word rest options =>
    let outer := [outer, options]
    let plain (action : ModulesAction) :=
      readLast environment outer (levelOf [] [] noOperand) () rest
        fun _ => some (.modules action)
    let operand {α : Type} (read : String → Option α) (action : α → ModulesAction) :=
      readLast environment outer (levelOf [] [] (oneOperand read)) none rest
        fun given => given.map fun value => .modules (action value)
    match word with
    | "enable" => operand HeaderModule.ofText? .enable
    | "disable" => operand HeaderModule.ofText? .disable
    | "require-auth" => operand switch? .requireLogin
    | "reset" => plain .reset
    | _ => plain .present

def readSettings (environment : Keyed String) (outer : Option GlobalOptions)
    (arguments : List String) : Reading :=
  readWords settingsWords arguments fun word rest options =>
      let outer := [outer, options]
      let plain (action : SettingsAction) :=
        readLast environment outer (levelOf [] [] noOperand) () rest
          fun _ => some (.settings action)
      let operand (action : String → SettingsAction) :=
        readLast environment outer (levelOf [] [] (oneOperand some)) none rest
          fun given => given.map fun value => .settings (action value)
      match word with
      | "path" => plain .paths
      | "set-server" => operand .setServer
      | "login" => operand .login
      | "logout" => plain .logout
      | "reset" => plain .reset
      | _ => plain .present

def readCommand (environment : Keyed String) (word : String) (arguments : List String)
    (outer : Option GlobalOptions) : Reading :=
  let last {α : Type} (forms : List (OptionForm α)) (own : α)
      (command : α → Option Command) :=
    readLast environment [outer] (levelOf forms [] noOperand) own arguments command
  match word with
  | "nav" | "n" =>
      last headerForms .initial fun options =>
        if options.role.isSome && options.anonymous then none else some (.header options)
  | "pricing" | "p" => last pricingForms .initial fun options => some (.pricing options)
  | "modules" | "m" => readModules environment outer arguments
  | "notice" =>
      last noticeForms ⟨false, false⟩ fun options =>
        if options.dismiss && options.force then none else some (.notice options)
  | "home" => last [] () fun _ => some .home
  | "tokens" | "t" => last tokensForms .initial fun options => some (.tokens options)
  | _ => readSettings environment outer arguments

def commandWords : List String :=
  ["nav", "n", "pricing", "p", "modules", "m", "notice", "home", "tokens", "t", "config"]

def wordsBehind : List String → List String
  | [] => commandWords
  | ["modules"] | ["m"] => modulesWords
  | ["config"] => settingsWords
  | _ => []

def outermost : ArgumentLevel GlobalOptions where
  options := globalForms
  commands := commandWords
  operand := noOperand
  tellsVersion := true

def read (environment : Keyed String) (arguments : List String) : Reading :=
  match outermost.readAll .initial arguments with
  | .refused | .finished _ => .refused
  | .help topic => readHelp wordsBehind [] topic
  | .version => .version
  | .command word rest options => readCommand environment word rest options

end CommandLine
end GatewayConsole
