import GatewayConsole.Navigation.Module
import GatewayConsole.Pricing.Criteria
import GatewayConsole.Text.Keyed

/-!
# Commands

What the console can be told to do, and the options that say how.
-/

namespace GatewayConsole

/-! ## Options of every command -/

inductive OutputFormat
  | text
  | json
deriving DecidableEq, Repr

namespace OutputFormat

def name : OutputFormat → String
  | .text => "text"
  | .json => "json"

def ofName? (word : String) : Option OutputFormat :=
  [.text, .json].find? (name · == word)

end OutputFormat

structure GlobalOptions where
  format : Option OutputFormat
  pretty : Bool
  server : Option String
  token : Option String
  userId : Option Int64
  settingsFile : Option String
  labelsFile : Option String
  verbose : Bool
  noColor : Bool
  quiet : Bool
deriving DecidableEq, Repr

namespace GlobalOptions

def initial : GlobalOptions :=
  ⟨none, false, none, none, none, none, none, false, false, false⟩

instance : Inhabited GlobalOptions := ⟨initial⟩

def within (outer inner : GlobalOptions) : GlobalOptions :=
  { format := inner.format.or outer.format
    pretty := inner.pretty || outer.pretty
    server := inner.server.or outer.server
    token := inner.token.or outer.token
    userId := inner.userId.or outer.userId
    settingsFile := inner.settingsFile.or outer.settingsFile
    labelsFile := inner.labelsFile.or outer.labelsFile
    verbose := inner.verbose || outer.verbose
    noColor := inner.noColor || outer.noColor
    quiet := inner.quiet || outer.quiet }

def writesJson (options : GlobalOptions) : Bool :=
  options.format == some .json

end GlobalOptions

/-! ## Options of single commands -/

structure HeaderOptions where
  role : Option Int64
  anonymous : Bool
  docsLink : Option String
  modulesFile : Option String
  offline : Bool
deriving DecidableEq, Repr

def HeaderOptions.initial : HeaderOptions := ⟨none, false, none, none, false⟩

structure PricingOptions where
  vendor : Option (Choice Vendor)
  tag : Option (Choice String)
  group : Option (Choice String)
  billing : Option (Choice Billing)
  endpointType : Option (Choice String)
  search : Option String
  catalogFile : Option String
  facetsOnly : Bool
  page : Option UInt64
  pageSize : Option UInt64
  reset : Bool
  save : Bool
deriving DecidableEq, Repr

def PricingOptions.initial : PricingOptions :=
  ⟨none, none, none, none, none, none, none, false, none, none, false, false⟩

inductive ModulesAction
  | present
  | enable (entry : HeaderModule)
  | disable (entry : HeaderModule)
  | requireLogin (required : Bool)
  | reset
deriving DecidableEq, Repr

structure NoticeOptions where
  dismiss : Bool
  force : Bool
deriving DecidableEq, Repr

structure TokensOptions where
  page : Option UInt32
  pageSize : Option UInt32
  selected : List Int64
  selectPage : Bool
deriving DecidableEq, Repr

def TokensOptions.initial : TokensOptions := ⟨none, none, [], false⟩

inductive SettingsAction
  | present
  | paths
  | setServer (url : String)
  | login (token : String)
  | logout
  | reset
deriving DecidableEq, Repr

/-! ## Commands -/

inductive Command
  | header (options : HeaderOptions)
  | pricing (options : PricingOptions)
  | modules (action : ModulesAction)
  | notice (options : NoticeOptions)
  | home
  | tokens (options : TokensOptions)
  | settings (action : SettingsAction)
deriving DecidableEq, Repr

end GatewayConsole
