import GatewayConsole.Account.Selection
import GatewayConsole.Account.Token
import GatewayConsole.Calendar.Instant
import GatewayConsole.Report.Styled

/-!
# Reports on tokens

What is shown of a page of tokens: every token with its masked key and its times, and how
many of the rows are selected.
-/

namespace GatewayConsole

structure TokenRow where
  id : Int64
  name : String
  key : String
  status : TokenStatus
  quota : String
  group : String
  createdAt : Option Int
  expiresAt : Option Int
  selected : Bool
deriving DecidableEq, Repr

namespace TokenRow

/-- A time that is set: later than the beginning of 1970, and within the calendar. -/
def timeOf? (seconds : Int64) : Option Int :=
  if 0 < seconds.toInt ∧ (Calendar.dateOf? seconds.toInt).isSome then some seconds.toInt else none

def ofToken (token : Token) (selected : Bool) : TokenRow :=
  { id := token.id
    name := token.name
    key := token.maskedKey
    status := token.status
    quota := token.quotaUsage
    group := token.group
    createdAt := timeOf? token.createdTime
    expiresAt := timeOf? token.expiredTime
    selected }

def timeJson (seconds : Option Int) : Option Json :=
  (seconds.bind Calendar.instantText?).map .text

def toJson (row : TokenRow) : Json :=
  .object <|
    [("id", .integer row.id.toInt), ("name", .text row.name), ("key", .text row.key),
      ("status", .text row.status.label), ("quota", .text row.quota), ("group", .text row.group)]
      ++ Json.presentMember "createdAt" (timeJson row.createdAt)
      ++ Json.presentMember "expiresAt" (timeJson row.expiresAt)
      ++ [("selected", .bool row.selected)]

def statusText (status : TokenStatus) : Styled :=
  match status with
  | .enabled => .inStyle .green status.label
  | .disabled => .inStyle .dim status.label
  | .expired | .exhausted => .inStyle .red status.label

def expiryText (seconds : Option Int) : String :=
  ((seconds.bind Calendar.dateOf?).map Date.toText).getD "never"

def line (row : TokenRow) : Styled :=
  .plain ("  " ++ (if row.selected then "[x]" else "[ ]") ++ " #" ++ toString row.id.toInt ++ " ")
    ++ .inStyle .bold row.name ++ .plain "  " ++ .inStyle .dim row.key ++ .plain "  "
    ++ statusText row.status ++ .plain ("  " ++ row.quota ++ "  " ++ row.group ++ "  ")
    ++ .inStyle .dim ("expires " ++ expiryText row.expiresAt)

end TokenRow

structure TokenReport where
  page : UInt32
  pageSize : UInt32
  total : UInt64
  pageState : PageState
  selectedOnPage : Nat
  selected : List Int64
  rows : List TokenRow

namespace TokenReport

def ofTokens (page pageSize : UInt32) (total : UInt64) (tokens : List Token)
    (selection : Selection) : TokenReport :=
  let ids := tokens.map (·.id)
  { page, pageSize, total
    pageState := selection.pageState ids
    selectedOnPage := selection.countOnPage ids
    selected := selection.ids
    rows := tokens.map fun token => .ofToken token (selection.contains token.id) }

def toJson (report : TokenReport) : Json :=
  .object
    [("page", .integer report.page.toNat), ("pageSize", .integer report.pageSize.toNat),
      ("total", .integer report.total.toNat), ("pageState", .text report.pageState.name),
      ("selectedOnPage", .integer report.selectedOnPage),
      ("selected", .array (report.selected.map fun id => .integer id.toInt)),
      ("items", .array (report.rows.map (·.toJson)))]

def stateText (state : PageState) : Styled :=
  match state with
  | .none => .inStyle .dim state.name
  | .partly => .inStyle .yellow state.name
  | .all => .inStyle .green state.name

def text (report : TokenReport) : Styled :=
  let summary :=
    .plain ("Page " ++ toString report.page.toNat ++ " · " ++ toString report.rows.length ++ " of "
      ++ toString report.total.toNat ++ " tokens · selected " ++ toString report.selected.length
      ++ " (") ++ stateText report.pageState ++ .plain " on this page)"
  .join "\n" (summary :: report.rows.map (·.line))

end TokenReport
end GatewayConsole
