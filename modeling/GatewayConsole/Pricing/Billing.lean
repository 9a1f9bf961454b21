import GatewayConsole.Json.Tree
import GatewayConsole.Text.Blank
import GatewayConsole.Text.LowerCase

/-!
# Billing

How a model is paid for: by the tokens it handles or by the request. On the wire a billing
mode is a small number; on the command line it also has names.
-/

namespace GatewayConsole

inductive Billing
  | perToken
  | perRequest
deriving DecidableEq, Repr

namespace Billing

def all : List Billing := [.perToken, .perRequest]

def code : Billing → Nat
  | .perToken => 0
  | .perRequest => 1

def ofCode? : Nat → Option Billing
  | 0 => some .perToken
  | 1 => some .perRequest
  | _ => none

theorem ofCode?_code (billing : Billing) : ofCode? billing.code = some billing := by
  cases billing <;> rfl

def label : Billing → String
  | .perToken => "Pay per token"
  | .perRequest => "Pay per request"

def ofText? (text : String) : Option Billing :=
  let name := Text.lower (Text.trim text)
  if ["0", "quantity", "token"].contains name then some .perToken
  else if ["1", "count", "request"].contains name then some .perRequest
  else none

def ofTree? {Gap : Type} (tree : JsonTree Gap) : Option Billing :=
  tree.asWord?.bind fun word => ofCode? word.toNat

def toJson (billing : Billing) : Json :=
  .integer billing.code

end Billing
end GatewayConsole
