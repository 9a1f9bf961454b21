/-!
# Input errors

What is said when a word or a number that was entered means nothing.
-/

namespace GatewayConsole

inductive InputError
  | unknownModule (word : String)
  | invalidBilling (word : String)
  | unknownBillingCode (code : Nat)
  | unknownTokenStatus (code : Int)
deriving DecidableEq, Repr

namespace InputError

def message : InputError → String
  | .unknownModule word => "Unknown module: " ++ word
  | .invalidBilling word => "Invalid filter value for quota_type: " ++ word
  | .unknownBillingCode code => "unknown quota type " ++ toString code
  | .unknownTokenStatus code => "unknown token status " ++ toString code

end InputError
end GatewayConsole
