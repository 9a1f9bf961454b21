import GatewayConsole.Gateway.Error
import GatewayConsole.Json.Record

/-!
# Envelopes

The gateway answers with an envelope that says whether a call succeeded, with a message and
perhaps a payload.
-/

namespace GatewayConsole

structure Envelope (α : Type) where
  success : Bool
  message : String
  data : Option α
deriving DecidableEq, Repr

namespace Envelope

variable {Gap α : Type}

def fieldNames : List String := ["success", "message", "data"]

/-- Whether a record leaves out its last field where it must not: fields without names are
written in full. -/
def isShortened : JsonTree Gap → Bool
  | .array items => items.length < fieldNames.length
  | _ => false

def ofTree? (read : JsonTree Gap → Option α) (tree : JsonTree Gap) : Option (Envelope α) := do
  let fields ← tree.fields? fieldNames
  let success ← fields.required "success" (·.asBool?)
  let message ← fields.optional "message" "" (·.asText?)
  let data ← fields.optional "data" none (JsonTree.nullable? read)
  if isShortened tree then none else some { success, message, data }

def payload (envelope : Envelope α) : Except GatewayError α :=
  if envelope.success then
    match envelope.data with
    | some data => .ok data
    | none => .error .missingData
  else .error (.rejected envelope.message)

def payloadOr (envelope : Envelope α) (default : α) : Except GatewayError α :=
  if envelope.success then .ok (envelope.data.getD default)
  else .error (.rejected envelope.message)

def acknowledged (envelope : Envelope α) : Except GatewayError Unit :=
  if envelope.success then .ok () else .error (.rejected envelope.message)

end Envelope
end GatewayConsole
