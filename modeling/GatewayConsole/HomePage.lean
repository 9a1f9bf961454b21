import GatewayConsole.Json.Record
import GatewayConsole.Text.Blank

/-!
# The home page

What operators put on the home page: nothing, the address of a page to embed, or a
document to show as it is.
-/

namespace GatewayConsole

inductive HomePage
  | standard
  | embedded (url : String)
  | document (body : String)
deriving DecidableEq, Repr

namespace HomePage

variable {Gap : Type}

def secureScheme : String := "https://"

/-- The contents that an operator has entered. Blanks around an address do not count. -/
def classify (raw : String) : HomePage :=
  let trimmed := Text.trimChars raw.toList
  if trimmed.isEmpty then .standard
  else if secureScheme.toList.isPrefixOf trimmed then .embedded (String.ofList trimmed)
  else .document raw

def isStandard : HomePage → Bool
  | .standard => true
  | _ => false

example : classify "  " = .standard := by decide +kernel

example : classify "http://x" = .document "http://x" := by decide +kernel

/-! ## The home page in JSON -/

def toJson : HomePage → Json
  | .standard => .object [("kind", .text "default")]
  | .embedded url => .object [("kind", .text "embedded"), ("body", .text url)]
  | .document body => .object [("kind", .text "document"), ("body", .text body)]

/-- Put contents together from their kind and body. Without contents the body is missing or
`null`. -/
def ofParts? (kind : String) (body : Option (JsonTree Gap)) : Option HomePage :=
  match kind, body with
  | "default", none => some .standard
  | "default", some .null => some .standard
  | "embedded", some tree => tree.asText?.map .embedded
  | "document", some tree => tree.asText?.map .document
  | _, _ => none

/-- Read contents. An object may name the kind as any choice is named; an array gives the
kind as a word, and the body with it. -/
def ofTree? (tree : JsonTree Gap) : Option HomePage := do
  let fields ← tree.fields? ["kind", "body"]
  match tree with
  | .array items => do
      let kind ← fields.required "kind" (·.asText?)
      if items.length = 2 then ofParts? kind (fields.find? "body") else none
  | _ => do
      let kind ← fields.required "kind" (·.asVariant?)
      ofParts? kind (fields.find? "body")

end HomePage
end GatewayConsole
