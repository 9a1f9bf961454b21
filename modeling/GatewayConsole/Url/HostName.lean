import GatewayConsole.Url.HostName.Alphabet
import GatewayConsole.Url.HostName.Composition
import GatewayConsole.Url.HostName.Direction
import GatewayConsole.Url.HostName.Joiner
import GatewayConsole.Url.HostName.Replacement
import GatewayConsole.Url.Punycode

/-!
# Names of hosts

A host can be named in any script. Its name is settled first: capitals become small, variants
of a character become that character, and the whole is composed. Then it is cut at its points
into labels, which are checked, and those that are not in ASCII are encoded. A label that is
given encoded is checked by what it stands for.
-/

namespace GatewayConsole
namespace HostName

/-! ## Settling -/

def isAscii (chars : List Char) : Bool :=
  chars.all (·.toNat < 0x80)

/-- What a character of a name stands for; nothing, if no name is given with it. -/
def form? (char : Char) : Option (List Char) :=
  if char.toNat < 0x80 then some [char.toLower]
  else if isIgnored char then some []
  else
    match replacement? char with
    | some form => some form
    | none => if isGiven char then some [char] else none

def settled? (name : List Char) : Option (List Char) :=
  if isAscii name then some (name.map Char.toLower)
  else (name.mapM form?).map fun forms => composed forms.flatten

/-! ## Labels -/

def longestLabel : Nat := 1000

def longestCode : Nat := 2000

/-- The label that a settled one stands for. What is encoded has to be settled. -/
def meaning? (label : List Char) : Option (List Char) :=
  match label with
  | 'x' :: 'n' :: '-' :: '-' :: code =>
      if longestCode < code.length then none
      else
        match Punycode.decode? code with
        | some decoded => if settled? decoded == some decoded then some decoded else none
        | none => none
  | label => some label

/-- Whether a label that is not in ASCII may be encoded: it is not too long, begins with no
mark, and its joiners fit. -/
def isSound (label : List Char) : Bool :=
  decide (label.length ≤ longestLabel) && !label.head?.any Text.isMark && joinersFit [] label

/-- Whether labels may stand together in a name. Their directions matter as soon as one of
them is not written from left to right. -/
def areSound (labels : List (List Char)) : Bool :=
  labels.all (fun label => isAscii label || isSound label)
    && (!labels.any (·.any needsDirection) || labels.all keepsDirection)

/-! ## Names -/

def written? (name : List Char) : Option (List Char) := do
  let settled ← settled? name
  let labels ← (Text.splitWhere (· == '.') settled).mapM meaning?
  if areSound labels then some (['.'].intercalate (labels.map Punycode.label)) else none

example : written? "Example.ORG".toList = some "example.org".toList := by decide +kernel

end HostName
end GatewayConsole
