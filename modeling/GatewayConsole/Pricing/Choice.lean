import GatewayConsole.Json.Record
import GatewayConsole.Text.Blank

/-!
# Choices

A choice restricts a list to one value, or does not restrict it at all. Written down, the
open choice is the word `all`; on the command line the word counts in any letter case and
with blanks around it, in JSON only as it stands, or as `null`.
-/

namespace GatewayConsole

inductive Choice (α : Type)
  | all
  | only (value : α)
deriving DecidableEq, Repr

namespace Choice

variable {α : Type}

instance : Inhabited (Choice α) := ⟨.all⟩

def allWord : String := "all"

def isAll : Choice α → Bool
  | .all => true
  | .only _ => false

def only? : Choice α → Option α
  | .all => none
  | .only value => some value

def admits (choice : Choice α) (test : α → Bool) : Bool :=
  match choice with
  | .all => true
  | .only value => test value

def isAllWord (text : String) : Bool :=
  String.map Char.toLower (Text.trim text) == allWord

/-- Read a choice from a text. The value is read from the whole text, blanks included. -/
def ofText? (read : String → Option α) (text : String) : Option (Choice α) :=
  if isAllWord text then some .all else (read text).map .only

def ofTree? {Gap : Type} (read : JsonTree Gap → Option α) (tree : JsonTree Gap) :
    Option (Choice α) :=
  if !tree.isComplete then none
  else match tree with
    | .null => some .all
    | .text word => if word = allWord then some .all else (read (.text word)).map .only
    | other => (read other).map .only

def toJson (write : α → Json) : Choice α → Json
  | .all => .text allWord
  | .only value => write value

example : ofText? some " ALL " = some .all := by decide +kernel

example : ofText? some " x" = some (.only " x") := by decide +kernel

end Choice
end GatewayConsole
