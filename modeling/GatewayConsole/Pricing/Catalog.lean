import GatewayConsole.Decimal.Layout
import GatewayConsole.Pricing.Model

/-!
# Price catalogs

The priced models of a gateway together with the groups that users may choose among. The
groups are members of the catalog itself; nothing in a catalog is skipped, so a catalog
holds no part without a value outside its models.
-/

namespace GatewayConsole

structure Groups where
  usable : Keyed String
  ratios : Keyed Float

namespace Groups

variable {Gap : Type}

def empty : Groups := ⟨[], []⟩

instance : Inhabited Groups := ⟨empty⟩

/-- The keys of the groups that may be used. An empty key is none. -/
def groupKeys (groups : Groups) : List String :=
  groups.usable.keys.filter (· ≠ "")

/-- The price factor of a group as text. Without a factor of its own a group has factor
one. -/
def ratioText (groups : Groups) (key : String) : String :=
  match groups.ratios.find? key with
  | some ratio => "x" ++ Decimal.Layout.plain.write ratio
  | none => "x1"

def fieldNames : List String := ["usable_group", "group_ratio"]

/-- The numbers in a table; members that are no numbers are dropped. -/
def ratios? : JsonTree Gap → Option (Keyed Float)
  | .object members =>
      let last : Keyed (JsonTree Gap) := Keyed.ofPairs members
      some (last.filterMap fun (key, value) => value.asReal?.map (key, ·))
  | _ => none

def ofFields? (fields : Fields Gap) : Option Groups := do
  let usable ← fields.optional "usable_group" [] (·.asTable? (·.asText?))
  let ratios ← fields.lenient "group_ratio" ratios?
  some ⟨usable, ratios.getD []⟩

def ofTree? (tree : JsonTree Gap) : Option Groups := do
  let fields ← tree.fields? fieldNames
  ofFields? fields

def toMembers (groups : Groups) : List (String × Json) :=
  [("usable_group", .object (groups.usable.map fun (key, text) => (key, .text text))),
    ("group_ratio", .object (groups.ratios.map fun (key, ratio) => (key, .real ratio)))]

end Groups

structure Catalog where
  models : List Model
  groups : Groups

namespace Catalog

variable {Gap : Type}

instance : Inhabited Catalog := ⟨⟨[], .empty⟩⟩

def fieldNames : List String := "data" :: Groups.fieldNames

/-- Read a catalog. It must be an object, and members other than its models must be
complete. -/
def ofTree? (tree : JsonTree Gap) : Option Catalog :=
  match tree with
  | .object members => do
      guard ((members.filter (·.1 ≠ "data")).all (·.2.isComplete))
      let fields ← tree.fields? fieldNames
      let models ← fields.optional "data" [] (·.asList? Model.ofTree?)
      let groups ← Groups.ofFields? fields
      some ⟨models, groups⟩
  | _ => none

def toJson (catalog : Catalog) : Json :=
  .object (("data", .array (catalog.models.map Model.toJson)) :: catalog.groups.toMembers)

end Catalog
end GatewayConsole
