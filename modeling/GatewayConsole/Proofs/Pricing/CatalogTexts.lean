import GatewayConsole.Gateway.Client
import GatewayConsole.Proofs.Json.SortedValues
import GatewayConsole.Proofs.Pricing.ModelFields

/-!
# Texts of catalogs

A value is read in the same way by itself and as part of a document. So a catalog that is read
from a text is the one that is read from the value of that text, and a reply of the gateway
brings the catalog that a file with the same text holds, if the reply reports success.
-/

namespace GatewayConsole

theorem Json.isComplete_self (json : Json) : json.isComplete = true :=
  json.asTree_self ▸ json.isComplete_asTree

/-! ## Reading wherever a value stands -/

/-- Whether a value is read in the same way by itself and in a document that may have gaps. -/
def ReadsAlike {α : Type} (read : (Gap : Type) → JsonTree Gap → Option α) : Prop :=
  ∀ (Gap : Type) (json : Json), read Gap json.asTree = read Empty json

namespace ReadsAlike

variable {α : Type} {read : (Gap : Type) → JsonTree Gap → Option α}

theorem asText? : ReadsAlike fun _ tree => tree.asText? :=
  fun _ json => Model.FieldKind.read_asTree .text (some json)

theorem asReal? : ReadsAlike fun _ tree => tree.asReal? :=
  fun _ json => Model.FieldKind.read_asTree .number (some json)

theorem billing : ReadsAlike fun _ tree => Billing.ofTree? tree :=
  fun _ json => Model.FieldKind.read_asTree .billing (some json)

theorem texts? : ReadsAlike fun _ tree => Model.texts? tree :=
  fun _ json => Model.FieldKind.texts?_asTree json

theorem asList? (alike : ReadsAlike read) : ReadsAlike fun Gap tree => tree.asList? (read Gap) := by
  intro Gap json
  cases json with
  | array items =>
      change (Json.asTree (.array items)).asList? (read Gap) = items.mapM (read Empty)
      rw [Json.asTree, Json.itemTrees_eq_map, JsonTree.asList?, List.mapM_map]
      exact congrArg items.mapM (funext (alike Gap))
  | gap reason => cases reason
  | _ => rfl

theorem asTable? (alike : ReadsAlike read) :
    ReadsAlike fun Gap tree => tree.asTable? (read Gap) := by
  intro Gap json
  cases json with
  | object members =>
      have same : (fun member : String × Json =>
          (read Gap member.2.asTree).map (member.1, ·)) =
          fun member => (read Empty member.2).map (member.1, ·) := by
        funext member
        rw [alike Gap member.2]
      change (Json.asTree (.object members)).asTable? (read Gap) =
        (members.mapM fun member => (read Empty member.2).map (member.1, ·)).bind _
      rw [Json.asTree, Json.memberTrees_eq_map, JsonTree.asTable?, List.mapM_map, ← same]
      rfl
  | gap reason => cases reason
  | _ => rfl

/-! ## Fields -/

theorem optional (alike : ReadsAlike read) (Gap : Type) (fields : Fields Empty) (name : String)
    (default : α) :
    Fields.optional (Json.memberTrees fields : Fields Gap) name default (read Gap) =
      fields.optional name default (read Empty) := by
  rw [Fields.optional, Json.find?_memberTrees, Fields.optional]
  cases fields.find? name with
  | none => rfl
  | some json => exact alike Gap json

theorem lenient (alike : ReadsAlike read) (Gap : Type) (fields : Fields Empty) (name : String) :
    Fields.lenient (Json.memberTrees fields : Fields Gap) name (read Gap) =
      fields.lenient name (read Empty) := by
  have complete : ∀ field ∈ fields, field.2.isComplete = true :=
    fun field _ => Json.isComplete_self field.2
  rw [Fields.lenient_complete complete,
    Fields.lenient_complete fun _ found => Json.isComplete_of_mem_memberTrees found,
    Json.find?_memberTrees]
  cases fields.find? name with
  | none => rfl
  | some json => exact congrArg some (alike Gap json)

end ReadsAlike

namespace Json

variable {Gap : Type}

theorem filter_memberTrees (names : List String) (members : Fields Empty) :
    (memberTrees members : Fields Gap).filter (fun member => names.contains member.1) =
      memberTrees (members.filter fun member => names.contains member.1) := by
  rw [memberTrees_eq_map, memberTrees_eq_map, List.filter_map]
  rfl

theorem fields?_asTree (Gap : Type) (names : List String) (json : Json) :
    (json.asTree : JsonTree Gap).fields? names = (json.fields? names).map memberTrees := by
  cases json with
  | array items =>
      rw [asTree, itemTrees_eq_map, JsonTree.fields?, JsonTree.fields?, List.length_map]
      split
      · rw [Option.map_some, memberTrees_eq_map, List.zip_map_right]
        rfl
      · rfl
  | object members =>
      rw [asTree, JsonTree.fields?, JsonTree.fields?]
      simp only [filter_memberTrees, keys_memberTrees]
      split <;> rfl
  | gap reason => cases reason
  | _ => rfl

end Json

/-! ## Catalogs -/

theorem Model.readsAlike : ReadsAlike fun _ tree => Model.ofTree? tree := by
  intro Gap json
  change ofTree? (json.asTree : JsonTree Gap) = ofTree? json
  rw [ofTree?, ofTree?, Json.fields?_asTree]
  cases json.fields? fieldNames with
  | none => rfl
  | some fields =>
      have text := ReadsAlike.asText?.lenient Gap fields
      have texts := ReadsAlike.texts?.lenient Gap fields
      have billing := ReadsAlike.billing.lenient Gap fields
      have number := ReadsAlike.asReal?.lenient Gap fields
      have given {α β : Type} (value : α) (onward : α → Option β) :
          some value >>= onward = onward value := rfl
      rw [Option.map_some, given, given, text "model_name", text "vendor_name", text "tags",
        texts "enable_groups", billing "quota_type", texts "supported_endpoint_types",
        text "description", number "model_ratio", number "completion_ratio", number "model_price"]

namespace Groups

theorem readsAlike_ratios : ReadsAlike fun _ tree => ratios? tree := by
  intro Gap json
  cases json with
  | object members =>
      have number : (fun pair : String × Json =>
          (pair.2.asTree : JsonTree Gap).asReal?.map (pair.1, ·)) =
          fun pair => pair.2.asReal?.map (pair.1, ·) := by
        funext pair
        exact congrArg (Option.map (pair.1, ·)) (ReadsAlike.asReal? Gap pair.2)
      change ratios? (Json.asTree (.object members)) = ratios? (.object members)
      rw [Json.asTree, Json.memberTrees_eq_map, ratios?, ratios?, Keyed.ofPairs_map,
        List.filterMap_map, ← number]
      rfl
  | gap reason => cases reason
  | _ => rfl

theorem ofFields?_memberTrees (Gap : Type) (fields : Fields Empty) :
    ofFields? (Json.memberTrees fields : Fields Gap) = ofFields? fields := by
  have usable := ReadsAlike.asText?.asTable?.optional Gap fields
  have ratios := readsAlike_ratios.lenient Gap fields
  simp only [ofFields?, usable, ratios]

end Groups

theorem Catalog.readsAlike : ReadsAlike fun _ tree => Catalog.ofTree? tree := by
  intro Gap json
  cases json with
  | object members =>
      have models := Model.readsAlike.asList?.optional Gap
      change ofTree? (Json.asTree (.object members)) = ofTree? (.object members)
      have complete : (members.filter (·.1 ≠ "data")).all (·.2.isComplete) = true :=
        List.all_eq_true.mpr fun member _ => Json.isComplete_self member.2
      have completeThere : ((Json.memberTrees members : Fields Gap).filter (·.1 ≠ "data")).all
          (·.2.isComplete) = true :=
        List.all_eq_true.mpr fun member found =>
          Json.isComplete_of_mem_memberTrees (List.mem_filter.mp found).1
      have given := Json.fields?_asTree Gap fieldNames (.object members)
      rw [Json.asTree] at given
      rw [Json.asTree, ofTree?, ofTree?, complete, completeThere, given]
      cases JsonTree.fields? fieldNames (.object members) with
      | none => rfl
      | some fields =>
          simp only [Option.map_some, Option.bind_eq_bind, Option.bind_some, models,
            Groups.ofFields?_memberTrees]
  | gap reason => cases reason
  | _ => rfl

/-! ## Texts -/

def Json.ReportsSuccess (json : Json) : Prop :=
  (json.member? "success").bind (·.asBool?) = some true

namespace Json.HasText

variable {json : Json} {text : String}

theorem catalog (hasText : json.HasText text) :
    (Document.ofText? text).bind Catalog.ofTree? = Catalog.ofTree? json := by
  rw [hasText.document]
  exact Catalog.readsAlike Unit json

theorem catalogOf_ok_iff (hasText : json.HasText text) {reply : Reply} {catalog : Catalog}
    (whole : reply.body = .whole text) :
    GatewayClient.catalogOf reply = .ok catalog ↔
      json.ReportsSuccess ∧ Catalog.ofTree? json = some catalog := by
  have isText : reply.text = .ok text := by rw [Reply.text, whole]
  rw [GatewayClient.catalogOf, isText]
  simp only [bind, Except.bind, hasText.ofText?, Json.ReportsSuccess]
  split
  next success => cases Catalog.ofTree? json <;> simp [success]
  next failure => simp [failure]

end Json.HasText
end GatewayConsole
