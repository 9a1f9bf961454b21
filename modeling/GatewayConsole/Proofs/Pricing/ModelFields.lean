import GatewayConsole.Pricing.Catalog
import GatewayConsole.Proofs.Json.WrittenRecord
import Mathlib.Data.List.Nodup
import Mathlib.Logic.Relation

/-!
# The fields of a model

A model has ten fields of five kinds. The kind says what a field is read as, from the value
under its key alone, and how it is written. What is read does not change when a value of
the wrong type is removed, be it the value of a field or an item of a list.
-/

namespace GatewayConsole

namespace Billing

variable {Gap : Type}

theorem ofTree?_integer_other {value : Int} (notFirst : value ≠ 0) (notSecond : value ≠ 1) :
    ofTree? (.integer value : JsonTree Gap) = none := by
  rw [ofTree?, JsonTree.asWord?]
  split
  next range =>
    have word : (UInt64.ofNat value.toNat).toNat = value.toNat :=
      UInt64.toNat_ofNat_of_lt (show value.toNat < 2 ^ 64 by omega)
    have more : value.toNat = value.toNat - 2 + 2 := by omega
    rw [Option.bind_some, word, more]
    rfl
  next => rfl

end Billing

namespace Model

variable {Gap : Type}

/-! ## Kinds of fields -/

inductive FieldKind
  | name
  | text
  | texts
  | billing
  | number

namespace FieldKind

@[reducible] def Value : FieldKind → Type
  | .name => String
  | .text => Option String
  | .texts => List String
  | .billing => Option Billing
  | .number => Option Float

def accepts : FieldKind → Json → Bool
  | .name, .text _ => true
  | .text, .text _ => true
  | .texts, .array _ => true
  | .billing, .integer value => value == 0 || value == 1
  | .number, .integer _ => true
  | .number, .real _ => true
  | _, _ => false

def read (kind : FieldKind) (tree : Option (JsonTree Gap)) : kind.Value :=
  match kind with
  | .name => (tree.bind (·.asText?)).getD ""
  | .text => tree.bind (·.asText?)
  | .texts => (tree.bind texts?).getD []
  | .billing => tree.bind Billing.ofTree?
  | .number => tree.bind (·.asReal?)

def write : (kind : FieldKind) → kind.Value → Option Json
  | .name, value => some (.text value)
  | .text, value => value.map .text
  | .texts, value => some (.array (value.map .text))
  | .billing, value => value.map Billing.toJson
  | .number, value => value.map .real

theorem texts?_array (items : List Json) :
    texts? (.array items : Json) = some (items.filterMap (·.asText?)) :=
  rfl

theorem texts?_asTree (json : Json) : texts? (json.asTree : JsonTree Gap) = texts? json := by
  cases json with
  | array items =>
      have sameText : (fun item : Json => (item.asTree : JsonTree Gap).asText?) =
          fun item => item.asText? := by
        funext item
        cases item with
        | gap reason => exact nomatch reason
        | _ => rfl
      rw [Json.asTree, texts?, JsonTree.asItems?, Option.map_some, Json.itemTrees_eq_map,
        List.filterMap_map, texts?_array]
      exact congrArg (fun read => some (items.filterMap read)) sameText
  | gap reason => exact nomatch reason
  | _ => rfl

theorem read_asTree (kind : FieldKind) (json : Option Json) :
    kind.read (json.map Json.asTree : Option (JsonTree Gap)) = kind.read json := by
  cases json with
  | none => cases kind <;> rfl
  | some json =>
      cases kind with
      | texts => exact congrArg (Option.getD · []) (texts?_asTree json)
      | _ =>
          cases json with
          | gap reason => exact nomatch reason
          | _ => rfl

theorem read_of_not_accepts {kind : FieldKind} {json : Json}
    (wrong : kind.accepts json = false) :
    kind.read (some json) = kind.read (none : Option Json) := by
  cases kind with
  | billing =>
      cases json with
      | integer value =>
          rw [accepts, Bool.or_eq_false_iff, beq_eq_false_iff_ne, beq_eq_false_iff_ne] at wrong
          exact Billing.ofTree?_integer_other wrong.1 wrong.2
      | _ => rfl
  | _ => cases json <;> first | rfl | exact nomatch wrong

theorem read_without_item {item : Json} (wrong : FieldKind.text.accepts item = false)
    (before after : List Json) :
    FieldKind.texts.read (some (.array (before ++ item :: after)) : Option Json) =
      FieldKind.texts.read (some (.array (before ++ after)) : Option Json) := by
  have noText : item.asText? = none := read_of_not_accepts wrong
  rw [read, read, Option.bind_some, Option.bind_some, texts?_array, texts?_array,
    List.filterMap_append, List.filterMap_cons_none noText, List.filterMap_append]

theorem read_write (kind : FieldKind) (value : kind.Value) :
    kind.read (kind.write value) = value := by
  cases kind with
  | name => rfl
  | text => cases value <;> rfl
  | texts =>
      have kept : (fun text : String => (JsonTree.text text : Json).asText?) = some := rfl
      change ((value.map JsonTree.text).filterMap fun item : Json => item.asText?) = value
      rw [List.filterMap_map]
      exact (congrArg value.filterMap kept).trans List.filterMap_some
  | billing =>
      cases value with
      | none => rfl
      | some billing => cases billing <;> rfl
  | number => cases value <;> rfl

end FieldKind

/-! ## Fields -/

inductive Field
  | name
  | vendorName
  | tags
  | groups
  | billing
  | endpointTypes
  | description
  | ratio
  | completionRatio
  | price

namespace Field

def all : List Field :=
  [.name, .vendorName, .tags, .groups, .billing, .endpointTypes, .description, .ratio,
    .completionRatio, .price]

def key : Field → String
  | .name => "model_name"
  | .vendorName => "vendor_name"
  | .tags => "tags"
  | .groups => "enable_groups"
  | .billing => "quota_type"
  | .endpointTypes => "supported_endpoint_types"
  | .description => "description"
  | .ratio => "model_ratio"
  | .completionRatio => "completion_ratio"
  | .price => "model_price"

def kind : Field → FieldKind
  | .name => .name
  | .vendorName | .tags | .description => .text
  | .groups | .endpointTypes => .texts
  | .billing => .billing
  | .ratio | .completionRatio | .price => .number

theorem mem_all (field : Field) : field ∈ all := by
  cases field <;> simp [all]

theorem once_keys_all : (all.map key).Nodup := by
  decide

theorem eq_of_key_eq {field other : Field} (same : field.key = other.key) : field = other :=
  List.inj_on_of_nodup_map once_keys_all field.mem_all other.mem_all same

end Field

def get (model : Model) : (field : Field) → field.kind.Value
  | .name => model.name
  | .vendorName => model.vendorName
  | .tags => model.tags
  | .groups => model.groups
  | .billing => model.billing
  | .endpointTypes => model.endpointTypes
  | .description => model.description
  | .ratio => model.ratio
  | .completionRatio => model.completionRatio
  | .price => model.price

def ofValues (value : (field : Field) → field.kind.Value) : Model where
  name := value .name
  vendorName := value .vendorName
  tags := value .tags
  groups := value .groups
  billing := value .billing
  endpointTypes := value .endpointTypes
  description := value .description
  ratio := value .ratio
  completionRatio := value .completionRatio
  price := value .price

theorem get_ofValues (value : (field : Field) → field.kind.Value) (field : Field) :
    (ofValues value).get field = value field := by
  cases field <;> rfl

theorem ofValues_get (model : Model) : ofValues model.get = model :=
  rfl

/-! ## Reading an object -/

def ofMembers (members : Fields Gap) : Model :=
  ofValues fun field => field.kind.read (members.find? field.key)

theorem get_ofMembers (members : Fields Gap) (field : Field) :
    (ofMembers members).get field = field.kind.read (members.find? field.key) :=
  get_ofValues _ field

/-- An object with distinct keys and no gaps is a model, whatever its values are. -/
theorem ofTree?_object {members : Fields Gap} (once : (members.map (·.1)).Nodup)
    (complete : ∀ member ∈ members, member.2.isComplete = true) :
    ofTree? (.object members) = some (ofMembers members) := by
  have lenient {α : Type} {name : String} (declared : name ∈ fieldNames)
      (read : JsonTree Gap → Option α) :
      Fields.lenient (members.filter fun member => fieldNames.contains member.1) name read =
        some ((members.find? name).bind read) := by
    rw [Fields.lenient_complete fun member found => complete member (List.mem_filter.mp found).1,
      Fields.find?_filter declared]
  rw [ofTree?, Fields.fields?_of_nodup once, Option.bind_eq_bind, Option.bind_some]
  simp (disch := decide) only [lenient]
  rfl

theorem ofMembers_memberTrees (members : Fields Empty) :
    ofMembers (Json.memberTrees members : Fields Gap) = ofMembers members := by
  refine congrArg ofValues (funext fun field => ?_)
  rw [Json.find?_memberTrees, FieldKind.read_asTree]

theorem ofTree?_asTree_object {members : Fields Empty} (once : (members.map (·.1)).Nodup) :
    ofTree? (Json.asTree (.object members) : JsonTree Gap) = some (ofMembers members) := by
  rw [Json.asTree, ofTree?_object (by rwa [Json.keys_memberTrees])
    fun _ found => Json.isComplete_of_mem_memberTrees found, ofMembers_memberTrees]

/-! ## Values of the wrong type -/

/-- One value of the wrong type is removed from the members of an object: the value of a
field, or an item that is no text from the list of a field. -/
inductive Sheds : Fields Empty → Fields Empty → Prop
  | value (front back : Fields Empty) (field : Field) {json : Json}
      (wrong : field.kind.accepts json = false) :
      Sheds (front ++ (field.key, json) :: back) (front ++ back)
  | item (front back : Fields Empty) (field : Field) (isList : field.kind = .texts)
      (before after : List Json) {json : Json} (wrong : FieldKind.text.accepts json = false) :
      Sheds (front ++ (field.key, .array (before ++ json :: after)) :: back)
        (front ++ (field.key, .array (before ++ after)) :: back)

namespace Sheds

variable {members fewer : Fields Empty}

theorem once (sheds : Sheds members fewer) (once : (members.map (·.1)).Nodup) :
    (fewer.map (·.1)).Nodup := by
  cases sheds with
  | @value front back field json =>
      have less := List.Sublist.append_left (List.sublist_cons_self (field.key, json) back) front
      exact (less.map _).nodup once
  | item =>
      simpa only [List.map_append, List.map_cons] using once

theorem find?_between {front back : Fields Empty} {name : String} {json : Json}
    (once : ((front ++ (name, json) :: back).map (·.1)).Nodup) :
    Fields.find? (front ++ (name, json) :: back) name = some json ∧
      Fields.find? (front ++ back) name = none := by
  rw [List.map_append, List.map_cons, List.nodup_append] at once
  rcases once with ⟨_, onceBack, apart⟩
  have notFront : name ∉ front.map (·.1) := fun found => apart _ found _ List.mem_cons_self rfl
  have notBack : name ∉ back.map (·.1) := (List.nodup_cons.mp onceBack).1
  rw [Fields.find?_append, Fields.find?_append, Fields.find?_eq_none notFront,
    Fields.find?_eq_none notBack, Fields.find?_cons_same]
  exact ⟨rfl, rfl⟩

theorem find?_beside {name other : String} (different : other ≠ name) (front back : Fields Empty)
    (json : Json) : Fields.find? (front ++ (other, json) :: back) name =
      Fields.find? (front ++ back) name := by
  rw [Fields.find?_append, Fields.find?_append, Fields.find?_cons_other different]

theorem read_eq (sheds : Sheds members fewer) (once : (members.map (·.1)).Nodup) (field : Field) :
    field.kind.read (fewer.find? field.key) = field.kind.read (members.find? field.key) := by
  have still := sheds.once once
  cases sheds with
  | value front back shed wrong =>
      by_cases same : shed.key = field.key
      · cases Field.eq_of_key_eq same
        rcases find?_between once with ⟨found, absent⟩
        rw [found, absent, FieldKind.read_of_not_accepts wrong]
      · rw [find?_beside same]
  | item front back shed isList before after wrong =>
      by_cases same : shed.key = field.key
      · cases Field.eq_of_key_eq same
        rw [(find?_between once).1, (find?_between still).1, isList,
          FieldKind.read_without_item wrong]
      · rw [find?_beside same, find?_beside same]

theorem ofMembers_eq (sheds : Relation.ReflTransGen Sheds members fewer)
    (once : (members.map (·.1)).Nodup) :
    (fewer.map (·.1)).Nodup ∧ ofMembers fewer = ofMembers members := by
  induction sheds with
  | refl => exact ⟨once, rfl⟩
  | tail _ step induction =>
      rcases induction with ⟨still, same⟩
      refine ⟨step.once still, Eq.trans ?_ same⟩
      exact congrArg ofValues (funext fun field => step.read_eq still field)

end Sheds

end Model
end GatewayConsole
