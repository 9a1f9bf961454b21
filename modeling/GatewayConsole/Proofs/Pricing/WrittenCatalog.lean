import GatewayConsole.Proofs.Pricing.ModelFields
import GatewayConsole.Proofs.Text.Keyed
import Mathlib.Data.Option.Basic

/-!
# Written catalogs

A model comes back from what is written of it, whatever it is. So does a catalog, as long
as its tables of groups are sorted; those that are read always are. What is written is a
value here: no use is made of the digits that its numbers have in a text.
-/

namespace GatewayConsole

variable {Gap : Type}

/-! ## Models -/

namespace Model

def membersOf (model : Model) (fields : List Field) : Fields Empty :=
  fields.flatMap fun field => Json.presentMember field.key (field.kind.write (model.get field))

theorem toJson_eq (model : Model) : model.toJson = .object (model.membersOf Field.all) := by
  simp only [toJson, membersOf, Field.all, List.flatMap_cons, List.flatMap_nil, List.append_assoc,
    List.append_nil]
  rfl

section Members

variable {model : Model} {fields : List Field} {field : Field}

theorem keys_sublist (key : String) (value : Option Json) :
    ((Json.presentMember key value).map (·.1)).Sublist [key] := by
  cases value with
  | none => exact List.nil_sublist [key]
  | some json => exact List.Sublist.refl [key]

theorem keys_membersOf (model : Model) (fields : List Field) :
    ((model.membersOf fields).map (·.1)).Sublist (fields.map (·.key)) := by
  induction fields with
  | nil => exact List.Sublist.slnil
  | cons field fields induction =>
      rw [membersOf, List.flatMap_cons, List.map_append]
      exact (keys_sublist field.key _).append induction

theorem find?_presentMember_same (key : String) (value : Option Json) :
    Fields.find? (Json.presentMember key value) key = value := by
  cases value with
  | none => rfl
  | some json => exact Fields.find?_cons_same key json []

theorem find?_membersOf (once : (fields.map (·.key)).Nodup) (member : field ∈ fields) :
    (model.membersOf fields).find? field.key = field.kind.write (model.get field) := by
  induction fields with
  | nil => exact nomatch member
  | cons first rest induction =>
      have parts := List.nodup_cons.mp once
      rw [membersOf, List.flatMap_cons, Fields.find?_append]
      rcases List.mem_cons.mp member with rfl | later
      · have absent : field.key ∉ (model.membersOf rest).map (·.1) :=
          fun found => parts.1 ((keys_membersOf model rest).subset found)
        rw [find?_presentMember_same, ← membersOf, Fields.find?_eq_none absent, Option.or_none]
      · have absent : field.key ∉ (Json.presentMember first.key
            (first.kind.write (model.get first))).map (·.1) := by
          intro found
          have same := List.mem_singleton.mp ((keys_sublist first.key _).subset found)
          exact parts.1 (List.mem_map.mpr ⟨field, later, same⟩)
        rw [Fields.find?_eq_none absent, Option.none_or]
        exact induction parts.2 later

end Members

theorem ofMembers_membersOf (model : Model) : ofMembers (model.membersOf Field.all) = model := by
  rw [ofMembers, ← ofValues_get model]
  refine congrArg ofValues (funext fun field => ?_)
  rw [ofValues_get, find?_membersOf Field.once_keys_all field.mem_all, FieldKind.read_write]

theorem ofTree?_toJson (model : Model) :
    ofTree? (model.toJson.asTree : JsonTree Gap) = some model := by
  have once : ((model.membersOf Field.all).map (·.1)).Nodup :=
    (keys_membersOf model Field.all).nodup Field.once_keys_all
  rw [toJson_eq, ofTree?_asTree_object once, ofMembers_membersOf]

structure IsReadFrom (model : Model) (json : Json) : Prop where
  value : ofTree? json = some model
  document : ofTree? (json.asTree : Document) = some model

theorem isReadFrom_of_asTree {model : Model} {json : Json}
    (reads : ∀ Gap : Type, ofTree? (json.asTree : JsonTree Gap) = some model) :
    model.IsReadFrom json where
  value := json.asTree_self ▸ reads Empty
  document := reads Unit

end Model

/-! ## Tables -/

namespace Json

variable {α : Type} {keyed : Keyed α}

theorem memberTrees_map (write : α → Json) (keyed : Keyed α) :
    (memberTrees (keyed.map fun pair => (pair.1, write pair.2)) : Fields Gap) =
      keyed.map fun pair => (pair.1, (write pair.2).asTree) := by
  rw [memberTrees_eq_map, List.map_map]
  rfl

theorem asTable?_memberTrees {write : α → Json} {read : JsonTree Gap → Option α}
    (reads : ∀ value, read (write value).asTree = some value) (sorted : keyed.IsSorted) :
    (JsonTree.object (memberTrees (keyed.map fun pair => (pair.1, write pair.2)))).asTable? read =
      some keyed := by
  have pairs : (keyed.map fun pair => (pair.1, ((write pair.2).asTree : JsonTree Gap))).mapM
      (fun member => (read member.2).map (member.1, ·)) = some keyed := by
    have inverse : (fun pair : String × α =>
        (read (write pair.2).asTree).map (pair.1, ·)) = some := by
      funext pair
      rw [reads, Option.map_some]
    rw [List.mapM_map]
    refine (congrArg keyed.mapM inverse).trans ?_
    exact (List.mapM_pure (m := Option) (f := id)).trans (congrArg some (List.map_id keyed))
  rw [memberTrees_map, JsonTree.asTable?]
  refine (congrArg (Option.bind · _) pairs).trans ?_
  exact congrArg some (Keyed.ofPairs_of_isSorted sorted)

theorem isSorted_of_asTable? {tree : JsonTree Gap} {read : JsonTree Gap → Option α}
    (isTable : tree.asTable? read = some keyed) : keyed.IsSorted := by
  cases tree with
  | object members =>
      rcases Option.bind_eq_some_iff.mp isTable with ⟨pairs, _, same⟩
      cases same
      exact Keyed.isSorted_ofPairs pairs
  | _ => exact nomatch isTable

end Json

/-! ## Groups -/

namespace Groups

structure IsSorted (groups : Groups) : Prop where
  usable : groups.usable.IsSorted
  ratios : groups.ratios.IsSorted

theorem isSorted_of_ratios? {tree : JsonTree Gap} {ratios : Keyed Float}
    (isTable : ratios? tree = some ratios) : ratios.IsSorted := by
  cases tree with
  | object members =>
      cases isTable
      exact Keyed.isSorted_filterMap (Keyed.isSorted_ofPairs members)
  | _ => exact nomatch isTable

theorem isSorted_of_ofFields? {fields : Fields Gap} {groups : Groups}
    (areGroups : ofFields? fields = some groups) : groups.IsSorted := by
  simp only [ofFields?, Option.bind_eq_bind, Option.bind_eq_some_iff] at areGroups
  rcases areGroups with ⟨usable, isUsable, ratios, areRatios, same⟩
  cases same
  refine ⟨?_, ?_⟩
  · rcases Fields.default_or_read isUsable with rfl | ⟨tree, isTable⟩
    · exact Keyed.isSorted_nil
    · exact Json.isSorted_of_asTable? isTable
  · rcases Fields.absent_or_read areRatios with rfl | ⟨tree, isTable⟩
    · exact Keyed.isSorted_nil
    · cases ratios with
      | none => exact Keyed.isSorted_nil
      | some ratios => exact isSorted_of_ratios? isTable

theorem ratios?_ratios {groups : Groups} (sorted : groups.IsSorted) :
    ratios? (JsonTree.object (Json.memberTrees
      (groups.ratios.map fun pair => (pair.1, .real pair.2))) : JsonTree Gap) =
      some groups.ratios := by
  have same := Keyed.ofPairs_of_isSorted
    (Keyed.isSorted_map (JsonTree.real : Float → JsonTree Gap) sorted.ratios)
  rw [Json.memberTrees_map JsonTree.real, ratios?]
  refine (congrArg (fun last => some (List.filterMap _ last)) same).trans ?_
  rw [List.filterMap_map]
  exact congrArg some List.filterMap_some

theorem ofFields?_toMembers {groups : Groups} (sorted : groups.IsSorted) (data : Json) :
    ofFields? (Json.memberTrees (("data", data) :: groups.toMembers) : Fields Gap) =
      some groups := by
  let fields : Fields Gap := Json.memberTrees (("data", data) :: groups.toMembers)
  have usable : fields.optional "usable_group" [] (·.asTable? (·.asText?)) = some groups.usable :=
    Fields.optional_given rfl (Json.asTable?_memberTrees (fun _ => rfl) sorted.usable)
  have ratios : fields.lenient "group_ratio" ratios? = some (some groups.ratios) := by
    rw [Fields.lenient_complete fun _ found => Json.isComplete_of_mem_memberTrees found]
    exact congrArg some (ratios?_ratios sorted)
  rw [ofFields?, usable, ratios]
  rfl

end Groups

/-! ## Catalogs -/

namespace Catalog

theorem isSorted_of_ofTree? {tree : JsonTree Gap} {catalog : Catalog}
    (isCatalog : ofTree? tree = some catalog) : catalog.groups.IsSorted := by
  cases tree with
  | object members =>
      simp only [ofTree?, Option.bind_eq_bind, Option.bind_eq_some_iff] at isCatalog
      rcases isCatalog with ⟨_, _, fields, _, models, _, groups, areGroups, same⟩
      cases same
      exact Groups.isSorted_of_ofFields? areGroups
  | _ => exact nomatch isCatalog

theorem ofTree?_toJson {catalog : Catalog} (sorted : catalog.groups.IsSorted) :
    ofTree? (catalog.toJson.asTree : JsonTree Gap) = some catalog := by
  rcases catalog with ⟨models, groups⟩
  let data : Json := .array (models.map Model.toJson)
  let members : Fields Gap := Json.memberTrees (("data", data) :: groups.toMembers)
  have complete : (members.filter (·.1 ≠ "data")).all (·.2.isComplete) = true := by
    refine List.all_eq_true.mpr fun member found => ?_
    exact Json.isComplete_of_mem_memberTrees (List.mem_filter.mp found).1
  have fields : (JsonTree.object members).fields? fieldNames = some members :=
    Fields.fields?_object rfl rfl
  have areModels : members.optional "data" [] (·.asList? Model.ofTree?) = some models :=
    Fields.optional_given rfl (Json.asList?_itemTrees Model.ofTree?_toJson models)
  have areGroups : Groups.ofFields? members = some groups :=
    Groups.ofFields?_toMembers sorted data
  have tree : (toJson ⟨models, groups⟩).asTree = JsonTree.object members := by
    rw [toJson, Json.asTree]
  rw [tree]
  simp only [ofTree?, complete, fields, guard_true, Option.pure_def, Option.bind_eq_bind,
    Option.bind_some, areModels, areGroups]

/-! ## Reading and writing -/

/-- Every object with distinct keys is read as a model, each field from the value under its
own key. Removing values of the wrong type, one after another, leaves the model as it is, and
so does writing it. What is written of a catalog that was read is that catalog again. -/
theorem reads_leniently_and_comes_back :
    (∀ members : Fields Empty, (members.map (·.1)).Nodup →
      ∃ model : Model,
        model.IsReadFrom (.object members) ∧
        (∀ field : Model.Field,
          model.get field = field.kind.read (members.find? field.key)) ∧
        (∀ fewer : Fields Empty, Relation.ReflTransGen Model.Sheds members fewer →
          model.IsReadFrom (.object fewer)) ∧
        model.IsReadFrom model.toJson) ∧
    (∀ (Gap : Type) (tree : JsonTree Gap) (catalog : Catalog), ofTree? tree = some catalog →
      ofTree? catalog.toJson = some catalog ∧
      ofTree? (catalog.toJson.asTree : Document) = some catalog) := by
  constructor
  · intro members once
    refine ⟨Model.ofMembers members, ?_, ?_, ?_, ?_⟩
    · exact Model.isReadFrom_of_asTree fun Gap => Model.ofTree?_asTree_object once
    · exact Model.get_ofMembers members
    · intro fewer sheds
      rcases Model.Sheds.ofMembers_eq sheds once with ⟨still, same⟩
      rw [← same]
      exact Model.isReadFrom_of_asTree fun Gap => Model.ofTree?_asTree_object still
    · exact Model.isReadFrom_of_asTree fun Gap => Model.ofTree?_toJson _
  · intro Gap tree catalog isCatalog
    have sorted := isSorted_of_ofTree? isCatalog
    have value : ofTree? (catalog.toJson.asTree : Json) = some catalog := ofTree?_toJson sorted
    exact ⟨catalog.toJson.asTree_self ▸ value, ofTree?_toJson sorted⟩

theorem reads_leniently_of_odd_model :
    let odd : Fields Empty :=
      [("owner", .null), ("quota_type", .integer 7), ("model_name", .text "odd"),
        ("supported_endpoint_types", .array [.integer 1, .text "chat"])]
    let clean : Fields Empty :=
      [("owner", .null), ("model_name", .text "odd"),
        ("supported_endpoint_types", .array [.text "chat"])]
    let tree : Json := .object
      [("data", .array [.object odd]),
        ("usable_group", .object [("vip", .text "VIP"), ("default", .text "Default")])]
    (odd.map (·.1)).Nodup ∧
    Relation.ReflTransGen Model.Sheds odd clean ∧
    (∃ model : Model, model.IsReadFrom (.object odd) ∧ model.IsReadFrom (.object clean) ∧
      model.billing = none ∧ model.endpointTypes = ["chat"]) ∧
    ∃ catalog : Catalog, ofTree? tree = some catalog ∧ ofTree? catalog.toJson = some catalog := by
  intro odd clean tree
  have once : (odd.map (·.1)).Nodup := by decide
  have sheds : Relation.ReflTransGen Model.Sheds odd clean := by
    refine .head (Model.Sheds.value [("owner", .null)] _ .billing rfl) (.single ?_)
    exact Model.Sheds.item [("owner", .null), ("model_name", .text "odd")] [] .endpointTypes rfl
      [] [.text "chat"] rfl
  rcases reads_leniently_and_comes_back with ⟨models, catalogs⟩
  rcases models odd once with ⟨model, isRead, values, fewer, _⟩
  have isCatalog : ∃ catalog, ofTree? tree = some catalog :=
    Option.isSome_iff_exists.mp rfl
  rcases isCatalog with ⟨catalog, isCatalog⟩
  exact ⟨once, sheds, ⟨model, isRead, fewer clean sheds, values .billing, values .endpointTypes⟩,
    catalog, isCatalog, (catalogs Empty tree catalog isCatalog).1⟩

end Catalog
end GatewayConsole
