import GatewayConsole.Pricing.View
import GatewayConsole.Proofs.Json.WrittenRecord

/-!
# The pricing view in JSON

A view is always read back from JSON, but not every choice comes back as it was: a vendor,
tag, group or endpoint type whose name is a word of the format is taken for that word.
-/

namespace GatewayConsole

/-! ## Choices -/

namespace Choice

variable {α Gap : Type}

def reread (write : α → String) (read : String → α) : Choice α → Choice α
  | .all => .all
  | .only value => if write value = allWord then .all else .only (read (write value))

theorem ofTree?_word (write : α → String) (read : String → α) {ofTree : JsonTree Gap → Option α}
    (reads : ∀ text, ofTree (.text text) = some (read text)) (choice : Choice α) :
    ofTree? ofTree (choice.toJson fun value => .text (write value)).asTree =
      some (choice.reread write read) := by
  cases choice with
  | all => rfl
  | only value =>
      have unfolded : ofTree? ofTree (.text (write value)) =
          if write value = allWord then some .all
          else (ofTree (.text (write value))).map .only := rfl
      rw [toJson, Json.asTree, unfolded, reads, reread]
      split <;> rfl

theorem eq_some_of_map_only {found : Option α} {value : α}
    (isOnly : found.map Choice.only = some (.only value)) : found = some value := by
  rcases Option.map_eq_some_iff.mp isOnly with ⟨other, found, same⟩
  cases same
  exact found

theorem ofTree?_only {read : JsonTree Gap → Option α} {tree : JsonTree Gap} {value : α}
    (isOnly : ofTree? read tree = some (.only value)) :
    read tree = some value ∧ tree ≠ .text allWord := by
  unfold ofTree? at isOnly
  split at isOnly
  next => exact nomatch isOnly
  next =>
    split at isOnly
    next => exact nomatch isOnly
    next word =>
      split at isOnly
      next => exact nomatch isOnly
      next notAll =>
        exact ⟨eq_some_of_map_only isOnly, fun isAll => notAll (JsonTree.text.inj isAll)⟩
    next notText => exact ⟨eq_some_of_map_only isOnly, notText allWord⟩

theorem ofText?_only {read : String → Option α} {text : String} {value : α}
    (isOnly : ofText? read text = some (.only value)) :
    read text = some value ∧ isAllWord text = false := by
  rw [ofText?] at isOnly
  split at isOnly
  next => exact nomatch isOnly
  next notAll => exact ⟨eq_some_of_map_only isOnly, Bool.eq_false_iff.mpr notAll⟩

theorem survives {depth : Nat} {write : α → Json} (survives : ∀ value, (write value).Survives depth)
    (choice : Choice α) : (choice.toJson write).Survives depth := by
  cases choice with
  | all => exact Json.survives_text allWord
  | only value => exact survives value

end Choice

theorem Billing.ofTree?_toJson {Gap : Type} (choice : Choice Billing) :
    Choice.ofTree? Billing.ofTree? ((choice.toJson Billing.toJson).asTree : JsonTree Gap) =
      some choice := by
  cases choice with
  | all => rfl
  | only billing => cases billing <;> rfl

/-! ## Criteria -/

namespace Criteria

variable {Gap : Type}

/-- Whether no name among the criteria is a word of the format. -/
def IsReadable (criteria : Criteria) : Prop :=
  (criteria.vendor ≠ .only (.named Choice.allWord) ∧
    criteria.vendor ≠ .only (.named Vendor.unknownWord)) ∧
    criteria.tag ≠ .only Choice.allWord ∧ criteria.group ≠ .only Choice.allWord ∧
    criteria.endpointType ≠ .only Choice.allWord

instance (criteria : Criteria) : Decidable criteria.IsReadable := by
  unfold IsReadable
  infer_instance

def reread (criteria : Criteria) : Criteria :=
  { criteria with
    vendor := criteria.vendor.reread Vendor.toText Vendor.ofText
    tag := criteria.tag.reread id id
    group := criteria.group.reread id id
    endpointType := criteria.endpointType.reread id id }

def written (criteria : Criteria) : Fields Gap :=
  [("vendor", (criteria.vendor.toJson Vendor.toJson).asTree),
    ("tag", (criteria.tag.toJson .text).asTree),
    ("group", (criteria.group.toJson .text).asTree),
    ("quota_type", (criteria.billing.toJson Billing.toJson).asTree),
    ("endpoint_type", (criteria.endpointType.toJson .text).asTree),
    ("search", .text criteria.search)]

theorem fields?_toJson (criteria : Criteria) :
    (criteria.toJson.asTree : JsonTree Gap).fields? fieldNames = some criteria.written :=
  Fields.fields?_object rfl rfl

theorem optional_name {fields : Fields Gap} {name : String} {choice : Choice String}
    (found : fields.find? name = some (choice.toJson .text).asTree) :
    fields.optional name .all (Choice.ofTree? (·.asText?)) = some (choice.reread id id) :=
  Fields.optional_given found (Choice.ofTree?_word id id (fun _ => rfl) choice)

theorem ofTree?_toJson (criteria : Criteria) :
    ofTree? (criteria.toJson.asTree : JsonTree Gap) = some criteria.reread := by
  let fields : Fields Gap := criteria.written
  have vendor : fields.optional "vendor" .all (Choice.ofTree? Vendor.ofTree?) =
      some (criteria.vendor.reread Vendor.toText Vendor.ofText) :=
    Fields.optional_given rfl
      (Choice.ofTree?_word Vendor.toText Vendor.ofText (fun _ => rfl) criteria.vendor)
  have tag : fields.optional "tag" .all (Choice.ofTree? (·.asText?)) =
      some (criteria.tag.reread id id) := optional_name rfl
  have group : fields.optional "group" .all (Choice.ofTree? (·.asText?)) =
      some (criteria.group.reread id id) := optional_name rfl
  have billing : fields.optional "quota_type" .all (Choice.ofTree? Billing.ofTree?) =
      some criteria.billing :=
    Fields.optional_given rfl (Billing.ofTree?_toJson criteria.billing)
  have endpointType : fields.optional "endpoint_type" .all (Choice.ofTree? (·.asText?)) =
      some (criteria.endpointType.reread id id) := optional_name rfl
  have search : fields.optional "search" "" (·.asText?) = some criteria.search := rfl
  rw [ofTree?, fields?_toJson, Option.bind_eq_bind, Option.bind_some, vendor, tag, group, billing,
    endpointType, search]
  rfl

theorem reread_name (choice : Choice String) :
    choice.reread id id = choice ↔ choice ≠ .only Choice.allWord := by
  cases choice with
  | all => exact ⟨fun _ => nofun, fun _ => rfl⟩
  | only name =>
      rw [Choice.reread]
      split
      next isWord =>
        constructor
        · nofun
        · exact fun differs => absurd (congrArg Choice.only isWord) differs
      next notWord =>
        constructor
        · intro _ isWord
          exact notWord (Choice.only.inj isWord)
        · exact fun _ => rfl

theorem reread_vendor (choice : Choice Vendor) :
    choice.reread Vendor.toText Vendor.ofText = choice ↔
      choice ≠ .only (.named Choice.allWord) ∧ choice ≠ .only (.named Vendor.unknownWord) := by
  cases choice with
  | all => exact ⟨fun _ => ⟨nofun, nofun⟩, fun _ => rfl⟩
  | only vendor =>
      cases vendor with
      | unknown => exact ⟨fun _ => ⟨nofun, nofun⟩, fun _ => rfl⟩
      | named name =>
          rw [Choice.reread, Vendor.toText, Vendor.ofText]
          split
          next isAll => simp [isAll]
          next notAll =>
            split
            next isUnknown => simp [isUnknown]
            next notUnknown => simp [notAll, notUnknown]

theorem reread_eq_self_iff (criteria : Criteria) :
    criteria.reread = criteria ↔ criteria.IsReadable := by
  rw [IsReadable, ← reread_vendor, ← reread_name, ← reread_name, ← reread_name]
  rcases criteria with ⟨vendor, tag, group, billing, endpointType, search⟩
  simp [reread]

/-! ## Criteria that were read -/

theorem not_allWord_of_ofTree? {tree : JsonTree Gap} {choice : Choice String}
    (read : Choice.ofTree? (·.asText?) tree = some choice) : choice ≠ .only Choice.allWord := by
  rintro rfl
  rcases Choice.ofTree?_only read with ⟨isText, notAll⟩
  exact notAll (JsonTree.eq_text_of_asText? isText)

theorem not_unknownWord_of_ofText {word : String} {name : String}
    (read : Vendor.ofText word = .named name) : word = name ∧ name ≠ Vendor.unknownWord := by
  rw [Vendor.ofText] at read
  split at read
  next => exact nomatch read
  next notUnknown =>
    cases read
    exact ⟨rfl, notUnknown⟩

theorem not_word_of_ofTree? {tree : JsonTree Gap} {choice : Choice Vendor}
    (read : Choice.ofTree? Vendor.ofTree? tree = some choice) :
    choice ≠ .only (.named Choice.allWord) ∧ choice ≠ .only (.named Vendor.unknownWord) := by
  constructor
  · rintro rfl
    rcases Choice.ofTree?_only read with ⟨isVendor, notAll⟩
    rcases Option.map_eq_some_iff.mp isVendor with ⟨word, isText, named⟩
    have isAll := (not_unknownWord_of_ofText named).1
    exact notAll (JsonTree.eq_text_of_asText? (isAll ▸ isText))
  · rintro rfl
    rcases Choice.ofTree?_only read with ⟨isVendor, _⟩
    rcases Option.map_eq_some_iff.mp isVendor with ⟨word, _, named⟩
    exact (not_unknownWord_of_ofText named).2 rfl

theorem not_allWord_of_optional {fields : Fields Gap} {name : String} {choice : Choice String}
    (read : fields.optional name .all (Choice.ofTree? (·.asText?)) = some choice) :
    choice ≠ .only Choice.allWord := by
  rcases Fields.default_or_read read with rfl | ⟨tree, read⟩
  · nofun
  · exact not_allWord_of_ofTree? read

theorem isReadable_of_ofTree? {tree : JsonTree Gap} {criteria : Criteria}
    (read : ofTree? tree = some criteria) : criteria.IsReadable := by
  simp only [ofTree?, Option.bind_eq_bind, Option.bind_eq_some_iff] at read
  rcases read with ⟨fields, _, vendor, vendorRead, tag, tagRead, group, groupRead, billing, _,
      endpointType, endpointTypeRead, search, _, same⟩
  cases same
  refine ⟨?_, not_allWord_of_optional tagRead, not_allWord_of_optional groupRead,
    not_allWord_of_optional endpointTypeRead⟩
  rcases Fields.default_or_read vendorRead with rfl | ⟨tree, read⟩
  · exact ⟨nofun, nofun⟩
  · exact not_word_of_ofTree? read

theorem not_allWord_of_ofText? {text : String} {choice : Choice String}
    (read : Choice.ofText? some text = some choice) : choice ≠ .only Choice.allWord := by
  rintro rfl
  rcases Choice.ofText?_only read with ⟨isAll, notAll⟩
  cases isAll
  exact absurd notAll (by decide +kernel)

theorem not_word_of_ofText? {text : String} {choice : Choice Vendor}
    (read : Choice.ofText? (some ∘ Vendor.ofText) text = some choice) :
    choice ≠ .only (.named Choice.allWord) ∧ choice ≠ .only (.named Vendor.unknownWord) := by
  constructor
  · rintro rfl
    rcases Choice.ofText?_only read with ⟨named, notAll⟩
    rw [(not_unknownWord_of_ofText (Option.some.inj named)).1] at notAll
    exact absurd notAll (by decide +kernel)
  · rintro rfl
    rcases Choice.ofText?_only read with ⟨named, _⟩
    exact (not_unknownWord_of_ofText (Option.some.inj named)).2 rfl

/-- The criteria that are put together from what is read: criteria that were read from JSON,
with choices that were read from texts in the place of some of theirs. -/
inductive IsEntered : Criteria → Prop
  | decoded {Gap : Type} {tree : JsonTree Gap} {criteria : Criteria}
      (read : ofTree? tree = some criteria) : IsEntered criteria
  | vendor {criteria : Criteria} {text : String} {vendor : Choice Vendor}
      (entered : IsEntered criteria)
      (read : Choice.ofText? (some ∘ Vendor.ofText) text = some vendor) :
      IsEntered { criteria with vendor }
  | tag {criteria : Criteria} {text : String} {tag : Choice String}
      (entered : IsEntered criteria) (read : Choice.ofText? some text = some tag) :
      IsEntered { criteria with tag }
  | group {criteria : Criteria} {text : String} {group : Choice String}
      (entered : IsEntered criteria) (read : Choice.ofText? some text = some group) :
      IsEntered { criteria with group }
  | billing {criteria : Criteria} {text : String} {billing : Choice Billing}
      (entered : IsEntered criteria) (read : Choice.ofText? Billing.ofText? text = some billing) :
      IsEntered { criteria with billing }
  | endpointType {criteria : Criteria} {text : String} {endpointType : Choice String}
      (entered : IsEntered criteria) (read : Choice.ofText? some text = some endpointType) :
      IsEntered { criteria with endpointType }
  | search {criteria : Criteria} {search : String} (entered : IsEntered criteria) :
      IsEntered { criteria with search }

theorem IsEntered.isReadable {criteria : Criteria} (entered : criteria.IsEntered) :
    criteria.IsReadable := by
  induction entered with
  | decoded read => exact isReadable_of_ofTree? read
  | vendor _ read induction => exact ⟨not_word_of_ofText? read, induction.2⟩
  | tag _ read induction =>
      rcases induction with ⟨vendor, _, others⟩
      exact ⟨vendor, not_allWord_of_ofText? read, others⟩
  | group _ read induction =>
      rcases induction with ⟨vendor, tag, _, others⟩
      exact ⟨vendor, tag, not_allWord_of_ofText? read, others⟩
  | billing _ _ induction => exact induction
  | endpointType _ read induction =>
      rcases induction with ⟨vendor, tag, group, _⟩
      exact ⟨vendor, tag, group, not_allWord_of_ofText? read⟩
  | search _ induction => exact induction

theorem survives {depth : Nat} (criteria : Criteria) : criteria.toJson.Survives (depth + 1) := by
  apply Json.survives_object
  simp only [List.forall_mem_cons, List.not_mem_nil, false_imp_iff, implies_true, and_true]
  have name (choice : Choice String) : (choice.toJson .text).Survives depth :=
    Choice.survives Json.survives_text choice
  have vendor : (criteria.vendor.toJson Vendor.toJson).Survives depth :=
    Choice.survives (fun vendor => Json.survives_text vendor.toText) criteria.vendor
  have billing : (criteria.billing.toJson Billing.toJson).Survives depth :=
    Choice.survives (fun billing => by cases billing <;> exact ⟨rfl, Nat.zero_le depth⟩)
      criteria.billing
  exact ⟨vendor, name _, name _, billing, name _, Json.survives_text criteria.search⟩

end Criteria

/-! ## The view -/

namespace PricingView

variable {Gap : Type}

def reread (view : PricingView) : PricingView :=
  { view with criteria := view.criteria.reread }

theorem reread_eq_self_iff (view : PricingView) :
    view.reread = view ↔ view.criteria.IsReadable := by
  rw [← Criteria.reread_eq_self_iff]
  constructor
  · exact fun same => congrArg criteria same
  · intro same
    rw [reread, same]

theorem isReadable_of_ofTree? {tree : JsonTree Gap} {view : PricingView}
    (read : ofTree? tree = some view) : view.criteria.IsReadable := by
  simp only [ofTree?, Option.bind_eq_bind, Option.bind_eq_some_iff] at read
  rcases read with ⟨fields, _, criteria, criteriaRead, _, _, _, _, _, _, _, _, _, _, _, _, same⟩
  cases same
  rcases Fields.default_or_read criteriaRead with rfl | ⟨tree, read⟩
  · exact (by decide : Criteria.unrestricted.IsReadable)
  · exact Criteria.isReadable_of_ofTree? read

def written (view : PricingView) : Fields Gap :=
  [("filters", view.criteria.toJson.asTree),
    ("show_with_recharge", .bool view.showWithRecharge),
    ("currency", .text view.currency.name),
    ("show_ratio", .bool view.showRatio),
    ("view_mode", .text view.mode.name),
    ("token_unit", .text view.tokenUnit.name),
    ("current_page", .integer view.page.toNat)]

theorem fields?_toJson (view : PricingView) :
    (view.toJson.asTree : JsonTree Gap).fields? fieldNames = some view.written :=
  Fields.fields?_object rfl rfl

theorem ofTree?_toJson (view : PricingView) :
    ofTree? (view.toJson.asTree : JsonTree Gap) = some view.reread := by
  let fields : Fields Gap := view.written
  have criteria : fields.optional "filters" .unrestricted Criteria.ofTree? =
      some view.criteria.reread :=
    Fields.optional_given rfl (Criteria.ofTree?_toJson view.criteria)
  have showWithRecharge : fields.optional "show_with_recharge" false (·.asBool?) =
      some view.showWithRecharge := rfl
  have currency :
      fields.optional "currency" .dollar (·.asVariant?.bind Currency.ofName?) =
        some view.currency :=
    Fields.optional_given rfl (by cases view.currency <;> rfl)
  have showRatio : fields.optional "show_ratio" false (·.asBool?) = some view.showRatio := rfl
  have mode :
      fields.optional "view_mode" .card (·.asVariant?.bind ViewMode.ofName?) = some view.mode :=
    Fields.optional_given rfl (by cases view.mode <;> rfl)
  have tokenUnit :
      fields.optional "token_unit" .million (·.asVariant?.bind TokenUnit.ofName?) =
        some view.tokenUnit :=
    Fields.optional_given rfl (by cases view.tokenUnit <;> rfl)
  have page : fields.optional "current_page" 1 (·.asWord?) = some view.page :=
    Fields.optional_given rfl (JsonTree.asWord?_toNat view.page)
  rw [ofTree?, fields?_toJson, Option.bind_eq_bind, Option.bind_some, criteria, showWithRecharge,
    currency, showRatio, mode, tokenUnit, page]
  rfl

theorem survives {depth : Nat} (view : PricingView) : view.toJson.Survives (depth + 2) := by
  apply Json.survives_object
  simp only [List.forall_mem_cons, List.not_mem_nil, false_imp_iff, implies_true, and_true]
  exact ⟨Criteria.survives view.criteria, Json.survives_bool _, Json.survives_text _,
    Json.survives_bool _, Json.survives_text _, Json.survives_text _, Json.survives_word view.page⟩

end PricingView
end GatewayConsole
