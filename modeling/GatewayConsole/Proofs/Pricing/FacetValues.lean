import GatewayConsole.Proofs.Pricing.NormalTags
import GatewayConsole.Proofs.Pricing.Offers
import GatewayConsole.Proofs.Text.Collation
import GatewayConsole.Proofs.Text.Keyed

/-!
# Values of facets

The options of a facet are exactly the values that occur, each once and in ascending order,
whatever the criteria are. While nothing else is chosen, every value that comes from models
has one behind it.
-/

namespace GatewayConsole

structure Listing (order : String → String → Prop) (occurs : String → Prop)
    (names : List String) : Prop where
  ascending : names.Pairwise order
  mem_iff : ∀ name, name ∈ names ↔ occurs name

theorem Listing.nodup {order : String → String → Prop} {occurs : String → Prop}
    {names : List String} (listing : Listing order occurs names)
    (different : ∀ {left right}, order left right → left ≠ right) : names.Nodup :=
  listing.ascending.imp different

/-! ## Values that occur -/

theorem listing_sortedUnique {names : List String} {occurs : String → Prop}
    (same : ∀ name, name ∈ names ↔ occurs name) :
    Listing Text.Precedes occurs (Text.sortedUnique names) :=
  ⟨Text.ascending_sortedUnique names, fun name => Text.mem_sortedUnique.trans (same name)⟩

theorem Model.vendor_eq_some {model : Model} {name : String} :
    model.vendor = some name ↔ name ≠ "" ∧ model.vendorName = some name := by
  rw [vendor, Option.filter_eq_some_iff, decide_eq_true_eq, and_comm]

namespace Facets

variable (models : List Model) (groups : Groups)

theorem listing_vendorNames :
    Listing Text.Precedes
      (fun name => name ≠ "" ∧ ∃ model ∈ models, model.vendorName = some name)
      (vendorNames models) := by
  refine listing_sortedUnique fun name => ?_
  rw [List.mem_filterMap]
  constructor
  · rintro ⟨model, member, named⟩
    rw [Model.vendor_eq_some] at named
    exact ⟨named.1, model, member, named.2⟩
  · rintro ⟨nonempty, model, member, named⟩
    exact ⟨model, member, Model.vendor_eq_some.mpr ⟨nonempty, named⟩⟩

theorem listing_tagNames :
    Listing Text.Precedes (fun tag => ∃ model ∈ models, tag ∈ model.tagList)
      (tagNames models) :=
  listing_sortedUnique fun _ => List.mem_flatMap

theorem listing_endpointTypeNames :
    Listing Text.Precedes (fun name => ∃ model ∈ models, name ∈ model.endpointTypes)
      (endpointTypeNames models) :=
  listing_sortedUnique fun _ => List.mem_flatMap

variable {groups}

theorem listing_groupKeys (sorted : groups.usable.IsSorted) :
    Listing (· < ·) (fun key => key ≠ "" ∧ key ∈ groups.usable.keys) groups.groupKeys := by
  refine ⟨List.Pairwise.filter _ sorted, fun key => ?_⟩
  rw [Groups.groupKeys, List.mem_filter, decide_eq_true_eq, and_comm]

/-! ## No value twice -/

theorem nodup_vendors : (vendors models).Nodup := by
  have names : ((vendorNames models).map Vendor.named).Nodup :=
    List.Pairwise.map _ (fun _ _ different same => different (Vendor.named.inj same))
      ((listing_vendorNames models).nodup Text.Precedes.ne)
  rw [vendors]
  split
  · refine List.nodup_append.mpr ⟨names, by simp, ?_⟩
    intro left member right unknown
    rcases List.mem_map.mp member with ⟨name, _, rfl⟩
    rw [List.mem_singleton.mp unknown]
    exact fun same => Vendor.noConfusion same
  · rwa [List.append_nil]

theorem nodup_offered (sorted : groups.usable.IsSorted) (dimension : Dimension) :
    (offered models groups dimension).Nodup := by
  cases dimension with
  | vendor => exact nodup_vendors models
  | tag => exact (listing_tagNames models).nodup Text.Precedes.ne
  | group =>
      refine (listing_groupKeys sorted).nodup ?_
      rintro key _ before rfl
      exact String.lt_irrefl key before
  | billing => exact show Billing.all.Nodup by decide
  | endpointType => exact (listing_endpointTypeNames models).nodup Text.Precedes.ne

/-! ## Models behind values -/

theorem exists_isVendor {vendor : Vendor} (member : vendor ∈ vendors models) :
    ∃ model ∈ models, vendor.isVendor model.vendor = true := by
  rw [vendors, List.mem_append, List.mem_map] at member
  rcases member with ⟨name, listed, rfl⟩ | unknown
  · rcases ((listing_vendorNames models).mem_iff name).mp listed with
      ⟨nonempty, model, member, named⟩
    refine ⟨model, member, ?_⟩
    rw [Vendor.isVendor_named, beq_iff_eq]
    exact Model.vendor_eq_some.mpr ⟨nonempty, named⟩
  · split at unknown
    next missing =>
      rcases List.any_eq_true.mp missing with ⟨model, member, unnamed⟩
      refine ⟨model, member, ?_⟩
      rw [List.mem_singleton.mp unknown, Vendor.isVendor_unknown]
      exact unnamed
    next => exact absurd unknown List.not_mem_nil

theorem exists_carries {dimension : Dimension}
    (fromModels : dimension ∈ [Dimension.vendor, .tag, .endpointType]) {value : dimension.Value}
    (member : value ∈ offered models groups dimension) :
    ∃ model ∈ models, model.carries dimension value = true := by
  cases dimension with
  | vendor => exact exists_isVendor models member
  | tag =>
      rcases ((listing_tagNames models).mem_iff value).mp member with ⟨model, member, listed⟩
      exact ⟨model, member, Model.hasTag_of_mem_tagList listed⟩
  | endpointType =>
      rcases ((listing_endpointTypeNames models).mem_iff value).mp member with
        ⟨model, member, listed⟩
      exact ⟨model, member, List.contains_iff_mem.mpr listed⟩
  | group | billing => exact absurd fromModels (by decide)

end Facets

/-! ## Open criteria -/

namespace Criteria

variable {criteria : Criteria}

theorem isFound_of_blank (blank : Text.isBlankText criteria.search = true) (model : Model) :
    model.isFound criteria = true := by
  rw [Model.isFound, Tags.normalForm_of_blank blank]
  rfl

theorem selectExcept_open {dimension : Dimension}
    (others : ∀ other, other ≠ dimension → criteria.choice other = .all)
    (blank : Text.isBlankText criteria.search = true) (models : List Model) :
    criteria.selectExcept (some dimension) models = models := by
  refine List.filter_eq_self.mpr fun model _ => ?_
  refine (admitsExcept_iff criteria _ model).mpr ⟨isFound_of_blank blank model, ?_⟩
  intro other counts
  rw [Model.meets_eq_admits, others other fun same => counts (congrArg some same)]
  rfl

end Criteria

namespace Facets

theorem not_disabled {models : List Model} {criteria : Criteria} {groups : Groups}
    {translate : Translator} {dimension : Dimension}
    (fromModels : dimension ∈ [Dimension.vendor, .tag, .endpointType])
    (others : ∀ other, other ≠ dimension → criteria.choice other = .all)
    (blank : Text.isBlankText criteria.search = true) {option : FacetOption dimension.Value}
    (member : option ∈ (compute models criteria groups translate).on dimension) :
    option.disabled = false := by
  rw [on_eq_offered, Criteria.selectExcept_open others blank, List.mem_cons, List.mem_map] at member
  rcases member with rfl | ⟨value, listed, rfl⟩
  · rfl
  · have behind := exists_carries models fromModels listed
    have counted : 0 < models.countP (·.carries dimension value) := List.countP_pos_iff.mpr behind
    exact beq_eq_false_iff_ne.mpr (Nat.ne_of_gt counted)

/-! ## All facets -/

section Values

variable (models : List Model) (criteria : Criteria) {groups : Groups} (translate : Translator)

theorem values_vendors :
    (vendors models).map Choice.only =
      (vendorNames models).map (.only <| .named ·)
        ++ if ∃ model ∈ models, model.vendor = none then [.only .unknown] else [] := by
  have missing : models.any (·.vendor.isNone) = true ↔ ∃ model ∈ models, model.vendor = none := by
    simp only [List.any_eq_true, Option.isNone_iff_eq_none]
  rw [vendors, List.map_append, List.map_map]
  congr 1
  simp only [missing]
  split <;> rfl

theorem nodup_values (sorted : groups.usable.IsSorted) (dimension : Dimension) :
    (((compute models criteria groups translate).on dimension).map (·.value)).Nodup := by
  rw [values_on]
  refine List.nodup_cons.mpr ⟨?_, ?_⟩
  · intro member
    rcases List.mem_map.mp member with ⟨value, _, same⟩
    exact absurd same nofun
  · exact List.Pairwise.map _ (fun _ _ different same => different (Choice.only.inj same))
      (nodup_offered models sorted dimension)

theorem values_labels_on (groups : Groups) (dimension : Dimension) :
    ((compute models criteria groups translate).on dimension).map
        (fun option => (option.value, option.label)) =
      (.all, translate dimension.openLabel) ::
        (offered models groups dimension).map fun value =>
          (.only value, label groups translate dimension value) := by
  rw [on_eq_offered, List.map_cons, List.map_map]
  rfl

end Values

/-- Every facet begins with the open choice and lists exactly the values that occur, each once
and in ascending order, whatever the criteria are; the unknown vendor comes last. A value that
comes from models is not disabled while nothing else is chosen and nothing is searched for. -/
theorem lists_what_occurs (models : List Model) (groups : Groups)
    (sorted : groups.usable.IsSorted) (criteria : Criteria) (translate : Translator) :
    let facets := compute models criteria groups translate
    (∃ names, Listing Text.Precedes
        (fun name => name ≠ "" ∧ ∃ model ∈ models, model.vendorName = some name) names ∧
      facets.vendor.map (·.value) = .all :: names.map (.only <| .named ·)
        ++ if ∃ model ∈ models, model.vendor = none then [.only .unknown] else []) ∧
    (∃ tags, Listing Text.Precedes (fun tag => ∃ model ∈ models, tag ∈ model.tagList) tags ∧
      facets.tag.map (·.value) = .all :: tags.map .only) ∧
    (∃ keys, Listing (· < ·) (fun key => key ≠ "" ∧ key ∈ groups.usable.keys) keys ∧
      facets.group.map (·.value) = .all :: keys.map .only) ∧
    facets.billing.map (·.value) = [.all, .only .perToken, .only .perRequest] ∧
    (∃ names, Listing Text.Precedes (fun name => ∃ model ∈ models, name ∈ model.endpointTypes)
        names ∧
      facets.endpointType.map (·.value) = .all :: names.map .only) ∧
    ∀ dimension,
      ((facets.on dimension).map (·.value)).Nodup ∧
      (∀ other, ((compute models other groups translate).on dimension).map
          (fun option => (option.value, option.label)) =
        (facets.on dimension).map fun option => (option.value, option.label)) ∧
      (dimension ∈ [Dimension.vendor, .tag, .endpointType] →
        (∀ other, other ≠ dimension → criteria.choice other = .all) →
        Text.isBlankText criteria.search = true →
        ∀ option ∈ facets.on dimension, option.disabled = false) := by
  intro facets
  have values := values_on models criteria groups translate
  refine ⟨⟨_, listing_vendorNames models, ?_⟩, ⟨_, listing_tagNames models, values .tag⟩,
    ⟨_, listing_groupKeys sorted, values .group⟩, values .billing,
    ⟨_, listing_endpointTypeNames models, values .endpointType⟩, ?_⟩
  · exact (values .vendor).trans (congrArg (.all :: ·) (values_vendors models))
  intro dimension
  refine ⟨nodup_values models criteria translate sorted dimension, ?_,
    fun fromModels others blank option => not_disabled fromModels others blank⟩
  intro other
  exact (values_labels_on models other translate groups dimension).trans
    (values_labels_on models criteria translate groups dimension).symm

/-- Tags in capitals and with blanks around them are listed and not disabled, and keys of
groups may come in any order. -/
theorem lists_what_occurs_of_capital_tags :
    let model (tags : String) : Model :=
      ⟨"m", some "", some tags, [], none, [], none, none, none, none⟩
    let models := [model " NEW ;fast", model "new|\u00A0FAST,"]
    let groups : Groups := ⟨Keyed.ofPairs [("vip", "Important"), ("", "None"), ("a", "All")], []⟩
    let facets := compute models { Criteria.unrestricted with search := " " } groups .unchanged
    groups.usable.IsSorted ∧ .only "new" ∈ facets.tag.map (·.value) ∧
      ∀ option ∈ facets.tag, option.disabled = false := by
  intro model models groups facets
  have sorted : groups.usable.IsSorted := Keyed.isSorted_ofPairs _
  have lists := lists_what_occurs models groups sorted
    { Criteria.unrestricted with search := " " } .unchanged
  refine ⟨sorted, ?_, ?_⟩
  · rcases lists.2.1 with ⟨tags, listing, values⟩
    have listed : "new" ∈ tags :=
      (listing.mem_iff "new").mpr ⟨model " NEW ;fast", List.mem_cons_self, by decide +kernel⟩
    rw [values]
    exact List.mem_cons_of_mem _ (List.mem_map_of_mem listed)
  · refine (lists.2.2.2.2.2 .tag).2.2 (by decide) ?_ (by decide)
    intro other different
    cases other with
    | tag => exact absurd rfl different
    | _ => rfl

end Facets
end GatewayConsole
