import GatewayConsole.Proofs.Pricing.ByDimension

/-!
# Counts of facets

The count of an option is the number of models that are selected once the option is
chosen, whatever is chosen on its dimension now; so the facet of a dimension does not
depend on the choice made there.
-/

namespace GatewayConsole

/-! ## Options counted among models -/

namespace FacetOption

def IsCountedIn (dimension : Dimension) (baseline : List Model)
    (option : FacetOption dimension.Value) : Prop :=
  option.count = baseline.countP fun model => option.value.admits (model.carries dimension)

theorem all_isCountedIn (dimension : Dimension) (baseline : List Model) (label : String) :
    IsCountedIn dimension baseline (.all label baseline.length) := by
  simp [IsCountedIn, all, Choice.admits]

theorem only_isCountedIn (dimension : Dimension) (baseline : List Model)
    (value : dimension.Value) (label : String) :
    IsCountedIn dimension baseline
      (.only value label (baseline.countP (·.carries dimension value))) :=
  rfl

end FacetOption

/-! ## The facets -/

namespace Vendor

theorem isVendor_named (name : String) (given : Option String) :
    isVendor (.named name) given = (given == some name) := by
  cases given with
  | none => rfl
  | some other =>
      apply Bool.eq_iff_iff.mpr
      rw [isVendor, beq_iff_eq, beq_iff_eq, Option.some.injEq]
      exact eq_comm

theorem isVendor_unknown (given : Option String) : isVendor .unknown given = given.isNone := by
  cases given <;> rfl

end Vendor

namespace Facets

theorem vendorFacet_isCountedIn {models : List Model} {criteria : Criteria}
    {translate : Translator} {option : FacetOption Vendor}
    (member : option ∈ vendorFacet models criteria translate) :
    FacetOption.IsCountedIn .vendor (criteria.selectExcept (some .vendor) models) option := by
  simp only [vendorFacet, List.cons_append, List.mem_cons, List.mem_append, List.mem_map] at member
  rcases member with rfl | ⟨name, _, rfl⟩ | member
  · exact FacetOption.all_isCountedIn .vendor _ _
  · simp only [← Vendor.isVendor_named]
    exact FacetOption.only_isCountedIn .vendor _ _ _
  · rw [unknownVendor] at member
    split at member
    · rw [List.mem_singleton.mp member]
      simp only [← Vendor.isVendor_unknown]
      exact FacetOption.only_isCountedIn .vendor _ _ _
    · exact absurd member List.not_mem_nil

theorem on_isCountedIn {models : List Model} {criteria : Criteria} {groups : Groups}
    {translate : Translator} {dimension : Dimension} {option : FacetOption dimension.Value}
    (member : option ∈ (compute models criteria groups translate).on dimension) :
    FacetOption.IsCountedIn dimension (criteria.selectExcept (some dimension) models) option := by
  cases dimension with
  | vendor => exact vendorFacet_isCountedIn member
  | tag | group | billing | endpointType =>
      rcases List.mem_cons.mp member with rfl | member
      · exact FacetOption.all_isCountedIn _ _ _
      · rcases List.mem_map.mp member with ⟨value, _, rfl⟩
        exact FacetOption.only_isCountedIn _ _ _ _

theorem on_congr {models : List Model} {criteria other : Criteria} (groups : Groups)
    (translate : Translator) {dimension : Dimension}
    (same : other.selectExcept (some dimension) models =
      criteria.selectExcept (some dimension) models) :
    (compute models other groups translate).on dimension =
      (compute models criteria groups translate).on dimension := by
  cases dimension <;>
    simp only [on, compute, vendorFacet, tagFacet, groupFacet, billingFacet,
      endpointTypeFacet, same] <;>
    rfl

/-! ## Counts and selections -/

theorem length_select_choose {models : List Model} {criteria : Criteria} {groups : Groups}
    {translate : Translator} {dimension : Dimension} {option : FacetOption dimension.Value}
    (member : option ∈ (compute models criteria groups translate).on dimension) :
    ((criteria.choose dimension option.value).select models).length = option.count := by
  rw [Criteria.select_choose, ← List.countP_eq_length_filter]
  exact (on_isCountedIn member).symm

/-- Choosing an option selects as many models as the option counts. So the option that is
chosen now counts the models selected now, and another choice on a dimension leaves the
facet of that dimension as it is. -/
theorem count_eq_length_select (models : List Model) (criteria : Criteria) (groups : Groups)
    (translate : Translator) (dimension : Dimension) :
    (∀ option ∈ (compute models criteria groups translate).on dimension,
        option.count = ((criteria.choose dimension option.value).select models).length) ∧
      (∀ option ∈ (compute models criteria groups translate).on dimension,
        option.value = criteria.choice dimension →
          option.count = (criteria.select models).length) ∧
      ∀ choice, (compute models (criteria.choose dimension choice) groups translate).on dimension =
        (compute models criteria groups translate).on dimension := by
  have counts (option : FacetOption dimension.Value)
      (member : option ∈ (compute models criteria groups translate).on dimension) :
      option.count = ((criteria.choose dimension option.value).select models).length :=
    (length_select_choose member).symm
  refine ⟨counts, ?_, ?_⟩
  · intro option member chosen
    rw [counts option member, chosen, Criteria.choose_choice]
  · intro choice
    exact on_congr groups translate (criteria.selectExcept_choose dimension choice models)

/-- A group counts its models also while another group is chosen. -/
theorem count_eq_length_select_of_group :
    let model (groups : List String) : Model :=
      ⟨"m", none, none, groups, none, [], none, none, none, none⟩
    let models := [model ["default", "vip"], model ["vip"], model ["retired"]]
    let groups : Groups := ⟨[("", "None"), ("default", "Default"), ("vip", "Important")], []⟩
    let criteria : Criteria := { Criteria.unrestricted with group := .only "default" }
    let option : FacetOption (Dimension.Value .group) := ⟨.only "vip", "vip (x1)", 2, false⟩
    option ∈ (compute models criteria groups .unchanged).on .group ∧
      option.count = ((criteria.choose .group (.only "vip")).select models).length := by
  intro model models groups criteria option
  have member : option ∈ (compute models criteria groups .unchanged).on .group := by
    decide +kernel
  exact ⟨member, (count_eq_length_select models criteria groups .unchanged .group).1 option member⟩

end Facets
end GatewayConsole
