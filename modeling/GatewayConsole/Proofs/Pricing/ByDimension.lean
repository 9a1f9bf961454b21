import GatewayConsole.Pricing.Facet

/-!
# Criteria and facets by dimension

The five choices of criteria and the five facets, indexed by the dimension they belong to.
What holds on every dimension can then be stated once. A dimension is left out of a
selection exactly when its choice does not count.
-/

namespace GatewayConsole

/-! ## Values -/

def Dimension.Value : Dimension → Type
  | .vendor => Vendor
  | .tag => String
  | .group => String
  | .billing => Billing
  | .endpointType => String

instance : (dimension : Dimension) → DecidableEq dimension.Value
  | .vendor => inferInstanceAs (DecidableEq Vendor)
  | .tag => inferInstanceAs (DecidableEq String)
  | .group => inferInstanceAs (DecidableEq String)
  | .billing => inferInstanceAs (DecidableEq Billing)
  | .endpointType => inferInstanceAs (DecidableEq String)

namespace Model

def carries (model : Model) : (dimension : Dimension) → dimension.Value → Bool
  | .vendor, vendor => vendor.isVendor model.vendor
  | .tag, tag => model.hasTag tag
  | .group, key => model.groups.contains key
  | .billing, billing => model.billing == some billing
  | .endpointType, name => model.endpointTypes.contains name

end Model

/-! ## Choices -/

namespace Criteria

def choice (criteria : Criteria) : (dimension : Dimension) → Choice dimension.Value
  | .vendor => criteria.vendor
  | .tag => criteria.tag
  | .group => criteria.group
  | .billing => criteria.billing
  | .endpointType => criteria.endpointType

def choose (criteria : Criteria) : (dimension : Dimension) → Choice dimension.Value → Criteria
  | .vendor, vendor => { criteria with vendor }
  | .tag, tag => { criteria with tag }
  | .group, group => { criteria with group }
  | .billing, billing => { criteria with billing }
  | .endpointType, endpointType => { criteria with endpointType }

@[simp] theorem choice_choose_same (criteria : Criteria) (dimension : Dimension)
    (choice : Choice dimension.Value) :
    (criteria.choose dimension choice).choice dimension = choice := by
  cases dimension <;> rfl

theorem choice_choose_other (criteria : Criteria) {dimension other : Dimension}
    (choice : Choice dimension.Value) (different : other ≠ dimension) :
    (criteria.choose dimension choice).choice other = criteria.choice other := by
  cases dimension <;> cases other <;> first | rfl | exact absurd rfl different

@[simp] theorem choose_choice (criteria : Criteria) (dimension : Dimension) :
    criteria.choose dimension (criteria.choice dimension) = criteria := by
  cases dimension <;> rfl

@[simp] theorem search_choose (criteria : Criteria) (dimension : Dimension)
    (choice : Choice dimension.Value) :
    (criteria.choose dimension choice).search = criteria.search := by
  cases dimension <;> rfl

end Criteria

/-! ## Meeting a choice -/

namespace Model

theorem meets_eq_admits (model : Model) (criteria : Criteria) (dimension : Dimension) :
    model.meets criteria dimension =
      (criteria.choice dimension).admits (model.carries dimension) := by
  cases dimension <;> rfl

theorem meets_choose_same (model : Model) (criteria : Criteria) (dimension : Dimension)
    (choice : Choice dimension.Value) :
    model.meets (criteria.choose dimension choice) dimension =
      choice.admits (model.carries dimension) := by
  rw [meets_eq_admits, Criteria.choice_choose_same]

theorem meets_choose_other (model : Model) (criteria : Criteria) {dimension other : Dimension}
    (choice : Choice dimension.Value) (different : other ≠ dimension) :
    model.meets (criteria.choose dimension choice) other = model.meets criteria other := by
  rw [meets_eq_admits, meets_eq_admits, Criteria.choice_choose_other criteria choice different]

@[simp] theorem isFound_choose (model : Model) (criteria : Criteria) (dimension : Dimension)
    (choice : Choice dimension.Value) :
    model.isFound (criteria.choose dimension choice) = model.isFound criteria := by
  rw [isFound, isFound, Criteria.search_choose]

end Model

/-! ## Leaving a dimension out -/

namespace Criteria

theorem admitsExcept_iff (criteria : Criteria) (left : Option Dimension) (model : Model) :
    criteria.admitsExcept left model = true ↔
      model.isFound criteria = true ∧
        ∀ dimension, some dimension ≠ left → model.meets criteria dimension = true := by
  simp only [admitsExcept, Bool.and_eq_true, List.all_eq_true, Bool.or_eq_true, beq_iff_eq]
  constructor
  · rintro ⟨found, met⟩
    exact ⟨found, fun dimension counts =>
      (met dimension (Dimension.mem_all dimension)).resolve_left counts⟩
  · rintro ⟨found, met⟩
    exact ⟨found, fun dimension _ => Classical.or_iff_not_imp_left.mpr (met dimension)⟩

theorem admitsExcept_choose (criteria : Criteria) (dimension : Dimension)
    (choice : Choice dimension.Value) :
    (criteria.choose dimension choice).admitsExcept (some dimension) =
      criteria.admitsExcept (some dimension) := by
  funext model
  apply Bool.eq_iff_iff.mpr
  rw [admitsExcept_iff, admitsExcept_iff, Model.isFound_choose]
  have same (other : Dimension) (counts : some other ≠ some dimension) :
      model.meets (criteria.choose dimension choice) other = model.meets criteria other :=
    model.meets_choose_other criteria choice fun equal => counts (congrArg some equal)
  constructor
  · rintro ⟨found, met⟩
    exact ⟨found, fun other counts => same other counts ▸ met other counts⟩
  · rintro ⟨found, met⟩
    exact ⟨found, fun other counts => (same other counts).symm ▸ met other counts⟩

theorem admitsExcept_none (criteria : Criteria) (dimension : Dimension) (model : Model) :
    criteria.admitsExcept none model =
      (criteria.admitsExcept (some dimension) model && model.meets criteria dimension) := by
  apply Bool.eq_iff_iff.mpr
  rw [Bool.and_eq_true, admitsExcept_iff, admitsExcept_iff]
  constructor
  · rintro ⟨found, met⟩
    exact ⟨⟨found, fun other _ => met other nofun⟩, met dimension nofun⟩
  · rintro ⟨⟨found, others⟩, own⟩
    refine ⟨found, fun other _ => ?_⟩
    by_cases equal : other = dimension
    · exact equal ▸ own
    · exact others other fun same => equal (Option.some.inj same)

theorem selectExcept_choose (criteria : Criteria) (dimension : Dimension)
    (choice : Choice dimension.Value) (models : List Model) :
    (criteria.choose dimension choice).selectExcept (some dimension) models =
      criteria.selectExcept (some dimension) models := by
  rw [selectExcept, selectExcept, admitsExcept_choose]

theorem select_eq_filter_selectExcept (criteria : Criteria) (dimension : Dimension)
    (models : List Model) :
    criteria.select models =
      (criteria.selectExcept (some dimension) models).filter (·.meets criteria dimension) := by
  have both : criteria.admitsExcept none = fun model =>
      model.meets criteria dimension && criteria.admitsExcept (some dimension) model := by
    funext model
    rw [admitsExcept_none criteria dimension, Bool.and_comm]
  rw [select, selectExcept, selectExcept, List.filter_filter, both]

theorem select_choose (criteria : Criteria) (dimension : Dimension)
    (choice : Choice dimension.Value) (models : List Model) :
    (criteria.choose dimension choice).select models =
      (criteria.selectExcept (some dimension) models).filter
        fun model => choice.admits (model.carries dimension) := by
  rw [select_eq_filter_selectExcept _ dimension, selectExcept_choose]
  simp only [Model.meets_choose_same]

end Criteria

/-! ## Facets -/

def Facets.on (facets : Facets) : (dimension : Dimension) → List (FacetOption dimension.Value)
  | .vendor => facets.vendor
  | .tag => facets.tag
  | .group => facets.group
  | .billing => facets.billing
  | .endpointType => facets.endpointType

end GatewayConsole
