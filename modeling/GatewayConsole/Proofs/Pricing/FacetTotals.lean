import GatewayConsole.Proofs.Pricing.FacetValues
import Mathlib.Algebra.BigOperators.Group.List.Basic
import Mathlib.Algebra.GroupWithZero.Nat
import Mathlib.Data.List.Nodup

/-!
# Totals of facets

A model has one vendor, if only the unknown one, and at most one billing mode. So the options
of these facets share the models out among them, and their counts add up to the count of the
open choice, but for models that have no billing mode.
-/

namespace GatewayConsole

/-! ## Models shared out among values -/

theorem sum_ite_eq_countP {α : Type} (holds : α → Bool) (members : List α) :
    (members.map fun member => if holds member then 1 else 0).sum = members.countP holds := by
  induction members with
  | nil => rfl
  | cons member members induction =>
      rw [List.map_cons, List.sum_cons, List.countP_cons, induction, Nat.add_comm]

namespace Facets

theorem sum_countP_carries {dimension : Dimension} {values : List dimension.Value}
    {counts : Model → Bool} {models : List Model}
    (once : ∀ model ∈ models,
      values.countP (model.carries dimension) = if counts model then 1 else 0) :
    (values.map fun value => models.countP (·.carries dimension value)).sum =
      models.countP counts := by
  induction models with
  | nil => simp
  | cons model models induction =>
      have first := once model List.mem_cons_self
      have rest := induction fun other member => once other (List.mem_cons_of_mem _ member)
      simp only [List.countP_cons, List.sum_map_add, rest, sum_ite_eq_countP, first]

theorem sum_counts_offered {models : List Model} {criteria : Criteria} {groups : Groups}
    {translate : Translator} {dimension : Dimension} {counts : Model → Bool}
    (once : ∀ model ∈ models,
      (offered models groups dimension).countP (model.carries dimension) =
        if counts model then 1 else 0) :
    (((offered models groups dimension).map
        (option groups translate dimension (criteria.selectExcept (some dimension) models))).map
          (·.count)).sum =
      (criteria.selectExcept (some dimension) models).countP counts := by
  rw [List.map_map]
  exact sum_countP_carries fun model member => once model (List.mem_filter.mp member).1

end Facets

/-! ## The value of a model -/

def Vendor.ofGiven : Option String → Vendor
  | some name => .named name
  | none => .unknown

theorem Vendor.isVendor_iff {vendor : Vendor} {given : Option String} :
    vendor.isVendor given = true ↔ vendor = ofGiven given := by
  cases vendor <;> cases given <;> simp [isVendor, ofGiven]

namespace Facets

variable {models : List Model}

theorem ofGiven_mem_vendors {model : Model} (member : model ∈ models) :
    Vendor.ofGiven model.vendor ∈ vendors models := by
  cases given : model.vendor with
  | some name =>
      have occurs := Model.vendor_eq_some.mp given
      have listed : name ∈ vendorNames models :=
        ((listing_vendorNames models).mem_iff name).mpr ⟨occurs.1, model, member, occurs.2⟩
      exact List.mem_append_left _ (List.mem_map_of_mem listed)
  | none =>
      have missing : models.any (·.vendor.isNone) = true :=
        List.any_eq_true.mpr ⟨model, member, Option.isNone_iff_eq_none.mpr given⟩
      rw [vendors, if_pos missing]
      exact List.mem_append_right _ List.mem_cons_self

theorem countP_vendors {model : Model} (member : model ∈ models) :
    (vendors models).countP (·.isVendor model.vendor) = 1 := by
  have same : (·.isVendor model.vendor) = (· == Vendor.ofGiven model.vendor) := by
    funext vendor
    exact Bool.eq_iff_iff.mpr (Vendor.isVendor_iff.trans beq_iff_eq.symm)
  rw [same]
  exact List.count_eq_one_of_mem (nodup_vendors models) (ofGiven_mem_vendors member)

theorem countP_billing (model : Model) :
    Billing.all.countP (model.carries .billing) = if model.billing.isSome then 1 else 0 := by
  unfold Model.carries
  cases model.billing with
  | none => rfl
  | some billing => cases billing <;> rfl

end Facets

/-! ## Totals -/

/-- Whether a facet begins with the open choice, and that counts as many models as all other
options together and `besides` more. -/
def FacetOption.AddUp {α : Type} (options : List (FacetOption α)) (besides : Nat) : Prop :=
  ∃ first others, options = first :: others ∧ first.value = .all ∧
    (∀ option ∈ others, option.value ≠ .all) ∧
    (others.map (·.count)).sum + besides = first.count

namespace Facets

variable (models : List Model) (criteria : Criteria) (groups : Groups) (translate : Translator)

/-- On a dimension where a model carries one of the values offered if it counts, and none
otherwise, what is missing in the total are the models that do not count. -/
theorem addUp_iff (dimension : Dimension) (counts : Model → Bool)
    (once : ∀ model ∈ models,
      (offered models groups dimension).countP (model.carries dimension) =
        if counts model then 1 else 0) (besides : Nat) :
    FacetOption.AddUp ((compute models criteria groups translate).on dimension) besides ↔
      (criteria.selectExcept (some dimension) models).countP counts + besides =
        (criteria.selectExcept (some dimension) models).length := by
  rw [on_eq_offered, ← sum_counts_offered once]
  constructor
  · rintro ⟨first, others, same, _, _, total⟩
    cases same
    exact total
  · intro total
    refine ⟨_, _, rfl, rfl, ?_, total⟩
    intro option member
    rcases List.mem_map.mp member with ⟨value, _, rfl⟩
    simp [Facets.option, FacetOption.only]

/-- The counts of vendors add up to the count of the open choice. The counts of both billing
modes do so together with the models that pass on the other dimensions and have no billing
mode; so they do without these exactly when there are none. -/
theorem counts_add_up (models : List Model) (criteria : Criteria) (groups : Groups)
    (translate : Translator) :
    let facets := compute models criteria groups translate
    let baseline := criteria.selectExcept (some .billing) models
    FacetOption.AddUp facets.vendor 0 ∧
      facets.billing.map (·.value) = [.all, .only .perToken, .only .perRequest] ∧
      FacetOption.AddUp facets.billing (baseline.countP (·.billing.isNone)) ∧
      (FacetOption.AddUp facets.billing 0 ↔ ∀ model ∈ baseline, model.billing ≠ none) := by
  intro facets baseline
  have vendor : FacetOption.AddUp facets.vendor 0 := by
    refine (addUp_iff models criteria groups translate .vendor (fun _ => true) ?_ 0).mpr ?_
    · exact fun _ => countP_vendors
    · rw [List.countP_true, Nat.add_zero]
  have billing (besides : Nat) : FacetOption.AddUp facets.billing besides ↔
      baseline.countP (·.billing.isSome) + besides = baseline.length :=
    addUp_iff models criteria groups translate .billing (·.billing.isSome)
      (fun model _ => countP_billing model) besides
  have isNone (model : Model) : model.billing.isNone = decide ¬model.billing.isSome = true := by
    cases model.billing <;> rfl
  refine ⟨vendor, values_on models criteria groups translate .billing, (billing _).mpr ?_,
    (billing 0).trans ?_⟩
  · simp only [isNone]
    exact (baseline.length_eq_countP_add_countP (·.billing.isSome)).symm
  · simp [List.countP_eq_length, Option.isSome_iff_ne_none]

/-- A model without a billing mode counts in no option but the open one. -/
example :
    let model (vendor : Option String) (billing : Option Billing) : Model :=
      ⟨"m", vendor, none, [], billing, [], none, none, none, none⟩
    let models := [model (some "A") (some .perToken), model (some "") none,
      model none (some .perRequest)]
    let facets := compute models .unrestricted ⟨[], []⟩ .unchanged
    facets.vendor.map (·.count) = [3, 1, 2] ∧ facets.billing.map (·.count) = [3, 1, 1] := by
  decide +kernel

end Facets
end GatewayConsole
