import GatewayConsole.Proofs.Pricing.FacetValues

/-!
# Single criteria

Criteria are five choices and a search. Each of them judges a model on its own, so that
selecting by all criteria is selecting by one after the other, in any order.
-/

namespace GatewayConsole

/-! ## Criteria one by one -/

inductive Criterion
  | choice (dimension : Dimension)
  | search
deriving DecidableEq, Repr

namespace Criterion

def all : List Criterion := .search :: Dimension.all.map .choice

theorem mem_all (criterion : Criterion) : criterion ∈ all := by
  cases criterion with
  | choice dimension =>
      exact List.mem_cons_of_mem _ (List.mem_map_of_mem (Dimension.mem_all dimension))
  | search => exact List.mem_cons_self

end Criterion

def Model.passes (model : Model) (criteria : Criteria) : Criterion → Bool
  | .choice dimension => model.meets criteria dimension
  | .search => model.isFound criteria

namespace Criteria

def single (criteria : Criteria) : Criterion → Criteria
  | .choice dimension => unrestricted.choose dimension (criteria.choice dimension)
  | .search => { unrestricted with search := criteria.search }

variable {criteria : Criteria} {models : List Model} {model : Model}

theorem admits_iff (criteria : Criteria) (model : Model) :
    criteria.admitsExcept none model = true ↔
      ∀ criterion, model.passes criteria criterion = true := by
  rw [admitsExcept_iff]
  constructor
  · rintro ⟨found, met⟩ criterion
    cases criterion with
    | choice dimension => exact met dimension nofun
    | search => exact found
  · intro passes
    exact ⟨passes .search, fun dimension _ => passes (.choice dimension)⟩

theorem meets_of_all {dimension : Dimension} (isAll : criteria.choice dimension = .all)
    (model : Model) : model.meets criteria dimension = true := by
  rw [Model.meets_eq_admits, isAll]
  rfl

theorem choice_unrestricted (dimension : Dimension) : unrestricted.choice dimension = .all := by
  cases dimension <;> rfl

theorem meets_single_same (criteria : Criteria) (dimension : Dimension) (model : Model) :
    model.meets (criteria.single (.choice dimension)) dimension =
      model.meets criteria dimension := by
  rw [single, Model.meets_choose_same, Model.meets_eq_admits]

theorem meets_single_other (criteria : Criteria) {dimension other : Dimension}
    (different : other ≠ dimension) (model : Model) :
    model.meets (criteria.single (.choice dimension)) other = true := by
  rw [single, Model.meets_choose_other model unrestricted _ different]
  exact meets_of_all (choice_unrestricted other) model

theorem meets_single_search (criteria : Criteria) (dimension : Dimension) (model : Model) :
    model.meets (criteria.single .search) dimension = true := by
  apply meets_of_all
  cases dimension <;> rfl

theorem isFound_single_choice (criteria : Criteria) (dimension : Dimension) (model : Model) :
    model.isFound (criteria.single (.choice dimension)) = true := by
  apply isFound_of_blank
  rw [single, search_choose]
  rfl

theorem admits_single (criteria : Criteria) (criterion : Criterion) (model : Model) :
    (criteria.single criterion).admitsExcept none model = model.passes criteria criterion := by
  apply Bool.eq_iff_iff.mpr
  rw [admits_iff]
  constructor
  · intro passes
    cases criterion with
    | choice dimension =>
        have same := meets_single_same criteria dimension model
        exact same.symm.trans (passes (.choice dimension))
    | search => exact passes .search
  · intro passes other
    cases criterion with
    | choice dimension =>
        cases other with
        | choice other =>
            by_cases same : other = dimension
            · rw [same]
              exact (meets_single_same criteria dimension model).trans passes
            · exact meets_single_other criteria same model
        | search => exact isFound_single_choice criteria dimension model
    | search =>
        cases other with
        | choice other => exact meets_single_search criteria other model
        | search => exact passes

/-! ## Selecting -/

theorem admitsExcept_eq_all (criteria : Criteria) (model : Model) :
    criteria.admitsExcept none model = Criterion.all.all (model.passes criteria) := by
  apply Bool.eq_iff_iff.mpr
  rw [admits_iff, List.all_eq_true]
  exact ⟨fun passes criterion _ => passes criterion,
    fun passes criterion => passes criterion (Criterion.mem_all criterion)⟩

theorem select_eq_filter (criteria : Criteria) (models : List Model) :
    criteria.select models =
      models.filter fun model => Criterion.all.all (model.passes criteria) :=
  congrArg models.filter (funext (admitsExcept_eq_all criteria))

theorem select_single (criteria : Criteria) (criterion : Criterion) (models : List Model) :
    (criteria.single criterion).select models = models.filter (·.passes criteria criterion) :=
  congrArg models.filter (funext (admits_single criteria criterion))

def selectInTurn (criteria : Criteria) (order : List Criterion) (models : List Model) :
    List Model :=
  order.foldl (fun remaining criterion => (criteria.single criterion).select remaining) models

theorem selectInTurn_eq_filter (criteria : Criteria) (order : List Criterion)
    (models : List Model) :
    criteria.selectInTurn order models =
      models.filter fun model => order.all (model.passes criteria) := by
  induction order generalizing models with
  | nil => exact (List.filter_eq_self.mpr fun _ _ => rfl).symm
  | cons criterion order induction =>
      have rest := induction ((criteria.single criterion).select models)
      rw [selectInTurn, List.foldl_cons, ← selectInTurn, rest, select_single, List.filter_filter]
      simp only [List.all_cons, Bool.and_comm]

/-- An order in which every criterion has its turn has the same effect as any other. -/
theorem select_eq_selectInTurn {order : List Criterion} (each : ∀ criterion, criterion ∈ order)
    (criteria : Criteria) (models : List Model) :
    criteria.selectInTurn order models = criteria.select models := by
  have same (model : Model) :
      order.all (model.passes criteria) = Criterion.all.all (model.passes criteria) := by
    apply Bool.eq_iff_iff.mpr
    rw [List.all_eq_true, List.all_eq_true]
    exact ⟨fun passes criterion _ => passes criterion (each criterion),
      fun passes criterion _ => passes criterion (Criterion.mem_all criterion)⟩
  rw [selectInTurn_eq_filter, select_eq_filter]
  exact congrArg models.filter (funext same)

theorem select_comm (criteria other : Criteria) (models : List Model) :
    criteria.select (other.select models) = other.select (criteria.select models) := by
  simp only [select_eq_filter, List.filter_filter, Bool.and_comm]

theorem select_select (criteria : Criteria) (models : List Model) :
    criteria.select (criteria.select models) = criteria.select models := by
  simp only [select_eq_filter, List.filter_filter, Bool.and_self]

/-- Selecting leaves the models that pass the search and meet the choices on all five
dimensions, in their order and as often as they are listed. It can be done with one dimension
left out and then on that dimension, or by every criterion on its own, in any order; so doing
it twice is doing it once, and what one criterion takes away does not depend on another. -/
theorem select_by_each_criterion (criteria : Criteria) (models : List Model) :
    criteria.select models =
        models.filter (fun model =>
          model.isFound criteria && Dimension.all.all (model.meets criteria)) ∧
      (∀ dimension, criteria.select models =
        (criteria.selectExcept (some dimension) models).filter (·.meets criteria dimension)) ∧
      (∀ order : List Criterion, order.Perm Criterion.all →
        criteria.selectInTurn order models = criteria.select models) ∧
      criteria.select (criteria.select models) = criteria.select models ∧
      ∀ criterion other : Criterion,
        (criteria.single criterion).select ((criteria.single other).select models) =
          (criteria.single other).select ((criteria.single criterion).select models) := by
  refine ⟨?_, fun dimension => select_eq_filter_selectExcept criteria dimension models, ?_,
    select_select criteria models, fun criterion other => select_comm _ _ models⟩
  · have parts (model : Model) : Criterion.all.all (model.passes criteria) =
        (model.isFound criteria && Dimension.all.all (model.meets criteria)) := by
      rw [Criterion.all, List.all_cons, List.all_map]
      rfl
    rw [select_eq_filter]
    exact congrArg models.filter (funext parts)
  · intro order perm
    refine select_eq_selectInTurn (fun criterion => ?_) criteria models
    exact perm.mem_iff.mpr (Criterion.mem_all criterion)

/-- The search may have its turn last, and a model that is listed twice is left twice. -/
theorem select_with_search_last :
    let model (name : String) (groups : List String) : Model :=
      ⟨name, some "a", some "Fast; new", groups, none, [], none, none, none, none⟩
    let models := [model "GPT-4" ["vip"], model "mj" ["vip"], model "gpt" [], model "GPT-4" ["vip"]]
    let criteria : Criteria :=
      { Criteria.unrestricted with tag := .only " FAST", group := .only "vip", search := "gpt " }
    Criterion.all.reverse.Perm Criterion.all ∧
      criteria.selectInTurn Criterion.all.reverse models = criteria.select models ∧
      (criteria.select models).map (·.name) = ["GPT-4", "GPT-4"] := by
  intro model models criteria
  have perm : Criterion.all.reverse.Perm Criterion.all := List.reverse_perm _
  refine ⟨perm, (select_by_each_criterion criteria models).2.2.1 _ perm, ?_⟩
  decide +kernel

end Criteria
end GatewayConsole
