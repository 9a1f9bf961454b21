import GatewayConsole.Proofs.Pricing.NormalTags
import GatewayConsole.Proofs.Pricing.Offers
import GatewayConsole.Proofs.Text.Collation

/-!
# Rearranged catalogs

The order of models makes no difference to facets, and neither does, inside a model, how its
groups, endpoint types and tags are ordered or repeated. Selections are rearranged as the
models are.
-/

namespace GatewayConsole

/-! ## Models written differently -/

/-- Whether two models differ at most in how their groups, their endpoint types and the
pieces of their tags are ordered and repeated. -/
structure Model.IsRearranged (model other : Model) : Prop where
  groups : ∀ key, key ∈ other.groups ↔ key ∈ model.groups
  endpointTypes : ∀ name, name ∈ other.endpointTypes ↔ name ∈ model.endpointTypes
  pieces : ∀ piece, (∃ raw ∈ other.tags, piece ∈ Tags.pieces raw) ↔
    ∃ raw ∈ model.tags, piece ∈ Tags.pieces raw
  rest : { other with
    groups := model.groups, endpointTypes := model.endpointTypes, tags := model.tags } = model

namespace Model.IsRearranged

variable {model other : Model}

theorem name (alike : model.IsRearranged other) : other.name = model.name := by
  have same := congrArg Model.name alike.rest
  exact same

theorem vendor (alike : model.IsRearranged other) : other.vendor = model.vendor := by
  have same := congrArg Model.vendor alike.rest
  exact same

theorem billing (alike : model.IsRearranged other) : other.billing = model.billing := by
  have same := congrArg Model.billing alike.rest
  exact same

theorem mem_tagList (alike : model.IsRearranged other) (tag : String) :
    tag ∈ other.tagList ↔ tag ∈ model.tagList := by
  have listed (given : Model) : tag ∈ given.tagList ↔
      tag ≠ "" ∧ ∃ piece, (∃ raw ∈ given.tags, piece ∈ Tags.pieces raw) ∧
        Tags.normalForm piece = tag := by
    simp only [Model.mem_tagList, Tags.mem_ofText]
    constructor
    · rintro ⟨raw, given, nonempty, piece, member, normal⟩
      exact ⟨nonempty, piece, ⟨raw, given, member⟩, normal⟩
    · rintro ⟨nonempty, piece, ⟨raw, given, member⟩, normal⟩
      exact ⟨raw, given, nonempty, piece, member, normal⟩
  rw [listed, listed]
  simp only [alike.pieces]

theorem hasTag (alike : model.IsRearranged other) (tag : String) :
    other.hasTag tag = model.hasTag tag := by
  apply Bool.eq_iff_iff.mpr
  rw [Model.hasTag_iff, Model.hasTag_iff, alike.mem_tagList]

theorem carries (alike : model.IsRearranged other) (dimension : Dimension)
    (value : dimension.Value) : other.carries dimension value = model.carries dimension value := by
  cases dimension with
  | vendor => rw [Model.carries, Model.carries, alike.vendor]
  | tag => exact alike.hasTag value
  | group =>
      apply Bool.eq_iff_iff.mpr
      exact List.contains_iff_mem.trans ((alike.groups value).trans List.contains_iff_mem.symm)
  | billing => rw [Model.carries, Model.carries, alike.billing]
  | endpointType =>
      apply Bool.eq_iff_iff.mpr
      exact List.contains_iff_mem.trans
        ((alike.endpointTypes value).trans List.contains_iff_mem.symm)

theorem isFound (alike : model.IsRearranged other) (criteria : Criteria) :
    other.isFound criteria = model.isFound criteria := by
  rw [Model.isFound, Model.isFound, Model.mentions, Model.mentions, alike.name, alike.vendor]

theorem admitsExcept (alike : model.IsRearranged other) (criteria : Criteria)
    (left : Option Dimension) :
    criteria.admitsExcept left other = criteria.admitsExcept left model := by
  have met (dimension : Dimension) :
      other.meets criteria dimension = model.meets criteria dimension := by
    rw [Model.meets_eq_admits, Model.meets_eq_admits, funext (alike.carries dimension)]
  rw [Criteria.admitsExcept, Criteria.admitsExcept, alike.isFound]
  simp only [met]

end Model.IsRearranged

/-! ## Lists of models in another order -/

/-- Whether pairs of models show one list as a rearrangement of another one: their second
members are the other list, and their first members, which are rearranged, are the models in
some order. -/
structure Rearranges (pairs : List (Model × Model)) (models others : List Model) : Prop where
  alike : ∀ pair ∈ pairs, pair.1.IsRearranged pair.2
  models : (pairs.map (·.1)).Perm models
  others : pairs.map (·.2) = others

namespace Rearranges

variable {pairs : List (Model × Model)} {models others : List Model}

theorem length_eq (rearranged : Rearranges pairs models others) :
    others.length = models.length := by
  rw [← rearranged.others, ← rearranged.models.length_eq, List.length_map, List.length_map]

/-- What depends only on what a model has holds of as many models in both lists. -/
theorem countP_eq (rearranged : Rearranges pairs models others) {test : Model → Bool}
    (same : ∀ {model other}, model.IsRearranged other → test other = test model) :
    others.countP test = models.countP test := by
  rw [← rearranged.others, ← rearranged.models.countP_eq, List.countP_map, List.countP_map]
  exact List.countP_congr fun pair member => by
    rw [Function.comp, Function.comp, same (rearranged.alike pair member)]

theorem filter (rearranged : Rearranges pairs models others) {test : Model → Bool}
    (same : ∀ {model other}, model.IsRearranged other → test other = test model) :
    Rearranges (pairs.filter (test ·.1)) (models.filter test) (others.filter test) where
  alike pair member := rearranged.alike pair ((List.mem_filter.mp member).1)
  models := by
    have swapped : (pairs.filter (test ·.1)).map (·.1) = (pairs.map (·.1)).filter test :=
      (List.filter_map ..).symm
    rw [swapped]
    exact rearranged.models.filter test
  others := by
    have kept : pairs.filter (test ·.1) = pairs.filter (test ·.2) :=
      List.filter_congr fun pair member => (same (rearranged.alike pair member)).symm
    rw [kept, ← rearranged.others]
    exact (List.filter_map ..).symm

theorem exists_iff (rearranged : Rearranges pairs models others) {holds : Model → Prop}
    (same : ∀ {model other}, model.IsRearranged other → (holds other ↔ holds model)) :
    (∃ other ∈ others, holds other) ↔ ∃ model ∈ models, holds model := by
  constructor
  · rintro ⟨other, member, held⟩
    rw [← rearranged.others] at member
    rcases List.mem_map.mp member with ⟨pair, listed, rfl⟩
    have first := rearranged.models.mem_iff.mp (List.mem_map_of_mem listed)
    exact ⟨pair.1, first, (same (rearranged.alike pair listed)).mp held⟩
  · rintro ⟨model, member, held⟩
    rcases List.mem_map.mp (rearranged.models.mem_iff.mpr member) with ⟨pair, listed, rfl⟩
    have second : pair.2 ∈ others := rearranged.others ▸ List.mem_map_of_mem listed
    exact ⟨pair.2, second, (same (rearranged.alike pair listed)).mpr held⟩

theorem selectExcept (rearranged : Rearranges pairs models others) (criteria : Criteria)
    (left : Option Dimension) :
    Rearranges (pairs.filter (criteria.admitsExcept left ·.1))
      (criteria.selectExcept left models) (criteria.selectExcept left others) :=
  rearranged.filter fun alike => alike.admitsExcept criteria left

theorem offered (rearranged : Rearranges pairs models others) (groups : Groups)
    (dimension : Dimension) :
    Facets.offered others groups dimension = Facets.offered models groups dimension := by
  cases dimension with
  | vendor =>
      have names : Facets.vendorNames others = Facets.vendorNames models := by
        refine Text.sortedUnique_congr fun name => ?_
        rw [List.mem_filterMap, List.mem_filterMap]
        exact rearranged.exists_iff fun alike => by rw [alike.vendor]
      have missing : others.any (·.vendor.isNone) = models.any (·.vendor.isNone) := by
        apply Bool.eq_iff_iff.mpr
        rw [List.any_eq_true, List.any_eq_true]
        exact rearranged.exists_iff fun alike => by rw [alike.vendor]
      exact show Facets.vendors others = Facets.vendors models by
        rw [Facets.vendors, Facets.vendors, names, missing]
  | tag =>
      refine Text.sortedUnique_congr fun tag => ?_
      rw [List.mem_flatMap, List.mem_flatMap]
      exact rearranged.exists_iff fun alike => alike.mem_tagList tag
  | endpointType =>
      refine Text.sortedUnique_congr fun name => ?_
      rw [List.mem_flatMap, List.mem_flatMap]
      exact rearranged.exists_iff fun alike => alike.endpointTypes name
  | group | billing => rfl

theorem on (rearranged : Rearranges pairs models others) (criteria : Criteria) (groups : Groups)
    (translate : Translator) (dimension : Dimension) :
    (Facets.compute others criteria groups translate).on dimension =
      (Facets.compute models criteria groups translate).on dimension := by
  have baseline := rearranged.selectExcept criteria (some dimension)
  have options : Facets.option groups translate dimension
        (criteria.selectExcept (some dimension) others) =
      Facets.option groups translate dimension
        (criteria.selectExcept (some dimension) models) := by
    funext value
    rw [Facets.option, Facets.option, baseline.countP_eq fun alike => alike.carries dimension value]
  rw [Facets.on_eq_offered, Facets.on_eq_offered, rearranged.offered, baseline.length_eq, options]

end Rearranges

theorem Facets.ext_on {facets others : Facets}
    (same : ∀ dimension, facets.on dimension = others.on dimension) : facets = others := by
  cases facets
  cases others
  congr
  · exact same .vendor
  · exact same .tag
  · exact same .group
  · exact same .billing
  · exact same .endpointType

namespace Rearranges

/-- A rearranged catalog has the same facets, and what is selected in it is rearranged in the
same way. -/
theorem compute_select {pairs : List (Model × Model)} {models others : List Model}
    (rearranged : Rearranges pairs models others) (criteria : Criteria) (groups : Groups)
    (translate : Translator) :
    Facets.compute others criteria groups translate =
        Facets.compute models criteria groups translate ∧
      Rearranges (pairs.filter (criteria.admitsExcept none ·.1)) (criteria.select models)
        (criteria.select others) :=
  ⟨Facets.ext_on (rearranged.on criteria groups translate), rearranged.selectExcept criteria none⟩

/-- Two models change places, and one of them says everything twice. -/
theorem compute_select_of_swapped :
    let plain : Model := ⟨"b", none, none, [], some .perToken, [], none, none, none, none⟩
    let fast : Model :=
      ⟨"a", some "A", some "new,fast", ["vip", "default"], none, ["chat"], none, none, none, none⟩
    let again : Model := { fast with
      tags := some "fast;new|fast", groups := ["default", "vip", "default"],
      endpointTypes := ["chat", "chat"] }
    let criteria : Criteria := { Criteria.unrestricted with tag := .only "FAST" }
    Rearranges [(plain, plain), (fast, again)] [fast, plain] [plain, again] ∧
      Facets.compute [plain, again] criteria .empty .unchanged =
        Facets.compute [fast, plain] criteria .empty .unchanged ∧
      Rearranges [(fast, again)] (criteria.select [fast, plain])
        (criteria.select [plain, again]) := by
  intro plain fast again criteria
  have same : plain.IsRearranged plain :=
    ⟨fun _ => Iff.rfl, fun _ => Iff.rfl, fun _ => Iff.rfl, rfl⟩
  have first : Tags.pieces "new,fast" = ["new", "fast"] := by decide +kernel
  have second : Tags.pieces "fast;new|fast" = ["fast", "new", "fast"] := by decide +kernel
  have alike : fast.IsRearranged again := by
    refine ⟨?_, ?_, ?_, rfl⟩
    · intro key
      simp [fast, again, or_comm]
    · intro name
      simp [fast, again]
    · intro piece
      simp [fast, again, first, second, or_comm]
  have rearranged : Rearranges [(plain, plain), (fast, again)] [fast, plain] [plain, again] := by
    refine ⟨?_, List.Perm.swap _ _ _, rfl⟩
    intro pair member
    rcases List.mem_cons.mp member with rfl | member
    · exact same
    · exact List.mem_singleton.mp member ▸ alike
  have left : criteria.admitsExcept none plain = false := by decide +kernel
  have kept : criteria.admitsExcept none fast = true := by decide +kernel
  have pairs : [(plain, plain), (fast, again)].filter (criteria.admitsExcept none ·.1) =
      [(fast, again)] := by
    simp only [List.filter_cons, left, kept, List.filter_nil, if_true, Bool.false_eq_true, if_false]
  have both := rearranged.compute_select criteria .empty .unchanged
  exact ⟨rearranged, both.1, pairs ▸ both.2⟩

end Rearranges
end GatewayConsole
