import GatewayConsole.Proofs.Pricing.FacetValues
import GatewayConsole.Report.Pricing

/-!
# Marked options

In the text of a facet every option has a line, with a filled mark where the option is the
one that is chosen. Marks go by the spelling of a choice, while models are matched by tags in
normal form; so a choice that models match is marked exactly when it is spelled as the facet
lists it.
-/

namespace GatewayConsole

/-! ## Lines of options -/

def Styled.isMarked (line : Styled) : Bool :=
  line.any fun piece => "  ●".toList.isPrefixOf piece.text.toList

namespace FacetOption

variable {α : Type} [DecidableEq α]

def lineText (option : FacetOption α) (chosen : Choice α) : Styled :=
  FacetLine.text ⟨decide (option.value = chosen), option.label, option.count, option.disabled⟩

/-- The label begins behind the mark, so that no label can pass for one. -/
theorem isMarked_lineText (option : FacetOption α) (chosen : Choice α) :
    (option.lineText chosen).isMarked = decide (option.value = chosen) := by
  rw [lineText, FacetLine.text, FacetLine.marker]
  cases option.disabled <;> by_cases same : option.value = chosen <;>
    simp [Styled.isMarked, Styled.inStyle, Styled.plain, Piece.text, List.isPrefixOf, same]

theorem filter_value_eq {options : List (FacetOption α)} {option : FacetOption α}
    (distinct : (options.map (·.value)).Nodup) (member : option ∈ options) :
    options.filter (fun other => decide (other.value = option.value)) = [option] := by
  induction options with
  | nil => exact absurd member List.not_mem_nil
  | cons first rest induction =>
      rcases List.nodup_cons.mp distinct with ⟨fresh, distinct⟩
      rcases List.mem_cons.mp member with rfl | later
      · have others : rest.filter (fun other => decide (other.value = option.value)) = [] := by
          refine List.filter_eq_nil_iff.mpr fun other found same => fresh ?_
          exact List.mem_map.mpr ⟨other, found, of_decide_eq_true same⟩
        rw [List.filter_cons_of_pos (by simp), others]
      · have differs : first.value ≠ option.value :=
          fun same => fresh (List.mem_map.mpr ⟨option, later, same.symm⟩)
        rw [List.filter_cons_of_neg (by simpa using differs), induction distinct later]

end FacetOption

/-! ## Facets on their dimensions -/

namespace Dimension

def title : Dimension → String
  | .vendor => "Vendor"
  | .tag => "Tag"
  | .group => "Group"
  | .billing => "Billing type"
  | .endpointType => "Endpoint type"

/-- A value as facets spell it: tags are listed in normal form, all else as it stands. -/
def listed : (dimension : Dimension) → dimension.Value → dimension.Value
  | .tag, value => Tags.normalForm value
  | .vendor, value | .group, value | .billing, value | .endpointType, value => value

end Dimension

namespace Model

@[simp] theorem hasTag_normalForm (model : Model) (tag : String) :
    model.hasTag (Tags.normalForm tag) = model.hasTag tag := by
  apply Bool.eq_iff_iff.mpr
  rw [hasTag_iff, hasTag_iff, Tags.normalForm_normalForm]

theorem carries_listed (model : Model) (dimension : Dimension) (value : dimension.Value) :
    model.carries dimension (dimension.listed value) = model.carries dimension value := by
  cases dimension with
  | tag => exact model.hasTag_normalForm value
  | vendor | group | billing | endpointType => rfl

end Model

theorem Criteria.select_choose_listed {criteria : Criteria} {dimension : Dimension}
    {value : dimension.Value} (chosen : criteria.choice dimension = .only value)
    (models : List Model) :
    (criteria.choose dimension (.only (dimension.listed value))).select models =
      criteria.select models := by
  have asChosen : criteria.choose dimension (.only value) = criteria := by
    rw [← chosen, choose_choice]
  rw [← congrArg (select · models) asChosen, select_choose, select_choose]
  simp only [Choice.admits, Model.carries_listed]

namespace Facets

theorem text_eq_byDimension (facets : Facets) (criteria : Criteria) (translate : Translator) :
    facets.text criteria translate =
      .join "\n\n" (Dimension.all.map fun dimension =>
        .join "\n" (.inStyle .bold (translate dimension.title) ::
          (facets.on dimension).map (·.lineText (criteria.choice dimension)))) := by
  simp only [text, FacetLine.listText, FacetLine.ofOptions, List.map_map]
  rfl

def marked (facets : Facets) (criteria : Criteria) (dimension : Dimension) :
    List (FacetOption dimension.Value) :=
  (facets.on dimension).filter fun option =>
    (option.lineText (criteria.choice dimension)).isMarked

theorem marked_eq (facets : Facets) (criteria : Criteria) (dimension : Dimension) :
    facets.marked criteria dimension =
      (facets.on dimension).filter fun option =>
        decide (option.value = criteria.choice dimension) := by
  simp only [marked, FacetOption.isMarked_lineText]

section Marks

variable {models : List Model} {criteria : Criteria} {groups : Groups} {translate : Translator}
  {dimension : Dimension}

theorem listed_mem_offered (fromModels : dimension ∈ [Dimension.vendor, .tag, .endpointType])
    {value : dimension.Value} {model : Model} (member : model ∈ models)
    (carries : model.carries dimension value = true) :
    dimension.listed value ∈ offered models groups dimension := by
  cases dimension with
  | vendor =>
      cases value with
      | named name =>
          have named : model.vendor = some name :=
            eq_of_beq ((Vendor.isVendor_named name model.vendor).symm.trans carries)
          have listed : name ∈ vendorNames models :=
            Text.mem_sortedUnique.mpr (List.mem_filterMap.mpr ⟨model, member, named⟩)
          exact List.mem_append_left _ (List.mem_map_of_mem listed)
      | unknown =>
          have unnamed : model.vendor.isNone = true :=
            (Vendor.isVendor_unknown model.vendor).symm.trans carries
          refine List.mem_append_right _ ?_
          rw [if_pos (List.any_eq_true.mpr ⟨model, member, unnamed⟩)]
          exact List.mem_singleton_self _
  | tag =>
      exact ((listing_tagNames models).mem_iff _).mpr
        ⟨model, member, Model.hasTag_iff.mp carries⟩
  | endpointType =>
      exact ((listing_endpointTypeNames models).mem_iff _).mpr
        ⟨model, member, List.contains_iff_mem.mp carries⟩
  | group | billing => exact absurd fromModels (by decide)

theorem listed_of_mem_offered {value : dimension.Value}
    (member : value ∈ offered models groups dimension) : dimension.listed value = value := by
  cases dimension with
  | tag =>
      rcases ((listing_tagNames models).mem_iff _).mp member with ⟨model, _, listed⟩
      exact Model.normalForm_of_mem_tagList listed
  | vendor | group | billing | endpointType => rfl

theorem exists_option_iff {value : dimension.Value} :
    (∃ option ∈ (compute models criteria groups translate).on dimension,
      option.value = .only value) ↔ value ∈ offered models groups dimension := by
  rw [← List.mem_map, values_on, List.mem_cons, or_iff_right nofun, List.mem_map]
  constructor
  · rintro ⟨other, listed, same⟩
    exact Choice.only.inj same ▸ listed
  · exact fun listed => ⟨value, listed, rfl⟩

theorem marked_of_chosen (sorted : groups.usable.IsSorted) {option : FacetOption dimension.Value}
    (member : option ∈ (compute models criteria groups translate).on dimension)
    (chosen : option.value = criteria.choice dimension) :
    (compute models criteria groups translate).marked criteria dimension = [option] := by
  rw [marked_eq, ← chosen]
  exact FacetOption.filter_value_eq (nodup_values models criteria translate sorted dimension) member

theorem marked_of_not_chosen
    (missing : ¬∃ option ∈ (compute models criteria groups translate).on dimension,
      option.value = criteria.choice dimension) :
    (compute models criteria groups translate).marked criteria dimension = [] := by
  rw [marked_eq]
  refine List.filter_eq_nil_iff.mpr fun option member chosen => missing ?_
  exact ⟨option, member, of_decide_eq_true chosen⟩

theorem length_marked_le (sorted : groups.usable.IsSorted) :
    ((compute models criteria groups translate).marked criteria dimension).length ≤ 1 := by
  by_cases chosen : ∃ option ∈ (compute models criteria groups translate).on dimension,
      option.value = criteria.choice dimension
  · rcases chosen with ⟨option, member, same⟩
    rw [marked_of_chosen sorted member same]
    exact Nat.le_refl 1
  · rw [marked_of_not_chosen chosen]
    exact Nat.zero_le 1

end Marks

/-- The text of the facets marks what is chosen. On every dimension at most one option is marked,
and the open choice, which comes first, is marked exactly when nothing is chosen. Where a vendor,
a tag or an endpoint type is chosen that some model has, the facet has an option that selects the
same models; it is the only one that can be marked, and it is marked exactly when the choice is
spelled as it is listed. -/
theorem marks_spelled_choice (models : List Model) (criteria : Criteria) {groups : Groups}
    (sorted : groups.usable.IsSorted) (translate : Translator) :
    let facets := compute models criteria groups translate
    facets.text criteria translate =
      .join "\n\n" (Dimension.all.map fun dimension =>
        .join "\n" (.inStyle .bold (translate dimension.title) ::
          (facets.on dimension).map (·.lineText (criteria.choice dimension)))) ∧
    ∀ dimension,
      (facets.marked criteria dimension).length ≤ 1 ∧
      (∃ first rest, facets.on dimension = first :: rest ∧ first.value = .all ∧
        (first ∈ facets.marked criteria dimension ↔ criteria.choice dimension = .all)) ∧
      (dimension ∈ [Dimension.vendor, .tag, .endpointType] →
        ∀ value, criteria.choice dimension = .only value →
          (∃ model ∈ models, model.meets criteria dimension = true) →
          ∃ option ∈ facets.on dimension,
            option.value = .only (dimension.listed value) ∧
            (criteria.choose dimension option.value).select models = criteria.select models ∧
            (dimension.listed value = value → facets.marked criteria dimension = [option]) ∧
            (dimension.listed value ≠ value → facets.marked criteria dimension = [])) := by
  intro facets
  refine ⟨text_eq_byDimension facets criteria translate,
    fun dimension => ⟨length_marked_le sorted, ?_, ?_⟩⟩
  · refine ⟨_, _, on_eq_offered models criteria groups translate dimension, rfl, ?_⟩
    rw [marked_eq, List.mem_filter, decide_eq_true_eq, on_eq_offered]
    exact ⟨fun marked => marked.2.symm, fun isOpen => ⟨List.mem_cons_self, isOpen.symm⟩⟩
  · intro fromModels value chosen ⟨model, member, meets⟩
    rw [Model.meets_eq_admits, chosen] at meets
    have isOffered : dimension.listed value ∈ offered models groups dimension :=
      listed_mem_offered fromModels member meets
    rcases exists_option_iff.mpr isOffered with ⟨option, listed, isListed⟩
    refine ⟨option, listed, isListed, ?_, ?_, ?_⟩
    · rw [isListed, Criteria.select_choose_listed chosen]
    · intro spelled
      refine marked_of_chosen sorted listed ?_
      rw [chosen, isListed, spelled]
    · intro misspelled
      refine marked_of_not_chosen fun found => misspelled ?_
      rw [chosen] at found
      exact listed_of_mem_offered (exists_option_iff.mp found)

/-- A tag chosen as it is listed is marked, and so is the unknown vendor beside a vendor of that
name. -/
theorem marks_spelled_choice_of_unknown_vendor :
    let model (vendor : Option String) (tags : String) : Model :=
      ⟨"m", vendor, some tags, [], none, [], none, none, none, none⟩
    let models := [model none "Fast", model (some "unknown") "new"]
    let groups : Groups := ⟨Keyed.ofPairs [("vip", "Important"), ("a", "All")], []⟩
    let criteria : Criteria :=
      { Criteria.unrestricted with vendor := .only .unknown, tag := .only "fast" }
    let facets := compute models criteria groups .unchanged
    groups.usable.IsSorted ∧
      (∃ model ∈ models, model.meets criteria .vendor = true) ∧
      (facets.marked criteria .vendor).map (·.value) = [.only .unknown] ∧
      (∃ model ∈ models, model.meets criteria .tag = true) ∧
      (facets.marked criteria .tag).map (·.value) = [.only "fast"] := by
  intro model models groups criteria facets
  have sorted : groups.usable.IsSorted := Keyed.isSorted_ofPairs _
  have marks := (marks_spelled_choice models criteria sorted .unchanged).2
  have vendor : ∃ model ∈ models, model.meets criteria .vendor = true :=
    ⟨model none "Fast", List.mem_cons_self, by decide +kernel⟩
  have tag : ∃ model ∈ models, model.meets criteria .tag = true :=
    ⟨model none "Fast", List.mem_cons_self, by decide +kernel⟩
  refine ⟨sorted, vendor, ?_, tag, ?_⟩
  · rcases (marks .vendor).2.2 (by decide) .unknown rfl vendor with
      ⟨option, _, value, _, marked, _⟩
    have one : facets.marked criteria .vendor = [option] := marked rfl
    rw [one, List.map_singleton, value]
    rfl
  · rcases (marks .tag).2.2 (by decide) "fast" rfl tag with ⟨option, _, value, _, marked, _⟩
    have spelled : Dimension.listed .tag "fast" = "fast" :=
      (by decide +kernel : Tags.normalForm "fast" = "fast")
    have one : facets.marked criteria .tag = [option] := marked spelled
    rw [one, List.map_singleton, value, spelled]

/-- A tag chosen in capitals is not marked, though models are selected by it. -/
theorem not_marked_in_capitals :
    let model : Model := ⟨"m", none, some "fast", [], none, [], none, none, none, none⟩
    let criteria : Criteria := { Criteria.unrestricted with tag := .only "FAST" }
    let facets := compute [model] criteria .empty .unchanged
    model.meets criteria .tag = true ∧ (criteria.select [model]).length = 1 ∧
      facets.marked criteria .tag = [] := by
  refine ⟨?_, ?_, ?_⟩ <;> decide +kernel

end Facets
end GatewayConsole
