import GatewayConsole.Proofs.Pricing.SingleCriteria
import GatewayConsole.Proofs.Text.PartsInLowerCase

/-!
# Searching

What a search finds. Names and vendors are compared in lower case with the search text in lower
case, each on its own. A name that holds the search text as it stands is found unless a capital
sigma becomes another letter in the name than in the search text: then it can be lost.
-/

namespace GatewayConsole

/-! ## What is searched -/

def Model.IsNamed (model : Model) (text : String) : Prop :=
  text = model.name ∨ model.vendor = some text

def Criteria.searching (search : String) : Criteria :=
  { Criteria.unrestricted with search }

variable {model : Model} {models : List Model} {text search keyword : String}

theorem Model.mentions_iff :
    model.mentions keyword = true ↔
      keyword = "" ∨ ∃ text, model.IsNamed text ∧ keyword.toList <:+: (Text.lower text).toList := by
  have holds (text : String) : Text.contains (Text.lower text) keyword = true ↔
      keyword.toList <:+: (Text.lower text).toList :=
    Text.occursIn_iff _ _
  simp only [mentions, IsNamed, Bool.or_eq_true, beq_iff_eq, Option.any_eq_true, holds, or_assoc,
    or_and_right, exists_or, exists_eq_left]

theorem Criteria.mem_select_searching :
    model ∈ (searching search).select models ↔
      model ∈ models ∧ model.mentions (Tags.normalForm search) = true := by
  have only : (searching search).single .search = searching search := rfl
  rw [← only, select_single, List.mem_filter]
  exact Iff.rfl

theorem Tags.toList_normalForm (text : String) :
    (normalForm text).toList = Text.lowerChars (Text.trim text).toList := by
  rw [normalForm, Text.toList_lower]

/-! ## Verbatim matches -/

theorem Criteria.found_of_looksAlone {before after : List Char} (listed : model ∈ models)
    (isText : model.IsNamed text)
    (occurs : text.toList = before ++ (Text.trim search).toList ++ after)
    (alone : Text.LooksAlone before (Text.trim search).toList after) :
    model ∈ (searching search).select models := by
  refine mem_select_searching.mpr ⟨listed, Model.mentions_iff.mpr (.inr ⟨text, isText, ?_⟩)⟩
  rw [Tags.toList_normalForm, Text.toList_lower, occurs]
  exact Text.infix_of_looksAlone alone

/-- A model whose name or vendor holds the search text as it stands is found when the sigmas of
the search text end a word there exactly where they do so on their own; so it is always found
when the search text has no capital sigma. -/
theorem Criteria.finds_verbatim_but_for_sigmas (listed : model ∈ models)
    (isText : model.IsNamed text) :
    (∀ before after, text.toList = before ++ (Text.trim search).toList ++ after →
      Text.SigmasAgree before.reverse [] (Text.trim search).toList after [] →
      model ∈ (searching search).select models) ∧
    ('Σ' ∉ (Text.trim search).toList → (Text.trim search).toList <:+: text.toList →
      model ∈ (searching search).select models) := by
  have found (before after : List Char)
      (occurs : text.toList = before ++ (Text.trim search).toList ++ after)
      (agree : Text.SigmasAgree before.reverse [] (Text.trim search).toList after []) :
      model ∈ (searching search).select models :=
    found_of_looksAlone listed isText occurs (Text.looksAlone_iff.mpr agree)
  refine ⟨found, ?_⟩
  rintro none ⟨before, after, occurs⟩
  exact found before after occurs.symm (Text.sigmasAgree_of_not_mem none)

/-- A word that ends in a sigma is found in front of a hyphen. -/
theorem Criteria.finds_word_with_final_sigma :
    let model : Model := ⟨"ΟΔΟΣ-1", some "Ab", none, [], none, [], none, none, none, none⟩
    let search := " ΟΔΟΣ "
    model.IsNamed "ΟΔΟΣ-1" ∧ model.IsNamed "Ab" ∧
      "ΟΔΟΣ-1".toList = [] ++ (Text.trim search).toList ++ ['-', '1'] ∧
      Text.SigmasAgree [] [] (Text.trim search).toList ['-', '1'] [] ∧
      model ∈ (searching search).select [model] ∧ model ∈ (searching "b").select [model] := by
  intro model search
  have isName : model.IsNamed "ΟΔΟΣ-1" := .inl rfl
  have isVendor : model.IsNamed "Ab" := .inr (by decide +kernel)
  have occurs : "ΟΔΟΣ-1".toList = [] ++ (Text.trim search).toList ++ ['-', '1'] := by
    decide +kernel
  have alone : Text.LooksAlone [] (Text.trim search).toList ['-', '1'] := by
    unfold Text.LooksAlone
    decide +kernel
  have agree : Text.SigmasAgree [] [] (Text.trim search).toList ['-', '1'] [] :=
    Text.looksAlone_iff.mp alone
  have listed : model ∈ [model] := List.mem_singleton_self model
  refine ⟨isName, isVendor, occurs, agree, ?_, ?_⟩
  · exact (finds_verbatim_but_for_sigmas listed isName).1 [] ['-', '1'] occurs agree
  · exact (finds_verbatim_but_for_sigmas listed isVendor).2 (by decide +kernel)
      ⟨['A'], [], by decide +kernel⟩

/-- A word that ends in a sigma is lost where the name goes on with a letter. -/
theorem Criteria.loses_word_with_final_sigma :
    let model : Model := ⟨"ΚΟΣΜΟΣΝΕΤ", none, none, [], none, [], none, none, none, none⟩
    let search := "ΚΟΣΜΟΣ"
    (Text.trim search).toList ≠ [] ∧ (Text.trim search).toList <:+: model.name.toList ∧
      model ∉ (searching search).select [model] := by
  intro model search
  have unmentioned : model.mentions (Tags.normalForm search) = false := by decide +kernel
  refine ⟨by decide +kernel, ⟨[], "ΝΕΤ".toList, by decide +kernel⟩, fun found => ?_⟩
  exact nomatch unmentioned.symm.trans (mem_select_searching.mp found).2

end GatewayConsole
