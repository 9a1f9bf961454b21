import GatewayConsole.Pricing.Matching
import GatewayConsole.Proofs.Text.LowerCase

/-!
# Tags in normal form

The tags of a text are the normal forms of its pieces, without the empty one. Taking the
normal form twice is taking it once, so a listed tag is found under its own name.
-/

namespace GatewayConsole
namespace Tags

variable {tag name raw : String} {names : List String}

@[simp] theorem normalForm_normalForm (tag : String) :
    normalForm (normalForm tag) = normalForm tag := by
  rw [normalForm, normalForm, Text.trim_lower_trim, Text.lower_lower]

theorem normalForm_of_blank {text : String} (blank : Text.isBlankText text = true) :
    normalForm text = "" := by
  apply String.toList_inj.mp
  rw [normalForm, Text.toList_lower, Text.toList_trim, Text.trimChars_of_blank blank]
  rfl

@[simp] theorem mem_firstOccurrences : name ∈ firstOccurrences names ↔ name ∈ names := by
  induction names with
  | nil => rfl
  | cons first rest induction =>
      rw [firstOccurrences, List.mem_cons, List.mem_filter, induction, decide_eq_true_eq,
        List.mem_cons]
      by_cases same : name = first <;> simp [same]

theorem mem_ofText :
    tag ∈ ofText raw ↔ tag ≠ "" ∧ ∃ piece ∈ pieces raw, normalForm piece = tag := by
  rw [ofText, mem_firstOccurrences, List.mem_filter, List.mem_map, decide_eq_true_eq, and_comm]

theorem normalForm_of_mem_ofText (member : tag ∈ ofText raw) : normalForm tag = tag := by
  rcases (mem_ofText.mp member).2 with ⟨piece, _, rfl⟩
  exact normalForm_normalForm piece

end Tags

namespace Model

variable {model : Model} {tag : String}

theorem mem_tagList : tag ∈ model.tagList ↔ ∃ raw ∈ model.tags, tag ∈ Tags.ofText raw := by
  cases tags : model.tags <;> simp [tagList, tags]

theorem hasTag_iff : model.hasTag tag = true ↔ Tags.normalForm tag ∈ model.tagList := by
  cases tags : model.tags <;> simp [hasTag, tagList, tags]

theorem normalForm_of_mem_tagList (member : tag ∈ model.tagList) : Tags.normalForm tag = tag := by
  rcases mem_tagList.mp member with ⟨raw, _, listed⟩
  exact Tags.normalForm_of_mem_ofText listed

theorem hasTag_of_mem_tagList (member : tag ∈ model.tagList) : model.hasTag tag = true := by
  rwa [hasTag_iff, normalForm_of_mem_tagList member]

end Model
end GatewayConsole
