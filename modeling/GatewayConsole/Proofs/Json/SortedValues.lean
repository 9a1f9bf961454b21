import GatewayConsole.Proofs.Json.WrittenRecord
import GatewayConsole.Proofs.Text.Keyed

/-!
# Sorted values

Values are sorted by key when they are read. So a value whose objects are sorted is read from
a text that is one of it, part for part.
-/

namespace GatewayConsole
namespace Json

variable {Gap : Type}

/-! ## Values with sorted keys -/

mutual
def keysAscend : Json → Bool
  | .array items => itemsAscend items
  | .object members => decide ((Keyed.keys members).Pairwise (· < ·)) && membersAscend members
  | _ => true

def itemsAscend : List Json → Bool
  | [] => true
  | item :: rest => keysAscend item && itemsAscend rest

def membersAscend : List (String × Json) → Bool
  | [] => true
  | (_, value) :: rest => keysAscend value && membersAscend rest
end

mutual
theorem value?_asTree : ∀ {json : Json}, json.keysAscend = true →
    (json.asTree : JsonTree Gap).value? = some json
  | .null, _ | .bool _, _ | .integer _, _ | .real _, _ | .text _, _ => rfl
  | .array items, ascend => by
      rw [asTree, JsonTree.value?, itemValues?_itemTrees ascend]
      rfl
  | .object members, ascend => by
      rw [keysAscend, Bool.and_eq_true, decide_eq_true_iff] at ascend
      have sorted := Keyed.ofPairs_of_isSorted ascend.1
      rw [asTree, JsonTree.value?, memberValues?_memberTrees ascend.2]
      exact congrArg (Option.map JsonTree.object ∘ some) sorted

theorem itemValues?_itemTrees : ∀ {items : List Json}, itemsAscend items = true →
    JsonTree.itemValues? (itemTrees items : List (JsonTree Gap)) = some items
  | [], _ => rfl
  | item :: rest, ascend => by
      rw [itemsAscend, Bool.and_eq_true] at ascend
      rw [itemTrees, JsonTree.itemValues?, value?_asTree ascend.1, itemValues?_itemTrees ascend.2]
      rfl

theorem memberValues?_memberTrees : ∀ {members : List (String × Json)} {sorted : Keyed Json},
    membersAscend members = true →
      JsonTree.memberValues? sorted (memberTrees members : Fields Gap) =
        some (members.foldl (fun keyed pair => Keyed.put pair.1 pair.2 keyed) sorted)
  | [], _, _ => rfl
  | (key, value) :: rest, sorted, ascend => by
      rw [membersAscend, Bool.and_eq_true] at ascend
      rw [memberTrees, JsonTree.memberValues?, value?_asTree ascend.1]
      exact memberValues?_memberTrees ascend.2
end

/-! ## Texts of values -/

/-- Whether a text is one of a value: it is read as the value, part for part. -/
structure HasText (json : Json) (text : String) : Prop where
  document : Document.ofText? text = some json.asTree
  value : (json.asTree : Document).value? = some json

theorem hasText_of_ascend {json : Json} {text : String} (ascend : json.keysAscend = true)
    (document : Document.ofText? text = some json.asTree) : json.HasText text :=
  ⟨document, value?_asTree ascend⟩

theorem HasText.ofText? {json : Json} {text : String} (hasText : json.HasText text) :
    Json.ofText? text = some json := by
  rw [Json.ofText?, hasText.document]
  exact hasText.value

end Json
end GatewayConsole
