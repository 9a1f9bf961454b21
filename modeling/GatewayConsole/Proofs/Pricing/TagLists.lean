import GatewayConsole.Proofs.Pricing.NormalTags
import GatewayConsole.Proofs.Text.Pieces

/-!
# Lists of tags

The tags of a text are the normal forms of its pieces, but for blank ones, each where it first
appears. No tag holds a delimiter, so that a list of tags comes back from the text that it is
joined to.
-/

namespace GatewayConsole
namespace Tags

variable {tag raw other : String} {names tags : List String} {char mark : Char}

/-! ## First occurrences -/

theorem firstOccurrences_of_nodup (once : names.Nodup) : firstOccurrences names = names := by
  induction names with
  | nil => rfl
  | cons name rest induction =>
      have parts := List.nodup_cons.mp once
      rw [firstOccurrences, induction parts.2, List.filter_eq_self.mpr]
      intro other member
      exact decide_eq_true fun same => parts.1 (same ▸ member)

def InOrderOf (names members : List String) : Prop :=
  members.Pairwise fun first second => names.idxOf first < names.idxOf second

theorem inOrderOf_firstOccurrences (names : List String) :
    InOrderOf names (firstOccurrences names) := by
  induction names with
  | nil => exact List.Pairwise.nil
  | cons name rest induction =>
      have ne_of_mem {other : String}
          (member : other ∈ (firstOccurrences rest).filter (· ≠ name)) : name ≠ other :=
        (of_decide_eq_true (List.mem_filter.mp member).2).symm
      rw [firstOccurrences]
      refine List.Pairwise.cons (fun other member => ?_) ?_
      · rw [List.idxOf_cons_self, List.idxOf_cons_ne _ (ne_of_mem member)]
        exact Nat.succ_pos _
      · refine (induction.filter _).imp_of_mem fun first second before => ?_
        rw [List.idxOf_cons_ne _ (ne_of_mem first), List.idxOf_cons_ne _ (ne_of_mem second)]
        exact Nat.succ_lt_succ before

theorem InOrderOf.nodup (order : InOrderOf names tags) : tags.Nodup :=
  order.imp fun before => by
    rintro rfl
    exact Nat.lt_irrefl _ before

/-! ## Tags -/

structure IsTag (tag : String) : Prop where
  named : tag ≠ ""
  trimmed : Text.trim tag = tag
  small : Text.lower tag = tag
  whole : ∀ char ∈ tag.toList, isDelimiter char = false

def normalPieces (raw : String) : List String :=
  ((raw.toList.splitOnP isDelimiter).map fun piece => normalForm (String.ofList piece)).filter
    (· ≠ "")

theorem ofText_eq (raw : String) : ofText raw = firstOccurrences (normalPieces raw) := by
  rw [ofText, pieces, Text.splitWhere_eq_splitOnP, List.map_map]
  rfl

theorem mem_ofText_iff_piece :
    tag ∈ ofText raw ↔ tag ≠ "" ∧
      ∃ piece ∈ raw.toList.splitOnP isDelimiter, normalForm (String.ofList piece) = tag := by
  rw [ofText_eq, mem_firstOccurrences, normalPieces, List.mem_filter, List.mem_map,
    decide_eq_true_eq, and_comm]

theorem isMark_of_isDelimiter (delimits : isDelimiter char = true) : Text.IsMark char := by
  rw [isDelimiter, Bool.or_eq_true, Bool.or_eq_true, beq_iff_eq, beq_iff_eq, beq_iff_eq] at delimits
  rcases delimits with (rfl | rfl) | rfl <;> decide

theorem not_isDelimiter_of_mem_normalForm (uncut : ∀ char ∈ tag.toList, isDelimiter char = false) :
    ∀ char ∈ (normalForm tag).toList, isDelimiter char = false := by
  intro char member
  by_contra delimits
  have isMark := isMark_of_isDelimiter (eq_true_of_ne_false delimits)
  rw [normalForm, Text.toList_lower, Text.toList_trim] at member
  have kept := Text.mem_of_isMark_of_mem_lowerAfter isMark member
  exact delimits (uncut char ((Text.trimChars_sublist tag.toList).subset kept))

theorem isTag_of_mem_ofText (member : tag ∈ ofText raw) : IsTag tag := by
  rcases mem_ofText_iff_piece.mp member with ⟨named, piece, isPiece, rfl⟩
  refine ⟨named, ?_, ?_, not_isDelimiter_of_mem_normalForm fun char inPiece => ?_⟩
  · rw [normalForm, Text.trim_lower_trim]
  · rw [normalForm, Text.lower_lower]
  · rw [String.toList_ofList] at inPiece
    exact (Text.mem_of_mem_piece isPiece inPiece).2

/-! ## Joined tags -/

theorem normalPieces_intercalate (delimits : isDelimiter mark = true)
    (areTags : ∀ tag ∈ tags, IsTag tag) :
    normalPieces ((String.singleton mark).intercalate tags) = tags := by
  have normal : (tags.map fun tag => normalForm (String.ofList tag.toList)) = tags := by
    refine (List.map_congr_left fun tag member => ?_).trans (List.map_id tags)
    have isTag := areTags tag member
    rw [String.ofList_toList, normalForm, isTag.trimmed, isTag.small, id]
  rw [normalPieces, String.toList_intercalate, String.toList_singleton]
  cases tags with
  | nil =>
      have blank : normalForm (String.ofList []) = "" := normalForm_of_blank rfl
      change [normalForm (String.ofList [])].filter (· ≠ "") = []
      rw [blank]
      rfl
  | cons tag rest =>
      have occupied : (tag :: rest).map String.toList ≠ [] := List.cons_ne_nil _ _
      have uncut : ∀ piece ∈ (tag :: rest).map String.toList, ∀ char ∈ piece,
          isDelimiter char = false := by
        intro piece member
        rcases List.mem_map.mp member with ⟨tag, listed, rfl⟩
        exact (areTags tag listed).whole
      rw [Text.splitOnP_intercalate delimits occupied uncut, List.map_map]
      refine (congrArg (List.filter _) normal).trans (List.filter_eq_self.mpr ?_)
      exact fun tag member => decide_eq_true (areTags tag member).named

theorem ofText_intercalate (delimits : isDelimiter mark = true) (once : tags.Nodup)
    (areTags : ∀ tag ∈ tags, IsTag tag) :
    ofText ((String.singleton mark).intercalate tags) = tags := by
  rw [ofText_eq, normalPieces_intercalate delimits areTags, firstOccurrences_of_nodup once]

theorem ofText_of_sameButFor
    (same : Text.SameButFor isDelimiter raw.toList other.toList) : ofText other = ofText raw := by
  rw [ofText_eq, ofText_eq, normalPieces, normalPieces, same.splitOnP_eq]

/-! ## The tags of a text -/

/-- The tags of a text are in normal form and whole. They are the trimmed pieces of the text in
lower case, but for empty ones, each once and in the order in which they first appear. Which
delimiters cut the text does not matter, and the tags come back when any delimiter joins them.
A model has the tags, however they are spelled, that are in its list in normal form. -/
theorem lists_tags_in_normal_form (raw : String) :
    (∀ tag ∈ ofText raw, IsTag tag) ∧
    (∀ tag, tag ∈ ofText raw ↔ tag ≠ "" ∧ ∃ piece ∈ raw.toList.splitOnP isDelimiter,
      Text.lower (Text.trim (String.ofList piece)) = tag) ∧
    (ofText raw).Nodup ∧ InOrderOf (normalPieces raw) (ofText raw) ∧
    (∀ other : String, Text.SameButFor isDelimiter raw.toList other.toList →
      ofText other = ofText raw) ∧
    (∀ mark, isDelimiter mark = true →
      ofText ((String.singleton mark).intercalate (ofText raw)) = ofText raw) ∧
    ∀ (model : Model) (tag : String),
      model.hasTag tag = true ↔ Text.lower (Text.trim tag) ∈ model.tagList := by
  have order : InOrderOf (normalPieces raw) (ofText raw) := by
    rw [ofText_eq]
    exact inOrderOf_firstOccurrences _
  have areTags : ∀ tag ∈ ofText raw, IsTag tag := fun _ => isTag_of_mem_ofText
  exact ⟨areTags, fun _ => mem_ofText_iff_piece, order.nodup, order, fun _ => ofText_of_sameButFor,
    fun _ delimits => ofText_intercalate delimits order.nodup areTags, fun _ _ => Model.hasTag_iff⟩

theorem lists_tags_in_normal_form_of_mixed_delimiters :
    let raw := "Fast, NEW;fast|| vision "
    let other := "Fast| NEW,fast;; vision "
    ofText raw = ["fast", "new", "vision"] ∧ "new" ∈ ofText raw ∧ IsTag "new" ∧
      Text.SameButFor isDelimiter raw.toList other.toList ∧ ofText other = ofText raw ∧
      isDelimiter '|' = true ∧ ofText "fast|new|vision" = ofText raw := by
  intro raw other
  rcases lists_tags_in_normal_form raw with ⟨areTags, _, _, _, redelimited, rejoined, _⟩
  have listed : ofText raw = ["fast", "new", "vision"] := by decide +kernel
  have member : "new" ∈ ofText raw := by
    rw [listed]
    decide
  have same : Text.SameButFor isDelimiter raw.toList other.toList := by decide +kernel
  have joined := rejoined '|' rfl
  rw [listed] at joined
  exact ⟨listed, member, areTags "new" member, same, redelimited other same, rfl,
    joined.trans listed.symm⟩

end Tags
end GatewayConsole
