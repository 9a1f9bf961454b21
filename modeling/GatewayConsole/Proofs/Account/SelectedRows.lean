import GatewayConsole.Account.Selection

/-!
# Selected rows

Which rows are selected after a toggle, and what the state of a page says about them. The ids
of a selection stay in strictly ascending order, so that a selection is known by its rows.
-/

namespace GatewayConsole
namespace Selection

variable {selection first second : Selection} {id other : Int64} {ids page : List Int64}

/-! ## Single ids -/

@[simp] theorem contains_iff : selection.contains id = true ↔ id ∈ selection.ids :=
  List.contains_iff_mem

@[simp] theorem mem_insertId : other ∈ insertId id ids ↔ other = id ∨ other ∈ ids := by
  induction ids with
  | nil => simp [insertId]
  | cons first rest induction =>
      rw [insertId]
      split
      next => exact List.mem_cons
      next =>
        split
        next same =>
          subst same
          exact ⟨.inr, fun member => member.elim (· ▸ List.mem_cons_self) (·)⟩
        next => rw [List.mem_cons, induction, List.mem_cons, or_left_comm]

@[simp] theorem mem_insert :
    other ∈ (selection.insert id).ids ↔ other = id ∨ other ∈ selection.ids :=
  mem_insertId

@[simp] theorem mem_erase :
    other ∈ (selection.erase id).ids ↔ other ∈ selection.ids ∧ other ≠ id := by
  rw [erase, List.mem_filter, decide_eq_true_eq]

@[simp] theorem not_mem_empty : id ∉ empty.ids :=
  List.not_mem_nil

/-! ## Ascending order -/

def IsSorted (selection : Selection) : Prop :=
  selection.ids.Pairwise (· < ·)

theorem isSorted_empty : empty.IsSorted :=
  .nil

theorem pairwise_insertId (sorted : ids.Pairwise (· < ·)) : (insertId id ids).Pairwise (· < ·) := by
  induction ids with
  | nil => exact List.pairwise_singleton _ _
  | cons first rest induction =>
      rcases List.pairwise_cons.mp sorted with ⟨least, tail⟩
      rw [insertId]
      split
      next before =>
        refine List.pairwise_cons.mpr ⟨fun later member => ?_, sorted⟩
        rcases List.mem_cons.mp member with rfl | member
        · exact before
        · exact Int64.lt_trans before (least later member)
      next notBefore =>
        split
        next => exact sorted
        next different =>
          have after : first < id :=
            Int64.lt_of_le_of_ne (Int64.not_lt.mp notBefore) (Ne.symm different)
          refine List.pairwise_cons.mpr ⟨fun later member => ?_, induction tail⟩
          rcases mem_insertId.mp member with rfl | member
          · exact after
          · exact least later member

theorem IsSorted.insert (sorted : selection.IsSorted) (id : Int64) :
    (selection.insert id).IsSorted :=
  pairwise_insertId sorted

theorem IsSorted.erase (sorted : selection.IsSorted) (id : Int64) :
    (selection.erase id).IsSorted :=
  List.Pairwise.filter _ sorted

theorem IsSorted.nodup (sorted : selection.IsSorted) : selection.ids.Nodup :=
  List.Pairwise.imp Int64.ne_of_lt sorted

theorem IsSorted.ext (sorted : first.IsSorted) (otherSorted : second.IsSorted)
    (same : ∀ id, id ∈ first.ids ↔ id ∈ second.ids) : first = second := by
  have shuffled : first.ids.Perm second.ids :=
    (List.perm_ext_iff_of_nodup sorted.nodup otherSorted.nodup).mpr same
  have equal : first.ids = second.ids := by
    refine shuffled.eq_of_pairwise ?_ sorted otherSorted
    intro left right _ _ before after
    exact absurd after (Int64.lt_asymm before)
  cases first
  exact congrArg Selection.mk equal

/-! ## Pages -/

theorem mem_foldl_insert :
    id ∈ (page.foldl insert selection).ids ↔ id ∈ selection.ids ∨ id ∈ page := by
  induction page generalizing selection with
  | nil => simp
  | cons row rest induction =>
      rw [List.foldl_cons, induction, mem_insert, List.mem_cons, or_comm (a := id = row), or_assoc]

theorem mem_foldl_erase :
    id ∈ (page.foldl erase selection).ids ↔ id ∈ selection.ids ∧ id ∉ page := by
  induction page generalizing selection with
  | nil => simp
  | cons row rest induction =>
      rw [List.foldl_cons, induction, mem_erase, List.mem_cons, not_or, and_assoc]

theorem IsSorted.foldl_insert (sorted : selection.IsSorted) (page : List Int64) :
    (page.foldl Selection.insert selection).IsSorted := by
  induction page generalizing selection with
  | nil => exact sorted
  | cons row rest induction => exact induction (sorted.insert row)

theorem IsSorted.foldl_erase (sorted : selection.IsSorted) (page : List Int64) :
    (page.foldl Selection.erase selection).IsSorted := by
  induction page generalizing selection with
  | nil => exact sorted
  | cons row rest induction => exact induction (sorted.erase row)

theorem mem_ofIds : id ∈ (ofIds ids).ids ↔ id ∈ ids := by
  rw [ofIds, mem_foldl_insert, or_iff_right not_mem_empty]

theorem isSorted_ofIds (ids : List Int64) : (ofIds ids).IsSorted :=
  isSorted_empty.foldl_insert ids

/-! ## The state of a page -/

theorem countOnPage_eq_zero_iff :
    selection.countOnPage page = 0 ↔ ∀ id ∈ page, id ∉ selection.ids := by
  simp only [countOnPage, List.countP_eq_zero, contains_iff]

theorem countOnPage_eq_length_iff :
    selection.countOnPage page = page.length ↔ ∀ id ∈ page, id ∈ selection.ids := by
  simp only [countOnPage, List.countP_eq_length, contains_iff]

theorem pageState_eq_none_iff :
    selection.pageState page = .none ↔ ∀ id ∈ page, id ∉ selection.ids := by
  rw [← countOnPage_eq_zero_iff, pageState]
  split
  next none => exact ⟨fun _ => none, fun _ => rfl⟩
  next some => split <;> exact ⟨nofun, fun none => absurd none some⟩

theorem pageState_eq_all_iff :
    selection.pageState page = .all ↔ page ≠ [] ∧ ∀ id ∈ page, id ∈ selection.ids := by
  rw [← countOnPage_eq_length_iff, pageState]
  split
  next none =>
    refine ⟨nofun, fun ⟨nonempty, whole⟩ => ?_⟩
    exact absurd (List.length_eq_zero_iff.mp (whole.symm.trans none)) nonempty
  next some =>
    split
    next whole =>
      refine ⟨fun _ => ⟨?_, whole⟩, fun _ => rfl⟩
      rintro rfl
      exact some rfl
    next part => exact ⟨nofun, fun all => absurd all.2 part⟩

theorem pageState_eq_partly_iff :
    selection.pageState page = .partly ↔
      (∃ id ∈ page, id ∈ selection.ids) ∧ ∃ id ∈ page, id ∉ selection.ids := by
  have partly : selection.pageState page = .partly ↔
      selection.pageState page ≠ .none ∧ selection.pageState page ≠ .all := by
    cases selection.pageState page <;> decide
  rw [partly, Ne, pageState_eq_none_iff, Ne, pageState_eq_all_iff]
  constructor
  · rintro ⟨notNone, notAll⟩
    have selected : ∃ id ∈ page, id ∈ selection.ids := by simpa using notNone
    rcases selected with ⟨id, member, selected⟩
    have missing : ¬∀ id ∈ page, id ∈ selection.ids :=
      fun whole => notAll ⟨List.ne_nil_of_mem member, whole⟩
    exact ⟨⟨id, member, selected⟩, by simpa using missing⟩
  · rintro ⟨⟨id, member, selected⟩, other, otherMember, missing⟩
    exact ⟨fun none => none id member selected, fun all => missing (all.2 other otherMember)⟩

/-! ## Toggles -/

theorem mem_toggleRow_same : id ∈ (selection.toggleRow id).ids ↔ id ∉ selection.ids := by
  rw [toggleRow]
  split
  next selected => simp [contains_iff.mp selected]
  next missing => simp [mt contains_iff.mpr missing]

theorem mem_toggleRow_other (different : other ≠ id) :
    other ∈ (selection.toggleRow id).ids ↔ other ∈ selection.ids := by
  rw [toggleRow]
  split
  next => rw [mem_erase, and_iff_left different]
  next => rw [mem_insert, or_iff_right different]

theorem mem_togglePage_of_mem (member : id ∈ page) :
    id ∈ (selection.togglePage page).ids ↔ selection.pageState page ≠ .all := by
  rw [togglePage]
  split
  next all => simp [mem_foldl_erase, member, all]
  next notAll => simp [mem_foldl_insert, member, notAll]

theorem mem_togglePage_of_not_mem (elsewhere : id ∉ page) :
    id ∈ (selection.togglePage page).ids ↔ id ∈ selection.ids := by
  rw [togglePage]
  split
  next => rw [mem_foldl_erase, and_iff_left elsewhere]
  next => rw [mem_foldl_insert, or_iff_left elsewhere]

theorem IsSorted.toggleRow (sorted : selection.IsSorted) (id : Int64) :
    (selection.toggleRow id).IsSorted := by
  rw [Selection.toggleRow]
  split
  next => exact sorted.erase id
  next => exact sorted.insert id

theorem IsSorted.togglePage (sorted : selection.IsSorted) (page : List Int64) :
    (selection.togglePage page).IsSorted := by
  rw [Selection.togglePage]
  split
  next => exact sorted.foldl_erase page
  next => exact sorted.foldl_insert page

end Selection

/-! ## Runs -/

inductive Toggle
  | row (id : Int64)
  | page (ids : List Int64)
deriving DecidableEq

namespace Toggle

def ids : Toggle → List Int64
  | row id => [id]
  | page ids => ids

def apply (selection : Selection) : Toggle → Selection
  | row id => selection.toggleRow id
  | page ids => selection.togglePage ids

def answer (selection : Selection) : Toggle → Option Bool
  | row id => some ((selection.toggleRow id).contains id)
  | page _ => none

theorem isSorted_apply {selection : Selection} (sorted : selection.IsSorted) (toggle : Toggle) :
    (toggle.apply selection).IsSorted := by
  cases toggle with
  | row id => exact sorted.toggleRow id
  | page ids => exact sorted.togglePage ids

theorem mem_apply_of_not_mem {selection : Selection} {toggle : Toggle} {id : Int64}
    (elsewhere : id ∉ toggle.ids) :
    id ∈ (toggle.apply selection).ids ↔ id ∈ selection.ids := by
  cases toggle with
  | row other => exact Selection.mem_toggleRow_other (List.ne_of_not_mem_cons elsewhere)
  | page ids => exact Selection.mem_togglePage_of_not_mem elsewhere

/-- The rows of a toggle end up alike: a row is toggled like a page that has only this row. -/
theorem mem_apply_of_mem {selection : Selection} {toggle : Toggle} {id : Int64}
    (member : id ∈ toggle.ids) :
    id ∈ (toggle.apply selection).ids ↔ selection.pageState toggle.ids ≠ .all := by
  cases toggle with
  | row other =>
      rw [List.mem_singleton.mp member, apply, Selection.mem_toggleRow_same, Ne,
        Selection.pageState_eq_all_iff]
      simp [ids]
  | page ids => exact Selection.mem_togglePage_of_mem member

end Toggle
end GatewayConsole
