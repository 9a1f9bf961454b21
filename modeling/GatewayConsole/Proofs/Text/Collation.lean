import GatewayConsole.Text.Collation

/-!
# Names in display order

Display order is a total order, so sorting names and dropping repeats gives the one list that
has each of them once in ascending order.
-/

namespace GatewayConsole
namespace Text

/-! ## The order -/

instance : Std.TransCmp displayOrder :=
  inferInstanceAs (Std.TransCmp (compareLex (compareOn lower) compare))

instance : Std.LawfulEqCmp displayOrder where
  eq_of_compare {left right} equal := by
    rw [displayOrder, Ordering.then_eq_eq] at equal
    exact Std.LawfulEqCmp.eq_of_compare equal.2

def Precedes (left right : String) : Prop :=
  displayOrder left right = .lt

variable {left middle right name : String} {names others : List String}

theorem Precedes.trans (first : Precedes left middle) (second : Precedes middle right) :
    Precedes left right :=
  Std.TransCmp.lt_trans first second

theorem Precedes.ne (precedes : Precedes left right) : left ≠ right := by
  rintro rfl
  have self : displayOrder left left = .eq := Std.ReflCmp.compare_self
  exact absurd (self.symm.trans precedes) nofun

theorem precedes_iff :
    Precedes left right ↔
      lower left < lower right ∨ lower left = lower right ∧ left < right := by
  have less (first second : String) : compare first second = .lt ↔ first < second :=
    compareOfLessAndEq_eq_lt
  rw [Precedes, displayOrder, Ordering.then_eq_lt, less, less,
    Std.LawfulEqCmp.compare_eq_iff_eq]

theorem displaysBefore_iff_isLE :
    displaysBefore left right = true ↔ (displayOrder left right).isLE = true := by
  rw [displaysBefore]
  cases displayOrder left right <;> decide

theorem displaysBefore_trans (left middle right : String)
    (first : displaysBefore left middle = true) (second : displaysBefore middle right = true) :
    displaysBefore left right = true := by
  rw [displaysBefore_iff_isLE] at first second ⊢
  exact Std.TransCmp.isLE_trans first second

theorem displaysBefore_total (left right : String) :
    (displaysBefore left right || displaysBefore right left) = true := by
  have swap : displayOrder left right = (displayOrder right left).swap := Std.OrientedCmp.eq_swap
  rw [displaysBefore, displaysBefore, swap]
  cases displayOrder right left <;> decide

theorem precedes_of_displaysBefore (before : displaysBefore left right = true)
    (different : left ≠ right) : Precedes left right := by
  rw [displaysBefore_iff_isLE, Ordering.isLE_iff_eq_lt_or_eq_eq] at before
  exact before.resolve_right fun equal => different (Std.LawfulEqCmp.eq_of_compare equal)

/-! ## Dropping repeats -/

@[simp] theorem mem_dropRepeats : name ∈ dropRepeats names ↔ name ∈ names := by
  induction names using dropRepeats.induct with
  | case1 => rfl
  | case2 only => rfl
  | case3 first next rest repeated induction =>
      rw [dropRepeats, if_pos repeated, induction, eq_of_beq repeated]
      simp
  | case4 first next rest different induction =>
      rw [dropRepeats, if_neg different, List.mem_cons, induction, List.mem_cons (b := first)]

theorem ascending_dropRepeats (sorted : names.Pairwise (displaysBefore · · = true)) :
    (dropRepeats names).Pairwise Precedes := by
  induction names using dropRepeats.induct with
  | case1 => exact .nil
  | case2 only => exact List.pairwise_singleton _ _
  | case3 first next rest repeated induction =>
      rw [dropRepeats, if_pos repeated]
      exact induction sorted.of_cons
  | case4 first next rest different induction =>
      rw [dropRepeats, if_neg different]
      rcases List.pairwise_cons.mp sorted with ⟨before, tail⟩
      refine List.pairwise_cons.mpr ⟨?_, induction tail⟩
      intro name member
      have ahead := precedes_of_displaysBefore (before next List.mem_cons_self)
        (by simpa using different)
      rcases List.mem_cons.mp (mem_dropRepeats.mp member) with rfl | later
      · exact ahead
      · by_cases same : next = name
        · exact same ▸ ahead
        · exact ahead.trans
            (precedes_of_displaysBefore ((List.pairwise_cons.mp tail).1 name later) same)

/-! ## Sorted lists -/

@[simp] theorem mem_sortedUnique : name ∈ sortedUnique names ↔ name ∈ names := by
  rw [sortedUnique, mem_dropRepeats, List.mem_mergeSort]

theorem ascending_sortedUnique (names : List String) :
    (sortedUnique names).Pairwise Precedes :=
  ascending_dropRepeats
    (List.pairwise_mergeSort displaysBefore_trans displaysBefore_total names)

theorem nodup_of_ascending (ascending : names.Pairwise Precedes) : names.Nodup :=
  ascending.imp Precedes.ne

theorem eq_of_ascending (ascending : names.Pairwise Precedes)
    (otherAscending : others.Pairwise Precedes) (same : ∀ name, name ∈ names ↔ name ∈ others) :
    names = others := by
  have shuffled : names.Perm others :=
    (List.perm_ext_iff_of_nodup (nodup_of_ascending ascending)
      (nodup_of_ascending otherAscending)).mpr same
  -- The order has no cycles, so there is only one way to put the same names in order.
  refine shuffled.eq_of_pairwise ?_ ascending otherAscending
  intro left right _ _ first second
  exact absurd rfl (first.trans second).ne

theorem sortedUnique_congr (same : ∀ name, name ∈ names ↔ name ∈ others) :
    sortedUnique names = sortedUnique others := by
  refine eq_of_ascending (ascending_sortedUnique names) (ascending_sortedUnique others) ?_
  simpa using same

theorem sortedUnique_eq_iff :
    sortedUnique names = others ↔
      others.Pairwise Precedes ∧ ∀ name, name ∈ others ↔ name ∈ names := by
  constructor
  · rintro rfl
    exact ⟨ascending_sortedUnique names, fun name => mem_sortedUnique⟩
  · intro ⟨ascending, same⟩
    apply eq_of_ascending (ascending_sortedUnique names) ascending
    intro name
    rw [mem_sortedUnique, same]

theorem sortedUnique_eq_sortedUnique_iff :
    sortedUnique others = sortedUnique names ↔ ∀ name, name ∈ others ↔ name ∈ names := by
  constructor
  · intro equal name
    rw [← mem_sortedUnique, equal, mem_sortedUnique]
  · exact sortedUnique_congr

/-- Display order is a total order, by lower-case forms first. Whatever names are given, in any
order and with any repeats, their list in display order is the only ascending one that has
the same members; so putting it in order again does not change it. -/
theorem sorts_names_in_one_way :
    (∀ left right, displayOrder left right = .eq ↔ left = right) ∧
      (∀ left right, displayOrder right left = (displayOrder left right).swap) ∧
      (∀ left middle right, (displayOrder left middle).isLE = true →
        (displayOrder middle right).isLE = true → (displayOrder left right).isLE = true) ∧
      (∀ left right, Precedes left right ↔
        lower left < lower right ∨ lower left = lower right ∧ left < right) ∧
      ∀ names,
        (∀ others, sortedUnique names = others ↔
          others.Pairwise Precedes ∧ ∀ name, name ∈ others ↔ name ∈ names) ∧
        (∀ others, sortedUnique others = sortedUnique names ↔
          ∀ name, name ∈ others ↔ name ∈ names) ∧
        sortedUnique (sortedUnique names) = sortedUnique names := by
  refine ⟨?_, ?_, ?_, fun left right => precedes_iff, fun names => ⟨?_, ?_, ?_⟩⟩
  · intro left right
    exact Std.LawfulEqCmp.compare_eq_iff_eq
  · intro left right
    exact Std.OrientedCmp.eq_swap
  · intro left middle right first second
    exact Std.TransCmp.isLE_trans first second
  · intro others
    exact sortedUnique_eq_iff
  · intro others
    exact sortedUnique_eq_sortedUnique_iff
  · apply sortedUnique_congr
    intro name
    exact mem_sortedUnique

/-- Capital letters come first among names with one lower-case form, and repeats are dropped. -/
theorem sorts_names_in_one_way_of_repeats :
    sortedUnique ["beta", "Alpha", "alpha", "Beta", "alpha"] =
        ["Alpha", "alpha", "Beta", "beta"] ∧
      sortedUnique ["Beta", "alpha", "beta", "beta", "Alpha"] =
        sortedUnique ["beta", "Alpha", "alpha", "Beta", "alpha"] ∧
      (displayOrder "Alpha" "Beta").isLE = true := by
  rcases sorts_names_in_one_way with ⟨-, -, transitive, -, lists⟩
  rcases lists ["beta", "Alpha", "alpha", "Beta", "alpha"] with ⟨only, alike, -⟩
  refine ⟨(only _).mpr ⟨?_, ?_⟩, (alike _).mpr ?_, ?_⟩
  · unfold Precedes
    decide +kernel
  · intro name
    simp only [List.mem_cons, List.not_mem_nil, or_false]
    grind
  · intro name
    simp only [List.mem_cons, List.not_mem_nil, or_false]
    grind
  · exact transitive "Alpha" "alpha" "Beta" (by decide +kernel) (by decide +kernel)

end Text
end GatewayConsole
