import GatewayConsole.Text.Keyed

/-!
# Order of keys

Tables that are built by putting pairs in have their keys in strictly ascending order.
-/

namespace GatewayConsole
namespace Keyed

variable {α : Type} {keyed : Keyed α}

def IsSorted (keyed : Keyed α) : Prop :=
  keyed.keys.Pairwise (· < ·)

theorem isSorted_nil : IsSorted ([] : Keyed α) :=
  .nil

theorem isSorted_cons_iff {pair : String × α} :
    IsSorted (pair :: keyed) ↔ (∀ key ∈ keyed.keys, pair.1 < key) ∧ keyed.IsSorted :=
  List.pairwise_cons

theorem mem_keys_put {key other : String} {value : α}
    (member : other ∈ (put key value keyed).keys) : other = key ∨ other ∈ keyed.keys := by
  induction keyed with
  | nil => exact .inl (List.mem_singleton.mp member)
  | cons pair rest induction =>
      rw [put] at member
      split at member
      · exact List.mem_cons.mp member
      · split at member
        next =>
          exact (List.mem_cons.mp member).imp_right fun later => List.mem_cons_of_mem _ later
        next =>
          rcases List.mem_cons.mp member with first | later
          · exact .inr (first ▸ List.mem_cons_self)
          · exact (induction later).imp_right fun kept => List.mem_cons_of_mem _ kept

theorem isSorted_put (key : String) (value : α) (sorted : keyed.IsSorted) :
    IsSorted (put key value keyed) := by
  induction keyed with
  | nil => exact isSorted_cons_iff.mpr ⟨nofun, isSorted_nil⟩
  | cons pair rest induction =>
      rcases pair with ⟨other, old⟩
      have parts := isSorted_cons_iff.mp sorted
      rw [put]
      split
      next before =>
        refine isSorted_cons_iff.mpr ⟨?_, sorted⟩
        intro later member
        rcases List.mem_cons.mp member with rfl | member
        · exact before
        · exact String.lt_trans before (parts.1 later member)
      next notBefore =>
        split
        next same =>
          subst same
          exact isSorted_cons_iff.mpr parts
        next different =>
          have after : other < key :=
            Std.lt_of_le_of_ne (String.not_lt.mp notBefore) (Ne.symm different)
          refine isSorted_cons_iff.mpr ⟨?_, induction parts.2⟩
          intro later member
          rcases mem_keys_put member with rfl | member
          · exact after
          · exact parts.1 later member

theorem isSorted_foldl_put (pairs : List (String × α)) (sorted : keyed.IsSorted) :
    IsSorted (pairs.foldl (fun keyed pair => put pair.1 pair.2 keyed) keyed) := by
  induction pairs generalizing keyed with
  | nil => exact sorted
  | cons pair rest induction => exact induction (isSorted_put pair.1 pair.2 sorted)

theorem isSorted_ofPairs (pairs : List (String × α)) : IsSorted (ofPairs pairs) :=
  isSorted_foldl_put pairs isSorted_nil

/-! ## Sorting what is sorted -/

theorem put_last {key : String} {value : α} (last : ∀ other ∈ keyed.keys, other < key) :
    put key value keyed = keyed ++ [(key, value)] := by
  induction keyed with
  | nil => rfl
  | cons pair rest induction =>
      have before : pair.1 < key := last pair.1 List.mem_cons_self
      have others := induction fun other member => last other (List.mem_cons_of_mem _ member)
      rw [put, if_neg (String.lt_asymm before), if_neg (Std.ne_of_lt before).symm, others]
      rfl

theorem foldl_put_of_isSorted {pairs : List (String × α)} (sorted : IsSorted (keyed ++ pairs)) :
    pairs.foldl (fun keyed pair => put pair.1 pair.2 keyed) keyed = keyed ++ pairs := by
  induction pairs generalizing keyed with
  | nil => exact (List.append_nil keyed).symm
  | cons pair rest induction =>
      have last : ∀ other ∈ keyed.keys, other < pair.1 := by
        rw [IsSorted, keys, List.map_append, List.pairwise_append] at sorted
        exact fun other member => sorted.2.2 other member pair.1 List.mem_cons_self
      rw [List.append_cons] at sorted ⊢
      rw [List.foldl_cons, put_last last]
      exact induction sorted

theorem ofPairs_of_isSorted (sorted : keyed.IsSorted) : ofPairs keyed = keyed :=
  foldl_put_of_isSorted sorted

theorem isSorted_map {β : Type} (change : α → β) (sorted : keyed.IsSorted) :
    IsSorted (keyed.map fun pair => (pair.1, change pair.2)) := by
  rw [IsSorted, keys, List.map_map]
  exact sorted

theorem isSorted_filterMap {β : Type} {read : α → Option β} (sorted : keyed.IsSorted) :
    IsSorted (keyed.filterMap fun pair => (read pair.2).map (pair.1, ·)) := by
  rw [IsSorted, keys, List.pairwise_map] at sorted ⊢
  refine sorted.filterMap _ fun first second before kept isKept other isOther => ?_
  rcases Option.map_eq_some_iff.mp isKept with ⟨_, _, rfl⟩
  rcases Option.map_eq_some_iff.mp isOther with ⟨_, _, rfl⟩
  exact before

/-! ## Changed values -/

section Map

variable {β : Type} (change : α → β)

theorem put_map (key : String) (value : α) (keyed : Keyed α) :
    put key (change value) (keyed.map fun pair => (pair.1, change pair.2)) =
      (put key value keyed).map fun pair => (pair.1, change pair.2) := by
  induction keyed with
  | nil => rfl
  | cons pair rest induction =>
      rw [List.map_cons, put, put]
      split
      · rfl
      · split
        · rfl
        · rw [induction]
          rfl

theorem ofPairs_map (pairs : List (String × α)) :
    ofPairs (pairs.map fun pair => (pair.1, change pair.2)) =
      (ofPairs pairs).map fun pair => (pair.1, change pair.2) := by
  have onward (sorted : Keyed α) :
      (pairs.map fun pair => (pair.1, change pair.2)).foldl
        (fun sorted pair => put pair.1 pair.2 sorted)
        (sorted.map fun pair => (pair.1, change pair.2)) =
      (pairs.foldl (fun sorted pair => put pair.1 pair.2 sorted) sorted).map
        fun pair => (pair.1, change pair.2) := by
    induction pairs generalizing sorted with
    | nil => rfl
    | cons pair rest induction =>
        simp only [List.map_cons, List.foldl_cons, put_map]
        exact induction _
  exact onward []

end Map

end Keyed
end GatewayConsole
