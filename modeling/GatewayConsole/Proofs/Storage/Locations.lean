import GatewayConsole.Storage.Disk
import Mathlib.Data.List.Induction

/-!
# Locations

Where steps lead on a disk, links aside. Only directories matter on the way, so steps keep
their location when the directories that they lead through are kept. The nodes of a disk that
has been used as a disk form a tree: everything but the root lies in a directory.
-/

namespace GatewayConsole

/-! ## Directories -/

namespace Disk

variable {Special : Type} {disk other : Disk Special} {location start finish : Location}
variable {step : PathStep}
variable {steps : List PathStep}

def HasDirectory (disk : Disk Special) (location : Location) : Prop :=
  ∃ mode, disk.find? location = some (.directory mode)

@[simp] theorem find?_remove_same (disk : Disk Special) (location : Location) :
    (disk.remove location).find? location = none := by
  simp [find?, remove]

theorem ne_of_find?_remove {node : Node Special}
    (found : (disk.remove start).find? location = some node) : location ≠ start := by
  rintro rfl
  exact nomatch (find?_remove_same disk location).symm.trans found

theorem find?_remove_other (disk : Disk Special) {location other : Location}
    (different : other ≠ location) :
    (disk.remove location).find? other = disk.find? other := by
  have unequal : (location == other) = false := by simpa using different.symm
  rw [← find?_put_other disk (.directory 0) different]
  simp [find?, put, remove, unequal]

theorem HasDirectory.not_file {mode : Mode} {text : String}
    (isDirectory : disk.HasDirectory location) :
    disk.find? location ≠ some (.file mode text) := by
  rcases isDirectory with ⟨_, found⟩
  rw [found]
  nofun

theorem hasDirectory_put_other {node : Node Special} (different : location ≠ start) :
    (disk.put start node).HasDirectory location ↔ disk.HasDirectory location := by
  rw [HasDirectory, find?_put_other disk node different, HasDirectory]

theorem hasDirectory_remove_other (different : location ≠ start) :
    (disk.remove start).HasDirectory location ↔ disk.HasDirectory location := by
  rw [HasDirectory, find?_remove_other disk different, HasDirectory]

/-! ## Walking -/

theorem bind_ok_iff {α β : Type} {first : Except Trouble α} {onward : α → Except Trouble β}
    {result : β} :
    (first >>= onward) = .ok result ↔
      ∃ middle, first = .ok middle ∧ onward middle = .ok result := by
  cases first with
  | error trouble =>
      constructor
      · exact nofun
      · rintro ⟨_, isOk, _⟩
        exact nomatch isOk
  | ok middle =>
      constructor
      · exact fun done => ⟨middle, rfl, done⟩
      · rintro ⟨_, isOk, done⟩
        cases isOk
        exact done

def Leads (start finish : Location) : PathStep → Prop
  | .name name => name.utf8ByteSize ≤ longestName ∧ finish = start ++ [name]
  | .up => finish = start.dropLast
  | .here => finish = start

theorem enter_ok_iff :
    disk.enter start step = .ok finish ↔ disk.HasDirectory start ∧ Leads start finish step := by
  constructor
  · intro entered
    unfold enter at entered
    split at entered
    next mode name found =>
      split at entered
      next short =>
        cases entered
        exact ⟨⟨mode, found⟩, short, rfl⟩
      next => exact nomatch entered
    next mode found =>
      cases entered
      exact ⟨⟨mode, found⟩, rfl⟩
    next mode found =>
      cases entered
      exact ⟨⟨mode, found⟩, rfl⟩
    next => exact nomatch entered
    next => exact nomatch entered
  · rintro ⟨⟨mode, found⟩, leads⟩
    cases step with
    | name name =>
        rcases leads with ⟨short, rfl⟩
        simp only [enter, found, short, if_true]
    | up =>
        cases leads
        simp only [enter, found]
    | here =>
        cases leads
        simp only [enter, found]

def walk (disk : Disk Special) (start : Location) (steps : List PathStep) :
    Except Trouble Location :=
  steps.foldlM disk.enter start

theorem walk_nil_ok_iff : disk.walk start [] = .ok finish ↔ finish = start := by
  constructor
  · intro walked
    cases walked
    rfl
  · rintro rfl
    rfl

theorem walk_cons_ok_iff :
    disk.walk start (step :: steps) = .ok finish ↔
      ∃ middle, (disk.HasDirectory start ∧ Leads start middle step) ∧
        disk.walk middle steps = .ok finish := by
  simp only [walk, List.foldlM_cons, bind_ok_iff, enter_ok_iff]

theorem walk_append_ok_iff {first last : List PathStep} :
    disk.walk start (first ++ last) = .ok finish ↔
      ∃ middle, disk.walk start first = .ok middle ∧ disk.walk middle last = .ok finish := by
  simp only [walk, List.foldlM_append, bind_ok_iff]

theorem walk_snoc_ok_iff :
    disk.walk start (steps ++ [step]) = .ok finish ↔
      ∃ middle, disk.walk start steps = .ok middle ∧
        disk.HasDirectory middle ∧ Leads middle finish step := by
  rw [walk_append_ok_iff]
  simp only [walk_cons_ok_iff, walk_nil_ok_iff, exists_eq_right']

theorem walk_of_directories
    (keeps : ∀ location, disk.HasDirectory location → other.HasDirectory location)
    (walked : disk.walk start steps = .ok finish) : other.walk start steps = .ok finish := by
  induction steps generalizing start with
  | nil => exact walk_nil_ok_iff.mpr (walk_nil_ok_iff.mp walked)
  | cons step steps induction =>
      rcases walk_cons_ok_iff.mp walked with ⟨middle, ⟨isDirectory, leads⟩, walked⟩
      exact walk_cons_ok_iff.mpr ⟨middle, ⟨keeps start isDirectory, leads⟩, induction walked⟩

/-! ## Walking without steps up -/

theorem prefix_of_leads (down : step ≠ .up) (leads : Leads start finish step) :
    start <+: finish := by
  cases step with
  | name name => exact leads.2 ▸ List.prefix_append start [name]
  | up => exact absurd rfl down
  | here => exact leads ▸ List.prefix_refl start

theorem prefix_of_walk (down : .up ∉ steps) (walked : disk.walk start steps = .ok finish) :
    start <+: finish := by
  induction steps generalizing start with
  | nil => exact walk_nil_ok_iff.mp walked ▸ List.prefix_refl start
  | cons step steps induction =>
      rcases walk_cons_ok_iff.mp walked with ⟨middle, ⟨_, leads⟩, walked⟩
      have first : step ≠ .up := (List.ne_of_not_mem_cons down).symm
      have rest : .up ∉ steps := List.not_mem_of_not_mem_cons down
      exact (prefix_of_leads first leads).trans (induction rest walked)

theorem walk_of_prefixes (down : .up ∉ steps)
    (keeps : ∀ location, location <+: finish → disk.HasDirectory location →
      other.HasDirectory location)
    (walked : disk.walk start steps = .ok finish) : other.walk start steps = .ok finish := by
  induction steps generalizing start with
  | nil => exact walk_nil_ok_iff.mpr (walk_nil_ok_iff.mp walked)
  | cons step steps induction =>
      have above := prefix_of_walk down walked
      rcases walk_cons_ok_iff.mp walked with ⟨middle, ⟨isDirectory, leads⟩, walked⟩
      have rest : .up ∉ steps := List.not_mem_of_not_mem_cons down
      exact walk_cons_ok_iff.mpr
        ⟨middle, ⟨keeps start above isDirectory, leads⟩, induction rest walked⟩

/-! ## Trees -/

/-- Whether everything on a disk but its root lies in a directory. -/
structure IsTree (disk : Disk Special) : Prop where
  root : disk.HasDirectory []
  above : ∀ location name node, disk.find? (location ++ [name]) = some node →
    disk.HasDirectory location

def HasPlace (disk : Disk Special) (location : Location) : Prop :=
  ∀ above name, location = above ++ [name] → disk.HasDirectory above

namespace IsTree

theorem hasPlace (tree : disk.IsTree) {node : Node Special}
    (found : disk.find? location = some node) :
    disk.HasPlace location := by
  rintro above name rfl
  exact tree.above above name node found

theorem dropLast (tree : disk.IsTree) (isDirectory : disk.HasDirectory location) :
    disk.HasDirectory location.dropLast := by
  rcases List.eq_nil_or_concat location with rfl | ⟨above, name, rfl⟩
  · exact tree.root
  · rw [List.concat_eq_append] at isDirectory ⊢
    rcases isDirectory with ⟨mode, found⟩
    rw [List.dropLast_concat]
    exact tree.above above name _ found

theorem hasPlace_of_leads (tree : disk.IsTree) (isDirectory : disk.HasDirectory start)
    (leads : Leads start finish step) : disk.HasPlace finish := by
  cases step with
  | name name =>
      rcases leads with ⟨_, rfl⟩
      intro above other same
      exact (List.append_inj' same rfl).1 ▸ isDirectory
  | up =>
      cases leads
      rcases tree.dropLast isDirectory with ⟨mode, found⟩
      exact tree.hasPlace found
  | here =>
      cases leads
      rcases isDirectory with ⟨mode, found⟩
      exact tree.hasPlace found

theorem hasDirectory_of_append (tree : disk.IsTree) {node : Node Special} {name : String}
    (below : List String) (found : disk.find? (location ++ below ++ [name]) = some node) :
    disk.HasDirectory location := by
  induction below using List.reverseRecOn generalizing name node with
  | nil => exact tree.above location name node (List.append_nil location ▸ found)
  | append_singleton below last induction =>
      rcases tree.above _ name node found with ⟨mode, found⟩
      rw [← List.append_assoc] at found
      exact induction found

theorem hasDirectory_of_prefix (tree : disk.IsTree) {node : Node Special}
    (found : disk.find? finish = some node) (above : location <+: finish)
    (different : location ≠ finish) : disk.HasDirectory location := by
  rcases above with ⟨below, rfl⟩
  rcases List.eq_nil_or_concat below with rfl | ⟨between, name, rfl⟩
  · exact absurd (List.append_nil location).symm different
  · rw [List.concat_eq_append, ← List.append_assoc] at found
    exact tree.hasDirectory_of_append between found

end IsTree

end Disk
end GatewayConsole
