import GatewayConsole.Proofs.Storage.Replacement

/-!
# Permissions of saved files

A file that has taken its place is the owner's alone. The temporary file is so only from
the moment its permissions are set: before, it has those of a new file, or those that it
was found with, and it keeps them when they cannot be set.
-/

namespace GatewayConsole

open Disk (Operation Effect)

namespace Work

variable {disk before after : Disk} {path : Path} {name : String} {outer : List PathStep}
variable {text : String} {location : Location} {mode : Mode} {written : String}

def OwnerOnly (mode : Mode) : Prop :=
  mode &&& 0o077 = 0

def Opened (disk : Disk) (location : Location) (mode : Mode) : Prop :=
  mode = disk.granted 0o666 ∨ ∃ old, disk.find? location = some (.file mode old)

/-! ## Until the renaming -/

/-- Whether every file is one that a disk had, or the owner's, or the temporary file as it
is opened. -/
structure Permitted (disk : Disk) (path : Path) (state : Disk) : Prop where
  tree : state.IsTree
  withheld : state.withheld = disk.withheld
  files : ∀ location mode written, state.find? location = some (.file mode written) →
    disk.find? location = some (.file mode written) ∨ mode = ownerFile ∨
      state.locate (temporary path) = .ok location ∧ Opened disk location mode

theorem withheld_of_effect {operation : Operation} (effect : Effect before operation after) :
    after.withheld = before.withheld := by
  cases effect <;> rfl

theorem Permitted.step {operation : Operation} (permitted : Permitted disk path before)
    (effect : Effect before operation after)
    (changed : ∀ location mode written, after.find? location = some (.file mode written) →
      before.find? location = some (.file mode written) ∨ mode = ownerFile ∨
        before.locate (temporary path) = .ok location ∧ Opened before location mode) :
    Permitted disk path after where
  tree := effect.isTree permitted.tree
  withheld := (withheld_of_effect effect).trans permitted.withheld
  files := by
    intro location mode written found
    have onward (besides : before.locate (temporary path) = .ok location) :
        after.locate (temporary path) = .ok location :=
      Disk.locate_of_directories (fun _ => effect.keeps_directories) besides
    rcases changed location mode written found with kept | isOwner | ⟨besides, isNew | ⟨old, was⟩⟩
    · rcases permitted.files location mode written kept with kept | isOwner | ⟨besides, opened⟩
      · exact .inl kept
      · exact .inr (.inl isOwner)
      · exact .inr (.inr ⟨onward besides, opened⟩)
    · exact .inr (.inl isOwner)
    · rw [Disk.granted, permitted.withheld] at isNew
      exact .inr (.inr ⟨onward besides, .inl isNew⟩)
    · rcases permitted.files location mode old was with kept | isOwner | ⟨_, opened⟩
      · exact .inr (.inr ⟨onward besides, .inr ⟨old, kept⟩⟩)
      · exact .inr (.inl isOwner)
      · exact .inr (.inr ⟨onward besides, opened⟩)

theorem Permitted.makeDirectory {made : Path} (permitted : Permitted disk path before)
    (effect : Effect before (.makeDirectory made) after) : Permitted disk path after := by
  refine permitted.step effect fun location mode written found => .inl ?_
  cases effect with
  | makeDirectory located free =>
      rename_i new
      by_cases same : location = new
      · rw [same, Disk.find?_put_same] at found
        exact nomatch found
      · rwa [Disk.find?_put_other before _ same] at found

theorem Permitted.setMode {changed : Path} (permitted : Permitted disk path before)
    (effect : Effect before (.setMode changed mode) after)
    (isOwner : mode = ownerFile ∨ ∀ location, before.locate changed = .ok location →
      before.HasDirectory location) : Permitted disk path after := by
  refine permitted.step effect fun location other written found => ?_
  cases effect with
  | setMode located isNode =>
      rename_i target node
      by_cases same : location = target
      · rw [same, Disk.find?_put_same] at found
        cases node with
        | file =>
            rcases isOwner with isOwner | isDirectory
            · exact .inr (.inl ((Node.file.inj (Option.some.inj found)).1.symm.trans isOwner))
            · exact absurd isNode (isDirectory target located).not_file
        | directory => exact nomatch found
        | shared special | link special | device special => exact nomatch special
      · exact .inl (Disk.find?_put_other before _ same ▸ found)

theorem Permitted.write (permitted : Permitted disk path before)
    (effect : Effect before (.write (temporary path) text) after) : Permitted disk path after := by
  refine permitted.step effect fun location mode written found => ?_
  cases effect with
  | rewrite located was =>
      rename_i old first beside
      by_cases same : location = beside
      · rw [same, Disk.find?_put_same] at found
        cases found
        exact .inr (.inr ⟨same ▸ located, .inr ⟨old, same ▸ was⟩⟩)
      · exact .inl (Disk.find?_put_other before _ same ▸ found)
  | create located free =>
      rename_i beside
      by_cases same : location = beside
      · rw [same, Disk.find?_put_same] at found
        cases found
        exact .inr (.inr ⟨same ▸ located, .inl rfl⟩)
      · exact .inl (Disk.find?_put_other before _ same ▸ found)

theorem permitted_makeParents (tree : disk.IsTree) (path : Path) (hazards : List Hazard) :
    ((start disk hazards).makeParents path).2.Always (Permitted disk path) := by
  refine (always_start ⟨tree, rfl, fun _ _ _ => .inl⟩).makeParents_within ?_ ?_
  · intro parent _ made _
    exact keeps_of_whole (fun _ => rfl) fun _ _ permitted done =>
      permitted.makeDirectory (Disk.effect_of_perform done)
  · intro parent _ made member before after holds permitted done
    rcases Path.exists_of_mem_ancestors (missing_of_mem member).1 with ⟨made, inside, rfl⟩
    refine permitted.setMode (Disk.effect_of_perform done) (.inr fun location located => ?_)
    rw [← Disk.resolve_eq_locate] at located
    exact hasDirectory_of_parent permitted.tree inside holds located

theorem keeps_permitted_write (text : String) :
    Keeps (Permitted disk path) (.write (temporary path) text) :=
  keeps_write (fun _ _ _ permitted done => permitted.write (Disk.effect_of_perform done)) text

theorem keeps_permitted_setMode :
    Keeps (Permitted disk path) (.setMode (temporary path) ownerFile) :=
  keeps_of_whole (fun _ => rfl) fun _ _ permitted done =>
    permitted.setMode (Disk.effect_of_perform done) (.inl rfl)

/-! ## Saving -/

theorem files_of_save (tree : disk.IsTree) (isFile : path.way = .name name :: outer)
    (hazards : List Hazard) (text : String) :
    ((start disk hazards).save path text).2.Always fun state =>
      ∀ location mode written, state.find? location = some (.file mode written) →
        disk.find? location = some (.file mode written) ∨ mode = ownerFile ∨
          state.locate (temporary path) = .ok location ∧ Opened disk location mode := by
  intro state member location mode written found
  have parents := permitted_makeParents tree path hazards
  rcases parents.save_until_renamed keeps_permitted_setMode (keeps_permitted_write text) state
      member with permitted | ⟨saved, rfl, before, permitted, renamed⟩
  · exact permitted.files location mode written found
  have effect := Disk.effect_of_perform renamed
  have onward {other : Path} (leads : before.locate other = .ok location) :
      ((start disk hazards).save path text).2.disk.locate other = .ok location :=
    Disk.locate_of_directories (fun _ => effect.keeps_directories) leads
  rcases moves_of_save tree (Disk.unlinked_plain _ path) saved with ⟨_, moves⟩
  -- The renaming leaves the owner's file at the path and nothing at the temporary path.
  by_cases leads : before.locate path = .ok location
  · have isThere := moves.nodeAt?_eq
    rw [Disk.nodeAt?_of_locate (onward leads)] at isThere
    cases isThere.symm.trans found
    exact .inr (.inl rfl)
  by_cases besides : before.locate (temporary path) = .ok location
  · have isGone := moves.nodeAt?_temporary isFile
    rw [Disk.nodeAt?_of_locate (onward besides)] at isGone
    cases isGone.symm.trans found
  have kept : before.find? location = some (.file mode written) := by
    rw [← found, effect.find?_other]
    intro other member
    rcases List.mem_cons.mp member with rfl | member
    · exact besides
    · exact List.mem_singleton.mp member ▸ leads
  rcases permitted.files location mode written kept with kept | isOwner | ⟨isTemporary, _⟩
  · exact .inl kept
  · exact .inr (.inl isOwner)
  · exact absurd isTemporary besides

theorem written_owner_only (tree : disk.IsTree) (isFile : path.way = .name name :: outer)
    (hazards : List Hazard) (text : String) (masked : OwnerOnly (disk.granted 0o666))
    (beside : ∀ state ∈ ((start disk hazards).save path text).2.states, ∀ location mode old,
      state.locate (temporary path) = .ok location →
        disk.find? location = some (.file mode old) → OwnerOnly mode) :
    ∀ state ∈ ((start disk hazards).save path text).2.states, ∀ location mode written,
      state.find? location = some (.file mode written) →
        disk.find? location ≠ some (.file mode written) → OwnerOnly mode := by
  intro state member location mode written found isNew
  rcases files_of_save tree isFile hazards text state member location mode written found with
    kept | rfl | ⟨besides, rfl | ⟨old, was⟩⟩
  · exact absurd kept isNew
  · rfl
  · exact masked
  · exact beside state member location mode old besides was

/-- New files are the owner's alone where everything is withheld from others. -/
example : OwnerOnly (Disk.granted { Disk.empty with withheld := 0o077 } 0o666) := rfl

theorem temporary_not_owner_only :
    let path := Path.ofText "/a.json"
    let saving := (start Disk.empty [.none, .refused]).save path "x"
    saving.1 = .error .other ∧
      saving.2.disk.nodeAt? (temporary path) = some (.file 0o644 "x") ∧ ¬OwnerOnly 0o644 ∧
      ∃ state ∈ ((start Disk.empty []).save path "x").2.states,
        state.nodeAt? (temporary path) = some (.file 0o644 "x") := by
  refine ⟨by decide +kernel, by decide +kernel, nofun, ?_⟩
  decide +kernel

end Work
end GatewayConsole
