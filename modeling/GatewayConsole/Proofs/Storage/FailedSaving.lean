import GatewayConsole.Proofs.Storage.Saving

/-!
# Failed savings

What a saving that fails leaves behind. It may have made directories and written the
temporary file, and no other text. The file at the path is not that file, so it is as it
was, also when the directories that were made lead the path to it.
-/

namespace GatewayConsole

open Disk (Operation Effect)

namespace Work

variable {disk : Disk} {path : Path} {location : Location}
variable {hazards : List Hazard} {text : String}

/-! ## The text at a path -/

theorem keeps_isTree (operation : Operation) : Keeps (Disk.IsTree : Disk → Prop) operation :=
  fun _ _ _ _ tree done => (Disk.effect_of_perform done).isTree tree

theorem keeps_directories (disk : Disk) (operation : Operation) :
    Keeps (fun after : Disk => ∀ location, disk.HasDirectory location →
      after.HasDirectory location) operation :=
  fun _ _ _ _ kept done location isDirectory =>
    (Disk.effect_of_perform done).keeps_directories (kept location isDirectory)

theorem isTree_save (tree : disk.IsTree) :
    ((start disk hazards).save path text).2.disk.IsTree :=
  (((always_start tree).makeParents (fun _ => keeps_isTree _) (fun _ _ => keeps_isTree _) path).save
    (keeps_isTree _) (keeps_isTree _) (keeps_isTree _)).now

theorem hasDirectory_save {location : Location} (isDirectory : disk.HasDirectory location) :
    ((start disk hazards).save path text).2.disk.HasDirectory location := by
  have always : (start disk hazards).Always
      fun after : Disk => ∀ location, disk.HasDirectory location → after.HasDirectory location :=
    always_start fun _ isDirectory => isDirectory
  have parents := always.makeParents (fun _ => keeps_directories disk _)
    (fun _ _ => keeps_directories disk _) path
  exact (parents.save (keeps_directories disk _) (keeps_directories disk _)
    (keeps_directories disk _)).now location isDirectory

def Shows (path : Path) (known : Option String) (disk : Disk) : Prop :=
  disk.IsTree ∧ disk.text? path = known

section Shows

variable {known : Option String}

theorem keeps_shows_setMode (other : Path) (mode : Mode) :
    Keeps (Shows path known) (.setMode other mode) := by
  refine keeps_of_whole (fun _ => rfl) ?_
  intro before after ⟨tree, shown⟩ done
  have effect := Disk.effect_of_perform done
  exact ⟨effect.isTree tree, effect.text?_setMode.trans shown⟩

theorem keeps_shows_makeDirectory (down : .up ∉ path.steps) (other : Path) :
    Keeps (Shows path known) (.makeDirectory other) := by
  refine keeps_of_whole (fun _ => rfl) ?_
  intro before after ⟨tree, shown⟩ done
  have effect := Disk.effect_of_perform done
  exact ⟨effect.isTree tree, (effect.text?_makeDirectory tree down).trans shown⟩

theorem keeps_shows_write (text : String) :
    Keeps (Shows path known) (.write (temporary path) text) := by
  refine keeps_write ?_ text
  intro text before after ⟨tree, shown⟩ done
  have effect := Disk.effect_of_perform done
  exact ⟨effect.isTree tree, (effect.text?_write tree).trans shown⟩

end Shows

/-- Whether no directory that is made for a path can lead it to another file: it does not
step up, or its directory is there already. -/
def Anchors (disk : Disk) (path : Path) : Prop :=
  .up ∉ path.steps ∨ ∃ parent, path.parent? = some parent ∧ disk.holdsDirectory parent = true

theorem anchors_save (anchored : Anchors disk path) :
    Anchors ((start disk hazards).save path text).2.disk path := by
  rcases anchored with down | ⟨parent, isParent, holds⟩
  · exact .inl down
  · rcases Disk.holdsDirectory_iff.mp holds with ⟨location, located, isDirectory⟩
    refine .inr ⟨parent, isParent, Disk.holdsDirectory_iff.mpr ⟨location, ?_, ?_⟩⟩
    · exact Disk.locate_of_directories (fun _ => hasDirectory_save) located
    · exact hasDirectory_save isDirectory

theorem makeParents_of_holdsDirectory {work : Work} {parent : Path}
    (isParent : path.parent? = some parent) (holds : work.disk.holdsDirectory parent = true) :
    work.makeParents path = (.ok (), work) := by
  have isThere : work.disk.holds parent = true := by
    rcases Disk.holdsDirectory_iff.mp holds with ⟨location, located, mode, found⟩
    exact Disk.holds_iff.mpr ⟨location, _, located, found⟩
  rw [makeParents, isParent]
  simp only [isThere, Bool.or_true, if_true]

theorem text?_save_failed {trouble : Trouble} (tree : disk.IsTree) (anchored : Anchors disk path)
    (failed : ((start disk hazards).save path text).1 = .error trouble) :
    ((start disk hazards).save path text).2.disk.text? path = disk.text? path := by
  have always : (start disk hazards).Always (Shows path (disk.text? path)) :=
    always_start ⟨tree, rfl⟩
  have parents :
      ((start disk hazards).makeParents path).2.Always (Shows path (disk.text? path)) := by
    rcases anchored with down | ⟨parent, isParent, holds⟩
    · exact always.makeParents (keeps_shows_makeDirectory down) keeps_shows_setMode path
    · have isThere : (start disk hazards).disk.holdsDirectory parent = true := holds
      rw [makeParents_of_holdsDirectory isParent isThere]
      exact always
  exact (parents.save_failed (keeps_shows_setMode _ _) (keeps_shows_write text) failed).now.2

/-! ## The file at a path -/

/-- Whether the file at a path is the one from before: the path leads where it has led, and
the text that it leads to is the text that was there. Unless directories that are made may lead
the path to another file, there is a text at the path exactly if there was. -/
structure KeepsFile (disk : Disk) (path : Path) (after : Disk) : Prop where
  way : ∀ location, disk.locate path = .ok location → after.locate path = .ok location
  text : ∀ location, after.locate path = .ok location →
    after.textIn? location = disk.textIn? location
  same : Anchors disk path → after.text? path = disk.text? path

theorem KeepsFile.text?_of_found {after : Disk} {text : String}
    (keeps : KeepsFile disk path after) (found : disk.text? path = some text) :
    after.text? path = some text := by
  rcases Disk.text?_eq_some_iff.mp found with ⟨location, _, located, _⟩
  have stays := keeps.way location located
  rw [Disk.text?_of_locate stays, keeps.text location stays, ← Disk.text?_of_locate located, found]

/-! ## Other texts -/

def HasTemporary (path : Path) (state : Disk) (location : Location) : Prop :=
  state.locate (temporary path) = .ok location ∧ ∃ text, state.textIn? location = some text

/-- What is the same as on the disk that a saving began on: its directories are there, and
its texts, but for the one of the temporary file. -/
structure WritesBeside (disk : Disk) (path : Path) (state : Disk) : Prop where
  tree : state.IsTree
  directories : ∀ location, disk.HasDirectory location → state.HasDirectory location
  texts : ∀ location, state.textIn? location = disk.textIn? location ∨
    HasTemporary path state location

theorem HasTemporary.no_directory {state : Disk} (beside : HasTemporary path state location) :
    ¬state.HasDirectory location := by
  rintro ⟨mode, found⟩
  rcases beside with ⟨_, text, isText⟩
  rw [Disk.textIn?, found] at isText
  cases isText

theorem WritesBeside.step {before after : Disk} {operation : Operation}
    (writes : WritesBeside disk path before) (effect : Effect before operation after)
    (texts : ∀ location, after.textIn? location = before.textIn? location ∨
      before.locate (temporary path) = .ok location ∧
        ∃ text, after.textIn? location = some text) :
    WritesBeside disk path after where
  tree := effect.isTree writes.tree
  directories location isDirectory :=
    effect.keeps_directories (writes.directories location isDirectory)
  texts location := by
    have stays (besides : before.locate (temporary path) = .ok location) :
        after.locate (temporary path) = .ok location :=
      Disk.locate_of_directories (fun _ => effect.keeps_directories) besides
    rcases texts location with same | ⟨besides, written⟩
    · rcases writes.texts location with unchanged | ⟨besides, written⟩
      · exact .inl (same.trans unchanged)
      · exact .inr ⟨stays besides, same ▸ written⟩
    · exact .inr ⟨stays besides, written⟩

theorem keeps_writesBeside_makeDirectory (other : Path) :
    Keeps (WritesBeside disk path) (.makeDirectory other) := by
  refine keeps_of_whole (fun _ => rfl) fun before after writes done => ?_
  have effect := Disk.effect_of_perform done
  exact writes.step effect fun location => .inl (effect.textIn?_makeDirectory location)

theorem keeps_writesBeside_setMode (other : Path) (mode : Mode) :
    Keeps (WritesBeside disk path) (.setMode other mode) := by
  refine keeps_of_whole (fun _ => rfl) fun before after writes done => ?_
  have effect := Disk.effect_of_perform done
  exact writes.step effect fun location => .inl (effect.textIn?_setMode location)

theorem keeps_writesBeside_write (text : String) :
    Keeps (WritesBeside disk path) (.write (temporary path) text) := by
  refine keeps_write (fun text before after writes done => ?_) text
  have effect := Disk.effect_of_perform done
  refine writes.step effect fun location => ?_
  exact (effect.textIn?_write location).imp_right fun ⟨besides, written⟩ =>
    ⟨besides, text, written⟩

theorem WritesBeside.textIn?_of_locate {after : Disk} (writes : WritesBeside disk path after)
    (located : after.locate path = .ok location) :
    after.textIn? location = disk.textIn? location := by
  rcases writes.texts location with same | beside
  · exact same
  · have elsewhere := Disk.temporary_elsewhere writes.tree beside.1 beside.no_directory located
    exact absurd rfl elsewhere

/-! ## Saving -/

theorem writesBeside_save_failed {hazards : List Hazard} {text : String} {trouble : Trouble}
    (tree : disk.IsTree) (failed : ((start disk hazards).save path text).1 = .error trouble) :
    WritesBeside disk path ((start disk hazards).save path text).2.disk := by
  have always : (start disk hazards).Always (WritesBeside disk path) :=
    always_start ⟨tree, fun _ isDirectory => isDirectory, fun _ => .inl rfl⟩
  have parents := always.makeParents keeps_writesBeside_makeDirectory
    keeps_writesBeside_setMode path
  exact (parents.save_failed (keeps_writesBeside_setMode _ _) (keeps_writesBeside_write text)
    failed).now

theorem keepsFile_save_failed {hazards : List Hazard} {text : String} {trouble : Trouble}
    (tree : disk.IsTree) (failed : ((start disk hazards).save path text).1 = .error trouble) :
    KeepsFile disk path ((start disk hazards).save path text).2.disk := by
  have writes := writesBeside_save_failed tree failed
  constructor
  · exact fun _ located => Disk.locate_of_directories writes.directories located
  · exact fun _ located => writes.textIn?_of_locate located
  · exact fun anchored => text?_save_failed tree anchored failed

end Work
end GatewayConsole
