import GatewayConsole.Proofs.Storage.Temporary

/-!
# Links beside a file

What a saving does at the temporary path and at the path itself, on disks with links. It
changes nothing else as long as the temporary file has no other name and is no link, and the
path is no link to it and does not go through a link of its own.
-/

namespace GatewayConsole
namespace Disk

variable {Special : Type} {disk other after : Disk Special} {location : Location}
variable {path : Path} {name : String} {outer : List PathStep} {mode : Mode} {text : String}
variable {node : Node Special}

/-- Whether the link at a location leads a path past its temporary file, and the path does not
go through the link to come there. -/
structure LeadsPast (disk : Disk Special) (path : Path) (location : Location) : Prop where
  without : (disk.remove location).entry path = .ok location
  elsewhere : ∀ beside, disk.entry (Work.temporary path) = .ok beside →
    disk.resolve path ≠ .ok beside

/-- Whether the temporary file of a path can be written and renamed without changing another
file. -/
structure Unlinked (disk : Disk Special) (path : Path) : Prop where
  beside : ∀ location node, disk.entry (Work.temporary path) = .ok location →
    disk.find? location = some node → node.isPlain = true
  target : ∀ location, disk.entry path = .ok location →
    disk.linkAt? location = none ∨ disk.LeadsPast path location

theorem target?_of_isPlain (isPlain : node.isPlain = true) : node.target? = none := by
  cases node with
  | directory | file => rfl
  | shared | link | device => exact nomatch isPlain

theorem unlinked_plain (disk : Disk) (path : Path) : disk.Unlinked path where
  beside location node _ _ := by
    cases node with
    | directory | file => rfl
    | shared special | link special | device special => exact nomatch special
  target location _ := .inl (linkAt?_plain disk location)

theorem entry_of_locate (located : disk.locate path = .ok location) :
    disk.entry path = .ok location :=
  (locate_ok_iff_entry.mp located).2.1

theorem Unlinked.linkAt?_beside (unlinked : disk.Unlinked path)
    (entered : disk.entry (Work.temporary path) = .ok location) :
    disk.linkAt? location = none := by
  cases found : disk.find? location with
  | none => exact linkAt?_of_free found
  | some node =>
      rw [linkAt?_of_find? found]
      exact target?_of_isPlain (unlinked.beside location node entered found)

/-! ## The temporary file -/

theorem Unlinked.write (unlinked : disk.Unlinked path)
    (done : disk.perform (.write (Work.temporary path) text) = .ok after) :
    ∃ location mode, disk.locate (Work.temporary path) = .ok location ∧
      ¬disk.HasDirectory location ∧ after = disk.put location (.file mode text) := by
  rcases written_of_perform done with ⟨location, resolved, written⟩
  have located := locate_of_resolve (fun _ => unlinked.linkAt?_beside) resolved
  rcases written with ⟨node, found, special⟩ | ⟨noDirectory, _, mode, written, _⟩
  · have isPlain := unlinked.beside location node (entry_of_locate located) found
    exact nomatch special.symm.trans isPlain
  · exact ⟨location, mode, located, noDirectory, written⟩

theorem Unlinked.setMode (unlinked : disk.Unlinked path)
    (done : disk.perform (.setMode (Work.temporary path) mode) = .ok after) :
    ∃ location node, disk.locate (Work.temporary path) = .ok location ∧
      disk.find? location = some node ∧ node.isPlain = true ∧
        after = disk.put location (node.withMode mode) := by
  rcases changed_of_perform done with ⟨location, node, resolved, found, rfl⟩
  have located := locate_of_resolve (fun _ => unlinked.linkAt?_beside) resolved
  have isPlain := unlinked.beside location node (entry_of_locate located) found
  refine ⟨location, node, located, found, isPlain, ?_⟩
  cases node with
  | directory | file => rfl
  | shared | link | device => exact nomatch isPlain

/-- What an operation on the temporary file does: it puts a file where no directory is, or a
directory where one is. -/
inductive PutsBeside (disk : Disk Special) (path : Path) : Disk Special → Prop
  | put {location : Location} {node : Node Special}
      (located : disk.locate (Work.temporary path) = .ok location)
      (noLink : disk.linkAt? location = none) (isPlain : node.isPlain = true)
      (same : disk.HasDirectory location ↔ ∃ mode, node = .directory mode) :
      PutsBeside disk path (disk.put location node)

theorem Unlinked.putsBeside_write (unlinked : disk.Unlinked path)
    (done : disk.perform (.write (Work.temporary path) text) = .ok after) :
    disk.PutsBeside path after := by
  rcases unlinked.write done with ⟨location, mode, located, noDirectory, rfl⟩
  refine .put located (unlinked.linkAt?_beside (entry_of_locate located)) rfl ?_
  exact ⟨fun isDirectory => absurd isDirectory noDirectory, nofun⟩

theorem Unlinked.putsBeside_setMode (unlinked : disk.Unlinked path)
    (done : disk.perform (.setMode (Work.temporary path) mode) = .ok after) :
    disk.PutsBeside path after := by
  rcases unlinked.setMode done with ⟨location, node, located, found, isPlain, rfl⟩
  have noLink := unlinked.linkAt?_beside (entry_of_locate located)
  cases node with
  | directory old => exact .put located noLink rfl ⟨fun _ => ⟨mode, rfl⟩, fun _ => ⟨old, found⟩⟩
  | file =>
      refine .put located noLink rfl ⟨fun isDirectory => ?_, nofun⟩
      exact absurd isDirectory (no_directory_of_file found)
  | shared | link | device => exact nomatch isPlain

namespace PutsBeside

theorem ways (puts : disk.PutsBeside path after) : KeepsWays disk after := by
  cases puts with
  | put located noLink isPlain same =>
      exact keepsWays_put same.mp fun _ isLink => nomatch noLink.symm.trans isLink

theorem waysBack (puts : disk.PutsBeside path after) : KeepsWays after disk := by
  cases puts with
  | put located noLink isPlain same =>
      refine keepsWays_of_put (fun mode isDirectory => same.mpr ⟨mode, isDirectory⟩) ?_
      exact target?_of_isPlain isPlain

theorem isTree (puts : disk.PutsBeside path after) (tree : disk.IsTree) : after.IsTree := by
  cases puts with
  | put located noLink isPlain same => exact tree.put (tree.hasPlace_of_locate located) same.mp

theorem find?_other (puts : disk.PutsBeside path after)
    (apart : disk.locate (Work.temporary path) ≠ .ok location) :
    after.find? location = disk.find? location := by
  cases puts with
  | put located =>
      refine find?_put_other disk _ ?_
      rintro rfl
      exact apart located

end PutsBeside

/-! ## Kept conditions -/

theorem KeepsWays.remove (keeps : KeepsWays disk other) (location : Location) :
    KeepsWays (disk.remove location) (other.remove location) where
  directories place isDirectory := by
    have different := isDirectory.ne_removed
    rw [hasDirectory_remove_other different] at isDirectory ⊢
    exact keeps.directories place isDirectory
  links place target isLink := by
    have different := ne_removed_of_link isLink
    rw [linkAt?_remove_other different] at isLink ⊢
    exact keeps.links place target isLink

theorem IsTree.resolve_of_ways (tree : disk.IsTree) (treeAfter : after.IsTree)
    (keeps : KeepsWays disk after) (back : KeepsWays after disk) :
    after.resolve path = .ok location ↔ disk.resolve path = .ok location := by
  have onward {first second : Disk Special} {location : Location} (tree : first.IsTree)
      (keeps : KeepsWays first second) (back : KeepsWays second first)
      (resolved : first.resolve path = .ok location) : second.resolve path = .ok location :=
    keeps.resolve resolved (back.noLink (tree.linkAt?_of_resolve resolved))
  exact ⟨onward treeAfter back keeps, onward tree keeps back⟩

theorem PutsBeside.unlinked (puts : disk.PutsBeside path after) (tree : disk.IsTree)
    (unlinked : disk.Unlinked path) : after.Unlinked path where
  beside location node entered found := by
    have enteredBefore := puts.waysBack.entry entered
    cases puts with
    | put located noLink isPlain same =>
        rename_i changed put
        by_cases here : location = changed
        · subst here
          rw [find?_put_same] at found
          cases found
          exact isPlain
        · rw [find?_put_other disk put here] at found
          exact unlinked.beside location node enteredBefore found
  target location entered := by
    have before := unlinked.target location (puts.waysBack.entry entered)
    refine before.imp puts.waysBack.noLink fun past => ?_
    refine ⟨(puts.ways.remove location).entry past.without, fun beside enteredBeside => ?_⟩
    rw [ne_eq, tree.resolve_of_ways (puts.isTree tree) puts.ways puts.waysBack]
    exact past.elsewhere beside (puts.waysBack.entry enteredBeside)

theorem Unlinked.resolve_ne (unlinked : disk.Unlinked path)
    (isFile : path.way = .name name :: outer)
    (besides : disk.locate (Work.temporary path) = .ok location) :
    disk.resolve path ≠ .ok location := by
  intro resolved
  have apart (noLink : ∀ location, disk.entry path = .ok location →
      disk.linkAt? location = none) : False :=
    temporary_apart isFile (locate_of_resolve noLink resolved) besides
  cases entered : disk.entry path with
  | error trouble => exact apart fun location isEntry => nomatch entered.symm.trans isEntry
  | ok entry =>
      rcases unlinked.target entry entered with noLink | past
      · refine apart fun location isEntry => ?_
        cases entered.symm.trans isEntry
        exact noLink
      · exact past.elsewhere location (entry_of_locate besides) resolved

theorem PutsBeside.nodeAt?_eq (puts : disk.PutsBeside path after) (tree : disk.IsTree)
    (unlinked : disk.Unlinked path) (isFile : path.way = .name name :: outer) :
    after.nodeAt? path = disk.nodeAt? path := by
  have apart {location : Location} (resolved : disk.resolve path = .ok location) :
      after.find? location = disk.find? location :=
    puts.find?_other fun besides => unlinked.resolve_ne isFile besides resolved
  have same (location : Location) :
      after.resolve path = .ok location ↔ disk.resolve path = .ok location :=
    tree.resolve_of_ways (puts.isTree tree) puts.ways puts.waysBack
  cases resolved : disk.resolve path with
  | ok location =>
      rw [nodeAt?_of_resolve resolved, nodeAt?_of_resolve ((same location).mpr resolved),
        apart resolved]
  | error trouble =>
      cases resolvedAfter : after.resolve path with
      | ok location => exact nomatch resolved.symm.trans ((same location).mp resolvedAfter)
      | error => rw [nodeAt?, nodeAt?, resolved, resolvedAfter]

/-! ## Renaming -/

/-- What renaming the temporary file does: it takes a file to the path, where no directory
is. The path does not go through what it replaces. -/
inductive Moves (disk : Disk Special) (path : Path) (mode : Mode) (text : String) :
    Disk Special → Prop
  | move {start finish : Location}
      (leaves : disk.locate (Work.temporary path) = .ok start)
      (arrives : disk.locate path = .ok finish)
      (found : disk.find? start = some (.file mode text))
      (noDirectory : ¬disk.HasDirectory finish)
      (without : (disk.remove finish).entry path = .ok finish) :
      Moves disk path mode text ((disk.remove start).put finish (.file mode text))

theorem Unlinked.rename (unlinked : disk.Unlinked path)
    (done : disk.perform (.rename (Work.temporary path) path) = .ok after) :
    ∃ mode text, disk.Moves path mode text after := by
  rcases renamed_of_perform done with
    ⟨start, finish, node, leaves, arrives, found, isFile, noDirectory, moved⟩
  have isPlain := unlinked.beside start node (entry_of_locate leaves) found
  have entered := entry_of_locate arrives
  have without : (disk.remove finish).entry path = .ok finish := by
    rcases unlinked.target finish entered with noLink | past
    · exact (keepsWays_remove noDirectory noLink).entry entered
    · exact past.without
  rcases moved with rfl | special
  · cases node with
    | directory mode => exact absurd ⟨mode, found⟩ isFile
    | file mode text => exact ⟨mode, text, .move leaves arrives found noDirectory without⟩
    | shared | link | device => exact nomatch isPlain
  · exact nomatch special.symm.trans isPlain

theorem keepsWays_put_of_remove (disk : Disk Special) (location : Location) (node : Node Special) :
    KeepsWays (disk.remove location) (disk.put location node) where
  directories place isDirectory := by
    have different := isDirectory.ne_removed
    rwa [hasDirectory_put_other different, ← hasDirectory_remove_other different]
  links place target isLink := by
    have different := ne_removed_of_link isLink
    rwa [linkAt?_put_other node different, ← linkAt?_remove_other different]

theorem entry_temporary_of_remove {start finish : Location}
    (isFile : path.way = .name name :: outer) (noDirectory : ¬disk.HasDirectory finish)
    (without : (disk.remove finish).entry path = .ok finish)
    (entered : disk.entry (Work.temporary path) = .ok start) :
    (disk.remove finish).entry (Work.temporary path) = .ok start := by
  have back := keepsWays_of_remove noDirectory
  rcases Path.temporary_way isFile with ⟨step, isWay⟩
  rcases (entry_ok_iff isFile).mp without with ⟨reach, gone, isDirectory, _⟩
  rcases (entry_ok_iff isWay).mp entered with ⟨again, goneAgain, _, leads⟩
  -- Both paths go through one directory, so they come to it in the same way.
  have noLink := (back.directories _ isDirectory).linkAt?_eq_none
  cases goneAgain.symm.trans (back.go gone noLink)
  exact (entry_ok_iff isWay).mpr ⟨reach, gone, isDirectory, leads⟩

namespace Moves

theorem waysBack (moves : disk.Moves path mode text after) : KeepsWays after disk := by
  cases moves with
  | move leaves arrives found =>
      refine (keepsWays_of_put (fun _ isDirectory => ?_) rfl).trans
        (keepsWays_of_remove (no_directory_of_file found))
      exact nomatch isDirectory

theorem ways {start finish : Location} (found : disk.find? start = some (.file mode text)) :
    KeepsWays (disk.remove finish) ((disk.remove start).put finish (.file mode text)) :=
  ((keepsWays_remove (no_directory_of_file found) (linkAt?_of_find? found)).remove finish).trans
    (keepsWays_put_of_remove _ _ _)

theorem locate (moves : disk.Moves path mode text after)
    (located : disk.locate path = .ok location) : after.locate path = .ok location := by
  cases moves with
  | move leaves arrives found noDirectory without =>
      cases located.symm.trans arrives
      rcases locate_ok_iff_entry.mp located with ⟨askable, _, inside⟩
      refine locate_ok_iff_entry.mpr ⟨askable, (ways found).entry without, fun isInside => ?_⟩
      exact absurd (inside isInside) noDirectory

theorem locate_temporary (moves : disk.Moves path mode text after)
    (isFile : path.way = .name name :: outer)
    (located : disk.locate (Work.temporary path) = .ok location) :
    after.locate (Work.temporary path) = .ok location := by
  cases moves with
  | move leaves arrives found noDirectory without =>
      rcases locate_ok_iff_entry.mp located with ⟨askable, entered, inside⟩
      have remains := entry_temporary_of_remove isFile noDirectory without entered
      refine locate_ok_iff_entry.mpr ⟨askable, (ways found).entry remains, fun isInside => ?_⟩
      have isDirectory := (hasDirectory_remove noDirectory).mpr (inside isInside)
      exact (ways found).directories location isDirectory

theorem nodeAt?_eq (moves : disk.Moves path mode text after) :
    after.nodeAt? path = some (.file mode text) := by
  have stays : ∀ location, disk.locate path = .ok location → after.locate path = .ok location :=
    fun _ => moves.locate
  cases moves with
  | move leaves arrives found noDirectory without =>
      rename_i start finish
      have isThere := find?_put_same (disk.remove start) finish (.file mode text)
      have resolved := resolve_of_locate (stays finish arrives) (linkAt?_of_find? isThere)
      rw [nodeAt?_of_resolve resolved, isThere]

theorem nodeAt?_temporary (moves : disk.Moves path mode text after)
    (isFile : path.way = .name name :: outer) :
    after.nodeAt? (Work.temporary path) = none := by
  have back := moves.waysBack
  cases moves with
  | move leaves arrives found noDirectory without =>
      rename_i start finish
      have different : start ≠ finish := by
        rintro rfl
        exact temporary_apart isFile arrives leaves
      have isGone : ((disk.remove start).put finish (.file mode text)).find? start = none := by
        rw [find?_put_other _ _ different, find?_remove_same]
      have entered (location : Location)
          (entered : ((disk.remove start).put finish (.file mode text)).entry
            (Work.temporary path) = .ok location) : location = start :=
        Except.ok.inj ((back.entry entered).symm.trans (entry_of_locate leaves))
      rw [Option.eq_none_iff_forall_ne_some]
      intro node isNode
      rcases exists_of_nodeAt? isNode with ⟨location, resolved, isThere⟩
      -- Nothing is left where the temporary path leads, so it does not lead on through a link.
      have located := locate_of_resolve (fun location isEntry => by
        rw [entered location isEntry]
        exact linkAt?_of_free isGone) resolved
      rw [entered location (entry_of_locate located), isGone] at isThere
      exact nomatch isThere

theorem find?_other (moves : disk.Moves path mode text after)
    (apart : disk.locate path ≠ .ok location)
    (apartBeside : disk.locate (Work.temporary path) ≠ .ok location) :
    after.find? location = disk.find? location := by
  cases moves with
  | move leaves arrives =>
      rw [find?_put_other, find?_remove_other]
      · rintro rfl
        exact apartBeside leaves
      · rintro rfl
        exact apart arrives

end Moves

end Disk
end GatewayConsole
