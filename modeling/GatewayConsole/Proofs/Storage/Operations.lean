import GatewayConsole.Proofs.Storage.Ways

/-!
# Operations

What each operation does to a disk when it succeeds, and which of the disk's directories,
links and trees are kept when nodes are put and removed.
-/

namespace GatewayConsole

def Node.isPlain {Special : Type} : Node Special → Bool
  | .directory _ | .file .. => true
  | _ => false

namespace Disk

variable {Special : Type} {disk after : Disk Special} {location start finish : Location}
variable {node : Node Special} {mode : Mode} {text : String} {path source target : Path}

/-! ## Directories -/

theorem HasDirectory.put (isDirectory : disk.HasDirectory location)
    (kept : disk.HasDirectory start → ∃ mode, node = .directory mode) :
    (disk.put start node).HasDirectory location := by
  by_cases same : location = start
  · subst same
    rcases kept isDirectory with ⟨mode, rfl⟩
    exact ⟨mode, find?_put_same disk location _⟩
  · exact (hasDirectory_put_other same).mpr isDirectory

theorem HasDirectory.remove (isDirectory : disk.HasDirectory location)
    (noDirectory : ¬disk.HasDirectory start) : (disk.remove start).HasDirectory location := by
  have different : location ≠ start := fun same => noDirectory (same ▸ isDirectory)
  exact (hasDirectory_remove_other different).mpr isDirectory

theorem HasDirectory.ne_removed (isDirectory : (disk.remove start).HasDirectory location) :
    location ≠ start := by
  rcases isDirectory with ⟨mode, found⟩
  exact ne_of_find?_remove found

theorem no_directory_of_file (found : disk.find? location = some (.file mode text)) :
    ¬disk.HasDirectory location :=
  fun isDirectory => isDirectory.not_file found

theorem no_directory_of_free (free : disk.find? location = none) : ¬disk.HasDirectory location := by
  rintro ⟨mode, found⟩
  exact nomatch free.symm.trans found

theorem withMode_of_directory (found : disk.find? location = some node)
    (isDirectory : disk.HasDirectory location) :
    ∃ newMode, node.withMode mode = .directory newMode := by
  rcases isDirectory with ⟨_, isNode⟩
  cases found.symm.trans isNode
  exact ⟨mode, rfl⟩

theorem hasDirectory_remove (noDirectory : ¬disk.HasDirectory start) :
    (disk.remove start).HasDirectory location ↔ disk.HasDirectory location := by
  constructor
  · exact fun isDirectory => (hasDirectory_remove_other isDirectory.ne_removed).mp isDirectory
  · exact fun isDirectory => isDirectory.remove noDirectory

theorem hasDirectory_put_file (noDirectory : ¬disk.HasDirectory start) :
    (disk.put start (.file mode text)).HasDirectory location ↔ disk.HasDirectory location := by
  by_cases same : location = start
  · subst same
    refine ⟨fun isDirectory => ?_, fun isDirectory => absurd isDirectory noDirectory⟩
    exact absurd (find?_put_same disk location _) isDirectory.not_file
  · exact hasDirectory_put_other same

/-! ## Trees -/

theorem IsTree.put (tree : disk.IsTree) (place : disk.HasPlace start)
    (kept : disk.HasDirectory start → ∃ mode, node = .directory mode) :
    (disk.put start node).IsTree := by
  constructor
  · exact tree.root.put kept
  · intro location name other found
    by_cases same : location ++ [name] = start
    · exact (place location name same.symm).put kept
    · rw [find?_put_other disk node same] at found
      exact (tree.above location name other found).put kept

theorem IsTree.remove (tree : disk.IsTree) (noDirectory : ¬disk.HasDirectory start) :
    (disk.remove start).IsTree := by
  constructor
  · exact tree.root.remove noDirectory
  · intro location name other found
    rw [find?_remove_other disk (ne_of_find?_remove found)] at found
    exact (tree.above location name other found).remove noDirectory

theorem isTree_of_all (root : (disk.find? []).any (·.isDirectory) = true)
    (above : (disk.nodes.all fun entry =>
      (disk.find? entry.1.dropLast).any (·.isDirectory)) = true) : disk.IsTree := by
  have isDirectory {location : Location}
      (isThere : (disk.find? location).any (·.isDirectory) = true) :
      disk.HasDirectory location := by
    rcases (Option.any_eq_true _ _).mp isThere with ⟨node, found, isDirectory⟩
    cases node with
    | directory mode => exact ⟨mode, found⟩
    | file | shared | link | device => exact nomatch isDirectory
  refine ⟨isDirectory root, fun location name node found => isDirectory ?_⟩
  rw [find?, Option.map_eq_some_iff] at found
  rcases found with ⟨entry, found, _⟩
  have listed := List.all_eq_true.mp above entry (List.mem_of_find?_eq_some found)
  have isThere : entry.1 = location ++ [name] := by simpa using List.find?_some found
  rwa [isThere, List.dropLast_concat] at listed

theorem isTree_empty : (empty Special).IsTree := by
  refine ⟨⟨0o755, rfl⟩, ?_⟩
  intro location name node found
  simp [empty, find?] at found

/-! ## Kept ways -/

theorem linkAt?_of_find? (found : disk.find? location = some node) :
    disk.linkAt? location = node.target? := by
  rw [linkAt?, found]
  rfl

theorem linkAt?_put_other (node : Node Special) (different : location ≠ start) :
    (disk.put start node).linkAt? location = disk.linkAt? location := by
  rw [linkAt?, linkAt?, find?_put_other disk node different]

/-- A node in place of another keeps the ways when it is a directory or a link if that one
was. -/
theorem keepsWays_put (kept : disk.HasDirectory start → ∃ mode, node = .directory mode)
    (links : ∀ path, disk.linkAt? start = some path → node.target? = some path) :
    KeepsWays disk (disk.put start node) where
  directories location isDirectory := isDirectory.put kept
  links location path isLink := by
    by_cases same : location = start
    · subst same
      rw [linkAt?_of_find? (find?_put_same disk location node)]
      exact links path isLink
    · rwa [linkAt?_put_other node same]

theorem keepsWays_put_free (free : disk.find? start = none) (node : Node Special) :
    KeepsWays disk (disk.put start node) := by
  refine keepsWays_put (fun isDirectory => absurd isDirectory (no_directory_of_free free)) ?_
  exact fun path isLink => nomatch (linkAt?_of_free free).symm.trans isLink

theorem keepsWays_of_put (kept : ∀ mode, node = .directory mode → disk.HasDirectory start)
    (noLink : node.target? = none) : KeepsWays (disk.put start node) disk where
  directories location isDirectory := by
    by_cases same : location = start
    · subst same
      rcases isDirectory with ⟨mode, isNode⟩
      rw [find?_put_same] at isNode
      exact kept mode (Option.some.inj isNode)
    · exact (hasDirectory_put_other same).mp isDirectory
  links location path isLink := by
    by_cases same : location = start
    · subst same
      rw [linkAt?_of_find? (find?_put_same disk location node), noLink] at isLink
      exact nomatch isLink
    · rwa [linkAt?_put_other node same] at isLink

theorem ne_removed_of_link {target : Path}
    (isLink : (disk.remove start).linkAt? location = some target) : location ≠ start := by
  rcases linkAt?_eq_some_iff.mp isLink with ⟨special, found⟩
  exact ne_of_find?_remove found

theorem linkAt?_remove_other (different : location ≠ start) :
    (disk.remove start).linkAt? location = disk.linkAt? location := by
  rw [linkAt?, linkAt?, find?_remove_other disk different]

theorem keepsWays_remove (noDirectory : ¬disk.HasDirectory start)
    (noLink : disk.linkAt? start = none) : KeepsWays disk (disk.remove start) where
  directories location isDirectory := isDirectory.remove noDirectory
  links location path isLink := by
    have different : location ≠ start := by
      rintro rfl
      exact nomatch noLink.symm.trans isLink
    rwa [linkAt?_remove_other different]

theorem keepsWays_of_remove (noDirectory : ¬disk.HasDirectory start) :
    KeepsWays (disk.remove start) disk where
  directories location isDirectory := (hasDirectory_remove noDirectory).mp isDirectory
  links location path isLink := by
    rwa [linkAt?_remove_other (ne_removed_of_link isLink)] at isLink

theorem KeepsWays.trans {first second third : Disk Special} (sooner : KeepsWays first second)
    (later : KeepsWays second third) : KeepsWays first third where
  directories location isDirectory :=
    later.directories location (sooner.directories location isDirectory)
  links location path isLink := later.links location path (sooner.links location path isLink)

theorem find?_change_shared (disk : Disk Special) (special : Special) (number : Nat) (mode : Mode)
    (text : String) (start location : Location) :
    (disk.change start (.shared special number mode text)).find? location =
      (disk.find? location).map (·.renewed number mode text) := by
  rw [find?, find?, change, List.find?_map, Option.map_map, Option.map_map]
  rfl

theorem keepsWays_change_mode (found : disk.find? start = some node) (mode : Mode) :
    KeepsWays disk (disk.change start (node.withMode mode)) := by
  have isDirectory (isDirectory : disk.HasDirectory start) :
      ∃ changed, node.withMode mode = .directory changed :=
    withMode_of_directory found isDirectory
  have isLink (path : Path) (isLink : disk.linkAt? start = some path) :
      (node.withMode mode).target? = some path := by
    rw [linkAt?_of_find? found] at isLink
    cases node with
    | link => exact isLink
    | directory | file | shared | device => exact nomatch isLink
  cases node with
  | directory | file | link | device => exact keepsWays_put isDirectory isLink
  | shared special number old text =>
      constructor
      · rintro location ⟨other, found⟩
        refine ⟨other, ?_⟩
        rw [Node.withMode, find?_change_shared, found]
        rfl
      · intro location path isLink
        rcases linkAt?_eq_some_iff.mp isLink with ⟨other, found⟩
        refine linkAt?_eq_some_iff.mpr ⟨other, ?_⟩
        rw [Node.withMode, find?_change_shared, found]
        rfl

/-! ## Performing -/

theorem made_of_perform (done : disk.perform (.makeDirectory path) = .ok after) :
    ∃ location, disk.locate path = .ok location ∧ disk.find? location = none ∧
      after = disk.put location (.directory (disk.granted 0o777)) := by
  rcases bind_ok_iff.mp done with ⟨location, located, done⟩
  split at done
  next => exact nomatch done
  next free =>
    cases done
    exact ⟨location, located, free, rfl⟩

theorem written_of_perform (done : disk.perform (.write path text) = .ok after) :
    ∃ location, disk.resolve path = .ok location ∧
      ((∃ node, disk.find? location = some node ∧ node.isPlain = false) ∨
        ¬disk.HasDirectory location ∧ disk.linkAt? location = none ∧
          ∃ mode, after = disk.put location (.file mode text) ∧
            (disk.find? location = none ∧ mode = disk.granted 0o666 ∨
              ∃ old, disk.find? location = some (.file mode old))) := by
  rcases bind_ok_iff.mp done with ⟨location, resolved, done⟩
  refine ⟨location, resolved, ?_⟩
  split at done
  next => exact nomatch done
  next => exact nomatch done
  next mode old found =>
    cases done
    exact .inr ⟨no_directory_of_file found, linkAt?_of_find? found, mode, rfl, .inr ⟨old, found⟩⟩
  next found => exact .inl ⟨_, found, rfl⟩
  next found => exact .inl ⟨_, found, rfl⟩
  next free =>
    cases done
    exact .inr ⟨no_directory_of_free free, linkAt?_of_free free, _, rfl, .inl ⟨free, rfl⟩⟩

theorem changed_of_perform (done : disk.perform (.setMode path mode) = .ok after) :
    ∃ location node, disk.resolve path = .ok location ∧ disk.find? location = some node ∧
      after = disk.change location (node.withMode mode) := by
  rcases bind_ok_iff.mp done with ⟨location, resolved, done⟩
  split at done
  next node found =>
    cases done
    exact ⟨location, node, resolved, found, rfl⟩
  next => exact nomatch done

theorem renamed_of_perform (done : disk.perform (.rename source target) = .ok after) :
    ∃ start finish node, disk.locate source = .ok start ∧ disk.locate target = .ok finish ∧
      disk.find? start = some node ∧ ¬disk.HasDirectory start ∧ ¬disk.HasDirectory finish ∧
      (after = (disk.remove start).put finish node ∨ node.isPlain = false) := by
  rcases bind_ok_iff.mp done with ⟨start, leaves, done⟩
  rcases bind_ok_iff.mp done with ⟨finish, arrives, done⟩
  split at done
  next => exact nomatch done
  next node found =>
    split at done
    next => exact nomatch done
    next noDirectories =>
      rw [Bool.or_eq_true, not_or] at noDirectories
      refine ⟨start, finish, node, leaves, arrives, found, ?_, ?_, ?_⟩
      · rintro ⟨mode, isDirectory⟩
        cases found.symm.trans isDirectory
        exact noDirectories.1 rfl
      · rintro ⟨mode, isDirectory⟩
        rw [isDirectory] at noDirectories
        exact noDirectories.2 rfl
      · split at done
        next same =>
          rcases (Option.any_eq_true _ _).mp same with ⟨_, _, same⟩
          cases node with
          | shared => exact .inr rfl
          | directory | file | link | device => exact nomatch same
        next =>
          cases done
          exact .inl rfl

theorem deleted_of_perform (done : disk.perform (.delete path) = .ok after) :
    ∃ location node, disk.locate path = .ok location ∧ disk.find? location = some node ∧
      node.isDirectory = false ∧ after = disk.remove location := by
  rcases bind_ok_iff.mp done with ⟨location, located, done⟩
  split at done
  next node found =>
    split at done
    next => exact nomatch done
    next noDirectory =>
      cases done
      exact ⟨location, node, located, found, Bool.eq_false_iff.mpr noDirectory, rfl⟩
  next => exact nomatch done

end Disk
end GatewayConsole
