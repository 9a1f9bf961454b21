import GatewayConsole.Proofs.Storage.Operations

/-!
# Effects

The effects of operations on plain disks. No operation removes a directory, and a tree stays a
tree.
-/

namespace GatewayConsole
namespace Disk

variable {disk after : Disk} {location : Location} {path : Path} {operation : Operation}

/-! ## Effects -/

inductive Effect (disk : Disk) : Operation → Disk → Prop
  | makeDirectory {path : Path} {location : Location} (located : disk.locate path = .ok location)
      (free : disk.find? location = none) :
      Effect disk (.makeDirectory path) (disk.put location (.directory (disk.granted 0o777)))
  | rewrite {path : Path} {text old : String} {mode : Mode} {location : Location}
      (located : disk.locate path = .ok location)
      (found : disk.find? location = some (.file mode old)) :
      Effect disk (.write path text) (disk.put location (.file mode text))
  | create {path : Path} {text : String} {location : Location}
      (located : disk.locate path = .ok location) (free : disk.find? location = none) :
      Effect disk (.write path text) (disk.put location (.file (disk.granted 0o666) text))
  | setMode {path : Path} {mode : Mode} {location : Location} {node : Node}
      (located : disk.locate path = .ok location) (found : disk.find? location = some node) :
      Effect disk (.setMode path mode) (disk.put location (node.withMode mode))
  | rename {source target : Path} {start finish : Location} {mode : Mode} {text : String}
      (leaves : disk.locate source = .ok start) (arrives : disk.locate target = .ok finish)
      (found : disk.find? start = some (.file mode text))
      (noDirectory : ¬disk.HasDirectory finish) :
      Effect disk (.rename source target) ((disk.remove start).put finish (.file mode text))
  | delete {path : Path} {mode : Mode} {text : String} {location : Location}
      (located : disk.locate path = .ok location)
      (found : disk.find? location = some (.file mode text)) :
      Effect disk (.delete path) (disk.remove location)

theorem effect_of_perform (done : disk.perform operation = .ok after) :
    Effect disk operation after := by
  cases operation with
  | makeDirectory path =>
      rcases made_of_perform done with ⟨location, located, free, rfl⟩
      exact .makeDirectory located free
  | write path text =>
      rcases written_of_perform done with ⟨location, resolved, ⟨node, _, special⟩ | written⟩
      · cases node with
        | directory | file => exact nomatch special
        | shared special | link special | device special => exact nomatch special
      · rw [resolve_eq_locate] at resolved
        rcases written with ⟨_, _, mode, rfl, ⟨free, rfl⟩ | ⟨old, found⟩⟩
        · exact .create resolved free
        · exact .rewrite resolved found
  | setMode path mode =>
      rcases changed_of_perform done with ⟨location, node, resolved, found, rfl⟩
      rw [resolve_eq_locate] at resolved
      cases node with
      | directory | file => exact .setMode resolved found
      | shared special | link special | device special => exact nomatch special
  | rename source target =>
      rcases renamed_of_perform done with
        ⟨start, finish, node, leaves, arrives, found, noDirectory, noOther, moved⟩
      cases node with
      | directory mode => exact absurd ⟨mode, found⟩ noDirectory
      | file mode text =>
          rcases moved with rfl | special
          · exact .rename leaves arrives found noOther
          · exact nomatch special
      | shared special | link special | device special => exact nomatch special
  | delete path =>
      rcases deleted_of_perform done with ⟨location, node, located, found, noDirectory, rfl⟩
      cases node with
      | directory => exact nomatch noDirectory
      | file mode text => exact .delete located found
      | shared special | link special | device special => exact nomatch special

/-! ## What stays -/

def Operation.paths : Operation → List Path
  | .makeDirectory path => [path]
  | .write path _ => [path]
  | .setMode path _ => [path]
  | .rename source target => [source, target]
  | .delete path => [path]

theorem Effect.find?_other (effect : Effect disk operation after)
    (apart : ∀ path ∈ operation.paths, disk.locate path ≠ .ok location) :
    after.find? location = disk.find? location := by
  have elsewhere {path : Path} {changed : Location} (member : path ∈ operation.paths)
      (located : disk.locate path = .ok changed) : location ≠ changed := by
    rintro rfl
    exact apart path member located
  cases effect with
  | makeDirectory located | rewrite located | create located | setMode located =>
      exact find?_put_other disk _ (elsewhere List.mem_cons_self located)
  | rename leaves arrives =>
      rw [find?_put_other _ _ (elsewhere (List.mem_cons_of_mem _ List.mem_cons_self) arrives),
        find?_remove_other _ (elsewhere List.mem_cons_self leaves)]
  | delete located => exact find?_remove_other disk (elsewhere List.mem_cons_self located)

/-! ## Directories and trees -/

theorem Effect.keeps_directories (effect : Effect disk operation after)
    (isDirectory : disk.HasDirectory location) : after.HasDirectory location := by
  cases effect with
  | makeDirectory => exact isDirectory.put fun _ => ⟨_, rfl⟩
  | rewrite _ found => exact isDirectory.put fun other => absurd found other.not_file
  | create _ free => exact isDirectory.put fun other => absurd other (no_directory_of_free free)
  | setMode _ found => exact isDirectory.put fun other => withMode_of_directory found other
  | rename _ _ found noDirectory =>
      have isFile := no_directory_of_file found
      refine (isDirectory.remove isFile).put fun other => ?_
      exact absurd ((hasDirectory_remove isFile).mp other) noDirectory
  | delete _ found => exact isDirectory.remove (no_directory_of_file found)

theorem Effect.hasDirectory_iff (effect : Effect disk operation after)
    (noNew : ∀ path, operation ≠ .makeDirectory path) :
    after.HasDirectory location ↔ disk.HasDirectory location := by
  refine ⟨fun isDirectory => ?_, effect.keeps_directories⟩
  cases effect with
  | makeDirectory => exact absurd rfl (noNew _)
  | rewrite _ found => exact (hasDirectory_put_file (no_directory_of_file found)).mp isDirectory
  | create _ free => exact (hasDirectory_put_file (no_directory_of_free free)).mp isDirectory
  | setMode located found =>
      rename_i changed node
      by_cases same : location = changed
      · rcases isDirectory with ⟨_, isNode⟩
        rw [same, find?_put_same] at isNode
        cases node with
        | directory mode => exact ⟨mode, same ▸ found⟩
        | file => exact nomatch isNode
        | shared special | link special | device special => exact nomatch special
      · exact (hasDirectory_put_other same).mp isDirectory
  | rename _ _ found noDirectory =>
      have isFile := no_directory_of_file found
      have stillNone := fun other => noDirectory ((hasDirectory_remove isFile).mp other)
      exact (hasDirectory_remove isFile).mp ((hasDirectory_put_file stillNone).mp isDirectory)
  | delete _ found => exact (hasDirectory_remove (no_directory_of_file found)).mp isDirectory

theorem Effect.isTree (effect : Effect disk operation after) (tree : disk.IsTree) :
    after.IsTree := by
  cases effect with
  | makeDirectory located => exact tree.put (tree.hasPlace_of_locate located) fun _ => ⟨_, rfl⟩
  | rewrite located found =>
      exact tree.put (tree.hasPlace_of_locate located) fun other => absurd found other.not_file
  | create located free =>
      exact tree.put (tree.hasPlace_of_locate located) fun other =>
        absurd other (no_directory_of_free free)
  | setMode located found =>
      exact tree.put (tree.hasPlace_of_locate located) fun other =>
        withMode_of_directory found other
  | rename _ arrives found noDirectory =>
      have isFile := no_directory_of_file found
      refine (tree.remove isFile).put ?_ fun other => ?_
      · intro above name same
        exact (tree.hasPlace_of_locate arrives above name same).remove isFile
      · exact absurd ((hasDirectory_remove isFile).mp other) noDirectory
  | delete _ found => exact tree.remove (no_directory_of_file found)

end Disk
end GatewayConsole
