import GatewayConsole.Proofs.Storage.Links
import GatewayConsole.Proofs.Storage.Saving
import Mathlib.Data.List.TakeWhile

/-!
# Replacing files

A saved text takes the place of a file all at once or not at all, wherever the saving
stops. Until the renaming every operation is about something else: directories that the
path leads through, and the temporary file. There are two exceptions: paths that step up out
of a directory that is not there, since the directories made on the way may lead them to
something, and links in the place of the temporary file or of the file itself, through which
other files are written.
-/

namespace GatewayConsole

open Disk (Operation)

/-! ## The directories of a file -/

namespace Path

variable {path ancestor : Path} {name : String} {outer : List PathStep}

theorem suffix_of_mem_tails {steps made : List PathStep} (member : made ∈ ancestors.tails steps) :
    made <:+ steps := by
  induction steps with
  | nil => exact List.mem_singleton.mp member ▸ List.suffix_refl []
  | cons step steps induction =>
      rcases List.mem_cons.mp member with rfl | member
      · exact List.suffix_refl _
      · exact (induction member).trans (List.suffix_cons step steps)

theorem way_suffix (path : Path) : path.way <:+ path.steps := by
  unfold way
  split
  next isPath => exact isPath ▸ List.suffix_cons _ _
  next => exact List.suffix_refl _

theorem exists_of_mem_ancestors (member : ancestor ∈ path.ancestors) :
    ∃ made, made <:+ path.steps ∧ ancestor = { path with steps := made } := by
  rcases List.mem_map.mp member with ⟨made, listed, rfl⟩
  exact ⟨made, (suffix_of_mem_tails listed).trans path.way_suffix, rfl⟩

theorem parent?_of_way (isFile : path.way = .name name :: outer) :
    path.parent? = some { path with steps := outer } := by
  rw [parent?, isFile]

theorem temporary_ne (isFile : path.way = .name name :: outer) : Work.temporary path ≠ path := by
  intro same
  rcases temporary_steps isFile with ⟨extended, isTemporary, different⟩ | isUp
  · have again := (way_of_steps (same ▸ isTemporary)).symm.trans isFile
    exact different (PathStep.name.inj (List.cons.inj again).1)
  · rw [same] at isUp
    rw [way, isUp] at isFile
    cases isFile

end Path

namespace Disk

variable {Special : Type} {disk after : Disk Special} {path : Path} {location start : Location}
variable {name : String} {inner made outer steps : List PathStep} {mode : Mode} {depth : Nat}
variable {reach last : Reach} {node : Node Special}

def StepsOutOfMissing (disk : Disk Special) (path : Path) : Prop :=
  ∃ inner outer, path.steps = inner ++ outer ∧ .up ∈ inner ∧
    disk.holds { path with steps := outer } = false

theorem stays_of_down (down : .up ∉ path.steps) : ¬disk.StepsOutOfMissing path := by
  rintro ⟨inner, outer, isPath, isUp, _⟩
  exact down (isPath ▸ List.mem_append_left outer isUp)

theorem down_of_missing (stays : ¬disk.StepsOutOfMissing path)
    (isFile : path.way = .name name :: (inner ++ made))
    (missing : disk.holds { path with steps := made } = false) : .up ∉ inner := by
  intro isUp
  rcases path.way_suffix with ⟨front, isPath⟩
  refine stays ⟨front ++ (.name name :: inner), made, ?_, ?_, missing⟩
  · rw [← isPath, isFile, List.append_assoc, List.cons_append]
  · exact List.mem_append_right front (List.mem_cons_of_mem _ isUp)

theorem steps_onward (isFile : path.way = .name name :: (inner ++ made)) :
    ∃ onward, path.steps.reverse = made.reverse ++ onward ∧ .name name ∈ onward ∧
      (.up ∉ inner → .up ∉ onward) := by
  rcases Path.steps_of_way isFile with isPath | isPath
  · refine ⟨inner.reverse ++ [.name name], ?_, ?_, ?_⟩
    · rw [isPath, List.reverse_cons, List.reverse_append, List.append_assoc]
    · exact List.mem_append_right _ (List.mem_singleton_self _)
    · simp
  · refine ⟨inner.reverse ++ [.name name, .here], ?_, ?_, ?_⟩
    · simp [isPath]
    · exact List.mem_append_right _ List.mem_cons_self
    · simp

/-! ## Missing directories -/

theorem nodeAt?_of_missing (isFile : path.way = .name name :: (inner ++ made))
    (askable : isAskable { path with steps := made } = true)
    (missing : disk.holds { path with steps := made } = false) : disk.nodeAt? path = none := by
  rw [Option.eq_none_iff_forall_ne_some]
  intro node isNode
  rcases exists_of_nodeAt? isNode with ⟨location, resolved, _⟩
  rcases resolve_ok_iff.mp resolved with ⟨_, links, gone⟩
  rcases steps_onward isFile with ⟨onward, isPath, named, _⟩
  rw [isPath] at gone
  rcases go_append_ok_iff.mp gone with ⟨through, toThrough, gone⟩
  cases onward with
  | nil => exact nomatch named
  | cons step onward =>
      rcases go_cons_ok_iff.mp gone with ⟨_, passes, _⟩
      rcases passes.hasDirectory with ⟨mode, found⟩
      have holds : disk.holds { path with steps := made } = true :=
        holds_iff_resolve.mpr ⟨through.location, _,
          resolve_ok_iff.mpr ⟨askable, through.links, toThrough⟩, found⟩
      exact nomatch missing.symm.trans holds

/-- Without steps up, only free locations are reached from a directory that has nothing in
it. -/
theorem free_of_go (below : ∀ name, disk.find? (reach.location ++ [name]) = none)
    (down : .up ∉ steps) (named : .name name ∈ steps)
    (gone : disk.go depth reach steps = .ok last) : disk.find? last.location = none := by
  induction steps generalizing reach with
  | nil => exact nomatch named
  | cons step steps induction =>
      rcases go_cons_ok_iff.mp gone with ⟨middle, passes, onward⟩
      have isDirectory := passes.hasDirectory
      cases step with
      | up => exact absurd List.mem_cons_self down
      | here =>
          have stays : middle.location = reach.location := by
            cases passes with
            | direct entered => exact (enter_ok_iff.mp entered).2
            | linked entered isLink =>
                cases (enter_ok_iff.mp entered).2
                exact nomatch isLink.symm.trans isDirectory.linkAt?_eq_none
          refine induction (stays ▸ below) (List.not_mem_of_not_mem_cons down) ?_ onward
          exact (List.mem_cons.mp named).resolve_left nofun
      | name first =>
          have free : disk.find? middle.location = none := by
            cases passes with
            | direct entered =>
                rcases (enter_ok_iff.mp entered).2 with ⟨_, rfl⟩
                exact below first
            | linked entered isLink =>
                rcases (enter_ok_iff.mp entered).2 with ⟨_, rfl⟩
                exact nomatch isLink.symm.trans (linkAt?_of_free (below first))
          -- Nothing leads on from a free location.
          cases steps with
          | nil => exact go_nil_ok_iff.mp onward ▸ free
          | cons =>
              rcases go_cons_ok_iff.mp onward with ⟨_, passes, _⟩
              exact absurd passes.hasDirectory (no_directory_of_free free)

theorem nodeAt?_of_empty (isFile : path.way = .name name :: (inner ++ made)) (down : .up ∉ inner)
    (through : disk.resolve { path with steps := made } = .ok start)
    (below : ∀ name, disk.find? (start ++ [name]) = none) : disk.nodeAt? path = none := by
  rw [Option.eq_none_iff_forall_ne_some]
  intro node isNode
  rcases exists_of_nodeAt? isNode with ⟨location, resolved, found⟩
  rcases resolve_ok_iff.mp resolved with ⟨_, links, gone⟩
  rcases resolve_ok_iff.mp through with ⟨_, _, toStart⟩
  rcases steps_onward isFile with ⟨onward, isPath, named, downOnward⟩
  rw [isPath] at gone
  rcases go_append_ok_iff.mp gone with ⟨middle, toMiddle, gone⟩
  cases toMiddle.symm.trans toStart
  exact nomatch (free_of_go below (downOnward down) named gone).symm.trans found

theorem nodeAt?_makeDirectory (tree : disk.IsTree)
    (isFile : path.way = .name name :: (inner ++ made)) (down : .up ∉ inner)
    (located : disk.locate { path with steps := made } = .ok start)
    (free : disk.find? start = none) :
    (disk.put start (.directory mode)).nodeAt? path = disk.nodeAt? path := by
  have below (name : String) : disk.find? (start ++ [name]) = none := by
    rw [Option.eq_none_iff_forall_ne_some]
    intro node found
    exact no_directory_of_free free (tree.above start name node found)
  have stays := (keepsWays_put_free free (.directory mode)).locate located
  have isThere := find?_put_same disk start (.directory mode)
  rw [nodeAt?_of_empty isFile down (resolve_of_locate located (linkAt?_of_free free)) below]
  refine nodeAt?_of_empty isFile down (resolve_of_locate stays (linkAt?_of_find? isThere)) ?_
  intro name
  rw [find?_put_other disk _ (by simp)]
  exact below name

/-! ## Making directories and setting their permissions -/

/-- What making the directories of a path does at each step: it puts a directory where nothing
is, or in place of one. -/
inductive PutsDirectory (disk : Disk Special) : Disk Special → Prop
  | new {start : Location} {made : Path} {mode : Mode} (located : disk.locate made = .ok start)
      (free : disk.find? start = none) : PutsDirectory disk (disk.put start (.directory mode))
  | changed {start : Location} {mode : Mode} (isDirectory : disk.HasDirectory start) :
      PutsDirectory disk (disk.put start (.directory mode))

theorem putsDirectory_of_perform (done : disk.perform (.makeDirectory path) = .ok after) :
    disk.PutsDirectory after := by
  rcases made_of_perform done with ⟨location, located, free, rfl⟩
  exact .new located free

namespace PutsDirectory

theorem ways (puts : disk.PutsDirectory after) : KeepsWays disk after := by
  cases puts with
  | new located free => exact keepsWays_put_free free _
  | changed isDirectory =>
      refine keepsWays_put (fun _ => ⟨_, rfl⟩) fun path isLink => ?_
      exact nomatch isDirectory.linkAt?_eq_none.symm.trans isLink

theorem isTree (puts : disk.PutsDirectory after) (tree : disk.IsTree) : after.IsTree := by
  cases puts with
  | new located free => exact tree.put (tree.hasPlace_of_locate located) fun _ => ⟨_, rfl⟩
  | changed isDirectory =>
      rcases isDirectory with ⟨mode, found⟩
      exact tree.put (tree.hasPlace found) fun _ => ⟨_, rfl⟩

theorem find?_eq (puts : disk.PutsDirectory after) (found : disk.find? location = some node)
    (noDirectory : node.isDirectory = false) : after.find? location = some node := by
  cases puts with
  | new located free =>
      refine (find?_put_other disk _ ?_).trans found
      rintro rfl
      exact nomatch free.symm.trans found
  | changed isDirectory =>
      refine (find?_put_other disk _ ?_).trans found
      rintro rfl
      rcases isDirectory with ⟨mode, isNode⟩
      cases found.symm.trans isNode
      exact nomatch noDirectory

theorem exists_find? (puts : disk.PutsDirectory after) (found : disk.find? location = some node) :
    ∃ kept, after.find? location = some kept ∧ kept.target? = node.target? := by
  cases isDirectory : node.isDirectory with
  | false => exact ⟨node, puts.find?_eq found isDirectory, rfl⟩
  | true =>
      cases node with
      | directory mode =>
          rcases puts.ways.directories location ⟨mode, found⟩ with ⟨mode, isThere⟩
          exact ⟨_, isThere, rfl⟩
      | file | shared | link | device => exact nomatch isDirectory

theorem holds (puts : disk.PutsDirectory after) (tree : disk.IsTree)
    (holds : disk.holds path = true) : after.holds path = true := by
  rcases holds_iff_resolve.mp holds with ⟨location, node, resolved, found⟩
  rcases puts.exists_find? found with ⟨kept, isThere, sameTarget⟩
  have noLink : after.linkAt? location = none := by
    rw [linkAt?_of_find? isThere, sameTarget, ← linkAt?_of_find? found]
    exact tree.linkAt?_of_resolve resolved
  exact holds_iff_resolve.mpr ⟨location, kept, puts.ways.resolve resolved noLink, isThere⟩

end PutsDirectory

theorem nodeAt?_setMode_directory (tree : disk.IsTree) (isDirectory : disk.HasDirectory start)
    (nothing : disk.nodeAt? path = none) :
    (disk.put start (.directory mode)).nodeAt? path = none := by
  have puts : disk.PutsDirectory (disk.put start (.directory mode)) := .changed isDirectory
  have back : KeepsWays (disk.put start (.directory mode)) disk :=
    keepsWays_of_put (fun _ _ => isDirectory) rfl
  rw [Option.eq_none_iff_forall_ne_some]
  intro node isNode
  rcases exists_of_nodeAt? isNode with ⟨location, resolved, found⟩
  rw [tree.resolve_of_ways (puts.isTree tree) puts.ways back] at resolved
  rw [nodeAt?_of_resolve resolved] at nothing
  by_cases same : location = start
  · rcases isDirectory with ⟨_, isThere⟩
    rw [same, isThere] at nothing
    exact nomatch nothing
  · rw [find?_put_other disk _ same, nothing] at found
    exact nomatch found

end Disk

namespace Work

variable {Special : Type} {disk : Disk Special} {path : Path} {name : String}
variable {outer : List PathStep} {text : String}

theorem missing_of_mem {parent made : Path} (member : made ∈ missingDirectories disk parent) :
    made ∈ parent.ancestors ∧ disk.holds made = false := by
  have isMissing := List.mem_takeWhile_imp member
  rw [Bool.and_eq_true, Bool.not_eq_true', Bool.not_eq_true'] at isMissing
  exact ⟨(List.takeWhile_prefix _).subset member, isMissing.2⟩

theorem hasDirectory_of_parent {parent : Path} {made : List PathStep} {location : Location}
    (tree : disk.IsTree) (inside : made <:+ parent.steps)
    (holds : parent.steps ≠ [] → disk.holdsDirectory parent = true)
    (through : disk.resolve { parent with steps := made } = .ok location) :
    disk.HasDirectory location := by
  rcases Disk.resolve_ok_iff.mp through with ⟨_, _, toMade⟩
  rcases inside with ⟨inner, isParent⟩
  by_cases isRoot : parent.steps = []
  · rw [isRoot, List.append_eq_nil_iff] at isParent
    rw [isParent.2] at toMade
    cases Disk.go_nil_ok_iff.mp toMade
    exact tree.root
  · rcases Disk.holdsDirectory_iff_resolve.mp (holds isRoot) with ⟨finish, resolved, isDirectory⟩
    rcases Disk.resolve_ok_iff.mp resolved with ⟨_, _, gone⟩
    rw [← isParent, List.reverse_append] at gone
    rcases Disk.go_append_ok_iff.mp gone with ⟨middle, toMiddle, gone⟩
    cases toMiddle.symm.trans toMade
    exact Disk.hasDirectory_of_go gone isDirectory

theorem changed_of_parent {parent : Path} {made : List PathStep} {mode : Mode}
    {after : Disk Special} (tree : disk.IsTree) (inside : made <:+ parent.steps)
    (holds : parent.steps ≠ [] → disk.holdsDirectory parent = true)
    (done : disk.perform (.setMode { parent with steps := made } mode) = .ok after) :
    ∃ location, disk.resolve { parent with steps := made } = .ok location ∧
      disk.HasDirectory location ∧ after = disk.put location (.directory mode) := by
  rcases Disk.changed_of_perform done with ⟨location, node, resolved, found, rfl⟩
  have isDirectory := hasDirectory_of_parent tree inside holds resolved
  refine ⟨location, resolved, isDirectory, ?_⟩
  rcases isDirectory with ⟨old, isThere⟩
  cases found.symm.trans isThere
  rfl

/-! ## Until the renaming -/

/-- What is the same as on the disk that a saving began on, until the renaming: nothing is
taken away, and the path leads to what it led to. -/
structure Untouched (disk : Disk Special) (path : Path) (state : Disk Special) : Prop where
  tree : state.IsTree
  holds : ∀ other, disk.holds other = true → state.holds other = true
  same : state.nodeAt? path = disk.nodeAt? path

theorem Untouched.step {before after : Disk Special} (untouched : Untouched disk path before)
    (puts : before.PutsDirectory after) (same : after.nodeAt? path = before.nodeAt? path) :
    Untouched disk path after where
  tree := puts.isTree untouched.tree
  holds other holds := puts.holds untouched.tree (untouched.holds other holds)
  same := same.trans untouched.same

theorem Untouched.missing {before : Disk Special} {other : Path}
    (untouched : Untouched disk path before) (missing : before.holds other = false) :
    disk.holds other = false := by
  cases holds : disk.holds other with
  | false => rfl
  | true => exact (untouched.holds other holds).symm.trans missing

theorem untouched_makeParents (tree : disk.IsTree) (isFile : path.way = .name name :: outer)
    (stays : ¬disk.StepsOutOfMissing path) (hazards : List Hazard) :
    ((start disk hazards).makeParents path).2.Always (Untouched disk path) := by
  refine (always_start ⟨tree, fun _ holds => holds, rfl⟩).makeParents_within ?_ ?_
  · intro parent isParent made inside
    cases (Path.parent?_of_way isFile).symm.trans isParent
    rcases inside with ⟨inner, rfl⟩
    refine keeps_of_whole (fun _ => rfl) fun before after untouched done => ?_
    rcases Disk.made_of_perform done with ⟨location, located, free, rfl⟩
    -- What can be made is missing now, and so was missing when the saving began.
    have missing : before.holds { path with steps := made } = false := by
      have resolved := Disk.resolve_of_locate located (Disk.linkAt?_of_free free)
      rw [Disk.holds, Disk.nodeAt?_of_resolve resolved]
      exact congrArg Option.isSome free
    have down := Disk.down_of_missing stays isFile (untouched.missing missing)
    exact untouched.step (.new located free)
      (Disk.nodeAt?_makeDirectory untouched.tree isFile down located free)
  · intro parent isParent made member before after holds untouched done
    cases (Path.parent?_of_way isFile).symm.trans isParent
    rcases missing_of_mem member with ⟨isAncestor, missing⟩
    rcases Path.exists_of_mem_ancestors isAncestor with ⟨made, inside, rfl⟩
    rcases changed_of_parent untouched.tree inside holds done with
      ⟨location, resolved, isDirectory, rfl⟩
    have askable := (Disk.resolve_ok_iff.mp resolved).1
    rcases inside with ⟨inner, rfl⟩
    have nothing : disk.nodeAt? path = none := Disk.nodeAt?_of_missing isFile askable missing
    refine untouched.step (.changed isDirectory) ?_
    rw [untouched.same, nothing]
    exact Disk.nodeAt?_setMode_directory untouched.tree isDirectory (untouched.same.trans nothing)

/-- What holds until the renaming, once the directories are there: the temporary file can be
written and renamed on its own. -/
structure Ready (path : Path) (state : Disk Special) : Prop where
  tree : state.IsTree
  unlinked : state.Unlinked path

theorem Ready.step {before after : Disk Special} (ready : Ready path before)
    (puts : before.PutsBeside path after) : Ready path after :=
  ⟨puts.isTree ready.tree, puts.unlinked ready.tree ready.unlinked⟩

theorem Ready.putsBeside {operation part : Operation} {before after : Disk Special}
    (ready : Ready path before) (member : operation ∈ preparations path text)
    (isPart : IsPart operation part) (done : before.perform part = .ok after) :
    before.PutsBeside path after := by
  rcases List.mem_cons.mp member with rfl | member
  · cases isPart with
    | whole => exact ready.unlinked.putsBeside_write done
    | remnant left =>
        cases left
        exact ready.unlinked.putsBeside_write done
  · cases List.mem_singleton.mp member
    cases isPart with
    | whole => exact ready.unlinked.putsBeside_setMode done
    | remnant left => exact nomatch left

theorem keeps_ready {operation : Operation} (member : operation ∈ preparations path text) :
    Keeps (Ready path : Disk Special → Prop) operation :=
  fun _ _ _ isPart ready done => ready.step (ready.putsBeside member isPart done)

theorem keepsWhile_nodeAt? {operation : Operation} {known : Option (Node Special)}
    (isFile : path.way = .name name :: outer) (member : operation ∈ preparations path text) :
    KeepsWhile (Ready path) (fun state => state.nodeAt? path = known) operation :=
  fun _ _ _ isPart ready same done =>
    ((ready.putsBeside member isPart done).nodeAt?_eq ready.tree ready.unlinked isFile).trans same

theorem putting_makeParents (property : Disk Special → Prop) (tree : disk.IsTree)
    (holds : property disk) (path : Path) (hazards : List Hazard)
    (keeps : ∀ before after, property before → before.PutsDirectory after → property after) :
    ((start disk hazards).makeParents path).2.Always fun state =>
      state.IsTree ∧ property state := by
  refine (always_start ⟨tree, holds⟩).makeParents_within ?_ ?_
  · intro parent _ made _
    refine keeps_of_whole (fun _ => rfl) fun before after ⟨tree, holds⟩ done => ?_
    have puts := Disk.putsDirectory_of_perform done
    exact ⟨puts.isTree tree, keeps before after holds puts⟩
  · intro parent _ made member before after holdsParent ⟨tree, holds⟩ done
    rcases Path.exists_of_mem_ancestors (missing_of_mem member).1 with ⟨made, inside, rfl⟩
    rcases changed_of_parent tree inside holdsParent done with ⟨location, _, isDirectory, rfl⟩
    have puts : before.PutsDirectory (before.put location (.directory ownerDirectory)) :=
      .changed isDirectory
    exact ⟨puts.isTree tree, keeps before _ holds puts⟩

theorem ready_makeParents {hazards : List Hazard} (tree : disk.IsTree)
    (unlinked : ((start disk hazards).makeParents path).2.disk.Unlinked path) :
    Ready path ((start disk hazards).makeParents path).2.disk :=
  ⟨(putting_makeParents (fun _ => True) tree trivial path hazards fun _ _ _ _ => trivial).now.1,
    unlinked⟩

/-! ## Other files -/

/-- Whether a file is as it was, unless a path or its temporary path names it. -/
def Spares (location : Location) (node : Node Special) (path : Path) (state : Disk Special) :
    Prop :=
  state.find? location = some node ∨ state.locate path = .ok location ∨
    state.locate (temporary path) = .ok location

section Spares

variable {location : Location} {node : Node Special} {before after : Disk Special} {mode : Mode}

theorem Spares.putsDirectory (spares : Spares location node path before)
    (noDirectory : node.isDirectory = false) (puts : before.PutsDirectory after) :
    Spares location node path after := by
  rcases spares with found | located | besides
  · exact .inl (puts.find?_eq found noDirectory)
  · exact .inr (.inl (puts.ways.locate located))
  · exact .inr (.inr (puts.ways.locate besides))

theorem Spares.putsBeside (spares : Spares location node path before)
    (puts : before.PutsBeside path after) : Spares location node path after := by
  by_cases besides : before.locate (temporary path) = .ok location
  · exact .inr (.inr (puts.ways.locate besides))
  rcases spares with found | located | isBeside
  · exact .inl ((puts.find?_other besides).trans found)
  · exact .inr (.inl (puts.ways.locate located))
  · exact absurd isBeside besides

theorem Spares.moves (spares : Spares location node path before)
    (isFile : path.way = .name name :: outer) (moves : before.Moves path mode text after) :
    Spares location node path after := by
  -- What a path has named it names for good, so the file matters only while none does.
  by_cases named : before.locate path = .ok location
  · exact .inr (.inl (moves.locate named))
  by_cases besides : before.locate (temporary path) = .ok location
  · exact .inr (.inr (moves.locate_temporary isFile besides))
  rcases spares with found | located | isBeside
  · exact .inl ((moves.find?_other named besides).trans found)
  · exact absurd located named
  · exact absurd isBeside besides

theorem spares_save {hazards : List Hazard} (tree : disk.IsTree)
    (isFile : path.way = .name name :: outer) (found : disk.find? location = some node)
    (noDirectory : node.isDirectory = false)
    (unlinked : ((start disk hazards).makeParents path).2.disk.Unlinked path) :
    ((start disk hazards).save path text).2.Always (Spares location node path) := by
  have putting := putting_makeParents (Spares location node path) tree (.inl found) path hazards
    fun _ _ spares puts => spares.putsDirectory noDirectory puts
  have parents : ((start disk hazards).makeParents path).2.Always (Spares location node path) :=
    fun state member => (putting state member).2
  intro state member
  rcases parents.save_until_renamed_while (ready_makeParents tree unlinked)
      (fun _ => keeps_ready)
      (fun _ listed _ _ _ isPart ready spares done =>
        spares.putsBeside (ready.putsBeside listed isPart done)) state member with
    spares | ⟨_, _, before, ready, spares, renamed⟩
  · exact spares
  · rcases ready.unlinked.rename renamed with ⟨mode, text, moves⟩
    exact spares.moves isFile moves

end Spares

/-! ## The saved file -/

theorem moves_of_performed {before written changed renamed : Disk Special} {mode : Mode}
    (unlinked : before.Unlinked path) (unlinkedWritten : written.Unlinked path)
    (unlinkedChanged : changed.Unlinked path)
    (write : before.perform (.write (temporary path) text) = .ok written)
    (change : written.perform (.setMode (temporary path) mode) = .ok changed)
    (rename : changed.perform (.rename (temporary path) path) = .ok renamed) :
    changed.Moves path mode text renamed := by
  have ways := (unlinked.putsBeside_write write).ways
  have waysChanged := (unlinkedWritten.putsBeside_setMode change).ways
  rcases unlinked.write write with ⟨beside, first, besides, _, rfl⟩
  rcases unlinkedWritten.setMode change with ⟨again, node, besidesAgain, found, _, rfl⟩
  cases (ways.locate besides).symm.trans besidesAgain
  rw [Disk.find?_put_same] at found
  cases found
  rcases unlinkedChanged.rename rename with ⟨last, content, moves⟩
  have stays := waysChanged.locate besidesAgain
  cases moves with
  | move leaves arrives found noDirectory without =>
      cases stays.symm.trans leaves
      have isThere := found
      rw [Disk.find?_put_same] at isThere
      cases isThere
      exact .move leaves arrives found noDirectory without

theorem moves_of_save {hazards : List Hazard} (tree : disk.IsTree)
    (unlinked : ((start disk hazards).makeParents path).2.disk.Unlinked path)
    (saved : ((start disk hazards).save path text).1 = .ok ()) :
    ∃ before : Disk Special, before.Moves path ownerFile text
      ((start disk hazards).save path text).2.disk := by
  rcases performed_of_save saved with ⟨written, changed, write, change, rename⟩
  have ready := ready_makeParents tree unlinked
  have readyWritten := ready.step (ready.unlinked.putsBeside_write write)
  have readyChanged := readyWritten.step (readyWritten.unlinked.putsBeside_setMode change)
  exact ⟨changed, moves_of_performed unlinked readyWritten.unlinked readyChanged.unlinked write
    change rename⟩

theorem nodeAt?_save {work : Work} (saved : (work.save path text).1 = .ok ()) :
    (work.save path text).2.disk.nodeAt? path = some (.file ownerFile text) := by
  rcases performed_of_save saved with ⟨written, changed, write, change, rename⟩
  have unlinked := fun disk : Disk => Disk.unlinked_plain disk path
  exact (moves_of_performed (unlinked _) (unlinked _) (unlinked _) write change rename).nodeAt?_eq

/-! ## Saving -/

/-- What may become of a disk while a text is saved at a path: in every state the file is the
one from before or the whole new one, and other files are as they were. -/
structure Replaces (disk : Disk Special) (path : Path) (text : String)
    (saving : Except Trouble Unit × Work Special) : Prop where
  whole : ¬disk.StepsOutOfMissing path → ∀ state ∈ saving.2.states,
    state.nodeAt? path = disk.nodeAt? path ∨ state.nodeAt? path = some (.file ownerFile text)
  failed : ¬disk.StepsOutOfMissing path → ∀ trouble, saving.1 = .error trouble →
    saving.2.disk.nodeAt? path = disk.nodeAt? path
  saved : saving.1 = .ok () → saving.2.disk.nodeAt? path = some (.file ownerFile text) ∧
    saving.2.disk.nodeAt? (temporary path) = none
  spared : ∀ location node old, disk.find? location = some node → node.text? = some old →
    ∀ state ∈ saving.2.states, Spares location node path state

theorem nodeAt?_until_renamed {hazards : List Hazard} (tree : disk.IsTree)
    (isFile : path.way = .name name :: outer) (stays : ¬disk.StepsOutOfMissing path)
    (unlinked : ((start disk hazards).makeParents path).2.disk.Unlinked path) :
    ∀ state ∈ ((start disk hazards).save path text).2.states,
      state.nodeAt? path = disk.nodeAt? path ∨
        ((start disk hazards).save path text).1 = .ok () ∧
          state = ((start disk hazards).save path text).2.disk := by
  have untouched := untouched_makeParents tree isFile stays hazards
  have parents : ((start disk hazards).makeParents path).2.Always
      fun state => state.nodeAt? path = disk.nodeAt? path :=
    fun state member => (untouched state member).same
  intro state member
  exact (parents.save_until_renamed_while (ready_makeParents tree unlinked)
    (fun _ => keeps_ready) (fun _ => keepsWhile_nodeAt? isFile) state member).imp_right
      fun ⟨done, isLast, _⟩ => ⟨done, isLast⟩

/-- Saving replaces a file with the whole new text or leaves it as it was, at every point
and whichever operations fail, and changes no other file but the temporary one, unless links
lead from there to another file. The temporary file is never the file itself. -/
theorem save_replaces (tree : disk.IsTree) (isFile : path.way = .name name :: outer)
    (hazards : List Hazard) (text : String) :
    (((start disk hazards).makeParents path).2.disk.Unlinked path →
      Replaces disk path text ((start disk hazards).save path text)) ∧
    temporary path ≠ path ∧ ∀ state ∈ ((start disk hazards).save path text).2.states, ∀ location,
      state.locate path = .ok location → state.locate (temporary path) ≠ .ok location := by
  refine ⟨fun unlinked => ⟨?_, ?_, ?_, ?_⟩, Path.temporary_ne isFile,
    fun _ _ _ => Disk.temporary_apart isFile⟩
  · intro stays state member
    rcases nodeAt?_until_renamed tree isFile stays unlinked state member with
      same | ⟨done, isLast⟩
    · exact .inl same
    · rcases moves_of_save tree unlinked done with ⟨_, moves⟩
      exact .inr (isLast ▸ moves.nodeAt?_eq)
  · intro stays trouble failed
    rcases nodeAt?_until_renamed tree isFile stays unlinked _ List.mem_cons_self with
      same | ⟨done, _⟩
    · exact same
    · exact nomatch done.symm.trans failed
  · intro saved
    rcases moves_of_save tree unlinked saved with ⟨_, moves⟩
    exact ⟨moves.nodeAt?_eq, moves.nodeAt?_temporary isFile⟩
  · intro location node old found isFileNode
    refine spares_save tree isFile found ?_ unlinked
    cases node with
    | directory | link | device => exact nomatch isFileNode
    | file | shared => rfl

/-- A file outlives a saving whose renaming is refused, also when it is reached through links:
the directory of the path is one, and so is what lies at the path. -/
theorem save_replaces_refused :
    let path := Path.ofText "/l/b.json"
    let disk : Disk Unit := ⟨[([], .directory 0o755), (["a"], .directory 0o755),
      (["a", "c.json"], .shared () 1 0o644 "x"), (["d"], .shared () 1 0o644 "x"),
      (["a", "b.json"], .link () (Path.ofText "c.json")), (["l"], .link () (Path.ofText "a"))], 0⟩
    let saving := (start disk [.none, .none, .refused]).save path "y"
    disk.IsTree ∧ path.way = [.name "b.json", .name "l"] ∧ Replaces disk path "y" saving ∧
      ¬disk.StepsOutOfMissing path ∧ saving.1 = .error .other ∧
      saving.2.disk.nodeAt? path = some (.shared () 1 0o644 "x") ∧
      saving.2.disk.nodeAt? (temporary path) = some (.file 0o600 "y") := by
  intro path disk saving
  have tree : disk.IsTree := Disk.isTree_of_all (by decide +kernel) (by decide +kernel)
  have isFile : path.way = [.name "b.json", .name "l"] := by decide +kernel
  have parents : ((start disk [.none, .none, .refused]).makeParents path).2.disk = disk := by
    decide +kernel
  have unlinked : disk.Unlinked path := by
    have target : disk.entry path = .ok ["a", "b.json"] := by decide +kernel
    have beside : disk.entry (temporary path) = .ok ["a", "b.json.tmp"] := by decide +kernel
    refine ⟨fun location node entered found => ?_, fun location entered => .inr ⟨?_, ?_⟩⟩
    · cases beside.symm.trans entered
      exact nomatch (by decide +kernel : disk.find? ["a", "b.json.tmp"] = none).symm.trans found
    · cases target.symm.trans entered
      decide +kernel
    · intro other enteredBeside
      cases beside.symm.trans enteredBeside
      decide +kernel
  have onward : ((start disk [.none, .none, .refused]).makeParents path).2.disk.Unlinked path := by
    rw [parents]
    exact unlinked
  refine ⟨tree, isFile, (save_replaces tree isFile _ _).1 onward, ?_, ?_⟩
  · exact Disk.stays_of_down (by decide +kernel)
  · decide +kernel

/-- Where saving does not replace a file: a path that steps up out of a directory that is made
leads to that directory; a temporary file that is another name of the file, or a link to a third
one, is written in its place; a device in the place of the temporary file keeps no text; a file
that is a link to the temporary file is written before it is renamed; and a link that its own
path goes through leads nowhere once it is replaced. -/
theorem save_replaces_not_everywhere :
    (let path := Path.ofText "/d/../d"
      let saving := (start Disk.empty []).save path "x"
      Disk.empty.IsTree ∧ path.way = [.name "d", .up, .name "d"] ∧ saving.1 = .error .other ∧
        Disk.empty.nodeAt? path = none ∧
        saving.2.disk.nodeAt? path = some (.directory 0o700)) ∧
    (let disk : Disk Unit := ⟨[([], .directory 0o755), (["b.json"], .shared () 1 0o644 "x"),
        (["b.json.tmp"], .shared () 1 0o644 "x")], 0⟩
      let saving := (start disk [.none, .refused]).save (Path.ofText "/b.json") "y"
      disk.IsTree ∧ saving.1 = .error .other ∧
        saving.2.disk.text? (Path.ofText "/b.json") = some "y") ∧
    (let disk : Disk Unit := ⟨[([], .directory 0o755), (["c"], .file 0o644 "x"),
        (["b.json.tmp"], .link () (Path.ofText "c"))], 0⟩
      let saving := (start disk []).save (Path.ofText "/b.json") "y"
      disk.IsTree ∧ saving.1 = .ok () ∧ saving.2.disk.text? (Path.ofText "/c") = some "y") ∧
    (let disk : Disk Unit := ⟨[([], .directory 0o755), (["b.json.tmp"], .device () 0o666)], 0⟩
      let saving := (start disk []).save (Path.ofText "/b.json") "y"
      disk.IsTree ∧ saving.1 = .ok () ∧ saving.2.disk.text? (Path.ofText "/b.json") = none) ∧
    (let disk : Disk Unit := ⟨[([], .directory 0o755),
        (["b.json"], .link () (Path.ofText "b.json.tmp"))], 0⟩
      let saving := (start disk [.brokenOff 1]).save (Path.ofText "/b.json") "yy"
      disk.IsTree ∧ saving.1 = .error .other ∧ disk.nodeAt? (Path.ofText "/b.json") = none ∧
        saving.2.disk.text? (Path.ofText "/b.json") = some "y") ∧
    (let disk : Disk Unit := ⟨[([], .directory 0o755), (["l"], .link () (Path.ofText "/"))], 0⟩
      let saving := (start disk []).save (Path.ofText "/l/l") "y"
      disk.IsTree ∧ saving.1 = .ok () ∧ saving.2.disk.nodeAt? (Path.ofText "/l/l") = none) := by
  refine ⟨⟨Disk.isTree_empty, by decide +kernel⟩, ⟨?_, by decide +kernel⟩,
    ⟨?_, by decide +kernel⟩, ⟨?_, by decide +kernel⟩, ⟨?_, by decide +kernel⟩,
    ⟨?_, by decide +kernel⟩⟩
  all_goals exact Disk.isTree_of_all (by decide +kernel) (by decide +kernel)

end Work
end GatewayConsole
