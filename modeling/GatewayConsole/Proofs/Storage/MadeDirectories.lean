import GatewayConsole.Proofs.Storage.Replacement

/-!
# Directories made for a path

The directories that a path needs are made with a bounded number of operations. When all goes
well, the path's directory is there, every new directory is the owner's alone, and nothing
else has changed. The exception are paths that step up out of a directory that is not there:
a step up is missing with the directory it leaves, so the directory that it leads to becomes
the owner's even when it has been there before.
-/

namespace GatewayConsole

open Disk (Operation Effect)

/-! ## Directories of a path -/

namespace Path

theorem parent?_eq_some {path parent : Path} (isParent : path.parent? = some parent) :
    ∃ front step, path.steps = front ++ step :: parent.steps ∧
      parent = { path with steps := parent.steps } := by
  rcases path.way_suffix with ⟨front, isPath⟩
  unfold parent? at isParent
  split at isParent
  next => exact nomatch isParent
  next step outer isWay =>
    cases isParent
    exact ⟨front, step, by rw [← isPath, isWay], rfl⟩

theorem suffix_way_of_named {path : Path} {name : String} {outer : List PathStep}
    (inside : .name name :: outer <:+ path.steps) : .name name :: outer <:+ path.way := by
  unfold way
  split
  next step inner isPath =>
    rw [isPath] at inside
    rcases List.suffix_cons_iff.mp inside with same | inside
    · exact nomatch same
    · exact inside
  next => exact inside

theorem length_tails (steps : List PathStep) :
    (ancestors.tails steps).length = steps.length + 1 := by
  induction steps with
  | nil => rfl
  | cons step outer induction => rw [ancestors.tails, List.length_cons, induction, List.length_cons]

end Path

theorem Disk.exists_of_walk {disk : Disk} {start finish : Location} {steps : List PathStep}
    {node : Node} (walked : disk.walk start steps = .ok finish)
    (found : disk.find? finish = some node) : ∃ node, disk.find? start = some node := by
  cases steps with
  | nil => exact ⟨node, walk_nil_ok_iff.mp walked ▸ found⟩
  | cons =>
      rcases walk_cons_ok_iff.mp walked with ⟨_, ⟨⟨mode, isDirectory⟩, _⟩, _⟩
      exact ⟨_, isDirectory⟩

namespace Work

theorem length_missingDirectories (disk : Disk) (path : Path) :
    (missingDirectories disk path).length ≤ path.steps.length + 1 := by
  have listed : path.ancestors.length = path.way.length + 1 := by
    rw [Path.ancestors, List.length_map, Path.length_tails]
  have shorter := path.way_suffix.length_le
  have fewer : (missingDirectories disk path).length ≤ path.ancestors.length :=
    (List.takeWhile_prefix _).length_le
  omega

theorem makeParents_cases (work : Work) (path : Path) :
    (work.makeParents path = (.ok (), work) ∧ ∀ parent, path.parent? = some parent →
      parent.isEmpty = true ∨ work.disk.holds parent = true) ∨
    ∃ parent, path.parent? = some parent ∧ work.makeParents path =
      next (makeDirectories parent.absolute work parent.steps) fun later =>
        later.actAll
          ((missingDirectories work.disk parent).reverse.map (.setMode · ownerDirectory)) := by
  unfold makeParents
  cases path.parent? with
  | none => exact .inl ⟨rfl, nofun⟩
  | some parent =>
      dsimp only
      split
      next there =>
        refine .inl ⟨rfl, fun other same => ?_⟩
        cases same
        rwa [Bool.or_eq_true] at there
      next => exact .inr ⟨parent, rfl, rfl⟩

/-! ## Counting attempts -/

/-- Whether work goes on after at most so many attempts at operations. Each attempt meets one
hazard. -/
def Attempts (bound : Nat) (before after : Work) : Prop :=
  ∃ count ≤ bound, after.hazards = before.hazards.drop count

section Attempts

variable {first second : Nat} {before middle after work : Work}

theorem Attempts.trans (sooner : Attempts first before middle)
    (later : Attempts second middle after) : Attempts (first + second) before after := by
  rcases sooner with ⟨count, within, dropped⟩
  rcases later with ⟨more, withinMore, droppedMore⟩
  refine ⟨count + more, Nat.add_le_add within withinMore, ?_⟩
  rw [droppedMore, dropped, List.drop_drop]

theorem Attempts.mono (attempts : Attempts first before after) (fewer : first ≤ second) :
    Attempts second before after := by
  rcases attempts with ⟨count, within, dropped⟩
  exact ⟨count, within.trans fewer, dropped⟩

theorem attempts_none (work : Work) : Attempts 0 work work :=
  ⟨0, Nat.le_refl 0, rfl⟩

theorem hazards_carryOut (work : Work) (operation : Operation) :
    (work.carryOut operation).2.hazards = work.hazards := by
  unfold carryOut
  split <;> rfl

theorem attempts_act (work : Work) (operation : Operation) :
    Attempts 1 work (work.act operation).2 := by
  refine ⟨1, Nat.le_refl 1, ?_⟩
  rw [List.drop_one]
  unfold act
  split
  next => exact hazards_carryOut _ operation
  next => rfl
  next =>
    split
    next part _ => exact hazards_carryOut _ part
    next => rfl

theorem Attempts.next {result : Except Trouble Unit × Work}
    {onward : Work → Except Trouble Unit × Work} (sooner : Attempts first before result.2)
    (later : ∀ work, Attempts second work (onward work).2) :
    Attempts (first + second) before (Work.next result onward).2 := by
  rcases next_cases result onward with ⟨_, _, same⟩ | ⟨_, same⟩
  · rw [same]
    exact sooner.mono (Nat.le_add_right first second)
  · rw [same]
    exact sooner.trans (later result.2)

theorem attempts_actAll (work : Work) (operations : List Operation) :
    Attempts operations.length work (work.actAll operations).2 := by
  induction operations generalizing work with
  | nil => exact attempts_none work
  | cons operation operations induction =>
      rw [List.length_cons, Nat.add_comm]
      exact (attempts_act work operation).next induction

theorem work_unlessDirectory (path : Path) (result : Except Trouble Unit × Work) :
    (unlessDirectory path result).2 = result.2 := by
  unfold unlessDirectory
  split
  next => split <;> rfl
  next => rfl

theorem attempts_makeDirectories (absolute : Bool) (work : Work) (steps : List PathStep) :
    Attempts (2 * steps.length) work (makeDirectories absolute work steps).2 := by
  induction steps generalizing work with
  | nil => exact attempts_none work
  | cons step outer induction =>
      have once := attempts_act work (.makeDirectory ⟨absolute, step :: outer⟩)
      have count : 1 + (2 * outer.length + 1) = 2 * (step :: outer).length := by
        rw [List.length_cons]
        omega
      rw [makeDirectories, ← count]
      split
      next after acted =>
        rw [acted] at once
        refine once.trans ((induction after).next fun work => ?_)
        rw [work_unlessDirectory]
        exact attempts_act work _
      next =>
        rw [work_unlessDirectory]
        exact once.mono (Nat.le_add_right 1 _)

theorem attempts_makeParents (work : Work) (path : Path) :
    Attempts (3 * path.steps.length) work (work.makeParents path).2 := by
  rcases makeParents_cases work path with ⟨same, _⟩ | ⟨parent, isParent, same⟩
  · rw [same]
    exact (attempts_none work).mono (Nat.zero_le _)
  · rcases Path.parent?_eq_some isParent with ⟨front, step, isPath, _⟩
    have few := length_missingDirectories work.disk parent
    rw [same]
    refine ((attempts_makeDirectories parent.absolute work parent.steps).next fun later =>
      attempts_actAll later _).mono ?_
    rw [List.length_map, List.length_reverse, isPath, List.length_append, List.length_cons]
    omega

end Attempts

/-! ## Setting permissions -/

structure ChangesModes (targets : List Path) (mode : Mode) (before after : Disk) : Prop where
  located : ∀ path location, after.locate path = .ok location ↔ before.locate path = .ok location
  reached : ∀ target ∈ targets, ∀ location, before.locate target = .ok location →
    after.find? location = (before.find? location).map (·.withMode mode)
  other : ∀ location, (∀ target ∈ targets, before.locate target ≠ .ok location) →
    after.find? location = before.find? location

section Modes

variable {targets : List Path} {target : Path} {mode : Mode} {before middle after : Disk}
variable {work : Work}

@[simp] theorem withMode_withMode (node : Node) (mode : Mode) :
    (node.withMode mode).withMode mode = node.withMode mode := by
  cases node <;> rfl

theorem changesModes_single (effect : Effect before (.setMode target mode) after) :
    ChangesModes [target] mode before after where
  located path location := effect.locate_iff nofun
  reached other member location leads := by
    cases List.mem_singleton.mp member
    cases effect with
    | setMode located found =>
        cases located.symm.trans leads
        rw [Disk.find?_put_same, found]
        rfl
  other location apart := effect.find?_other apart

theorem ChangesModes.cons (first : ChangesModes [target] mode before middle)
    (rest : ChangesModes targets mode middle after) :
    ChangesModes (target :: targets) mode before after where
  located path location := (rest.located path location).trans (first.located path location)
  reached other member location leads := by
    have twice : (middle.find? location).map (·.withMode mode) =
        (before.find? location).map (·.withMode mode) := by
      by_cases here : before.locate target = .ok location
      · rw [first.reached target (List.mem_singleton_self target) location here, Option.map_map]
        simp only [Function.comp_def, withMode_withMode]
      · rw [first.other location fun other member => List.mem_singleton.mp member ▸ here]
    by_cases later : ∃ other ∈ targets, middle.locate other = .ok location
    · rcases later with ⟨other, listed, leads⟩
      rw [rest.reached other listed location leads, twice]
    · rcases List.mem_cons.mp member with rfl | listed
      · rw [rest.other location fun other listed leads => later ⟨other, listed, leads⟩]
        exact first.reached other (List.mem_singleton_self other) location leads
      · exact absurd ⟨other, listed, (first.located other location).mpr leads⟩ later
  other location apart := by
    rw [rest.other location, first.other location]
    · intro other member
      exact List.mem_singleton.mp member ▸ apart target List.mem_cons_self
    · intro other member leads
      have led := (first.located other location).mp leads
      exact apart other (List.mem_cons_of_mem target member) led

theorem ChangesModes.holds {path : Path} (changes : ChangesModes targets mode before after)
    (holds : before.holds path = true) : after.holds path = true := by
  rcases Disk.holds_iff.mp holds with ⟨location, node, located, found⟩
  have leads := (changes.located path location).mpr located
  by_cases reached : ∃ target ∈ targets, before.locate target = .ok location
  · rcases reached with ⟨target, member, reaches⟩
    have changed := changes.reached target member location reaches
    rw [found] at changed
    exact Disk.holds_iff.mpr ⟨location, _, leads, changed⟩
  · have same := changes.other location fun target member reaches =>
      reached ⟨target, member, reaches⟩
    exact Disk.holds_iff.mpr ⟨location, node, leads, same.trans found⟩

theorem changesModes_actAll
    (done : (work.actAll (targets.map (.setMode · mode))).1 = .ok ()) :
    ChangesModes targets mode work.disk (work.actAll (targets.map (.setMode · mode))).2.disk := by
  induction targets generalizing work with
  | nil =>
      have none : ∀ target, target ∉ ([] : List Path) := fun _ => List.not_mem_nil
      exact ⟨fun _ _ => Iff.rfl, fun target member => absurd member (none target), fun _ _ => rfl⟩
  | cons target targets induction =>
      rw [List.map_cons, actAll] at done ⊢
      rcases next_ok done with ⟨first, rest, same⟩
      rw [same]
      have effect := Disk.effect_of_perform (perform_of_act first)
      exact (changesModes_single effect).cons (induction rest)

end Modes

/-! ## Making directories -/

/-- What is different on a disk while the directories of a path are made: there are new ones,
where missing directories of the path lead. -/
structure Grown (disk : Disk) (parent : Path) (state : Disk) : Prop where
  tree : state.IsTree
  grows : ∀ location, state.find? location = disk.find? location ∨
    disk.find? location = none ∧
      ∃ made ∈ missingDirectories disk parent, state.locate made = .ok location

section Grown

variable {disk before after state : Disk} {parent : Path} {location : Location} {node : Node}
variable {made : List PathStep}

theorem grown_refl (tree : disk.IsTree) (parent : Path) : Grown disk parent disk :=
  ⟨tree, fun _ => .inl rfl⟩

theorem Grown.kept (grown : Grown disk parent state) (found : disk.find? location = some node) :
    state.find? location = some node := by
  rcases grown.grows location with same | ⟨free, _⟩
  · exact same.trans found
  · exact nomatch free.symm.trans found

theorem Grown.keeps_directories (grown : Grown disk parent state)
    (isDirectory : disk.HasDirectory location) : state.HasDirectory location := by
  rcases isDirectory with ⟨mode, found⟩
  exact ⟨mode, grown.kept found⟩

theorem Grown.hasDirectory (grown : Grown disk parent state)
    (isDirectory : state.HasDirectory location) (found : disk.find? location = some node) :
    disk.HasDirectory location := by
  rcases isDirectory with ⟨mode, isMade⟩
  exact ⟨mode, found.trans ((grown.kept found).symm.trans isMade)⟩

theorem mem_missingDirectories (some : made ≠ []) (inside : made <:+ parent.way)
    (missing : ∀ longer, made <:+ longer → longer <:+ parent.way →
      disk.holds { parent with steps := longer } = false) :
    { parent with steps := made } ∈ missingDirectories disk parent := by
  rw [missingDirectories, Path.ancestors, List.takeWhile_map]
  refine List.mem_map_of_mem ?_
  generalize parent.way = way at inside missing
  induction way with
  | nil => exact absurd (List.suffix_nil.mp inside) some
  | cons step way induction =>
      have first := missing (step :: way) inside (List.suffix_refl _)
      rw [Path.ancestors.tails, List.takeWhile_cons_of_pos]
      · rcases List.suffix_cons_iff.mp inside with rfl | inside
        · exact List.mem_cons_self
        · refine List.mem_cons_of_mem _ (induction inside ?_)
          intro longer within inner
          exact missing longer within (inner.trans (List.suffix_cons step way))
      · simp [Path.isEmpty, first]

theorem named_of_makeDirectory {path : Path} (tree : before.IsTree)
    (effect : Effect before (.makeDirectory path) after) :
    ∃ name outer, path.steps = .name name :: outer := by
  by_contra none
  have unnamed : ∀ name outer, path.steps ≠ .name name :: outer :=
    fun name outer isPath => none ⟨name, outer, isPath⟩
  cases effect with
  | makeDirectory located free =>
      exact Disk.no_directory_of_free free (tree.hasDirectory_of_locate unnamed located)

/-- What can be made in place of nothing is missing, since nothing that begins with it can be
there. -/
theorem Grown.missing (grown : Grown disk parent before)
    (located : before.locate { parent with steps := made } = .ok location)
    (free : before.find? location = none) {longer : List PathStep} (within : made <:+ longer) :
    disk.holds { parent with steps := longer } = false := by
  rw [Bool.eq_false_iff]
  intro holds
  rcases within with ⟨inner, rfl⟩
  rcases Disk.holds_iff.mp holds with ⟨finish, node, leads, found⟩
  have walked := (Disk.locate_ok_iff.mp leads).2
  rw [List.reverse_append] at walked
  rcases Disk.walk_append_ok_iff.mp walked with ⟨middle, toMiddle, onward⟩
  have through := (Disk.locate_ok_iff.mp located).2
  rw [Disk.walk_of_directories (fun _ => grown.keeps_directories) toMiddle] at through
  cases through
  rcases Disk.exists_of_walk onward found with ⟨_, found⟩
  exact nomatch free.symm.trans (grown.kept found)

theorem Grown.makeDirectory (grown : Grown disk parent before) (inside : made <:+ parent.steps)
    (effect : Effect before (.makeDirectory { parent with steps := made }) after) :
    Grown disk parent after := by
  have keeps : ∀ location, before.HasDirectory location → after.HasDirectory location :=
    fun _ => effect.keeps_directories
  rcases named_of_makeDirectory grown.tree effect with ⟨name, outer, isMade⟩
  dsimp only at isMade
  subst isMade
  refine ⟨effect.isTree grown.tree, fun location => ?_⟩
  cases effect with
  | makeDirectory located free =>
      rename_i new
      by_cases same : location = new
      · subst same
        have isMissing := mem_missingDirectories (List.cons_ne_nil _ outer)
          (Path.suffix_way_of_named inside) fun longer within _ => grown.missing located free within
        refine .inr ⟨?_, _, isMissing, Disk.locate_of_directories keeps located⟩
        exact Option.eq_none_iff_forall_ne_some.mpr fun node found =>
          nomatch free.symm.trans (grown.kept found)
      · rw [Disk.find?_put_other before _ same]
        exact (grown.grows location).imp_right fun ⟨free, made, listed, leads⟩ =>
          ⟨free, made, listed, Disk.locate_of_directories keeps leads⟩

theorem grown_makeDirectories {work : Work} (grown : work.Always (Grown disk parent)) :
    (makeDirectories parent.absolute work parent.steps).2.Always (Grown disk parent) :=
  grown.makeDirectories fun _ inside =>
    keeps_of_whole (fun _ => rfl) fun _ _ grown done =>
      grown.makeDirectory inside (Disk.effect_of_perform done)

/-- What new directories lead to, and was there before, could be reached without them when
nothing steps up out of one of them. -/
theorem Grown.walk_back (grown : Grown disk parent state) (tree : disk.IsTree)
    (stays : ∀ inner outer, made = inner ++ outer → .up ∈ inner →
      ∃ location node, disk.walk [] outer.reverse = .ok location ∧ disk.find? location = some node)
    (walked : state.walk [] made.reverse = .ok location)
    (found : disk.find? location = some node) : disk.walk [] made.reverse = .ok location := by
  have keeps : ∀ location, disk.HasDirectory location → state.HasDirectory location :=
    fun _ => grown.keeps_directories
  induction made generalizing location node with
  | nil => exact walked
  | cons step outer induction =>
      rw [List.reverse_cons] at walked ⊢
      rcases Disk.walk_snoc_ok_iff.mp walked with ⟨middle, toMiddle, isDirectory, leads⟩
      -- It is enough that the directory before the last step was there, and could be reached.
      have back (reached : disk.walk [] outer.reverse = .ok middle) {other : Node}
          (found : disk.find? middle = some other) :
          disk.walk [] (outer.reverse ++ [step]) = .ok location :=
        Disk.walk_snoc_ok_iff.mpr ⟨middle, reached, grown.hasDirectory isDirectory found, leads⟩
      have further {other : Node} (found : disk.find? middle = some other) :
          disk.walk [] outer.reverse = .ok middle := by
        refine induction (fun inner rest isOuter isUp => ?_) toMiddle found
        exact stays (step :: inner) rest (by rw [isOuter, List.cons_append])
          (List.mem_cons_of_mem step isUp)
      cases step with
      | name name =>
          cases leads.2
          rcases tree.above middle name node found with ⟨mode, found⟩
          exact back (further found) found
      | up =>
          rcases stays [.up] outer rfl (List.mem_singleton_self _) with ⟨other, _, reached, found⟩
          cases toMiddle.symm.trans (Disk.walk_of_directories keeps reached)
          exact back reached found
      | here =>
          cases leads
          exact back (further found) found

end Grown

/-! ## Making the directories of a path -/

section Parents

variable {disk : Disk} {path parent made : Path} {hazards : List Hazard} {location : Location}

theorem holds_root (tree : disk.IsTree) (isRoot : path.steps = []) : disk.holds path = true := by
  rcases path with ⟨absolute, steps⟩
  cases isRoot
  rcases tree.root with ⟨mode, found⟩
  refine Disk.holds_iff.mpr ⟨[], _, Disk.locate_ok_iff.mpr ⟨?_, rfl⟩, found⟩
  cases absolute <;> decide +kernel

structure Tightened (disk : Disk) (parent : Path) (after : Disk) : Prop where
  reached : ∀ made ∈ missingDirectories disk parent, ∀ location,
    after.locate made = .ok location → after.find? location = some (.directory ownerDirectory)
  other : ∀ location,
    (∀ made ∈ missingDirectories disk parent, after.locate made ≠ .ok location) →
      after.find? location = disk.find? location

theorem tightened_of_grown {middle after : Disk} (grown : Grown disk parent middle)
    (holds : parent.steps ≠ [] → middle.holdsDirectory parent = true)
    (changes : ChangesModes (missingDirectories disk parent).reverse ownerDirectory middle after) :
    Tightened disk parent after where
  reached made listed location leads := by
    rw [changes.located] at leads
    rw [changes.reached made (List.mem_reverse.mpr listed) location leads]
    rcases Path.exists_of_mem_ancestors (missing_of_mem listed).1 with ⟨steps, inside, rfl⟩
    rw [← Disk.resolve_eq_locate] at leads
    rcases hasDirectory_of_parent grown.tree inside holds leads with ⟨mode, found⟩
    rw [found]
    rfl
  other location apart := by
    rw [changes.other location]
    · rcases grown.grows location with same | ⟨_, made, listed, leads⟩
      · exact same
      · exact absurd ((changes.located made location).mpr leads) (apart made listed)
    · intro made listed leads
      exact apart made (List.mem_reverse.mp listed) ((changes.located made location).mpr leads)

/-- What a missing path leads to, and was there before, is there because of a step up. -/
theorem stepsOutOfMissing_of_reached {state : Disk} {node : Node} (tree : disk.IsTree)
    (grown : Grown disk parent state) (isParent : path.parent? = some parent)
    (listed : made ∈ missingDirectories disk parent) (leads : state.locate made = .ok location)
    (found : disk.find? location = some node) : disk.StepsOutOfMissing path := by
  by_contra stays
  rcases missing_of_mem listed with ⟨isAncestor, missing⟩
  rcases Path.exists_of_mem_ancestors isAncestor with ⟨steps, ⟨inner, inside⟩, rfl⟩
  rcases Path.parent?_eq_some isParent with ⟨front, step, isPath, isAbsolute⟩
  rcases Disk.locate_ok_iff.mp leads with ⟨askable, walked⟩
  have reached : disk.walk [] steps.reverse = .ok location := by
    refine grown.walk_back tree (fun between outer isSteps isUp => ?_) walked found
    cases holds : disk.holds { path with steps := outer } with
    | true =>
        rcases Disk.holds_iff.mp holds with ⟨location, node, located, found⟩
        exact ⟨location, node, (Disk.locate_ok_iff.mp located).2, found⟩
    | false =>
        refine absurd ⟨front ++ step :: (inner ++ between), outer, ?_, ?_, holds⟩ stays
        · rw [isPath, ← inside, isSteps]
          simp only [List.append_assoc, List.cons_append]
        · have within := List.mem_cons_of_mem step (List.mem_append_right inner isUp)
          exact List.mem_append_right front within
  have located := Disk.locate_ok_iff.mpr ⟨askable, reached⟩
  exact nomatch missing.symm.trans (Disk.holds_iff.mpr ⟨location, node, located, found⟩)

structure MakesParents (disk : Disk) (path : Path) (after : Disk) : Prop where
  parent : ∀ parent, path.parent? = some parent → after.holds parent = true
  new : ∀ location mode, after.find? location = some (.directory mode) →
    ¬disk.HasDirectory location → mode = ownerDirectory
  old : ∀ location mode, disk.find? location = some (.directory mode) →
    after.find? location = some (.directory mode) ∨
      disk.StepsOutOfMissing path ∧ after.find? location = some (.directory ownerDirectory)

theorem makesParents_of_grown {middle after : Disk} (tree : disk.IsTree)
    (isParent : path.parent? = some parent) (grown : Grown disk parent middle)
    (holds : parent.steps ≠ [] → middle.holdsDirectory parent = true)
    (changes : ChangesModes (missingDirectories disk parent).reverse ownerDirectory middle after) :
    MakesParents disk path after := by
  have tightened := tightened_of_grown grown holds changes
  constructor
  · intro other isOther
    cases isParent.symm.trans isOther
    apply changes.holds
    by_cases isRoot : parent.steps = []
    · exact holds_root grown.tree isRoot
    · rcases Disk.holdsDirectory_iff.mp (holds isRoot) with ⟨location, located, mode, found⟩
      exact Disk.holds_iff.mpr ⟨location, _, located, found⟩
  · intro location mode found isNew
    by_cases reached : ∃ made ∈ missingDirectories disk parent, after.locate made = .ok location
    · rcases reached with ⟨made, listed, leads⟩
      cases found.symm.trans (tightened.reached made listed location leads)
      rfl
    · rw [tightened.other location fun made listed leads => reached ⟨made, listed, leads⟩] at found
      exact absurd ⟨mode, found⟩ isNew
  · intro location mode found
    by_cases reached : ∃ made ∈ missingDirectories disk parent, after.locate made = .ok location
    · rcases reached with ⟨made, listed, leads⟩
      have stepsOut := stepsOutOfMissing_of_reached tree grown isParent listed
        ((changes.located made location).mp leads) found
      exact .inr ⟨stepsOut, tightened.reached made listed location leads⟩
    · rw [tightened.other location fun made listed leads => reached ⟨made, listed, leads⟩]
      exact .inl found

theorem makeParents_makes (tree : disk.IsTree)
    (done : ((start disk hazards).makeParents path).1 = .ok ()) :
    MakesParents disk path ((start disk hazards).makeParents path).2.disk := by
  rcases makeParents_cases (start disk hazards) path with
    ⟨same, there⟩ | ⟨parent, isParent, same⟩
  · rw [same]
    refine ⟨fun parent isParent => ?_, fun location mode found isNew => ?_, fun _ _ => .inl⟩
    · rcases there parent isParent with isEmpty | holds
      · rw [Path.isEmpty, Bool.and_eq_true, List.isEmpty_iff] at isEmpty
        exact holds_root tree isEmpty.2
      · exact holds
    · exact absurd ⟨mode, found⟩ isNew
  · rw [same] at done ⊢
    rcases next_ok done with ⟨made, set, same⟩
    rw [same]
    have holds := fun some : parent.steps ≠ [] => holdsDirectory_of_makeDirectories some made
    have grown : (start disk hazards).Always (Grown disk parent) :=
      always_start (grown_refl tree parent)
    exact makesParents_of_grown tree isParent (grown_makeDirectories grown).now holds
      (changesModes_actAll set)

/-- Making the directories of a path takes a bounded number of operations. When it goes well,
the path's directory is there, new directories are the owner's alone, and others keep their
permissions, unless the path steps up out of a directory that was missing. -/
theorem makeParents_owner_only (tree : disk.IsTree) (path : Path) (hazards : List Hazard) :
    Attempts (3 * path.steps.length) (start disk hazards)
      ((start disk hazards).makeParents path).2 ∧
    (((start disk hazards).makeParents path).1 = .ok () →
      MakesParents disk path ((start disk hazards).makeParents path).2.disk) :=
  ⟨attempts_makeParents (start disk hazards) path, makeParents_makes tree⟩

/-- A step up out of a directory that is there does no harm. -/
theorem makeParents_owner_only_beside :
    let disk := Disk.empty.put ["e"] (.directory 0o755)
    let path : Path := ⟨true, [.name "s", .name "n", .name "m", .up, .name "e"]⟩
    disk.IsTree ∧ ((start disk []).makeParents path).1 = .ok () ∧
      MakesParents disk path ((start disk []).makeParents path).2.disk ∧
      ((start disk []).makeParents path).2.disk.nodes =
        [(["m", "n"], .directory 0o700), (["m"], .directory 0o700), (["e"], .directory 0o755),
          ([], .directory 0o755)] := by
  intro disk path
  have place : Disk.empty.HasPlace ["e"] := by
    intro above name isLocation
    have split : [] ++ ["e"] = above ++ [name] := isLocation
    rw [← (List.append_inj' split rfl).1]
    exact Disk.isTree_empty.root
  have tree : disk.IsTree := Disk.isTree_empty.put place fun _ => ⟨_, rfl⟩
  have done : ((start disk []).makeParents path).1 = .ok () := by decide +kernel
  have makes := (makeParents_owner_only tree path []).2 done
  refine ⟨tree, done, makes, ?_⟩
  decide +kernel

/-- A step up out of a directory that is missing leads to directories that have been there,
and they become the owner's. -/
theorem makeParents_tightens_others :
    let disk := Disk.empty.put ["e"] (.directory 0o755)
    let path : Path := ⟨true, [.name "s", .name "e", .up, .name "m"]⟩
    ((start disk []).makeParents path).1 = .ok () ∧
      disk.nodes = [(["e"], .directory 0o755), ([], .directory 0o755)] ∧
      ((start disk []).makeParents path).2.disk.nodes =
        [(["e"], .directory 0o700), ([], .directory 0o700), (["m"], .directory 0o700)] := by
  decide +kernel

end Parents

end Work
end GatewayConsole
