import GatewayConsole.Proofs.Storage.Locations

/-!
# Ways

Where paths lead on a disk with links. A way stays the same while the directories and the
links that it leads through are kept. On a plain disk every way is a walk.
-/

namespace GatewayConsole

theorem Path.steps_eq_way (path : Path) :
    path.leadsInside = true ∧ path.steps = .here :: path.way ∨
      path.leadsInside = false ∧ path.steps = path.way := by
  unfold leadsInside way
  split
  next isPath => exact .inl ⟨by simp [isPath], isPath⟩
  next => exact .inr ⟨by simp, rfl⟩

namespace Disk

variable {Special : Type} {disk other : Disk Special} {location start finish : Location}
variable {reach middle last : Reach} {depth : Nat} {step : PathStep} {steps : List PathStep}
variable {path target : Path}

/-! ## Passing links -/

theorem linkAt?_eq_some_iff :
    disk.linkAt? location = some target ↔
      ∃ special, disk.find? location = some (.link special target) := by
  rw [linkAt?, Option.bind_eq_some_iff]
  constructor
  · rintro ⟨node, found, isTarget⟩
    cases node with
    | link special other =>
        cases isTarget
        exact ⟨special, found⟩
    | directory | file | shared | device => exact nomatch isTarget
  · rintro ⟨special, found⟩
    exact ⟨_, found, rfl⟩

theorem linkAt?_of_free (free : disk.find? location = none) : disk.linkAt? location = none := by
  rw [linkAt?, free]
  rfl

theorem HasDirectory.linkAt?_eq_none (isDirectory : disk.HasDirectory location) :
    disk.linkAt? location = none := by
  rcases isDirectory with ⟨mode, found⟩
  rw [linkAt?, found]
  rfl

/-- What a step leads to: a location, or what the link there leads to. -/
inductive Passes (disk : Disk Special) : Nat → Reach → PathStep → Reach → Prop
  | direct {depth : Nat} {reach : Reach} {step : PathStep} {location : Location}
      (entered : disk.enter reach.location step = .ok location)
      (noLink : disk.linkAt? location = none) :
      Passes disk depth reach step ⟨location, reach.links⟩
  | linked {depth : Nat} {reach last : Reach} {step : PathStep} {location : Location}
      {target : Path} (entered : disk.enter reach.location step = .ok location)
      (isLink : disk.linkAt? location = some target) (few : reach.links < mostLinks)
      (onward : disk.go depth ⟨baseOf location target, reach.links + 1⟩ target.steps.reverse =
        .ok last) :
      Passes disk (depth + 1) reach step last

theorem passBy_ok_iff {follow : Reach → List PathStep → Except Trouble Reach} :
    disk.passBy follow reach step = .ok last ↔
      ∃ location, disk.enter reach.location step = .ok location ∧
        (disk.linkAt? location = none ∧ last = ⟨location, reach.links⟩ ∨
          ∃ target, disk.linkAt? location = some target ∧ reach.links < mostLinks ∧
            follow ⟨baseOf location target, reach.links + 1⟩ target.steps.reverse = .ok last) := by
  rw [passBy, bind_ok_iff]
  refine exists_congr fun location => and_congr_right fun _ => ?_
  cases disk.linkAt? location with
  | none => simp [pure, Except.pure, eq_comm]
  | some target =>
      by_cases few : reach.links < mostLinks <;> simp [few]

theorem passes_of_pass (passed : disk.pass depth reach step = .ok last) :
    Passes disk depth reach step last := by
  cases depth with
  | zero =>
      rcases passBy_ok_iff.mp passed with ⟨location, entered, ⟨noLink, rfl⟩ | ⟨_, _, _, onward⟩⟩
      · exact .direct entered noLink
      · exact nomatch onward
  | succ depth =>
      rcases passBy_ok_iff.mp passed with
        ⟨location, entered, ⟨noLink, rfl⟩ | ⟨target, isLink, few, onward⟩⟩
      · exact .direct entered noLink
      · exact .linked entered isLink few onward

theorem pass_of_passes (passes : Passes disk depth reach step last) :
    disk.pass depth reach step = .ok last := by
  cases passes with
  | direct entered noLink =>
      cases depth <;> exact passBy_ok_iff.mpr ⟨_, entered, .inl ⟨noLink, rfl⟩⟩
  | linked entered isLink few onward =>
      exact passBy_ok_iff.mpr ⟨_, entered, .inr ⟨_, isLink, few, onward⟩⟩

theorem pass_ok_iff : disk.pass depth reach step = .ok last ↔ Passes disk depth reach step last :=
  ⟨passes_of_pass, pass_of_passes⟩

theorem Passes.hasDirectory (passes : Passes disk depth reach step last) :
    disk.HasDirectory reach.location := by
  cases passes with
  | direct entered | linked entered => exact (enter_ok_iff.mp entered).1

/-! ## Going -/

theorem go_nil_ok_iff : disk.go depth reach [] = .ok last ↔ last = reach := by
  constructor
  · intro gone
    cases gone
    rfl
  · rintro rfl
    rfl

theorem go_cons_ok_iff :
    disk.go depth reach (step :: steps) = .ok last ↔
      ∃ middle, Passes disk depth reach step middle ∧ disk.go depth middle steps = .ok last := by
  simp only [go, List.foldlM_cons, bind_ok_iff, pass_ok_iff]

theorem go_append_ok_iff {first second : List PathStep} :
    disk.go depth reach (first ++ second) = .ok last ↔
      ∃ middle, disk.go depth reach first = .ok middle ∧
        disk.go depth middle second = .ok last := by
  simp only [go, List.foldlM_append, bind_ok_iff]

theorem go_snoc_ok_iff :
    disk.go depth reach (steps ++ [step]) = .ok last ↔
      ∃ middle, disk.go depth reach steps = .ok middle ∧
        Passes disk depth middle step last := by
  simp only [go_append_ok_iff, go_cons_ok_iff, go_nil_ok_iff, exists_eq_right']

theorem hasDirectory_of_go (gone : disk.go depth reach steps = .ok last)
    (isDirectory : disk.HasDirectory last.location) : disk.HasDirectory reach.location := by
  cases steps with
  | nil => exact go_nil_ok_iff.mp gone ▸ isDirectory
  | cons step steps =>
      rcases go_cons_ok_iff.mp gone with ⟨_, passes, _⟩
      exact passes.hasDirectory

theorem IsTree.hasDirectory_baseOf (tree : disk.IsTree)
    (isLink : disk.linkAt? location = some target) :
    disk.HasDirectory (baseOf location target) := by
  unfold baseOf
  split
  next => exact tree.root
  next =>
    rcases linkAt?_eq_some_iff.mp isLink with ⟨special, found⟩
    rcases List.eq_nil_or_concat location with rfl | ⟨above, name, rfl⟩
    · rcases tree.root with ⟨mode, isRoot⟩
      exact nomatch isRoot.symm.trans found
    · rw [List.concat_eq_append] at found ⊢
      rw [List.dropLast_concat]
      exact tree.above above name _ found

/-- Ways do not end at links. The induction is on how deep links are followed, and for each
depth on the steps. -/
theorem IsTree.linkAt?_of_go (tree : disk.IsTree) (noLink : disk.linkAt? reach.location = none)
    (gone : disk.go depth reach steps = .ok last) : disk.linkAt? last.location = none := by
  induction depth using Nat.strongRecOn generalizing reach steps last with
  | ind depth within =>
      induction steps generalizing reach with
      | nil => exact go_nil_ok_iff.mp gone ▸ noLink
      | cons step steps induction =>
          rcases go_cons_ok_iff.mp gone with ⟨middle, passes, gone⟩
          refine induction ?_ gone
          cases passes with
          | direct _ noLink => exact noLink
          | linked _ isLink _ onward =>
              refine within _ (Nat.lt_succ_self _) ?_ onward
              exact (tree.hasDirectory_baseOf isLink).linkAt?_eq_none

theorem IsTree.linkAt?_of_goFromRoot (tree : disk.IsTree)
    (gone : disk.goFromRoot steps = .ok last) : disk.linkAt? last.location = none :=
  tree.linkAt?_of_go tree.root.linkAt?_eq_none gone

/-! ## Kept ways -/

/-- Whether another disk has the directories and the links of a disk. -/
structure KeepsWays (disk other : Disk Special) : Prop where
  directories : ∀ location, disk.HasDirectory location → other.HasDirectory location
  links : ∀ location target, disk.linkAt? location = some target →
    other.linkAt? location = some target

namespace KeepsWays

theorem enter (keeps : KeepsWays disk other) (entered : disk.enter start step = .ok finish) :
    other.enter start step = .ok finish := by
  rcases enter_ok_iff.mp entered with ⟨isDirectory, leads⟩
  exact enter_ok_iff.mpr ⟨keeps.directories start isDirectory, leads⟩

theorem noLink (keeps : KeepsWays disk other) (noLink : other.linkAt? location = none) :
    disk.linkAt? location = none := by
  refine Option.eq_none_iff_forall_ne_some.mpr fun target isLink => ?_
  exact nomatch noLink.symm.trans (keeps.links location target isLink)

theorem linkAt?_of_go (keeps : KeepsWays disk other) (gone : disk.go depth reach steps = .ok last)
    (noLink : other.linkAt? last.location = none) : other.linkAt? reach.location = none := by
  cases steps with
  | nil => exact go_nil_ok_iff.mp gone ▸ noLink
  | cons step steps =>
      rcases go_cons_ok_iff.mp gone with ⟨_, passes, _⟩
      exact (keeps.directories _ passes.hasDirectory).linkAt?_eq_none

theorem go (keeps : KeepsWays disk other) (gone : disk.go depth reach steps = .ok last)
    (noLink : other.linkAt? last.location = none) : other.go depth reach steps = .ok last := by
  induction depth using Nat.strongRecOn generalizing reach steps last with
  | ind depth within =>
      induction steps generalizing reach with
      | nil => exact gone
      | cons step steps induction =>
          rcases go_cons_ok_iff.mp gone with ⟨middle, passes, gone⟩
          refine go_cons_ok_iff.mpr ⟨middle, ?_, induction gone⟩
          -- What steps lead on from is a directory there too, so only the end can be a link.
          have noLinkThere := keeps.linkAt?_of_go gone noLink
          cases passes with
          | direct entered => exact .direct (keeps.enter entered) noLinkThere
          | linked entered isLink few onward =>
              exact .linked (keeps.enter entered) (keeps.links _ _ isLink) few
                (within _ (Nat.lt_succ_self _) onward noLinkThere)

theorem entry (keeps : KeepsWays disk other) (entered : disk.entry path = .ok location) :
    other.entry path = .ok location := by
  unfold Disk.entry at entered ⊢
  split at entered
  next => exact entered
  next =>
    rcases bind_ok_iff.mp entered with ⟨reach, gone, entered⟩
    have isDirectory := keeps.directories _ (enter_ok_iff.mp entered).1
    exact bind_ok_iff.mpr ⟨reach, keeps.go gone isDirectory.linkAt?_eq_none, keeps.enter entered⟩

end KeepsWays

/-! ## Named and reached locations -/

theorem entry_ok_iff {outer : List PathStep} (isWay : path.way = step :: outer) :
    disk.entry path = .ok location ↔
      ∃ reach, disk.goFromRoot outer.reverse = .ok reach ∧
        disk.HasDirectory reach.location ∧ Leads reach.location location step := by
  rw [entry, isWay]
  simp only [bind_ok_iff, enter_ok_iff]

theorem locate_ok_iff_entry :
    disk.locate path = .ok location ↔
      isAskable path = true ∧ disk.entry path = .ok location ∧
        (path.leadsInside = true → disk.HasDirectory location) := by
  unfold locate
  split
  next askable =>
    rw [bind_ok_iff]
    constructor
    · rintro ⟨middle, entered, inside⟩
      split at inside
      next =>
        rcases enter_ok_iff.mp inside with ⟨isDirectory, leads⟩
        cases leads
        exact ⟨askable, entered, fun _ => isDirectory⟩
      next notInside =>
        cases inside
        exact ⟨askable, entered, fun isInside => absurd isInside notInside⟩
    · rintro ⟨_, entered, inside⟩
      refine ⟨location, entered, ?_⟩
      split
      next isInside => exact enter_ok_iff.mpr ⟨inside isInside, rfl⟩
      next => rfl
  next notAskable =>
    exact ⟨nofun, fun ⟨askable, _⟩ => absurd askable notAskable⟩

theorem resolve_ok_iff :
    disk.resolve path = .ok location ↔
      isAskable path = true ∧
        ∃ links, disk.goFromRoot path.steps.reverse = .ok ⟨location, links⟩ := by
  unfold resolve
  split
  next askable =>
    rw [bind_ok_iff]
    constructor
    · rintro ⟨⟨_, links⟩, gone, same⟩
      cases same
      exact ⟨askable, links, gone⟩
    · rintro ⟨_, links, gone⟩
      exact ⟨_, gone, rfl⟩
  next notAskable =>
    exact ⟨nofun, fun ⟨askable, _⟩ => absurd askable notAskable⟩

theorem KeepsWays.locate (keeps : KeepsWays disk other)
    (located : disk.locate path = .ok location) : other.locate path = .ok location := by
  rcases locate_ok_iff_entry.mp located with ⟨askable, entered, inside⟩
  exact locate_ok_iff_entry.mpr
    ⟨askable, keeps.entry entered, fun isInside => keeps.directories _ (inside isInside)⟩

theorem KeepsWays.resolve (keeps : KeepsWays disk other)
    (resolved : disk.resolve path = .ok location) (noLink : other.linkAt? location = none) :
    other.resolve path = .ok location := by
  rcases resolve_ok_iff.mp resolved with ⟨askable, links, gone⟩
  exact resolve_ok_iff.mpr ⟨askable, links, keeps.go gone noLink⟩

theorem nodeAt?_of_resolve (resolved : disk.resolve path = .ok location) :
    disk.nodeAt? path = disk.find? location := by
  rw [nodeAt?, resolved]

theorem exists_of_nodeAt? {node : Node Special} (isNode : disk.nodeAt? path = some node) :
    ∃ location, disk.resolve path = .ok location ∧ disk.find? location = some node := by
  unfold nodeAt? at isNode
  split at isNode
  next location resolved => exact ⟨location, resolved, isNode⟩
  next => exact nomatch isNode

theorem holds_iff_resolve :
    disk.holds path = true ↔
      ∃ location node, disk.resolve path = .ok location ∧ disk.find? location = some node := by
  rw [holds, Option.isSome_iff_exists]
  constructor
  · rintro ⟨node, isNode⟩
    rcases exists_of_nodeAt? isNode with ⟨location, resolved, found⟩
    exact ⟨location, node, resolved, found⟩
  · rintro ⟨location, node, resolved, found⟩
    exact ⟨node, (nodeAt?_of_resolve resolved).trans found⟩

theorem holdsDirectory_iff_resolve :
    disk.holdsDirectory path = true ↔
      ∃ location, disk.resolve path = .ok location ∧ disk.HasDirectory location := by
  rw [holdsDirectory, Option.any_eq_true]
  constructor
  · rintro ⟨node, isNode, isDirectory⟩
    rcases exists_of_nodeAt? isNode with ⟨location, resolved, found⟩
    cases node with
    | directory mode => exact ⟨location, resolved, mode, found⟩
    | file | shared | link | device => exact nomatch isDirectory
  · rintro ⟨location, resolved, mode, found⟩
    exact ⟨_, (nodeAt?_of_resolve resolved).trans found, rfl⟩

namespace IsTree

theorem linkAt?_of_resolve (tree : disk.IsTree) (resolved : disk.resolve path = .ok location) :
    disk.linkAt? location = none := by
  rcases resolve_ok_iff.mp resolved with ⟨_, _, gone⟩
  exact tree.linkAt?_of_goFromRoot gone

theorem hasPlace_of_locate (tree : disk.IsTree) (located : disk.locate path = .ok location) :
    disk.HasPlace location := by
  rcases locate_ok_iff_entry.mp located with ⟨_, entered, _⟩
  cases isWay : path.way with
  | nil =>
      rw [entry, isWay] at entered
      cases entered
      intro above name isNil
      exact absurd isNil.symm (List.concat_ne_nil name above)
  | cons step outer =>
      rcases (entry_ok_iff isWay).mp entered with ⟨reach, _, isDirectory, leads⟩
      exact tree.hasPlace_of_leads isDirectory leads

theorem hasDirectory_of_locate (tree : disk.IsTree)
    (unnamed : ∀ name outer, path.steps ≠ .name name :: outer)
    (located : disk.locate path = .ok location) : disk.HasDirectory location := by
  rcases locate_ok_iff_entry.mp located with ⟨_, entered, inside⟩
  rcases path.steps_eq_way with ⟨isInside, _⟩ | ⟨_, isPath⟩
  · exact inside isInside
  · cases isWay : path.way with
    | nil =>
        rw [entry, isWay] at entered
        cases entered
        exact tree.root
    | cons step outer =>
        rcases (entry_ok_iff isWay).mp entered with ⟨reach, _, isDirectory, leads⟩
        cases step with
        | name name => exact absurd (isPath.trans isWay) (unnamed name outer)
        | up => exact leads ▸ tree.dropLast isDirectory
        | here => exact leads ▸ isDirectory

end IsTree

theorem resolve_of_locate (located : disk.locate path = .ok location)
    (noLink : disk.linkAt? location = none) : disk.resolve path = .ok location := by
  rcases locate_ok_iff_entry.mp located with ⟨askable, entered, inside⟩
  have toWay : ∃ links, disk.goFromRoot path.way.reverse = .ok ⟨location, links⟩ := by
    cases isWay : path.way with
    | nil =>
        rw [entry, isWay] at entered
        cases entered
        exact ⟨0, rfl⟩
    | cons step outer =>
        rcases (entry_ok_iff isWay).mp entered with ⟨reach, gone, entered⟩
        refine ⟨reach.links, ?_⟩
        rw [List.reverse_cons]
        exact go_snoc_ok_iff.mpr ⟨reach, gone, .direct (enter_ok_iff.mpr entered) noLink⟩
  rcases toWay with ⟨links, gone⟩
  refine resolve_ok_iff.mpr ⟨askable, links, ?_⟩
  rcases path.steps_eq_way with ⟨isInside, isPath⟩ | ⟨_, isPath⟩
  · rw [isPath, List.reverse_cons]
    have stays : disk.enter location .here = .ok location :=
      enter_ok_iff.mpr ⟨inside isInside, rfl⟩
    exact go_snoc_ok_iff.mpr ⟨_, gone, .direct stays noLink⟩
  · rw [isPath]
    exact gone

theorem locate_of_resolve
    (noLink : ∀ location, disk.entry path = .ok location → disk.linkAt? location = none)
    (resolved : disk.resolve path = .ok location) : disk.locate path = .ok location := by
  rcases resolve_ok_iff.mp resolved with ⟨askable, links, gone⟩
  have onWay {location : Location} {links : Nat}
      (gone : disk.goFromRoot path.way.reverse = .ok ⟨location, links⟩) :
      disk.entry path = .ok location := by
    cases isWay : path.way with
    | nil =>
        rw [isWay] at gone
        cases go_nil_ok_iff.mp gone
        rw [entry, isWay]
    | cons step outer =>
        rw [isWay, List.reverse_cons] at gone
        rcases go_snoc_ok_iff.mp gone with ⟨reach, gone, passes⟩
        have isEntry {middle : Location} (entered : disk.enter reach.location step = .ok middle) :
            disk.entry path = .ok middle :=
          (entry_ok_iff isWay).mpr ⟨reach, gone, enter_ok_iff.mp entered⟩
        cases passes with
        | direct entered => exact isEntry entered
        | linked entered isLink => exact nomatch isLink.symm.trans (noLink _ (isEntry entered))
  rcases path.steps_eq_way with ⟨isInside, isPath⟩ | ⟨notInside, isPath⟩
  · rw [isPath, List.reverse_cons] at gone
    rcases go_snoc_ok_iff.mp gone with ⟨⟨inside, _⟩, toInside, passes⟩
    have isDirectory := passes.hasDirectory
    cases passes with
    | direct entered =>
        cases (enter_ok_iff.mp entered).2
        exact locate_ok_iff_entry.mpr ⟨askable, onWay toInside, fun _ => isDirectory⟩
    | linked entered isLink =>
        cases (enter_ok_iff.mp entered).2
        exact nomatch isLink.symm.trans isDirectory.linkAt?_eq_none
  · rw [isPath] at gone
    refine locate_ok_iff_entry.mpr ⟨askable, onWay gone, fun isInside => ?_⟩
    exact nomatch isInside.symm.trans notInside

/-! ## Plain disks -/

section Plain

variable {disk other : Disk}

theorem linkAt?_plain (disk : Disk) (location : Location) : disk.linkAt? location = none := by
  rw [Option.eq_none_iff_forall_ne_some]
  intro target isLink
  rcases linkAt?_eq_some_iff.mp isLink with ⟨special, _⟩
  exact nomatch special

theorem go_plain (disk : Disk) (depth : Nat) (reach : Reach) (steps : List PathStep) :
    disk.go depth reach steps =
      (disk.walk reach.location steps).map fun location => ⟨location, reach.links⟩ := by
  induction steps generalizing reach with
  | nil => rfl
  | cons step steps induction =>
      have passes : disk.pass depth reach step =
          (disk.enter reach.location step).map fun location => ⟨location, reach.links⟩ := by
        cases depth <;> simp only [pass, passBy, linkAt?_plain] <;> rfl
      rw [go, walk, List.foldlM_cons, List.foldlM_cons, passes]
      cases disk.enter reach.location step with
      | error => rfl
      | ok middle => exact induction ⟨middle, reach.links⟩

theorem resolve_plain (disk : Disk) (path : Path) :
    disk.resolve path =
      if isAskable path then disk.walk [] path.steps.reverse else .error .other := by
  rw [resolve, goFromRoot, go_plain]
  cases disk.walk [] path.steps.reverse <;> rfl

theorem entry_plain (disk : Disk) (path : Path) :
    disk.entry path = disk.walk [] path.way.reverse := by
  rw [entry]
  split
  next isWay =>
    rw [isWay]
    rfl
  next step outer isWay =>
    rw [isWay, List.reverse_cons, walk, List.foldlM_append, goFromRoot, go_plain, walk]
    cases outer.reverse.foldlM disk.enter [] with
    | error => rfl
    | ok middle => exact (bind_pure (disk.enter middle step)).symm

theorem resolve_eq_locate (disk : Disk) (path : Path) : disk.resolve path = disk.locate path := by
  rw [resolve_plain, locate, entry_plain]
  rcases path.steps_eq_way with ⟨isInside, isPath⟩ | ⟨notInside, isPath⟩
  · rw [isPath, List.reverse_cons, walk, walk, List.foldlM_append, isInside]
    simp
  · rw [isPath, notInside]
    simp

theorem locate_ok_iff :
    disk.locate path = .ok location ↔
      isAskable path = true ∧ disk.walk [] path.steps.reverse = .ok location := by
  rw [← resolve_eq_locate, resolve_plain]
  split
  next askable => exact ⟨fun found => ⟨askable, found⟩, fun found => found.2⟩
  next => exact ⟨nofun, fun found => absurd found.1 (by assumption)⟩

theorem nodeAt?_of_locate (located : disk.locate path = .ok location) :
    disk.nodeAt? path = disk.find? location :=
  nodeAt?_of_resolve ((resolve_eq_locate disk path).trans located)

theorem nodeAt?_eq_some_iff {node : Node} :
    disk.nodeAt? path = some node ↔
      ∃ location, disk.locate path = .ok location ∧ disk.find? location = some node := by
  constructor
  · intro isNode
    rcases exists_of_nodeAt? isNode with ⟨location, resolved, found⟩
    exact ⟨location, resolve_eq_locate disk path ▸ resolved, found⟩
  · rintro ⟨location, located, found⟩
    rw [nodeAt?_of_locate located, found]

theorem holds_iff :
    disk.holds path = true ↔
      ∃ location node, disk.locate path = .ok location ∧ disk.find? location = some node := by
  simp only [holds_iff_resolve, resolve_eq_locate]

theorem holdsDirectory_iff :
    disk.holdsDirectory path = true ↔
      ∃ location, disk.locate path = .ok location ∧ disk.HasDirectory location := by
  simp only [holdsDirectory_iff_resolve, resolve_eq_locate]

theorem locate_of_directories
    (keeps : ∀ location, disk.HasDirectory location → other.HasDirectory location)
    (located : disk.locate path = .ok location) : other.locate path = .ok location := by
  have ways : KeepsWays disk other :=
    ⟨keeps, fun location target isLink => nomatch (linkAt?_plain disk location).symm.trans isLink⟩
  exact ways.locate located

end Plain

end Disk
end GatewayConsole
