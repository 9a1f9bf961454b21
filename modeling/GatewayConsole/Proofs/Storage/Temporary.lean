import GatewayConsole.Proofs.Storage.Effects
import GatewayConsole.Storage.Save

/-!
# The file beside a file

A text is written to a temporary file before it takes the place of a file. The temporary
file lies in the same directory and is never the file itself, so writing it changes no
text that the path of the file leads to.
-/

namespace GatewayConsole

/-! ## The temporary path -/

namespace Path

variable {path : Path} {name : String} {outer : List PathStep}

theorem stem_of_suffix (front : List Char) :
    stem (front ++ ".json.tmp".toList) = front ++ ".json".toList := by
  have after : (front ++ ".json.tmp".toList).reverse.takeWhile (· != '.') = "pmt".toList := by
    rw [List.reverse_append]
    rfl
  have length : (front ++ ".json.tmp".toList).length = front.length + 9 := by
    rw [List.length_append]
    rfl
  have before : (front ++ ".json.tmp".toList).take (front.length + 5) =
      front ++ ".json".toList := by
    rw [List.take_length_add_append]
    rfl
  have three : "pmt".toList.length = 3 := rfl
  have count : front.length + 9 - 3 - 1 = front.length + 5 := by omega
  have nonempty : (front ++ ".json".toList).isEmpty = false := by simp
  simp only [stem, after, length, three, count, before, nonempty]
  simp

theorem extended_ne (name : String) :
    String.ofList (stem name.toList) ++ "." ++ "json.tmp" ≠ name := by
  intro same
  have chars : name.toList = stem name.toList ++ ".json.tmp".toList := by
    have written := congrArg String.toList same
    rw [String.toList_append, String.toList_append, String.toList_ofList, List.append_assoc]
      at written
    exact written.symm
  have again : stem name.toList = stem name.toList ++ ".json".toList :=
    (congrArg stem chars).trans (stem_of_suffix (stem name.toList))
  have length := congrArg List.length again
  rw [List.length_append] at length
  exact absurd length (Nat.ne_of_lt (Nat.lt_add_of_pos_right (by decide)))

theorem steps_of_way (isWay : path.way = .name name :: outer) :
    path.steps = .name name :: outer ∨ path.steps = .here :: .name name :: outer := by
  unfold way at isWay
  split at isWay
  next step rest isPath =>
    rw [isWay] at isPath
    exact .inr isPath
  next => exact .inl isWay

theorem way_of_steps (isPath : path.steps = .name name :: outer) :
    path.way = .name name :: outer := by
  rw [way, isPath]

theorem temporary_steps (isFile : path.way = .name name :: outer) :
    (∃ extended, (Work.temporary path).steps = .name extended :: outer ∧ extended ≠ name) ∨
      (Work.temporary path).steps = .up :: outer := by
  rw [Work.temporary, withExtension, isFile]
  simp only
  split
  next => exact .inr rfl
  next => exact .inl ⟨_, rfl, extended_ne name⟩

theorem temporary_way (isFile : path.way = .name name :: outer) :
    ∃ step, (Work.temporary path).way = step :: outer := by
  rcases temporary_steps isFile with ⟨extended, isTemporary, _⟩ | isUp
  · exact ⟨_, way_of_steps isTemporary⟩
  · exact ⟨.up, by rw [way, isUp]⟩

end Path

/-! ## The text at a path -/

namespace Disk

variable {disk after : Disk} {location : Location} {path : Path} {text : String}

theorem text?_eq_some_iff :
    disk.text? path = some text ↔
      ∃ location mode, disk.locate path = .ok location ∧
        disk.find? location = some (.file mode text) := by
  simp only [text?, Option.bind_eq_some_iff, nodeAt?_eq_some_iff]
  constructor
  · rintro ⟨node, ⟨location, located, found⟩, isText⟩
    cases node with
    | directory mode => exact nomatch isText
    | file mode text =>
        cases isText
        exact ⟨location, mode, located, found⟩
    | shared special | link special | device special => exact nomatch special
  · rintro ⟨location, mode, located, found⟩
    exact ⟨.file mode text, ⟨location, located, found⟩, rfl⟩

section Effects

variable {operation : Operation}

theorem Effect.locate_iff (effect : Effect disk operation after)
    (noNew : ∀ path, operation ≠ .makeDirectory path) :
    after.locate path = .ok location ↔ disk.locate path = .ok location :=
  ⟨locate_of_directories fun _ => (effect.hasDirectory_iff noNew).mp,
    locate_of_directories fun _ => effect.keeps_directories⟩

theorem Effect.nodeAt?_eq (effect : Effect disk operation after)
    (noNew : ∀ path, operation ≠ .makeDirectory path)
    (apart : ∀ location, disk.locate path = .ok location →
      ∀ other ∈ operation.paths, disk.locate other ≠ .ok location) :
    after.nodeAt? path = disk.nodeAt? path := by
  apply Option.ext
  intro node
  simp only [nodeAt?_eq_some_iff, effect.locate_iff noNew]
  constructor
  · rintro ⟨location, located, found⟩
    exact ⟨location, located, effect.find?_other (apart location located) ▸ found⟩
  · rintro ⟨location, located, found⟩
    exact ⟨location, located, (effect.find?_other (apart location located)).trans found⟩

end Effects

/-! ## The text at a location -/

def textIn? (disk : Disk) (location : Location) : Option String :=
  (disk.find? location).bind (·.text?)

theorem text?_of_locate (located : disk.locate path = .ok location) :
    disk.text? path = disk.textIn? location := by
  rw [text?, nodeAt?_of_locate located, textIn?]

theorem Effect.textIn?_setMode {other : Path} {mode : Mode}
    (effect : Effect disk (.setMode other mode) after) (location : Location) :
    after.textIn? location = disk.textIn? location := by
  rw [textIn?, textIn?]
  cases effect with
  | setMode located found =>
      rename_i changed node
      by_cases same : location = changed
      · rw [same, find?_put_same, found]
        cases node <;> rfl
      · rw [find?_put_other disk _ same]

theorem Effect.textIn?_makeDirectory {other : Path}
    (effect : Effect disk (.makeDirectory other) after) (location : Location) :
    after.textIn? location = disk.textIn? location := by
  rw [textIn?, textIn?]
  cases effect with
  | makeDirectory located free =>
      rename_i made
      by_cases same : location = made
      · rw [same, find?_put_same, free]
        rfl
      · rw [find?_put_other disk _ same]

theorem Effect.textIn?_write {other : Path} (effect : Effect disk (.write other text) after)
    (location : Location) :
    after.textIn? location = disk.textIn? location ∨
      disk.locate other = .ok location ∧ after.textIn? location = some text := by
  have written {changed : Location} {mode : Mode} (located : disk.locate other = .ok changed) :
      (disk.put changed (.file mode text)).textIn? location = disk.textIn? location ∨
        disk.locate other = .ok location ∧
          (disk.put changed (.file mode text)).textIn? location = some text := by
    rw [textIn?, textIn?]
    by_cases same : location = changed
    · rw [same, find?_put_same]
      exact .inr ⟨located, rfl⟩
    · rw [find?_put_other disk _ same]
      exact .inl rfl
  cases effect with
  | rewrite located => exact written located
  | create located => exact written located

theorem Effect.text?_setMode {other : Path} {mode : Mode}
    (effect : Effect disk (.setMode other mode) after) : after.text? path = disk.text? path := by
  cases located : disk.locate path with
  | ok location =>
      have stays := (effect.locate_iff nofun).mpr located
      rw [text?_of_locate located, text?_of_locate stays, effect.textIn?_setMode]
  | error trouble =>
      cases relocated : after.locate path with
      | ok => exact nomatch located.symm.trans ((effect.locate_iff nofun).mp relocated)
      | error =>
          rw [text?, text?, nodeAt?, nodeAt?, resolve_eq_locate, resolve_eq_locate, located,
            relocated]

theorem Effect.text?_makeDirectory {other : Path}
    (effect : Effect disk (.makeDirectory other) after) (tree : disk.IsTree) (down : .up ∉ path.steps) : after.text? path = disk.text? path := by
  cases effect with
  | makeDirectory made free =>
      rename_i new
      have keeps : ∀ location, disk.HasDirectory location →
          (disk.put new (.directory (disk.granted 0o777))).HasDirectory location :=
        fun _ => (Effect.makeDirectory made free).keeps_directories
      apply Option.ext
      intro text
      rw [text?_eq_some_iff, text?_eq_some_iff]
      constructor
      · rintro ⟨location, mode, located, found⟩
        have different : location ≠ new := by
          rintro rfl
          exact nomatch (find?_put_same disk location _).symm.trans found
        have before := find?_put_other disk (.directory (disk.granted 0o777)) different
        refine ⟨location, mode, ?_, before ▸ found⟩
        rcases locate_ok_iff.mp located with ⟨askable, walked⟩
        refine locate_ok_iff.mpr ⟨askable, walk_of_prefixes ?_ ?_ walked⟩
        · exact fun isUp => down (List.mem_reverse.mp isUp)
        · intro above isAbove isDirectory
          have below : above ≠ location := by
            rintro rfl
            exact isDirectory.not_file found
          exact tree.hasDirectory_of_prefix (before ▸ found) isAbove below
      · rintro ⟨location, mode, located, found⟩
        have different : location ≠ new := by
          rintro rfl
          exact nomatch free.symm.trans found
        refine ⟨location, mode, locate_of_directories keeps located, ?_⟩
        rw [find?_put_other disk _ different]
        exact found

/-! ## Beside a file -/

section Beside

variable {name : String} {outer : List PathStep}

/-- A path to a file and its temporary path never name the same location, also where there
are links. -/
theorem temporary_apart {Special : Type} {disk : Disk Special}
    (isFile : path.way = .name name :: outer) (located : disk.locate path = .ok location) :
    disk.locate (Work.temporary path) ≠ .ok location := by
  intro besides
  have entered := (locate_ok_iff_entry.mp located).2.1
  have enteredBeside := (locate_ok_iff_entry.mp besides).2.1
  rcases (entry_ok_iff isFile).mp entered with ⟨above, toAbove, _, _, rfl⟩
  rcases Path.temporary_steps isFile with ⟨extended, isTemporary, different⟩ | isUp
  · rcases (entry_ok_iff (Path.way_of_steps isTemporary)).mp enteredBeside with
      ⟨again, toAgain, _, _, same⟩
    cases toAbove.symm.trans toAgain
    exact different (List.cons.inj (List.append_cancel_left same)).1.symm
  · have isWay : (Work.temporary path).way = .up :: outer := by rw [Path.way, isUp]
    rcases (entry_ok_iff isWay).mp enteredBeside with ⟨again, toAgain, _, same⟩
    cases toAbove.symm.trans toAgain
    have longer := congrArg List.length same
    rw [List.length_append, List.length_dropLast, List.length_singleton] at longer
    omega

theorem temporary_elsewhere (tree : disk.IsTree) {beside : Location}
    (besides : disk.locate (Work.temporary path) = .ok beside)
    (noDirectory : ¬disk.HasDirectory beside) (located : disk.locate path = .ok location) :
    location ≠ beside := by
  rintro rfl
  by_cases named : ∃ name outer, path.way = .name name :: outer
  · rcases named with ⟨name, outer, isFile⟩
    exact temporary_apart isFile located besides
  · refine noDirectory (tree.hasDirectory_of_locate ?_ located)
    exact fun name outer isPath => named ⟨name, outer, Path.way_of_steps isPath⟩

theorem Effect.nodeAt?_write (effect : Effect disk (.write (Work.temporary path) text) after)
    (tree : disk.IsTree) : after.nodeAt? path = disk.nodeAt? path := by
  refine effect.nodeAt?_eq nofun ?_
  intro location located other member
  rw [List.mem_singleton.mp member]
  intro besides
  have noDirectory : ¬disk.HasDirectory location := by
    cases effect with
    | rewrite written found =>
        cases besides.symm.trans written
        exact no_directory_of_file found
    | create written free =>
        cases besides.symm.trans written
        exact no_directory_of_free free
  exact temporary_elsewhere tree besides noDirectory located rfl

theorem Effect.text?_write (effect : Effect disk (.write (Work.temporary path) text) after)
    (tree : disk.IsTree) : after.text? path = disk.text? path := by
  rw [text?, text?, effect.nodeAt?_write tree]

end Beside

end Disk
end GatewayConsole
