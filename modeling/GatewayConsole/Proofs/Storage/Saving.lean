import GatewayConsole.Proofs.Storage.Temporary

/-!
# Saving

What holds of a disk while a file is saved, however the operations go. Every operation is
carried out, carried out in part, or not at all; what all of these keep holds of every
state in between.
-/

namespace GatewayConsole

open Disk (Operation)

namespace Work

/-! ## Single operations -/

/-- What an operation may carry out: itself, or what is left of it when it breaks off. -/
inductive IsPart : Operation → Operation → Prop
  | whole (operation : Operation) : IsPart operation operation
  | remnant {operation part : Operation} {written : Nat}
      (left : remnant? operation written = some part) : IsPart operation part

variable {Special : Type}

def Keeps (property : Disk Special → Prop) (operation : Operation) : Prop :=
  ∀ part before after, IsPart operation part → property before →
    before.perform part = .ok after → property after

/-- Whether an operation, or a part of it, keeps a property of disks while another one
holds. -/
def KeepsWhile (during property : Disk Special → Prop) (operation : Operation) : Prop :=
  ∀ part before after, IsPart operation part → during before → property before →
    before.perform part = .ok after → property after

def Always (property : Disk Special → Prop) (work : Work Special) : Prop :=
  ∀ disk ∈ work.states, property disk

variable {property during : Disk Special → Prop} {work : Work Special} {operation : Operation}

theorem IsPart.paths {part : Operation} (isPart : IsPart operation part) :
    part.paths = operation.paths := by
  cases isPart with
  | whole => rfl
  | remnant left =>
      cases operation with
      | write =>
          cases left
          rfl
      | makeDirectory | setMode | rename | delete => cases left

theorem keeps_of_whole (whole : ∀ written, remnant? operation written = none)
    (keeps : ∀ before after, property before → before.perform operation = .ok after →
      property after) : Keeps property operation := by
  intro part before after isPart holds done
  cases isPart with
  | whole => exact keeps before after holds done
  | remnant left =>
      rw [whole] at left
      cases left

theorem keeps_write {path : Path}
    (keeps : ∀ text before after, property before →
      before.perform (.write path text) = .ok after → property after) (text : String) :
    Keeps property (.write path text) := by
  intro part before after isPart holds done
  cases isPart with
  | whole => exact keeps text before after holds done
  | remnant left =>
      cases left
      exact keeps _ before after holds done

theorem Keeps.while (keeps : Keeps property operation) : KeepsWhile during property operation :=
  fun part before after isPart _ => keeps part before after isPart

theorem Always.now (always : work.Always property) : property work.disk :=
  always work.disk List.mem_cons_self

theorem always_start {disk : Disk Special} {hazards : List Hazard} (holds : property disk) :
    (start disk hazards).Always property := by
  intro state member
  exact List.mem_singleton.mp member ▸ holds

theorem carryOut_cases (work : Work Special) (operation : Operation) :
    (∃ disk, work.disk.perform operation = .ok disk ∧ (work.carryOut operation).1 = .ok () ∧
      (work.carryOut operation).2.states = disk :: work.states) ∨
    (∃ trouble, (work.carryOut operation).1 = .error trouble ∧
      (work.carryOut operation).2.states = work.states) := by
  unfold carryOut
  split
  next disk done => exact .inl ⟨disk, done, rfl, rfl⟩
  next trouble _ => exact .inr ⟨trouble, rfl, rfl⟩

theorem act_cases (work : Work Special) (operation : Operation) :
    (∃ disk, work.disk.perform operation = .ok disk ∧ (work.act operation).1 = .ok () ∧
      (work.act operation).2.states = disk :: work.states) ∨
    (∃ trouble, (work.act operation).1 = .error trouble ∧
      ((work.act operation).2.states = work.states ∨
        ∃ part written disk, remnant? operation written = some part ∧
          work.disk.perform part = .ok disk ∧
            (work.act operation).2.states = disk :: work.states)) := by
  unfold act
  split
  next =>
    rcases carryOut_cases { work with hazards := work.hazards.tail } operation with
      ⟨disk, performed, done, states⟩ | ⟨trouble, failed, states⟩
    · exact .inl ⟨disk, performed, done, states⟩
    · exact .inr ⟨trouble, failed, .inl states⟩
  next => exact .inr ⟨.other, rfl, .inl rfl⟩
  next written _ =>
    split
    next part left =>
      refine .inr ⟨.other, rfl, ?_⟩
      rcases carryOut_cases { work with hazards := work.hazards.tail } part with
        ⟨disk, performed, _, states⟩ | ⟨_, _, states⟩
      · exact .inr ⟨part, written, disk, left, performed, states⟩
      · exact .inl states
    next => exact .inr ⟨.other, rfl, .inl rfl⟩

theorem Always.act_now (always : work.Always property)
    (holds : ∀ part after, IsPart operation part → work.disk.perform part = .ok after →
      property after) :
    (work.act operation).2.Always property := by
  have extended {disk : Disk Special} (holds : property disk)
      (states : (work.act operation).2.states = disk :: work.states) :
      (work.act operation).2.Always property := by
    intro state member
    rw [states] at member
    rcases List.mem_cons.mp member with rfl | earlier
    · exact holds
    · exact always state earlier
  rcases act_cases work operation with
    ⟨disk, done, _, states⟩ | ⟨_, _, same | ⟨part, written, disk, left, done, states⟩⟩
  · exact extended (holds operation disk (.whole operation) done) states
  · intro state member
    exact always state (same ▸ member)
  · exact extended (holds part disk (.remnant left) done) states

theorem Always.act (always : work.Always property) (keeps : Keeps property operation) :
    (work.act operation).2.Always property :=
  always.act_now fun part after isPart => keeps part work.disk after isPart always.now

theorem now_act (now : property work.disk) (keeps : Keeps property operation) :
    property (work.act operation).2.disk := by
  rcases act_cases work operation with
    ⟨disk, done, _, states⟩ | ⟨_, _, same | ⟨part, written, disk, left, done, states⟩⟩
  · rw [(List.cons.inj states).1]
    exact keeps operation work.disk disk (.whole operation) now done
  · rw [(List.cons.inj same).1]
    exact now
  · rw [(List.cons.inj states).1]
    exact keeps part work.disk disk (.remnant left) now done

theorem perform_of_act (done : (work.act operation).1 = .ok ()) :
    work.disk.perform operation = .ok (work.act operation).2.disk := by
  rcases act_cases work operation with ⟨disk, performed, _, states⟩ | ⟨_, failed, _⟩
  · exact (List.cons.inj states).1 ▸ performed
  · exact nomatch done.symm.trans failed

/-! ## Sequences -/

section Next

variable {result : Except Trouble Unit × Work Special}
variable {onward further : Work Special → Except Trouble Unit × Work Special}

theorem next_cases (result : Except Trouble Unit × Work Special)
    (onward : Work Special → Except Trouble Unit × Work Special) :
    (∃ trouble, result.1 = .error trouble ∧ next result onward = result) ∨
      (result.1 = .ok () ∧ next result onward = onward result.2) := by
  rcases result with ⟨outcome, work⟩
  cases outcome with
  | error trouble => exact .inl ⟨trouble, rfl, rfl⟩
  | ok => exact .inr ⟨rfl, rfl⟩

theorem next_ok (done : (next result onward).1 = .ok ()) :
    result.1 = .ok () ∧ (onward result.2).1 = .ok () ∧ next result onward = onward result.2 := by
  rcases next_cases result onward with ⟨trouble, failed, same⟩ | ⟨first, same⟩
  · rw [same, failed] at done
    exact nomatch done
  · exact ⟨first, same ▸ done, same⟩

theorem next_next : next (next result onward) further = next result fun work =>
    next (onward work) further := by
  rcases result with ⟨outcome, work⟩
  cases outcome with
  | error => rfl
  | ok => rfl

theorem next_done : (next result fun work => (.ok (), work)) = result := by
  rcases result with ⟨outcome, work⟩
  cases outcome <;> rfl

end Next

theorem Always.next {result : Except Trouble Unit × Work Special}
    {onward : Work Special → Except Trouble Unit × Work Special} (always : result.2.Always property)
    (later : ∀ work, work.Always property → (onward work).2.Always property) :
    (Work.next result onward).2.Always property := by
  rcases result with ⟨outcome, work⟩
  cases outcome with
  | error => exact always
  | ok => exact later work always

theorem now_actAll {operations : List Operation} (now : property work.disk)
    (keeps : ∀ operation ∈ operations, Keeps property operation) :
    property (work.actAll operations).2.disk := by
  induction operations generalizing work with
  | nil => exact now
  | cons operation operations induction =>
      have acted := now_act now (keeps operation List.mem_cons_self)
      rcases next_cases (work.act operation) fun work => work.actAll operations with
        ⟨_, _, same⟩ | ⟨_, same⟩
      · rw [Work.actAll, same]
        exact acted
      · rw [Work.actAll, same]
        exact induction acted fun other member => keeps other (List.mem_cons_of_mem _ member)

theorem Always.actAll_while {operations : List Operation} (always : work.Always property)
    (now : during work.disk) (lasts : ∀ operation ∈ operations, Keeps during operation)
    (keeps : ∀ operation ∈ operations, KeepsWhile during property operation) :
    (work.actAll operations).2.Always property := by
  induction operations generalizing work with
  | nil => exact always
  | cons operation operations induction =>
      have acted : (work.act operation).2.Always property :=
        always.act_now fun part after isPart =>
          keeps operation List.mem_cons_self part work.disk after isPart now always.now
      have still := now_act now (lasts operation List.mem_cons_self)
      rcases next_cases (work.act operation) fun work => work.actAll operations with
        ⟨_, _, same⟩ | ⟨_, same⟩
      · rw [Work.actAll, same]
        exact acted
      · rw [Work.actAll, same]
        refine induction acted still ?_ ?_
        · exact fun other member => lasts other (List.mem_cons_of_mem _ member)
        · exact fun other member => keeps other (List.mem_cons_of_mem _ member)

theorem Always.unlessDirectory {path : Path} {result : Except Trouble Unit × Work Special}
    (always : result.2.Always property) : (Work.unlessDirectory path result).2.Always property := by
  unfold Work.unlessDirectory
  split
  next trouble work => split <;> exact always
  next => exact always

/-! ## Making directories -/

section Directories

variable {path : Path} {absolute : Bool} {steps : List PathStep}

theorem Always.makeDirectories (always : work.Always property)
    (makes : ∀ made, made <:+ steps → Keeps property (.makeDirectory ⟨absolute, made⟩)) :
    (makeDirectories absolute work steps).2.Always property := by
  induction steps generalizing work with
  | nil => exact always
  | cons step outer induction =>
      have whole := makes (step :: outer) (List.suffix_refl _)
      have made := always.act whole
      rw [Work.makeDirectories]
      split
      next after acted =>
        rw [acted] at made
        have further : ∀ inner, inner <:+ outer →
            Keeps property (.makeDirectory ⟨absolute, inner⟩) :=
          fun inner inside => makes inner (inside.trans (List.suffix_cons step outer))
        exact (induction made further).next fun work always => (always.act whole).unlessDirectory
      next => exact made.unlessDirectory

theorem keeps_holdsDirectory_setMode (other : Path) (mode : Mode) :
    Keeps (fun disk : Disk Special => disk.holdsDirectory path = true) (.setMode other mode) := by
  refine keeps_of_whole (fun _ => rfl) fun before after holds done => ?_
  rcases Disk.changed_of_perform done with ⟨changed, node, _, found, rfl⟩
  have keeps := Disk.keepsWays_change_mode found mode
  rcases Disk.holdsDirectory_iff_resolve.mp holds with ⟨location, resolved, isDirectory⟩
  have stays := keeps.directories location isDirectory
  exact Disk.holdsDirectory_iff_resolve.mpr
    ⟨location, keeps.resolve resolved stays.linkAt?_eq_none, stays⟩

theorem holdsDirectory_of_act (done : (work.act (.makeDirectory path)).1 = .ok ()) :
    (work.act (.makeDirectory path)).2.disk.holdsDirectory path = true := by
  rcases Disk.made_of_perform (perform_of_act done) with ⟨location, located, free, made⟩
  have keeps := Disk.keepsWays_put_free free (.directory (work.disk.granted 0o777))
  have isThere := Disk.find?_put_same work.disk location (.directory (work.disk.granted 0o777))
  rw [← made] at keeps isThere
  have isDirectory : (work.act (.makeDirectory path)).2.disk.HasDirectory location := ⟨_, isThere⟩
  exact Disk.holdsDirectory_iff_resolve.mpr ⟨location,
    Disk.resolve_of_locate (keeps.locate located) isDirectory.linkAt?_eq_none, isDirectory⟩

theorem holdsDirectory_unlessDirectory {result : Except Trouble Unit × Work Special}
    (made : result.1 = .ok () → result.2.disk.holdsDirectory path = true)
    (done : (unlessDirectory path result).1 = .ok ()) :
    (unlessDirectory path result).2.disk.holdsDirectory path = true := by
  rcases result with ⟨outcome, after⟩
  cases outcome with
  | error trouble =>
      rw [unlessDirectory] at done ⊢
      split at done
      next holds => rwa [if_pos holds]
      next => exact nomatch done
  | ok => exact made rfl

theorem holdsDirectory_of_makeDirectories (nonempty : steps ≠ [])
    (done : (makeDirectories absolute work steps).1 = .ok ()) :
    (makeDirectories absolute work steps).2.disk.holdsDirectory ⟨absolute, steps⟩ = true := by
  cases steps with
  | nil => exact absurd rfl nonempty
  | cons step outer =>
      rw [makeDirectories] at done ⊢
      split at done
      next after acted =>
        rcases next_ok done with ⟨_, last, same⟩
        rw [same]
        exact holdsDirectory_unlessDirectory holdsDirectory_of_act last
      next => exact holdsDirectory_unlessDirectory holdsDirectory_of_act done

/-- The directories for a path are those that it is in. By the time their permissions are set
the innermost is there, and so all are. -/
theorem Always.makeParents_within (always : work.Always property)
    (makes : ∀ parent, path.parent? = some parent → ∀ made, made <:+ parent.steps →
      Keeps property (.makeDirectory { parent with steps := made }))
    (modes : ∀ parent, path.parent? = some parent →
      ∀ made ∈ missingDirectories work.disk parent, ∀ before after,
        (parent.steps ≠ [] → before.holdsDirectory parent = true) → property before →
          before.perform (.setMode made ownerDirectory) = .ok after → property after) :
    (work.makeParents path).2.Always property := by
  unfold Work.makeParents
  split
  next => exact always
  next parent isParent =>
    split
    next => exact always
    next =>
      have made := always.makeDirectories (makes parent isParent)
      rcases next_cases (Work.makeDirectories parent.absolute work parent.steps) fun after =>
          after.actAll ((missingDirectories work.disk parent).reverse.map
            (.setMode · ownerDirectory)) with ⟨_, _, same⟩ | ⟨done, same⟩
      · simp only [same]
        exact made
      · simp only [same]
        let during (disk : Disk Special) : Prop :=
          parent.steps ≠ [] → disk.holdsDirectory parent = true
        have now : during (Work.makeDirectories parent.absolute work parent.steps).2.disk :=
          fun nonempty => holdsDirectory_of_makeDirectories nonempty done
        refine made.actAll_while now ?_ ?_
        · intro operation member part before after isPart holds done nonempty
          rcases List.mem_map.mp member with ⟨directory, listed, rfl⟩
          exact keeps_holdsDirectory_setMode directory ownerDirectory part before after isPart
            (holds nonempty) done
        · intro operation member part before after isPart holds kept done
          rcases List.mem_map.mp member with ⟨directory, listed, rfl⟩
          cases isPart with
          | whole =>
              exact modes parent isParent directory (List.mem_reverse.mp listed) before after holds
                kept done
          | remnant left => exact nomatch left

theorem Always.makeParents (always : work.Always property)
    (makes : ∀ path, Keeps property (.makeDirectory path))
    (modes : ∀ path mode, Keeps property (.setMode path mode)) (path : Path) :
    (work.makeParents path).2.Always property :=
  always.makeParents_within (fun _ _ _ _ => makes _) fun _ _ made _ before after _ kept done =>
    modes made ownerDirectory _ before after (.whole _) kept done

end Directories

/-! ## Saving a text -/

def preparations (path : Path) (text : String) : List Operation :=
  [.write (temporary path) text, .setMode (temporary path) ownerFile]

theorem save_eq (work : Work Special) (path : Path) (text : String) :
    work.save path text =
      next (work.makeParents path) fun work =>
        next (work.actAll (preparations path text)) fun work =>
          work.act (.rename (temporary path) path) := by
  simp only [save, preparations, actAll, next_next, next_done]

section Saving

variable {path : Path} {text : String}

/-- What the operations before the renaming keep, while something else holds that they keep as
well, holds of every state but the one that a successful renaming leads to, and both hold of
the state before that one. -/
theorem Always.save_until_renamed_while (parents : (work.makeParents path).2.Always property)
    (now : during (work.makeParents path).2.disk)
    (lasts : ∀ operation ∈ preparations path text, Keeps during operation)
    (keeps : ∀ operation ∈ preparations path text, KeepsWhile during property operation) :
    ∀ state ∈ (work.save path text).2.states, property state ∨
      (work.save path text).1 = .ok () ∧ state = (work.save path text).2.disk ∧
        ∃ before, during before ∧ property before ∧
          before.perform (.rename (temporary path) path) = .ok state := by
  rw [save_eq]
  rcases next_cases (work.makeParents path) fun work =>
      Work.next (work.actAll (preparations path text)) fun work =>
        work.act (.rename (temporary path) path) with ⟨_, _, same⟩ | ⟨_, same⟩
  · rw [same]
    exact fun state member => .inl (parents state member)
  rw [same]
  have prepared := parents.actAll_while now lasts keeps
  have still := now_actAll now lasts
  rcases next_cases ((work.makeParents path).2.actAll (preparations path text)) fun work =>
      work.act (.rename (temporary path) path) with ⟨_, _, same⟩ | ⟨_, same⟩
  · rw [same]
    exact fun state member => .inl (prepared state member)
  rw [same]
  intro state member
  rcases act_cases ((work.makeParents path).2.actAll (preparations path text)).2
      (.rename (temporary path) path) with
    ⟨disk, renamed, done, states⟩ | ⟨_, _, same | ⟨part, written, _, left, _⟩⟩
  · rw [states] at member
    rcases List.mem_cons.mp member with rfl | earlier
    · exact .inr ⟨done, (List.cons.inj states).1.symm, _, still, prepared.now, renamed⟩
    · exact .inl (prepared state earlier)
  · exact .inl (prepared state (same ▸ member))
  · exact nomatch left

theorem keeps_preparations (writes : Keeps property (.write (temporary path) text))
    (modes : Keeps property (.setMode (temporary path) ownerFile)) :
    ∀ operation ∈ preparations path text, Keeps property operation := by
  intro operation member
  rcases List.mem_cons.mp member with rfl | member
  · exact writes
  · cases List.mem_singleton.mp member
    exact modes

/-- Whatever the operations before the renaming keep holds of every state but the one that a
successful renaming leads to, and of the state before that one. -/
theorem Always.save_until_renamed (parents : (work.makeParents path).2.Always property)
    (modes : Keeps property (.setMode (temporary path) ownerFile))
    (writes : Keeps property (.write (temporary path) text)) :
    ∀ state ∈ (work.save path text).2.states, property state ∨
      (work.save path text).1 = .ok () ∧ state = (work.save path text).2.disk ∧
        ∃ before, property before ∧
          before.perform (.rename (temporary path) path) = .ok state := by
  have keeps := keeps_preparations writes modes
  intro state member
  rcases parents.save_until_renamed_while (parents.now) keeps
      (fun operation member => (keeps operation member).while) state member with
    kept | ⟨done, isLast, before, _, kept, renamed⟩
  · exact .inl kept
  · exact .inr ⟨done, isLast, before, kept, renamed⟩

theorem Always.save (parents : (work.makeParents path).2.Always property)
    (modes : Keeps property (.setMode (temporary path) ownerFile))
    (writes : Keeps property (.write (temporary path) text))
    (renames : Keeps property (.rename (temporary path) path)) :
    (work.save path text).2.Always property := by
  intro state member
  rcases parents.save_until_renamed modes writes state member with
    kept | ⟨_, _, before, kept, renamed⟩
  · exact kept
  · exact renames _ before state (.whole _) kept renamed

theorem Always.save_failed {trouble : Trouble}
    (parents : (work.makeParents path).2.Always property)
    (modes : Keeps property (.setMode (temporary path) ownerFile))
    (writes : Keeps property (.write (temporary path) text))
    (failed : (work.save path text).1 = .error trouble) :
    (work.save path text).2.Always property := by
  intro state member
  rcases parents.save_until_renamed modes writes state member with kept | ⟨done, _⟩
  · exact kept
  · exact nomatch done.symm.trans failed

theorem performed_of_save (saved : (work.save path text).1 = .ok ()) :
    ∃ written changed,
      (work.makeParents path).2.disk.perform (.write (temporary path) text) = .ok written ∧
      written.perform (.setMode (temporary path) ownerFile) = .ok changed ∧
      changed.perform (.rename (temporary path) path) = .ok (work.save path text).2.disk := by
  rw [save_eq] at saved ⊢
  rcases next_ok saved with ⟨_, saved, same⟩
  rw [same]
  rcases next_ok saved with ⟨prepared, renamed, same⟩
  rw [same]
  have rename := perform_of_act renamed
  simp only [preparations, actAll] at prepared rename ⊢
  rcases next_ok prepared with ⟨written, changed, same⟩
  rw [same] at rename ⊢
  rcases next_ok changed with ⟨changed, _, same⟩
  rw [same] at rename ⊢
  exact ⟨_, _, perform_of_act written, perform_of_act changed, rename⟩

end Saving

end Work
end GatewayConsole
