import GatewayConsole.Proofs.Account.SelectedRows

/-!
# Pages without common rows

Toggles with no row in common do not interfere: what one does to its rows depends on these rows
alone. So a run over separate pages does on each of them what the toggles of that page would do
on their own, and the toggles of different pages may come in any order.
-/

namespace GatewayConsole
namespace Selection

variable {first middle second selection : Selection} {page : List Int64} {toggle : Toggle}

/-! ## Selections that agree on a page -/

/-- Whether selections have the same rows of a page. -/
def AgreeOn (page : List Int64) (first second : Selection) : Prop :=
  ∀ id ∈ page, id ∈ first.ids ↔ id ∈ second.ids

theorem AgreeOn.refl (page : List Int64) (selection : Selection) :
    AgreeOn page selection selection :=
  fun _ _ => Iff.rfl

theorem AgreeOn.trans (agree : AgreeOn page first middle) (next : AgreeOn page middle second) :
    AgreeOn page first second :=
  fun id member => (agree id member).trans (next id member)

theorem AgreeOn.mono {part : List Int64} (agree : AgreeOn page first second)
    (within : part ⊆ page) : AgreeOn part first second :=
  fun id member => agree id (within member)

theorem AgreeOn.pageState_eq (agree : AgreeOn page first second) :
    first.pageState page = second.pageState page := by
  have counts : first.countOnPage page = second.countOnPage page :=
    List.countP_congr fun id member => by rw [contains_iff, contains_iff, agree id member]
  rw [pageState, pageState, counts]

theorem agreeOn_apply (elsewhere : ∀ id ∈ page, id ∉ toggle.ids) :
    AgreeOn page (toggle.apply selection) selection :=
  fun id member => Toggle.mem_apply_of_not_mem (elsewhere id member)

theorem AgreeOn.apply (agree : AgreeOn page first second) (within : toggle.ids ⊆ page) :
    AgreeOn page (toggle.apply first) (toggle.apply second) := by
  intro id member
  by_cases own : id ∈ toggle.ids
  · rw [Toggle.mem_apply_of_mem own, Toggle.mem_apply_of_mem own,
      (agree.mono within).pageState_eq]
  · rw [Toggle.mem_apply_of_not_mem own, Toggle.mem_apply_of_not_mem own, agree id member]

theorem AgreeOn.answer_eq (agree : AgreeOn toggle.ids first second) :
    toggle.answer first = toggle.answer second := by
  cases toggle with
  | row id =>
      have same := agree.apply (List.Subset.refl _) id (List.mem_singleton_self id)
      refine congrArg some (Bool.eq_iff_iff.mpr ?_)
      rw [contains_iff, contains_iff]
      exact same
  | page ids => rfl

/-! ## Two toggles -/

theorem IsSorted.apply_comm (sorted : selection.IsSorted) {left right : Toggle}
    (disjoint : ∀ id ∈ left.ids, id ∉ right.ids) :
    right.apply (left.apply selection) = left.apply (right.apply selection) := by
  refine (Toggle.isSorted_apply (Toggle.isSorted_apply sorted left) right).ext
    (Toggle.isSorted_apply (Toggle.isSorted_apply sorted right) left) fun id => ?_
  by_cases onLeft : id ∈ left.ids
  · have alone : AgreeOn left.ids (left.apply (right.apply selection)) (left.apply selection) :=
      (agreeOn_apply disjoint).apply (List.Subset.refl _)
    rw [Toggle.mem_apply_of_not_mem (disjoint id onLeft), alone id onLeft]
  · by_cases onRight : id ∈ right.ids
    · have alone : AgreeOn right.ids (right.apply (left.apply selection)) (right.apply selection) :=
        (agreeOn_apply fun id member other => disjoint id other member).apply (List.Subset.refl _)
      rw [Toggle.mem_apply_of_not_mem onLeft, alone id onRight]
    · rw [Toggle.mem_apply_of_not_mem onRight, Toggle.mem_apply_of_not_mem onLeft,
        Toggle.mem_apply_of_not_mem onLeft, Toggle.mem_apply_of_not_mem onRight]

end Selection

/-! ## Runs over pages -/

abbrev PageRun (Name : Type) := List (Name × Toggle)

namespace PageRun

variable {Name : Type}

def apply (selection : Selection) (run : PageRun Name) : Selection :=
  run.foldl (fun selection step => step.2.apply selection) selection

def answers (selection : Selection) : PageRun Name → List (Name × Option Bool)
  | [] => []
  | (name, toggle) :: rest =>
      (name, toggle.answer selection) :: answers (toggle.apply selection) rest

def on [DecidableEq Name] (run : PageRun Name) (name : Name) : PageRun Name :=
  run.filter (·.1 = name)

def IsOver (pages : Name → List Int64) (run : PageRun Name) : Prop :=
  ∀ step ∈ run, step.2.ids ⊆ pages step.1

/-- Whether pages with different names have no row in common. -/
def Separate (pages : Name → List Int64) : Prop :=
  ∀ name other, name ≠ other → ∀ id ∈ pages name, id ∉ pages other

variable {pages : Name → List Int64} {run other : PageRun Name} {first second selection : Selection}

theorem isSorted_apply (sorted : selection.IsSorted) (run : PageRun Name) :
    (run.apply selection).IsSorted := by
  induction run generalizing selection with
  | nil => exact sorted
  | cons step rest induction => exact induction (Toggle.isSorted_apply sorted step.2)

theorem mem_apply_of_elsewhere (isOver : run.IsOver pages) {id : Int64}
    (elsewhere : ∀ name, id ∉ pages name) :
    id ∈ (run.apply selection).ids ↔ id ∈ selection.ids := by
  induction run generalizing selection with
  | nil => rfl
  | cons step rest induction =>
      have kept : id ∈ (step.2.apply selection).ids ↔ id ∈ selection.ids :=
        Toggle.mem_apply_of_not_mem fun own =>
          elsewhere step.1 (isOver step List.mem_cons_self own)
      have restOver : IsOver pages rest :=
        fun later member => isOver later (List.mem_cons_of_mem step member)
      exact (induction restOver).trans kept

section Pages

variable [DecidableEq Name]

theorem agreeOn_apply_on (separate : Separate pages) (isOver : run.IsOver pages) {name : Name}
    (agree : Selection.AgreeOn (pages name) first second) :
    Selection.AgreeOn (pages name) (run.apply first) ((run.on name).apply second) ∧
      (run.answers first).filter (·.1 = name) = (run.on name).answers second := by
  induction run generalizing first second with
  | nil => exact ⟨agree, rfl⟩
  | cons step rest induction =>
      rcases step with ⟨owner, toggle⟩
      have within : toggle.ids ⊆ pages owner := isOver (owner, toggle) List.mem_cons_self
      have restOver : IsOver pages rest :=
        fun later member => isOver later (List.mem_cons_of_mem _ member)
      -- A toggle of the page is done on both sides; one of another page leaves the page alone.
      by_cases own : owner = name
      · subst own
        have next := induction restOver (agree.apply within)
        have isOn : on ((owner, toggle) :: rest) owner = (owner, toggle) :: on rest owner :=
          List.filter_cons_of_pos (decide_eq_true rfl)
        rw [isOn]
        refine ⟨next.1, ?_⟩
        rw [answers, List.filter_cons_of_pos (by simp), next.2, answers,
          (agree.mono within).answer_eq]
      · have untouched : Selection.AgreeOn (pages name) (toggle.apply first) first :=
          Selection.agreeOn_apply fun id member isOwn =>
            separate owner name own id (within isOwn) member
        have next := induction restOver (untouched.trans agree)
        have isOn : on ((owner, toggle) :: rest) name = on rest name :=
          List.filter_cons_of_neg (by simpa using own)
        rw [isOn]
        refine ⟨next.1, ?_⟩
        rw [answers, List.filter_cons_of_neg (by simpa using own), next.2]

theorem apply_eq_of_on_eq (sorted : selection.IsSorted) (separate : Separate pages)
    (isOver : run.IsOver pages) (otherOver : other.IsOver pages)
    (same : ∀ name, run.on name = other.on name) :
    run.apply selection = other.apply selection := by
  refine (isSorted_apply sorted run).ext (isSorted_apply sorted other) fun id => ?_
  by_cases shown : ∃ name, id ∈ pages name
  · rcases shown with ⟨name, member⟩
    have itself := Selection.AgreeOn.refl (pages name) selection
    rw [(agreeOn_apply_on separate isOver itself).1 id member, same name,
      (agreeOn_apply_on separate otherOver itself).1 id member]
  · have elsewhere : ∀ name, id ∉ pages name := fun name member => shown ⟨name, member⟩
    rw [mem_apply_of_elsewhere isOver elsewhere, mem_apply_of_elsewhere otherOver elsewhere]

end Pages
end PageRun

namespace Selection

/-- Toggles without a common row can be done in either order: the selection is the same in the
end, rows are answered alike, and neither changes the state of a page without rows of its own. So
in a run over pages that have no row in common it makes no difference how the toggles of
different pages follow on one another. -/
theorem separate_pages_interleave {selection : Selection} (sorted : selection.IsSorted) :
    (∀ left right : Toggle, (∀ id ∈ left.ids, id ∉ right.ids) →
      right.apply (left.apply selection) = left.apply (right.apply selection) ∧
      left.answer (right.apply selection) = left.answer selection ∧
      right.answer (left.apply selection) = right.answer selection ∧
      (right.apply selection).pageState left.ids = selection.pageState left.ids ∧
      (left.apply selection).pageState right.ids = selection.pageState right.ids) ∧
    ∀ (Name : Type) [DecidableEq Name] (pages : Name → List Int64) (run other : PageRun Name),
      PageRun.Separate pages → run.IsOver pages → other.IsOver pages →
      (∀ name, run.on name = other.on name) →
      run.apply selection = other.apply selection ∧
      ∀ name, (run.answers selection).filter (·.1 = name) =
        (other.answers selection).filter (·.1 = name) := by
  constructor
  · intro left right disjoint
    have leftKept : AgreeOn left.ids (right.apply selection) selection := agreeOn_apply disjoint
    have rightKept : AgreeOn right.ids (left.apply selection) selection :=
      agreeOn_apply fun id member other => disjoint id other member
    exact ⟨sorted.apply_comm disjoint, leftKept.answer_eq, rightKept.answer_eq,
      leftKept.pageState_eq, rightKept.pageState_eq⟩
  · intro Name _ pages run other separate isOver otherOver same
    refine ⟨PageRun.apply_eq_of_on_eq sorted separate isOver otherOver same, fun name => ?_⟩
    have itself := AgreeOn.refl (pages name) selection
    rw [(PageRun.agreeOn_apply_on separate isOver itself).2, same name,
      (PageRun.agreeOn_apply_on separate otherOver itself).2]

/-- Two pages, one of which shows a row twice, are toggled in turn or one after the other. -/
theorem separate_pages_interleave_of_two_pages :
    let selection : Selection := ⟨[1, 4, 8]⟩
    let pages (name : Bool) : List Int64 := if name then [1, 2, 1] else [4, 5]
    let run : PageRun Bool :=
      [(true, .page [1, 2, 1]), (false, .row 5), (true, .row 1), (false, .page [4, 5])]
    let other : PageRun Bool :=
      [(false, .row 5), (false, .page [4, 5]), (true, .page [1, 2, 1]), (true, .row 1)]
    selection.IsSorted ∧ PageRun.Separate pages ∧ run.IsOver pages ∧ other.IsOver pages ∧
      run.apply selection = other.apply selection ∧ (other.apply selection).ids = [2, 8] := by
  intro selection pages run other
  have sorted : selection.IsSorted := by unfold Selection.IsSorted; decide +kernel
  -- Membership is decided row by row: there are too many ids to go through them all.
  have apart : ∀ name other, name ≠ other →
      (pages name).all (fun id => !(pages other).contains id) = true := by decide +kernel
  have separate : PageRun.Separate pages := by
    intro name other different id member
    simpa using List.all_eq_true.mp (apart name other different) id member
  have isOver : run.IsOver pages := by unfold PageRun.IsOver; decide +kernel
  have otherOver : other.IsOver pages := by unfold PageRun.IsOver; decide +kernel
  have same : ∀ name, run.on name = other.on name := by decide +kernel
  have interleave := (separate_pages_interleave sorted).2 Bool pages run other separate isOver
    otherOver same
  exact ⟨sorted, separate, isOver, otherOver, interleave.1, by decide +kernel⟩

end Selection
end GatewayConsole
