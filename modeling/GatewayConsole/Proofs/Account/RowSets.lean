import GatewayConsole.Proofs.Account.SelectedRows
import GatewayConsole.Proofs.Account.TokenReports
import GatewayConsole.Proofs.Command.HiddenKeys
import Mathlib.Data.Finset.Card
import Mathlib.Data.Finset.Lattice.Basic
import Mathlib.Data.Finset.SDiff

/-!
# Selections as sets

A selection is a finite set of rows, whatever is done with it: it has each selected row once,
in ascending order. What is shown of a page, be it a page of tokens, can be read off that set,
also where the page shows a row twice.
-/

namespace GatewayConsole

/-! ## Actions on sets of rows -/

def Toggle.onSet (rows : Finset Int64) : Toggle → Finset Int64
  | row id => if id ∈ rows then rows.erase id else insert id rows
  | page ids => if ids.toFinset ⊆ rows then rows \ ids.toFinset else rows ∪ ids.toFinset

inductive SelectionAction
  | toggle (turned : Toggle)
  | clear
deriving DecidableEq

namespace SelectionAction

def perform (selection : Selection) : SelectionAction → Selection
  | .toggle turned => turned.apply selection
  | .clear => .empty

def onSet (rows : Finset Int64) : SelectionAction → Finset Int64
  | .toggle turned => turned.onSet rows
  | .clear => ∅

end SelectionAction

/-! ## Selections that hold a set -/

namespace Selection

/-- Whether a selection has exactly the rows of a set, in strictly ascending order. -/
structure Holds (selection : Selection) (rows : Finset Int64) : Prop where
  ascending : selection.ids.Pairwise (· < ·)
  mem_iff : ∀ id, id ∈ selection.ids ↔ id ∈ rows

variable {selection : Selection} {rows : Finset Int64}

theorem holds_ofIds (ids : List Int64) : (ofIds ids).Holds ids.toFinset :=
  ⟨isSorted_ofIds ids, fun _ => mem_ofIds.trans List.mem_toFinset.symm⟩

theorem Holds.toFinset_eq (holds : selection.Holds rows) : selection.ids.toFinset = rows :=
  Finset.ext fun id => List.mem_toFinset.trans (holds.mem_iff id)

theorem Holds.size_eq_card (holds : selection.Holds rows) : selection.size = rows.card := by
  rw [← holds.toFinset_eq]
  exact (List.toFinset_card_of_nodup (IsSorted.nodup holds.ascending)).symm

theorem Holds.contains_eq (holds : selection.Holds rows) (id : Int64) :
    selection.contains id = decide (id ∈ rows) := by
  apply Bool.eq_iff_iff.mpr
  rw [contains_iff, decide_eq_true_eq, holds.mem_iff]

theorem Holds.pageState_eq_all_iff (holds : selection.Holds rows) {page : List Int64}
    (nonempty : page ≠ []) : selection.pageState page = .all ↔ page.toFinset ⊆ rows := by
  rw [Selection.pageState_eq_all_iff, and_iff_right nonempty]
  simp only [holds.mem_iff, Finset.subset_iff, List.mem_toFinset]

theorem Holds.answer_row_eq (holds : selection.Holds rows) (id : Int64) :
    (Toggle.row id).answer selection = some (decide (id ∉ rows)) := by
  rw [Toggle.answer]
  refine congrArg some (Bool.eq_iff_iff.mpr ?_)
  rw [contains_iff, mem_toggleRow_same, decide_eq_true_eq, holds.mem_iff]

/-! ## One action, and many -/

theorem Holds.toggleRow (holds : selection.Holds rows) (id : Int64) :
    (selection.toggleRow id).Holds ((Toggle.row id).onSet rows) := by
  refine ⟨IsSorted.toggleRow holds.ascending id, fun other => ?_⟩
  have toggled : other ∈ (Toggle.row id).onSet rows ↔
      if other = id then id ∉ rows else other ∈ rows := by
    rw [Toggle.onSet]
    by_cases same : other = id <;> by_cases selected : id ∈ rows <;> simp [same, selected]
  rw [toggled]
  split
  next same => rw [same, mem_toggleRow_same, holds.mem_iff]
  next different => rw [mem_toggleRow_other different, holds.mem_iff]

theorem Holds.togglePage (holds : selection.Holds rows) (page : List Int64) :
    (selection.togglePage page).Holds ((Toggle.page page).onSet rows) := by
  refine ⟨IsSorted.togglePage holds.ascending page, fun id => ?_⟩
  by_cases member : id ∈ page
  · have nonempty := List.ne_nil_of_mem member
    rw [mem_togglePage_of_mem member, Ne, holds.pageState_eq_all_iff nonempty, Toggle.onSet]
    split
    next whole => simp [whole, member]
    next part => simp [part, member]
  · rw [mem_togglePage_of_not_mem member, holds.mem_iff, Toggle.onSet]
    split <;> simp [member]

theorem Holds.perform (holds : selection.Holds rows) (action : SelectionAction) :
    (action.perform selection).Holds (action.onSet rows) := by
  cases action with
  | toggle turned =>
      cases turned with
      | row id => exact holds.toggleRow id
      | page ids => exact holds.togglePage ids
  | clear =>
      exact ⟨isSorted_empty, fun id => iff_of_false not_mem_empty (Finset.notMem_empty id)⟩

theorem Holds.run (holds : selection.Holds rows) (actions : List SelectionAction) :
    (actions.foldl SelectionAction.perform selection).Holds
      (actions.foldl SelectionAction.onSet rows) := by
  induction actions generalizing selection rows with
  | nil => exact holds
  | cons action rest induction => exact induction (holds.perform action)

/-! ## Pages -/

/-- Whether what is shown of a page agrees with a set of selected rows. -/
structure ShowsPage (state : PageState) (count : Nat) (page : List Int64) (rows : Finset Int64) :
    Prop where
  none_iff : state = .none ↔ ∀ id ∈ page, id ∉ rows
  all_iff : state = .all ↔ page ≠ [] ∧ ∀ id ∈ page, id ∈ rows
  partly_iff : state = .partly ↔ (∃ id ∈ page, id ∈ rows) ∧ ∃ id ∈ page, id ∉ rows
  count_eq : count = page.countP (· ∈ rows)

theorem Holds.showsPage (holds : selection.Holds rows) (page : List Int64) :
    ShowsPage (selection.pageState page) (selection.countOnPage page) page rows where
  none_iff := by simp only [pageState_eq_none_iff, holds.mem_iff]
  all_iff := by simp only [Selection.pageState_eq_all_iff, holds.mem_iff]
  partly_iff := by simp only [pageState_eq_partly_iff, holds.mem_iff]
  count_eq := List.countP_congr fun id _ => by rw [holds.contains_eq]

/-- What toggling a page does, once and twice. -/
structure TogglesPage (selection : Selection) (page : List Int64) : Prop where
  cleared : selection.pageState page = .all →
    (selection.togglePage page).pageState page = .none
  filled : page ≠ [] → selection.pageState page ≠ .all →
    (selection.togglePage page).pageState page = .all
  elsewhere : ∀ id, id ∉ page → (id ∈ (selection.togglePage page).ids ↔ id ∈ selection.ids)
  restored : selection.pageState page ≠ .partly →
    (selection.togglePage page).togglePage page = selection
  removed : selection.pageState page = .partly →
    ∀ id, id ∈ ((selection.togglePage page).togglePage page).ids ↔ id ∈ selection.ids ∧ id ∉ page

theorem IsSorted.togglesPage (sorted : selection.IsSorted) (page : List Int64) :
    selection.TogglesPage page := by
  have cleared (all : selection.pageState page = .all) :
      (selection.togglePage page).pageState page = .none :=
    pageState_eq_none_iff.mpr fun id member selected =>
      (mem_togglePage_of_mem member).mp selected all
  have filled (nonempty : page ≠ []) (notAll : selection.pageState page ≠ .all) :
      (selection.togglePage page).pageState page = .all :=
    Selection.pageState_eq_all_iff.mpr
      ⟨nonempty, fun id member => (mem_togglePage_of_mem member).mpr notAll⟩
  have elsewhere (id : Int64) (outside : id ∉ page) :
      id ∈ ((selection.togglePage page).togglePage page).ids ↔ id ∈ selection.ids :=
    (mem_togglePage_of_not_mem outside).trans (mem_togglePage_of_not_mem outside)
  -- A row of the page is selected after two toggles just when the page was selected before.
  have twice (id : Int64) (member : id ∈ page) :
      id ∈ ((selection.togglePage page).togglePage page).ids ↔ selection.pageState page = .all := by
    rw [mem_togglePage_of_mem member]
    by_cases all : selection.pageState page = .all
    · simp [cleared all, all]
    · simp [filled (List.ne_nil_of_mem member) all, all]
  refine ⟨cleared, filled, fun id => mem_togglePage_of_not_mem, fun notPartly => ?_,
    fun partly id => ?_⟩
  · refine ((sorted.togglePage page).togglePage page).ext sorted fun id => ?_
    by_cases member : id ∈ page
    · rw [twice id member]
      cases state : selection.pageState page with
      | none => simp [pageState_eq_none_iff.mp state id member]
      | all => simp [(Selection.pageState_eq_all_iff.mp state).2 id member]
      | partly => exact absurd state notPartly
    · exact elsewhere id member
  · by_cases member : id ∈ page
    · rw [twice id member]
      simp [partly, member]
    · rw [elsewhere id member, and_iff_left member]

end Selection

/-! ## Pages of tokens -/

/-- Whether a report on tokens agrees with a set of selected rows. -/
structure TokenReport.Shows (report : TokenReport) (tokens : List Token) (rows : Finset Int64) :
    Prop where
  ascending : report.selected.Pairwise (· < ·)
  mem_selected_iff : ∀ id, id ∈ report.selected ↔ id ∈ rows
  rows_eq : report.rows = tokens.map fun token => .ofToken token (decide (token.id ∈ rows))
  page : Selection.ShowsPage report.pageState report.selectedOnPage (tokens.map (·.id)) rows

theorem Selection.Holds.report_shows {selection : Selection} {rows : Finset Int64}
    (holds : selection.Holds rows) (page : TokenPage) :
    (TokenReport.ofPage page selection).Shows page.items rows where
  ascending := holds.ascending
  mem_selected_iff := holds.mem_iff
  rows_eq := by
    rw [TokenReport.ofPage, TokenReport.ofTokens]
    exact List.map_congr_left fun token _ => by rw [holds.contains_eq]
  page := holds.showsPage _

def PageState.of (page : List Int64) (rows : Finset Int64) : PageState :=
  if page.all (· ∉ rows) then .none else if page.all (· ∈ rows) then .all else .partly

theorem Selection.ShowsPage.state_eq {state : PageState} {count : Nat} {page : List Int64}
    {rows : Finset Int64} (shows : ShowsPage state count page rows) :
    state = PageState.of page rows := by
  simp only [PageState.of, List.all_eq_true, decide_eq_true_eq]
  split
  next none => exact shows.none_iff.mpr none
  next some =>
    have nonempty : page ≠ [] := by
      rintro rfl
      exact some fun _ member => absurd member List.not_mem_nil
    split
    next all => exact shows.all_iff.mpr ⟨nonempty, all⟩
    next part =>
      cases state with
      | none => exact absurd (shows.none_iff.mp rfl) some
      | all => exact absurd (shows.all_iff.mp rfl).2 part
      | partly => rfl

/-- Whether the JSON of a report on tokens says which rows are selected. -/
structure TokenReport.SaysInJson (json : Json) (tokens : List Token) (rows : Finset Int64) :
    Prop where
  state : json.member? "pageState" = some (.text (PageState.of (tokens.map (·.id)) rows).name)
  count : json.member? "selectedOnPage" =
    some (.integer ((tokens.map (·.id)).countP (· ∈ rows)))
  selected : ∃ ids : List Int64, ids.Pairwise (· < ·) ∧ (∀ id, id ∈ ids ↔ id ∈ rows) ∧
    json.member? "selected" = some (.array (ids.map fun id => .integer id.toInt))
  items : ∃ items : List Json, json.member? "items" = some (.array items) ∧
    items.map (fun item => (item.member? "id", item.member? "selected")) =
      tokens.map fun token => (some (.integer token.id.toInt), some (.bool (token.id ∈ rows)))

theorem TokenReport.Shows.saysInJson {report : TokenReport} {tokens : List Token}
    {rows : Finset Int64} (shows : report.Shows tokens rows) :
    SaysInJson report.toJson tokens rows where
  state := by rw [report.member?_pageState, shows.page.state_eq]
  count := by rw [report.member?_selectedOnPage, shows.page.count_eq]
  selected := ⟨report.selected, shows.ascending, shows.mem_selected_iff, report.member?_selected⟩
  items := by
    refine ⟨_, report.member?_items, ?_⟩
    rw [shows.rows_eq, List.map_map, List.map_map]
    refine List.map_congr_left fun token _ => ?_
    simp only [Function.comp_apply, TokenRow.member?_id, TokenRow.member?_selected]
    rfl

/-- Whether the text of a report on tokens says which rows are selected: the line above the rows
says how many there are and what that makes of the page, and rows that are selected are ticked. -/
def TokenReport.SaysInText (text : String) (page : TokenPage) (rows : Finset Int64)
    (colors : Bool) : Prop :=
  let heading : Styled :=
    .plain ("Page " ++ toString page.page.toNat ++ " · " ++ toString page.items.length ++ " of "
      ++ toString page.total.toNat ++ " tokens · selected " ++ toString rows.card ++ " (")
      ++ stateText (PageState.of (page.items.map (·.id)) rows) ++ .plain " on this page)"
  text = "\n".intercalate (heading.render colors ::
    page.items.map fun token => token.lineText (token.id ∈ rows) colors)

theorem Selection.Holds.saysInText {selection : Selection} {rows : Finset Int64}
    (holds : selection.Holds rows) (page : TokenPage) (colors : Bool) :
    TokenReport.SaysInText ((TokenReport.ofPage page selection).text.render colors) page rows
      colors := by
  have shows := holds.report_shows page
  have lines : (TokenReport.ofPage page selection).rows.map (·.line.render colors) =
      page.items.map fun token => token.lineText (token.id ∈ rows) colors := by
    rw [shows.rows_eq, List.map_map]
    exact List.map_congr_left fun token _ => TokenRow.render_line token _ colors
  have length : (TokenReport.ofPage page selection).rows.length = page.items.length := by
    rw [shows.rows_eq, List.length_map]
  have size : (TokenReport.ofPage page selection).selected.length = rows.card := holds.size_eq_card
  rw [TokenReport.SaysInText, TokenReport.render_text, lines, TokenReport.heading, length, size,
    shows.page.state_eq]
  rfl

def TokensOptions.rows (options : TokensOptions) (page : TokenPage) : Finset Int64 :=
  let chosen := options.selected.toFinset
  if options.selectPage then (Toggle.page (page.items.map (·.id))).onSet chosen else chosen

theorem TokensOptions.selection_holds (options : TokensOptions) (page : TokenPage) :
    (options.selection page).Holds (options.rows page) := by
  have chosen := Selection.holds_ofIds options.selected
  rw [selection, rows]
  split
  next => exact chosen.togglePage _
  next => exact chosen

/-! ## All actions -/

namespace Selection

/-- A selection behaves as a finite set of rows. After any actions it has exactly the rows of the
set on which the same is done, in strictly ascending order and with as many ids as the set has
members; the states of pages are those of the set, and toggling a page clears it if it was
selected as a whole, and else selects all of it. The command that shows a page of tokens shows the
set that its options select, in JSON and in text. -/
theorem behaves_as_set (initial : List Int64) (actions : List SelectionAction) :
    let selection := actions.foldl SelectionAction.perform (ofIds initial)
    let rows := actions.foldl SelectionAction.onSet initial.toFinset
    selection.Holds rows ∧ selection.size = rows.card ∧
    (∀ id, (Toggle.row id).answer selection = some (decide (id ∉ rows))) ∧
    (∀ page,
      ShowsPage (selection.pageState page) (selection.countOnPage page) page rows ∧
      selection.TogglesPage page) ∧
    ∀ (options : TokensOptions) (page : TokenPage),
      (options.report page).Shows page.items (options.rows page) ∧
      TokenReport.SaysInJson (options.report page).toJson page.items (options.rows page) ∧
      (∀ colors, TokenReport.SaysInText ((options.report page).text.render colors) page
        (options.rows page) colors) ∧
      ∀ around environment arguments shared world client,
        CommandLine.read environment arguments = .command shared (.tokens options) →
        (Task.connect (Task.settingsIn around shared world) shared).runIn world =
          (.ok client, world) →
        (client.tokens options.wantedPage options.wantedSize around.gateway world.traffic).1 =
          .ok page →
        (runCommandLine around environment arguments world).1 =
          .succeeded (Output.report shared "API Tokens" (options.report page).text
            (options.report page).toJson) := by
  intro selection rows
  have holds : selection.Holds rows := (holds_ofIds initial).run actions
  refine ⟨holds, holds.size_eq_card, holds.answer_row_eq,
    fun page => ⟨holds.showsPage page, IsSorted.togglesPage holds.ascending page⟩,
    fun options page => ?_⟩
  have chosen := options.selection_holds page
  have shows := chosen.report_shows page
  refine ⟨shows, shows.saysInJson, chosen.saysInText page, ?_⟩
  intro around environment arguments shared world client reads connected answered
  exact TokensOptions.runCommandLine_of_page reads connected answered

/-- A page with one row twice and another one that is selected is selected as a whole by one
toggle and cleared by two, which leave the row of another page alone. -/
theorem behaves_as_set_of_repeated_row :
    let selection := [SelectionAction.clear, .toggle (.row 7), .toggle (.page [2, 2])].foldl
      SelectionAction.perform (ofIds [5, 3, 5])
    let page : List Int64 := [9, 2, 9]
    selection.ids = [2, 7] ∧ selection.pageState page = .partly ∧
      (selection.togglePage page).pageState page = .all ∧
      ¬2 ∈ ((selection.togglePage page).togglePage page).ids ∧
      7 ∈ ((selection.togglePage page).togglePage page).ids := by
  intro selection page
  have partly : selection.pageState page = .partly := by decide +kernel
  have behaves := behaves_as_set [5, 3, 5]
    [SelectionAction.clear, .toggle (.row 7), .toggle (.page [2, 2])]
  have toggles : selection.TogglesPage page := (behaves.2.2.2.1 page).2
  have removed := toggles.removed partly
  refine ⟨by decide +kernel, partly, toggles.filled (by decide) (partly ▸ nofun), ?_, ?_⟩
  · exact fun selected => ((removed 2).mp selected).2 (by decide +kernel)
  · exact (removed 7).mpr ⟨by decide +kernel, by decide +kernel⟩

end Selection
end GatewayConsole
