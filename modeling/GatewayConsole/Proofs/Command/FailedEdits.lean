import GatewayConsole.Proofs.Command.EditedSwitches
import GatewayConsole.Proofs.Gateway.GrantedChanges

/-!
# Failed edits

Commands that were to change the switches of the header, and failed. As long as the gateway
does what it grants, such a command has changed nothing, on the gateway or on the disk. The
labels are the exception: they are loaded when the change has already been made.
-/

namespace GatewayConsole

/-! ## Errors about labels -/

def CommandError.isAboutLabels : CommandError → Bool
  | .unreadable .labels _ | .invalidLabels _ => true
  | _ => false

namespace Task

variable {shared : GlobalOptions} {error : CommandError} {world after : World}

theorem loadTranslator_error
    (failed : (loadTranslator shared).runIn world = (.error error, after)) :
    error.isAboutLabels = true := by
  unfold loadTranslator at failed
  split at failed
  · exact nomatch failed
  · rcases runIn_bind_cases failed with ⟨other, unreadable, isError⟩ | ⟨text, between, _, invalid⟩
    · cases isError
      rw [runIn_fileText] at unreadable
      split at unreadable <;> cases unreadable
      rfl
    · split at invalid <;> cases invalid
      rfl

theorem connect_error {settings : Settings}
    (failed : (connect settings shared).runIn world = (.error error, after)) :
    error.isAboutLabels = false := by
  unfold connect at failed
  dsimp only at failed
  split at failed <;> cases failed
  rfl

end Task

/-! ## Where a command fails -/

namespace ModulesAction

variable {action : ModulesAction} {around : Surroundings} {shared : GlobalOptions}
  {client : GatewayClient} {store : SettingsStore} {switches : Switches} {world after : World}
  {error : CommandError}

theorem publish_error
    (failed : (publish around client store switches).runIn world = (.error error, after)) :
    ∃ trouble traffic, client.updateOption Switches.optionKey switches.toText around.gateway
        world.traffic = (.error trouble, traffic) ∧
      error = .gateway trouble ∧ after = { world with traffic } := by
  rcases Task.runIn_bind_cases failed with ⟨other, refused, isError⟩ | ⟨done, between, _, unkept⟩
  · cases isError
    exact Task.runIn_call_error refused
  · rcases Task.runIn_bind_cases unkept with ⟨other, lost, _⟩ | ⟨kept, last, _, lost⟩ <;> cases lost

theorem shown_error (failed : (shown shared switches).runIn world = (.error error, after)) :
    error.isAboutLabels = true := by
  rcases Task.runIn_bind_cases failed with ⟨other, unloaded, isError⟩ | ⟨labels, between, _, lost⟩
  · cases isError
    exact Task.loadTranslator_error unloaded
  · cases lost

/-! ## What is changed -/

variable {table : List Exchange → OptionTable}

structure Unchanged (table : List Exchange → OptionTable) (world after : World) : Prop where
  options : table after.traffic.exchanges = table world.traffic.exchanges
  work : after.work = world.work

structure Made (table : List Exchange → OptionTable) (store : SettingsStore) (switches : Switches)
    (world after : World) : Prop where
  options : table after.traffic.exchanges =
    (table world.traffic.exchanges).store ⟨Switches.optionKey, switches.toText⟩
  work : after.work = ((remember store switches).saveIfChangedWith world.work).2.2

theorem unchanged_or_made (applies : around.gateway.AppliesGranted table)
    (changes : action ≠ .present)
    (failed : (action.run around shared).runIn world = (.error error, after)) :
    (error.isAboutLabels = false ∧ Unchanged table world after) ∨
    error.isAboutLabels = true ∧ ∃ stored switches,
      action.edit? (.ofOption stored) = some switches ∧
      Made table (Task.storeIn around shared world) switches world after := by
  rcases run_cases failed with
    ⟨other, isError, same, unreached⟩ | ⟨client, trouble, traffic, isError, isAfter, unfound⟩ |
    ⟨client, stored, traffic, found, rest⟩
  · cases isError
    rw [same]
    exact .inl ⟨Task.connect_error unreached, rfl, rfl⟩
  · cases isError
    rw [isAfter]
    exact .inl ⟨rfl, GatewayClient.table_option applies unfound, rfl⟩
  have asked := GatewayClient.table_option applies found
  rcases edit?_isSome changes (.ofOption stored) with ⟨switches, edit⟩
  rw [edit] at rest
  rcases rest with ⟨other, isError, unstored⟩ | ⟨published, unlabelled⟩
  · cases isError
    rcases publish_error unstored with ⟨trouble, last, refused, isError, isAfter⟩
    have unchanged := (GatewayClient.table_updateOption applies refused).2 trouble rfl
    rw [isError, isAfter]
    exact .inl ⟨rfl, unchanged.trans asked, rfl⟩
  · rcases publish_ok_iff.mp published with ⟨last, updated, isAfter⟩
    have changed := (GatewayClient.table_updateOption applies updated).1 rfl
    refine .inr ⟨shown_error unlabelled, stored, switches, edit, ?_, ?_⟩
    · rw [isAfter, changed, asked]
    · rw [isAfter]

end ModulesAction

/-! ## Command lines -/

def RunResult.isAboutLabels : RunResult → Bool
  | .failed error => error.isAboutLabels
  | _ => false

def CommandLine.IsEdit (environment : Keyed String) (arguments : List String) : Prop :=
  ∀ shared command, read environment arguments = .command shared command →
    ∃ action, action ≠ ModulesAction.present ∧ command = .modules action

theorem CommandLine.isEdit_of_read {environment : Keyed String} {arguments : List String}
    {shared : GlobalOptions} {action : ModulesAction}
    (reads : read environment arguments = .command shared (.modules action))
    (changes : action ≠ .present) : IsEdit environment arguments := by
  intro other command same
  cases reads.symm.trans same
  exact ⟨action, changes, rfl⟩

namespace ModulesAction

variable {environment : Keyed String} {arguments : List String} {result : RunResult}

/-- A command line that is to change switches and ends with an error has changed nothing,
unless its labels cannot be loaded. In that case the change has been made all the same. -/
theorem unchanged_unless_labels (applies : around.gateway.AppliesGranted table)
    (edits : CommandLine.IsEdit environment arguments)
    (ran : runCommandLine around environment arguments world = (result, after))
    (fails : result.exitCode ≠ 0) :
    (result.isAboutLabels = false → Unchanged table world after) ∧
    (result.isAboutLabels = true → ∃ shared action stored switches,
      CommandLine.read environment arguments = .command shared (.modules action) ∧
      action.edit? (.ofOption stored) = some switches ∧
      Made table (Task.storeIn around shared world) switches world after) := by
  rcases runCommandLine_failed ran fails with
    ⟨isRefused, same⟩ | ⟨shared, command, error, reads, isFailed, failed⟩
  · rw [isRefused, same]
    exact ⟨fun _ => ⟨rfl, rfl⟩, nofun⟩
  · rcases edits shared command reads with ⟨action, changes, isAction⟩
    rw [isAction] at reads failed
    rw [isFailed]
    rcases unchanged_or_made applies changes failed with
      ⟨notLabels, unchanged⟩ | ⟨labels, stored, switches, edit, made⟩
    · exact ⟨fun _ => unchanged, fun labels => nomatch notLabels.symm.trans labels⟩
    · constructor
      · intro notLabels
        exact nomatch labels.symm.trans notLabels
      · intro _
        exact ⟨shared, action, stored, switches, reads, edit, made⟩

theorem unchanged_of_refused_change :
    let entries : List OptionEntry := [⟨"Notice", "hello"⟩]
    let around : Surroundings := ⟨OptionServer.readOnly entries, "/", ⟨2024, 2, 29, by decide⟩⟩
    ∃ after,
      runCommandLine around [] ["modules", "disable", "docs", "--config", "s.json", "--server",
          "http://gw", "--token", "t"] ⟨.start .empty [], .silent⟩ =
        (.failed (.gateway (.refusedCredentials 403)), after) ∧
      Unchanged (fun _ => OptionEntry.lookup? entries) ⟨.start .empty [], .silent⟩ after := by
  intro entries around
  let arguments := ["modules", "disable", "docs", "--config", "s.json", "--server", "http://gw",
    "--token", "t"]
  have reads : CommandLine.read [] arguments = .command
      { GlobalOptions.initial with
        settingsFile := some "s.json", server := some "http://gw", token := some "t" }
      (.modules (.disable .docs)) := by
    decide +kernel
  have edits := CommandLine.isEdit_of_read reads nofun
  have refused : (runCommandLine around [] arguments ⟨.start .empty [], .silent⟩).1 =
      .failed (.gateway (.refusedCredentials 403)) := by
    decide +kernel
  rcases ran : runCommandLine around [] arguments ⟨.start .empty [], .silent⟩ with ⟨result, after⟩
  rw [ran] at refused
  cases refused
  have applies := OptionServer.appliesGranted_readOnly entries
  exact ⟨after, rfl, (unchanged_unless_labels applies edits ran (by decide)).1 rfl⟩

/-- Without its labels, a command has failed and has made its change. -/
theorem changed_without_labels :
    let initial : List OptionEntry := [⟨"Notice", "hello"⟩]
    let table (exchanges : List Exchange) : OptionTable :=
      OptionEntry.lookup? (OptionServer.entriesAfter initial exchanges)
    let around : Surroundings := ⟨OptionServer.gateway initial, "/", ⟨2024, 2, 29, by decide⟩⟩
    let arguments := ["modules", "disable", "docs", "--config", "s.json", "--server", "http://gw",
      "--token", "t", "--translations", "labels.json"]
    let before : World := ⟨.start .empty [], .silent⟩
    ∃ result after, runCommandLine around [] arguments before = (result, after) ∧
      around.gateway.AppliesGranted table ∧ CommandLine.IsEdit [] arguments ∧
      result = .failed (.unreadable .labels "labels.json") ∧ result.exitCode ≠ 0 ∧
      table after.traffic.exchanges Switches.optionKey ≠
        table before.traffic.exchanges Switches.optionKey ∧
      after.work.disk.text? (Path.ofText "s.json") ≠
        before.work.disk.text? (Path.ofText "s.json") := by
  intro initial table around arguments before
  have reads : CommandLine.read [] arguments = .command
      { GlobalOptions.initial with
        settingsFile := some "s.json", server := some "http://gw", token := some "t",
        labelsFile := some "labels.json" } (.modules (.disable .docs)) := by
    decide +kernel
  have edits := CommandLine.isEdit_of_read reads nofun
  have computed : (runCommandLine around [] arguments before).1 =
        .failed (.unreadable .labels "labels.json") ∧
      table (runCommandLine around [] arguments before).2.traffic.exchanges Switches.optionKey ≠
        table before.traffic.exchanges Switches.optionKey ∧
      (runCommandLine around [] arguments before).2.work.disk.text? (Path.ofText "s.json") ≠
        before.work.disk.text? (Path.ofText "s.json") := by
    decide +kernel
  rcases ran : runCommandLine around [] arguments before with ⟨result, after⟩
  rw [ran] at computed
  rcases computed with ⟨failed, changed, written⟩
  have applies := OptionServer.appliesGranted_gateway initial
  cases failed
  exact ⟨_, after, rfl, applies, edits, rfl, by decide, changed, written⟩

end ModulesAction
end GatewayConsole
