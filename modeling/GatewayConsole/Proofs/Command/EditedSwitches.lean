import GatewayConsole.Proofs.Command.Tasks
import GatewayConsole.Proofs.Gateway.OptionServer
import GatewayConsole.Proofs.Navigation.WrittenSwitches
import GatewayConsole.Proofs.Settings.Reloading

/-!
# Edited switches

Commands that change the switches of the header read an option of the gateway, change one
switch or all of them, and store the option again. However many clients do so one after
another, every switch has the value that was last written to it.
-/

namespace GatewayConsole

/-! ## Edits -/

namespace ModulesAction

def writes? (entry : HeaderModule) : ModulesAction → Option Bool
  | .enable other => if other = entry then some true else none
  | .disable other => if other = entry then some false else none
  | .reset => some true
  | _ => none

def writesLogin? : ModulesAction → Option Bool
  | .requireLogin required => some required
  | .reset => some false
  | _ => none

def applied (action : ModulesAction) (switches : Switches) : Switches :=
  (action.edit? switches).getD switches

theorem isEnabled_applied (action : ModulesAction) (switches : Switches) (entry : HeaderModule) :
    (action.applied switches).isEnabled entry =
      (action.writes? entry).getD (switches.isEnabled entry) := by
  have setEnabled (other : HeaderModule) (enabled : Bool) :
      (switches.setEnabled other enabled).isEnabled entry =
        (if other = entry then some enabled else none).getD (switches.isEnabled entry) := by
    by_cases same : other = entry
    · rw [same, if_pos rfl, Switches.isEnabled_setEnabled_same, Option.getD_some]
    · rw [if_neg same, Switches.isEnabled_setEnabled_other _ _ (Ne.symm same), Option.getD_none]
  cases action with
  | present => rfl
  | enable other => exact setEnabled other true
  | disable other => exact setEnabled other false
  | requireLogin required => cases entry <;> rfl
  | reset => cases entry <;> rfl

theorem requiresLogin_applied (action : ModulesAction) (switches : Switches) :
    (action.applied switches).pricing.requiresLogin =
      action.writesLogin?.getD switches.pricing.requiresLogin := by
  have setEnabled (other : HeaderModule) (enabled : Bool) :
      (switches.setEnabled other enabled).pricing.requiresLogin =
        switches.pricing.requiresLogin := by
    cases other <;> rfl
  cases action with
  | present => rfl
  | enable other => exact setEnabled other true
  | disable other => exact setEnabled other false
  | requireLogin required => rfl
  | reset => rfl

end ModulesAction

/-! ## The switches in a table of options -/

namespace OptionTable

def switches (table : OptionTable) : Switches :=
  .ofOption (table Switches.optionKey)

theorem switches_store (table : OptionTable) (switches : Switches) :
    (table.store ⟨Switches.optionKey, switches.toText⟩).switches = switches := by
  rw [OptionTable.switches, OptionTable.store, Function.update_self, Switches.ofOption_toText]

theorem store_other {table : OptionTable} {entry : OptionEntry} {key : String}
    (other : key ≠ entry.key) : table.store entry key = table key := by
  rw [OptionTable.store, Function.update_of_ne other]

end OptionTable

/-! ## What a client remembers -/

namespace ModulesAction

theorem settings_remember (store : SettingsStore) (switches : Switches) :
    (remember store switches).settings =
      { store.settings with headerModules := some switches.toText } := by
  rw [remember, SettingsStore.cacheStatus, SettingsStore.settings_update]

theorem path_remember (store : SettingsStore) (switches : Switches) :
    (remember store switches).path = store.path :=
  KeptStore.path_update _ _

theorem isInStep_remember {store : SettingsStore} {disk : Disk} (inStep : store.IsInStep disk)
    (switches : Switches) : (remember store switches).IsInStep disk := by
  rw [remember, SettingsStore.cacheStatus]
  exact inStep.update _

/-- Whether settings have the switches of a table, and their link to the documentation from
other settings. -/
structure Mirrors (settings : Settings) (table : OptionTable) (before : Settings) : Prop where
  switches : settings.switches = table.switches
  docsLink : settings.docsLink = before.docsLink

theorem mirrors_remember {store : SettingsStore} {table : OptionTable} {switches : Switches}
    (same : table.switches = switches) :
    Mirrors (remember store switches).settings table store.settings := by
  rw [settings_remember]
  exact ⟨(Switches.ofOption_toText switches).trans same.symm, rfl⟩

theorem Mirrors.of_agrees {settings other before : Settings} {table : OptionTable}
    (mirrors : Mirrors other table before) (agrees : settings.AgreesWith other) :
    Mirrors settings table before := by
  rcases agrees with ⟨pricing, same⟩
  cases same
  exact ⟨mirrors.switches, mirrors.docsLink⟩

/-! ## Runs of a command -/

variable {action : ModulesAction} {around : Surroundings} {shared : GlobalOptions}
  {client : GatewayClient} {store : SettingsStore} {switches : Switches} {world after : World}

theorem publish_ok_iff :
    (publish around client store switches).runIn world = (.ok (), after) ↔
      ∃ traffic, client.updateOption Switches.optionKey switches.toText around.gateway
          world.traffic = (.ok (), traffic) ∧
        after = ⟨((remember store switches).saveIfChangedWith world.work).2.2, traffic⟩ := by
  rw [publish, Task.runIn_bind_ok_iff]
  constructor
  · intro ⟨done, between, called, kept⟩
    rcases Task.runIn_call_ok_iff.mp called with ⟨traffic, updated, isBetween⟩
    rcases Task.runIn_discard_ok kept with ⟨store, kept⟩
    rw [Task.runIn_keepStore, isBetween] at kept
    cases kept
    exact ⟨traffic, updated, rfl⟩
  · intro ⟨traffic, updated, isAfter⟩
    refine ⟨(), _, Task.runIn_call_ok_iff.mpr ⟨traffic, updated, rfl⟩, ?_⟩
    rw [Task.runIn_discard_of_ok (Task.runIn_keepStore _ _), isAfter]

def shown (shared : GlobalOptions) (switches : Switches) : Task String := do
  let translate ← Task.loadTranslator shared
  let rows := ModuleRow.ofSwitches switches translate
  return Output.report shared "Header Modules" (ModuleRow.listText rows)
    (.array (rows.map (·.toJson)))

theorem leaves_shown (shared : GlobalOptions) (switches : Switches) :
    (shown shared switches).Leaves id :=
  (Task.leaves_loadTranslator shared).bind fun _ => Task.leaves_pure _

theorem run_eq (action : ModulesAction) (around : Surroundings) (shared : GlobalOptions) :
    action.run around shared = (do
      let store ← Task.loadStore around shared
      let client ← Task.connect store.settings shared
      let stored ← Task.call around (client.option Switches.optionKey)
      match action.edit? (.ofOption stored) with
      | none => shown shared (.ofOption stored)
      | some switches =>
          publish around client store switches
          shown shared switches) := by
  unfold run
  refine congrArg _ (funext fun store => congrArg _ (funext fun client => congrArg _ ?_))
  funext stored
  dsimp only
  cases action.edit? (.ofOption stored) <;> rfl

/-- A command cannot reach the gateway, does not find the option, or finds it. Then it shows
the switches or, if it is to change them, could not store them or has stored them first. -/
theorem run_cases {result : Except CommandError String}
    (ran : (action.run around shared).runIn world = (result, after)) :
    (∃ error, result = .error error ∧ after = world ∧
      (Task.connect (Task.settingsIn around shared world) shared).runIn world =
        (.error error, world)) ∨
    (∃ (client : GatewayClient) (trouble : GatewayError) (traffic : Traffic),
      result = .error (.gateway trouble) ∧ after = { world with traffic } ∧
      client.option Switches.optionKey around.gateway world.traffic = (.error trouble, traffic)) ∨
    ∃ client stored traffic,
      client.option Switches.optionKey around.gateway world.traffic = (.ok stored, traffic) ∧
      match action.edit? (.ofOption stored) with
      | none => (shown shared (.ofOption stored)).runIn { world with traffic } = (result, after)
      | some switches =>
          (∃ error, result = .error error ∧
            (publish around client (Task.storeIn around shared world) switches).runIn
              { world with traffic } = (.error error, after)) ∨
          (publish around client (Task.storeIn around shared world) switches).runIn
              { world with traffic } = (.ok (), after) ∧
            (shown shared switches).runIn after = (result, after) := by
  rw [run_eq, Task.runIn_bind_of_ok (Task.runIn_loadStore around shared world),
    Task.settings_storeIn] at ran
  rcases Task.runIn_bind_cases ran with
    ⟨error, unreached, isError⟩ | ⟨client, between, connects, ran⟩
  · cases (Task.leaves_connect _ shared).world_eq unreached
    exact .inl ⟨error, isError, rfl, unreached⟩
  cases (Task.leaves_connect _ shared).world_eq connects
  rcases Task.runIn_bind_cases ran with ⟨error, unfound, isError⟩ | ⟨stored, between, asked, ran⟩
  · rcases Task.runIn_call_error unfound with ⟨trouble, traffic, refused, isTrouble, isAfter⟩
    rw [isTrouble] at isError
    exact .inr (.inl ⟨client, trouble, traffic, isError, isAfter, refused⟩)
  rcases Task.runIn_call_ok_iff.mp asked with ⟨traffic, found, isBetween⟩
  refine .inr (.inr ⟨client, stored, traffic, found, ?_⟩)
  rw [isBetween] at ran
  cases edit : action.edit? (.ofOption stored) with
  | none =>
      rw [edit] at ran
      exact ran
  | some switches =>
      rw [edit] at ran
      rcases Task.runIn_bind_cases ran with
        ⟨error, unstored, isError⟩ | ⟨done, last, published, ran⟩
      · exact .inl ⟨error, isError, unstored⟩
      · cases (leaves_shown shared switches).world_eq ran
        exact .inr ⟨published, ran⟩

theorem run_ok {printed : String}
    (ran : (action.run around shared).runIn world = (.ok printed, after)) :
    ∃ client stored traffic,
      client.option Switches.optionKey around.gateway world.traffic = (.ok stored, traffic) ∧
      match action.edit? (.ofOption stored) with
      | none => after = { world with traffic }
      | some switches =>
          (publish around client (Task.storeIn around shared world) switches).runIn
            { world with traffic } = (.ok (), after) := by
  rcases run_cases ran with
    ⟨error, failed, _⟩ | ⟨client, trouble, traffic, failed, _⟩ |
    ⟨client, stored, traffic, found, rest⟩
  · exact nomatch failed
  · exact nomatch failed
  refine ⟨client, stored, traffic, found, ?_⟩
  cases edit : action.edit? (.ofOption stored) with
  | none =>
      rw [edit] at rest
      exact (leaves_shown shared _).world_eq rest
  | some switches =>
      rw [edit] at rest
      rcases rest with ⟨error, failed, _⟩ | ⟨published, _⟩
      · exact nomatch failed
      · exact published

theorem runIn_run {stored : Option String} {traffic : Traffic}
    (connects : (Task.connect (Task.settingsIn around shared world) shared).runIn world =
      (.ok client, world))
    (found : client.option Switches.optionKey around.gateway world.traffic = (.ok stored, traffic))
    (edit : action.edit? (.ofOption stored) = some switches)
    (published : (publish around client (Task.storeIn around shared world) switches).runIn
      { world with traffic } = (.ok (), after)) :
    (action.run around shared).runIn world = (shown shared switches).runIn after := by
  rw [run_eq, Task.runIn_bind_of_ok (Task.runIn_loadStore around shared world),
    Task.settings_storeIn, Task.runIn_bind_of_ok connects,
    Task.runIn_bind_of_ok (Task.runIn_call_ok_iff.mpr ⟨traffic, found, rfl⟩), edit]
  exact Task.runIn_bind_of_ok published

theorem edit?_isSome (changes : action ≠ .present) (switches : Switches) :
    ∃ edited, action.edit? switches = some edited := by
  cases action with
  | present => exact absurd rfl changes
  | _ => exact ⟨_, rfl⟩

theorem publish_of_server {initial : List OptionEntry} {request : Request}
    (isServer : around.gateway = OptionServer.gateway initial)
    (token : client.credentials.isSome = true)
    (made : client.request .get ["api", "option", ""] [] none = .ok request)
    (sendable : request.isSendable = true) (changes : action ≠ .present) (world : World) :
    ∃ stored traffic switches after,
      client.option Switches.optionKey around.gateway world.traffic = (.ok stored, traffic) ∧
      action.edit? (.ofOption stored) = some switches ∧
      (publish around client store switches).runIn { world with traffic } = (.ok (), after) := by
  have found := @OptionServer.option_gateway initial client world.traffic request token sendable
    made Switches.optionKey
  rw [← isServer] at found
  rcases edit?_isSome changes (.ofOption _) with ⟨switches, edit⟩
  have stores := GatewayClient.request_of_other made .put
    (some (OptionEntry.toJson ⟨Switches.optionKey, switches.toText⟩))
  have updated (traffic : Traffic) :=
    @OptionServer.updateOption_gateway initial client traffic _ token (by exact sendable) _ _ stores
  rw [← isServer] at updated
  exact ⟨_, _, switches, _, found, edit, publish_ok_iff.mpr ⟨_, updated _, rfl⟩⟩

theorem run_of_server {initial : List OptionEntry} {request : Request}
    (isServer : around.gateway = OptionServer.gateway initial)
    (connects : (Task.connect (Task.settingsIn around shared world) shared).runIn world =
      (.ok client, world))
    (token : client.credentials.isSome = true)
    (made : client.request .get ["api", "option", ""] [] none = .ok request)
    (sendable : request.isSendable = true) (changes : action ≠ .present)
    (noLabels : shared.labelsFile = none) :
    ∃ printed after, (action.run around shared).runIn world = (.ok printed, after) := by
  rcases publish_of_server isServer token made sendable changes world with
    ⟨stored, traffic, switches, after, found, edit, published⟩
  rw [runIn_run connects found edit published, shown, Task.loadTranslator, noLabels]
  exact ⟨_, after, rfl⟩

/-! ## The effect of a command -/

variable {table : List Exchange → OptionTable} {printed : String}

/-- What an action does to a table of options: it changes the switches, and no other option. -/
structure Edits (action : ModulesAction) (before after : OptionTable) : Prop where
  switches : after.switches = action.applied before.switches
  others : ∀ key, key ≠ Switches.optionKey → after key = before key

theorem edits_of_run (keeps : around.gateway.KeepsOptions table)
    (ran : (action.run around shared).runIn world = (.ok printed, after)) :
    action.Edits (table world.traffic.exchanges) (table after.traffic.exchanges) := by
  rcases run_ok ran with ⟨client, stored, traffic, found, rest⟩
  rcases GatewayClient.option_of_kept keeps found with ⟨isStored, unchanged⟩
  rw [isStored, ← OptionTable.switches] at rest
  have applied : action.applied (table world.traffic.exchanges).switches =
      (action.edit? (table world.traffic.exchanges).switches).getD _ := rfl
  cases edit : action.edit? (table world.traffic.exchanges).switches with
  | none =>
      rw [edit] at rest applied
      rw [rest, unchanged]
      exact ⟨applied.symm, fun _ _ => rfl⟩
  | some switches =>
      rw [edit] at rest applied
      rcases publish_ok_iff.mp rest with ⟨last, updated, isAfter⟩
      have stores := GatewayClient.updateOption_of_kept keeps updated
      rw [isAfter, stores, unchanged]
      exact ⟨(OptionTable.switches_store _ switches).trans applied.symm,
        fun key other => OptionTable.store_other other⟩

theorem edits_of_runCommandLine {environment : Keyed String} {arguments : List String}
    (keeps : around.gateway.KeepsOptions table)
    (reads : CommandLine.read environment arguments = .command shared (.modules action))
    (succeeds : (runCommandLine around environment arguments world).1.exitCode = 0) :
    action.Edits (table world.traffic.exchanges)
      (table (runCommandLine around environment arguments world).2.traffic.exchanges) := by
  rcases ran : runCommandLine around environment arguments world with ⟨result, after⟩
  rw [ran] at succeeds
  rcases runCommandLine_cases reads ran with ⟨outcome, edits, rfl⟩
  cases outcome with
  | error error => exact absurd succeeds error.exitCode_ne_zero
  | ok printed => exact edits_of_run keeps edits

/-- What a command does that changes switches and succeeds: it finds the option, stores it with
other switches, and tries to save what it remembers of them. -/
def Publishes (action : ModulesAction) (around : Surroundings) (shared : GlobalOptions)
    (world after : World) (saving : Except StoreError Bool) : Prop :=
  ∃ (client : GatewayClient) (stored : Option String) (traffic : Traffic) (switches : Switches),
    client.option Switches.optionKey around.gateway world.traffic = (.ok stored, traffic) ∧
    action.edit? (.ofOption stored) = some switches ∧
    (publish around client (Task.storeIn around shared world) switches).runIn
      { world with traffic } = (.ok (), after) ∧
    ((remember (Task.storeIn around shared world) switches).saveIfChangedWith world.work).1 = saving

theorem mirrors_of_run (keeps : around.gateway.KeepsOptions table) (changes : action ≠ .present)
    (ran : (action.run around shared).runIn world = (.ok printed, after)) :
    ∃ saving, action.Publishes around shared world after saving ∧
      ∀ changed, saving = .ok changed →
        Mirrors (Task.settingsIn around shared after) (table after.traffic.exchanges)
          (Task.settingsIn around shared world) := by
  have edited := (edits_of_run keeps ran).switches
  rcases run_ok ran with ⟨client, stored, traffic, found, rest⟩
  have isStored := (GatewayClient.option_of_kept keeps found).1
  have current : (table world.traffic.exchanges).switches = .ofOption stored := by
    rw [OptionTable.switches, isStored]
  rcases edit?_isSome changes (.ofOption stored) with ⟨switches, edit⟩
  rw [edit] at rest
  rw [applied, current, edit, Option.getD_some] at edited
  refine ⟨_, ⟨client, stored, traffic, switches, found, edit, rest, rfl⟩, fun changed saved => ?_⟩
  rcases publish_ok_iff.mp rest with ⟨last, _, isAfter⟩
  have work := congrArg World.work isAfter
  dsimp only at work
  -- Without a change nothing is saved, but then the file has been in step all along.
  have agrees := SettingsStore.load_of_saved saved fun _ =>
    isInStep_remember (SettingsStore.isInStep_load _ _) switches
  rw [path_remember, Task.path_storeIn] at agrees
  rw [Task.settingsIn_eq around shared after, work]
  exact (mirrors_remember edited).of_agrees agrees

/-! ## Commands in turn -/

/-- Commands that succeed in turn, the latest first, with the traffic before and after them.
Each of them may be another client's: it has its own command line, surroundings and disk, and
only the gateway is the same. -/
inductive InTurn (gateway : Gateway) : List ModulesAction → Traffic → Traffic → Prop
  | none (traffic : Traffic) : InTurn gateway [] traffic traffic
  | next {action : ModulesAction} {actions : List ModulesAction} {first last : Traffic}
      {around : Surroundings} {environment : Keyed String} {arguments : List String}
      {shared : GlobalOptions} {work : Work} {after : World} {printed : String}
      (earlier : InTurn gateway actions first last) (same : around.gateway = gateway)
      (reads : CommandLine.read environment arguments = .command shared (.modules action))
      (succeeds : runCommandLine around environment arguments ⟨work, last⟩ =
        (.succeeded printed, after)) :
      InTurn gateway (action :: actions) first after.traffic

/-- Whether every switch has the value that was last written to it by actions, the latest
first, or its old value if there is none; and no other option has changed. -/
structure LastWrites (actions : List ModulesAction) (before after : OptionTable) : Prop where
  enabled : ∀ entry, after.switches.isEnabled entry =
    (actions.findSome? (·.writes? entry)).getD (before.switches.isEnabled entry)
  login : after.switches.pricing.requiresLogin =
    (actions.findSome? (·.writesLogin?)).getD before.switches.pricing.requiresLogin
  others : ∀ key, key ≠ Switches.optionKey → after key = before key

theorem LastWrites.next {actions : List ModulesAction} {before between after : OptionTable}
    (earlier : LastWrites actions before between) (edits : action.Edits between after) :
    LastWrites (action :: actions) before after where
  enabled entry := by
    rw [edits.switches, isEnabled_applied, earlier.enabled, List.findSome?_cons]
    cases action.writes? entry <;> rfl
  login := by
    rw [edits.switches, requiresLogin_applied, earlier.login, List.findSome?_cons]
    cases action.writesLogin? <;> rfl
  others key other := (edits.others key other).trans (earlier.others key other)

theorem lastWrites_of_inTurn {gateway : Gateway} {actions : List ModulesAction}
    {first last : Traffic} (keeps : gateway.KeepsOptions table)
    (inTurn : InTurn gateway actions first last) :
    LastWrites actions (table first.exchanges) (table last.exchanges) := by
  -- The latest command comes last in the traffic and first in the list.
  induction inTurn with
  | none traffic => exact ⟨fun _ => rfl, rfl, fun _ _ => rfl⟩
  | next earlier same reads succeeds induction =>
      have ran := (runCommandLine_succeeded_iff reads).mp succeeds
      rw [← same] at keeps
      exact induction.next (edits_of_run keeps ran)

/-- However many clients change switches in turn, every switch has the value that was last
written to it, no other option changes, and every client that can save its settings has in them
what its change has made of the switches, along with the link to the documentation that it
knew. -/
theorem commands_write_switches {gateway : Gateway} (keeps : gateway.KeepsOptions table) :
    (∀ actions first last, InTurn gateway actions first last →
      LastWrites actions (table first.exchanges) (table last.exchanges)) ∧
    ∀ action around environment arguments shared world after printed,
      around.gateway = gateway → action ≠ .present →
      CommandLine.read environment arguments = .command shared (.modules action) →
      runCommandLine around environment arguments world = (.succeeded printed, after) →
      ∃ saving, action.Publishes around shared world after saving ∧
        ∀ changed, saving = .ok changed →
          Mirrors (Task.settingsIn around shared after) (table after.traffic.exchanges)
            (Task.settingsIn around shared world) := by
  constructor
  · intro actions first last inTurn
    exact lastWrites_of_inTurn keeps inTurn
  · intro action around environment arguments shared world after printed same changes reads
      succeeds
    have ran := (runCommandLine_succeeded_iff reads).mp succeeds
    rw [← same] at keeps
    exact mirrors_of_run keeps changes ran

theorem commands_write_switches_of_two_clients :
    let initial : List OptionEntry := [⟨"Notice", "hello"⟩, ⟨Switches.optionKey, "x"⟩]
    let table (exchanges : List Exchange) : OptionTable :=
      OptionEntry.lookup? (OptionServer.entriesAfter initial exchanges)
    let around : Surroundings := ⟨OptionServer.gateway initial, "/", ⟨2024, 2, 29, by decide⟩⟩
    let shared (user : Int64) : GlobalOptions :=
      { GlobalOptions.initial with
        settingsFile := some "s.json", server := some "http://gw", token := some "t",
        userId := some user }
    ∃ (between : World) (last : Traffic),
      InTurn around.gateway [.disable .docs] .silent between.traffic ∧
      Mirrors (Task.settingsIn around (shared 1) between) (table between.traffic.exchanges)
        .initial ∧
      InTurn around.gateway [.requireLogin true, .disable .docs] .silent last ∧
      (table last.exchanges).switches.docs = false ∧
      (table last.exchanges).switches.pricing = ⟨true, true⟩ ∧
      table last.exchanges "Notice" = some "hello" := by
  intro initial table around shared
  let client (user : Int64) : GatewayClient :=
    ⟨⟨"http", .path (some ⟨"", some (.domain "gw"), none⟩) [""], none, none⟩,
      some ⟨"t", some user⟩, .standard⟩
  let before (traffic : Traffic) : World := ⟨.start .empty [], traffic⟩
  have file (user : Int64) : Task.settingsFile around (shared user) = "s.json" := rfl
  have loads (user : Int64) (traffic : Traffic) :
      Task.settingsIn around (shared user) (before traffic) = .initial := by
    apply Task.settingsIn_of_missing
    rw [file]
    rfl
  have connects (user : Int64) (traffic : Traffic) :
      (Task.connect (Task.settingsIn around (shared user) (before traffic)) (shared user)).runIn
        (before traffic) = (.ok (client user), before traffic) := by
    have address : GatewayClient.ofAddress "http://gw" =
        .ok { client user with credentials := none } := rfl
    rw [loads]
    exact Task.connect_of_server rfl address .initial _
  have succeeds (user : Int64) {action : ModulesAction} (changes : action ≠ .present)
      (traffic : Traffic) : ∃ printed after,
      (action.run around (shared user)).runIn (before traffic) = (.ok printed, after) := by
    rcases made : (client user).request .get ["api", "option", ""] [] none with error | request
    · exact nomatch made
    let url : Url :=
      ⟨"http", .path (some ⟨"", some (.domain "gw"), none⟩) ["api", "option", ""], none, none⟩
    have requestable : url.isRequestable = true := by decide +kernel
    have plain : (some ("Bearer " ++ "t")).all Request.isHeaderText = true := by decide +kernel
    have sendable : request.isSendable = true := by
      cases made
      exact Bool.and_eq_true_iff.mpr ⟨requestable, plain⟩
    exact run_of_server rfl (connects user traffic) rfl made sendable changes rfl
  have readsFirst : CommandLine.read [] ["modules", "disable", "docs", "--config", "s.json",
      "--server", "http://gw", "--token", "t", "--user-id", "1"] =
        .command (shared 1) (.modules (.disable .docs)) := by
    decide +kernel
  have readsSecond : CommandLine.read [] ["modules", "require-auth", "on", "--config", "s.json",
      "--server", "http://gw", "--token", "t", "--user-id", "2"] =
        .command (shared 2) (.modules (.requireLogin true)) := by
    decide +kernel
  rcases succeeds 1 (nofun : ModulesAction.disable .docs ≠ .present) .silent with
    ⟨firstPrinted, between, first⟩
  rcases succeeds 2 (nofun : ModulesAction.requireLogin true ≠ .present) between.traffic with
    ⟨secondPrinted, after, second⟩
  have firstRun := (runCommandLine_succeeded_iff readsFirst).mpr first
  have firstTurn : InTurn around.gateway [.disable .docs] .silent between.traffic :=
    .next (.none .silent) rfl readsFirst firstRun
  have inTurn : InTurn around.gateway [.requireLogin true, .disable .docs] .silent after.traffic :=
    .next firstTurn rfl readsSecond ((runCommandLine_succeeded_iff readsSecond).mpr second)
  have keeps : around.gateway.KeepsOptions table :=
    OptionServer.keepsOptions_gateway (by decide)
  have written := (commands_write_switches keeps).1 _ _ _ inTurn
  rcases (commands_write_switches keeps).2 (.disable .docs) around _ _ _ _ _ _ rfl nofun readsFirst
    firstRun with ⟨saving, ⟨_, _, _, switches, _, _, _, saves⟩, mirrors⟩
  have saved : ∃ changed, saving = .ok changed := by
    rw [← saves]
    apply SettingsStore.saveIfChangedWith_ok
    rw [path_remember, Task.path_storeIn, file]
    rfl
  rcases saved with ⟨changed, isSaved⟩
  have mirrored := mirrors changed isSaved
  rw [loads] at mirrored
  have initially : (table []).switches = .initial := by decide +kernel
  refine ⟨between, after.traffic, firstTurn, mirrored, inTurn, written.enabled .docs, ?_,
    written.others "Notice" (by decide)⟩
  have enabled := written.enabled .pricing
  rw [Traffic.silent, initially] at enabled
  have same : (table after.traffic.exchanges).switches.pricing =
      ⟨(table after.traffic.exchanges).switches.isEnabled .pricing,
        (table after.traffic.exchanges).switches.pricing.requiresLogin⟩ := rfl
  rw [same, enabled, written.login]
  rfl

/-- A command succeeds although it could not save its settings. They do not have the switches of
the gateway then. -/
theorem commands_write_switches_unsaved :
    let initial : List OptionEntry := [⟨"Notice", "hello"⟩]
    let table (exchanges : List Exchange) : OptionTable :=
      OptionEntry.lookup? (OptionServer.entriesAfter initial exchanges)
    let around : Surroundings := ⟨OptionServer.gateway initial, "/", ⟨2024, 2, 29, by decide⟩⟩
    let shared : GlobalOptions :=
      { GlobalOptions.initial with
        settingsFile := some "s.json.tmp/../s.json", server := some "http://gw",
        token := some "t" }
    let arguments := ["modules", "disable", "docs", "--config", "s.json.tmp/../s.json",
      "--server", "http://gw", "--token", "t"]
    let ran := runCommandLine around [] arguments ⟨.start .empty [], .silent⟩
    around.gateway.KeepsOptions table ∧
      CommandLine.read [] arguments = .command shared (.modules (.disable .docs)) ∧
      ran.1.exitCode = 0 ∧ (table ran.2.traffic.exchanges).switches.isEnabled .docs = false ∧
      (Task.settingsIn around shared ran.2).switches.isEnabled .docs = true := by
  intro initial table around shared arguments ran
  have keeps : around.gateway.KeepsOptions table :=
    OptionServer.keepsOptions_gateway (by decide)
  have reads : CommandLine.read [] arguments = .command shared (.modules (.disable .docs)) := by
    decide +kernel
  have computed : ran.1.exitCode = 0 ∧
      (Task.settingsIn around shared ran.2).switches.isEnabled .docs = true := by
    decide +kernel
  have edited := (edits_of_runCommandLine keeps reads computed.1).switches
  refine ⟨keeps, reads, computed.1, ?_, computed.2⟩
  rw [edited, isEnabled_applied]
  rfl

end ModulesAction
end GatewayConsole
