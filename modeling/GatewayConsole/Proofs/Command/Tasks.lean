import GatewayConsole.Command.Run
import GatewayConsole.Proofs.Settings.Persistence

/-!
# Runs of tasks

How the parts of a command run one after another, what each of them finds, and what they
leave as it was.
-/

namespace GatewayConsole
namespace Task

variable {α β γ : Type} {world after : World}

/-! ## Sequences -/

theorem runIn_bind (task : Task α) (onward : α → Task β) (world : World) :
    (task >>= onward).runIn world =
      match task.runIn world with
      | (.ok value, between) => (onward value).runIn between
      | (.error error, between) => (.error error, between) := by
  change (match StateT.run (ExceptT.run task) world with
    | (result, between) => StateT.run (ExceptT.bindCont onward result) between) = _
  unfold runIn
  rcases StateT.run (ExceptT.run task) world with ⟨result, between⟩
  cases result <;> rfl

theorem runIn_bind_of_ok {task : Task α} {onward : α → Task β} {value : α}
    (done : task.runIn world = (.ok value, after)) :
    (task >>= onward).runIn world = (onward value).runIn after := by
  rw [runIn_bind, done]

theorem runIn_bind_ok_iff {task : Task α} {onward : α → Task β} {result : β} :
    (task >>= onward).runIn world = (.ok result, after) ↔
      ∃ value between, task.runIn world = (.ok value, between) ∧
        (onward value).runIn between = (.ok result, after) := by
  rw [runIn_bind]
  rcases task.runIn world with ⟨outcome, between⟩
  cases outcome with
  | ok value =>
      constructor
      · exact fun done => ⟨value, between, rfl, done⟩
      · intro ⟨other, later, same, done⟩
        cases same
        exact done
  | error error =>
      constructor
      · exact fun failed => nomatch failed
      · intro ⟨other, later, same, _⟩
        exact nomatch same

theorem runIn_bind_cases {task : Task α} {onward : α → Task β} {result : Except CommandError β}
    (ran : (task >>= onward).runIn world = (result, after)) :
    (∃ error, task.runIn world = (.error error, after) ∧ result = .error error) ∨
      ∃ value between, task.runIn world = (.ok value, between) ∧
        (onward value).runIn between = (result, after) := by
  rw [runIn_bind] at ran
  rcases first : task.runIn world with ⟨outcome, between⟩
  rw [first] at ran
  cases outcome with
  | ok value => exact .inr ⟨value, between, rfl, ran⟩
  | error error =>
      cases ran
      exact .inl ⟨error, rfl, rfl⟩

theorem discard_bind (task : Task α) (onward : Unit → Task β) :
    discard task >>= onward = task >>= fun _ => onward () := by
  change (task >>= fun _ => pure ()) >>= onward = _
  simp only [bind_assoc, pure_bind]

theorem runIn_discard_of_ok {task : Task α} {value : α}
    (done : task.runIn world = (.ok value, after)) :
    (discard task).runIn world = (.ok (), after) :=
  (runIn_bind_of_ok done : (task >>= fun _ => pure ()).runIn world = _)

theorem runIn_discard_ok {task : Task α}
    (ran : (discard task).runIn world = (.ok (), after)) :
    ∃ value, task.runIn world = (.ok value, after) := by
  change (task >>= fun _ => pure ()).runIn world = _ at ran
  rcases runIn_bind_ok_iff.mp ran with ⟨value, between, done, rest⟩
  cases rest
  exact ⟨value, done⟩

/-! ## What is left as it was -/

/-- Whether a task leaves some aspect of the world as it was, also when it fails. -/
def Leaves (aspect : World → γ) (task : Task α) : Prop :=
  ∀ world, aspect (task.runIn world).2 = aspect world

variable {aspect : World → γ}

theorem leaves_pure (value : α) : (pure value : Task α).Leaves aspect :=
  fun _ => rfl

theorem leaves_fail (error : CommandError) : (fail error : Task α).Leaves aspect :=
  fun _ => rfl

theorem leaves_get : (get : Task World).Leaves aspect :=
  fun _ => rfl

theorem Leaves.bind {task : Task α} {onward : α → Task β} (leaves : task.Leaves aspect)
    (leavesOnward : ∀ value, (onward value).Leaves aspect) : (task >>= onward).Leaves aspect := by
  intro world
  have first := leaves world
  rw [runIn_bind]
  generalize task.runIn world = done at first ⊢
  rcases done with ⟨outcome, between⟩
  cases outcome with
  | ok value => exact (leavesOnward value between).trans first
  | error error => exact first

theorem Leaves.world_eq {task : Task α} (leaves : task.Leaves id)
    {result : Except CommandError α} (ran : task.runIn world = (result, after)) :
    after = world := by
  have same := leaves world
  rw [ran] at same
  exact same

theorem runIn_attempt (around : Surroundings) (call : GatewayClient.Call α) (world : World) :
    (attempt around call).runIn world = (.ok (call around.gateway world.traffic).1,
      { world with traffic := (call around.gateway world.traffic).2 }) :=
  rfl

theorem leaves_attempt (around : Surroundings) (call : GatewayClient.Call α) :
    (attempt around call).Leaves (·.work) :=
  fun _ => rfl

theorem leaves_call (around : Surroundings) (call : GatewayClient.Call α) :
    (Task.call around call).Leaves (·.work) := by
  apply (leaves_attempt around call).bind
  intro result
  cases result with
  | ok value => exact leaves_pure value
  | error error => exact leaves_fail _

theorem runIn_call (around : Surroundings) (call : GatewayClient.Call α) (world : World) :
    (Task.call around call).runIn world =
      ((call around.gateway world.traffic).1.mapError .gateway,
        { world with traffic := (call around.gateway world.traffic).2 }) := by
  rw [Task.call, runIn_bind_of_ok (runIn_attempt around call world)]
  cases (call around.gateway world.traffic).1 <;> rfl

theorem runIn_call_ok_iff {around : Surroundings} {call : GatewayClient.Call α} {value : α} :
    (Task.call around call).runIn world = (.ok value, after) ↔
      ∃ traffic, call around.gateway world.traffic = (.ok value, traffic) ∧
        after = { world with traffic } := by
  rw [runIn_call]
  rcases call around.gateway world.traffic with ⟨outcome, traffic⟩
  cases outcome with
  | ok known =>
      constructor
      · intro ran
        cases ran
        exact ⟨traffic, rfl, rfl⟩
      · intro ⟨other, same, isAfter⟩
        cases same
        rw [isAfter]
        rfl
  | error error =>
      constructor
      · exact fun ran => nomatch ran
      · intro ⟨other, same, _⟩
        exact nomatch same

theorem runIn_call_error {around : Surroundings} {call : GatewayClient.Call α}
    {error : CommandError} (failed : (Task.call around call).runIn world = (.error error, after)) :
    ∃ trouble traffic, call around.gateway world.traffic = (.error trouble, traffic) ∧
      error = .gateway trouble ∧ after = { world with traffic } := by
  rw [runIn_call] at failed
  rcases called : call around.gateway world.traffic with ⟨outcome, traffic⟩
  rw [called] at failed
  cases outcome with
  | ok value => exact nomatch failed
  | error trouble =>
      cases failed
      exact ⟨trouble, traffic, rfl, rfl, rfl⟩

theorem leaves_fileText (role : FileRole) (path : String) : (fileText role path).Leaves aspect := by
  apply leaves_get.bind
  intro world
  split
  · exact leaves_pure _
  · exact leaves_fail _

theorem leaves_connect (settings : Settings) (shared : GlobalOptions) :
    (connect settings shared).Leaves aspect := by
  unfold connect
  dsimp only
  split
  · exact leaves_pure _
  · exact leaves_fail _

theorem leaves_loadTranslator (shared : GlobalOptions) : (loadTranslator shared).Leaves aspect := by
  unfold loadTranslator
  split
  · exact leaves_pure _
  · apply (leaves_fileText _ _).bind
    intro text
    split
    · exact leaves_pure _
    · exact leaves_fail _

/-! ## Files and settings -/

theorem runIn_get (world : World) : (get : Task World).runIn world = (.ok world, world) :=
  rfl

theorem runIn_fileText (role : FileRole) (path : String) (world : World) :
    (fileText role path).runIn world =
      match world.work.disk.text? (Path.ofText path) with
      | some text => (.ok text, world)
      | none => (.error (.unreadable role path), world) := by
  rw [fileText, runIn_bind_of_ok (runIn_get world)]
  cases world.work.disk.text? (Path.ofText path) <;> rfl

theorem fileText_of_found {role : FileRole} {path text : String}
    (found : world.work.disk.text? (Path.ofText path) = some text) :
    (fileText role path).runIn world = (.ok text, world) := by
  rw [runIn_fileText, found]

theorem fileText_ok {role : FileRole} {path text : String}
    (ran : (fileText role path).runIn world = (.ok text, after)) :
    after = world ∧ world.work.disk.text? (Path.ofText path) = some text := by
  rw [runIn_fileText] at ran
  cases found : world.work.disk.text? (Path.ofText path) with
  | some known =>
      rw [found] at ran
      cases ran
      exact ⟨rfl, rfl⟩
  | none =>
      rw [found] at ran
      exact nomatch ran

theorem connect_of_server {shared : GlobalOptions} {server : String} {client : GatewayClient}
    (named : shared.server = some server) (address : GatewayClient.ofAddress server = .ok client)
    (settings : Settings) (world : World) :
    (connect settings shared).runIn world =
      (.ok { client with credentials := credentials? settings shared }, world) := by
  rw [connect, serverOf, named, Option.getD_some, address]
  rfl

theorem connect_anywhere {settings : Settings} {shared : GlobalOptions} {client : GatewayClient}
    (ran : (connect settings shared).runIn world = (.ok client, after)) (other : World) :
    (connect settings shared).runIn other = (.ok client, other) := by
  unfold connect at ran ⊢
  dsimp only at ran ⊢
  generalize GatewayClient.ofAddress (serverOf settings shared) = outcome at ran ⊢
  cases outcome with
  | ok address =>
      cases ran
      rfl
  | error error => exact nomatch ran

theorem connect_congr {settings other : Settings} (shared : GlobalOptions)
    (serverUrl : settings.serverUrl = other.serverUrl)
    (accessToken : settings.accessToken = other.accessToken)
    (userId : settings.userId = other.userId) :
    connect settings shared = connect other shared := by
  rw [connect, serverOf, credentials?, serverUrl, accessToken, userId, connect, serverOf,
    credentials?]

def storeIn (around : Surroundings) (shared : GlobalOptions) (world : World) : SettingsStore :=
  .load world.work.disk (Path.ofText (settingsFile around shared))

def settingsIn (around : Surroundings) (shared : GlobalOptions) (world : World) : Settings :=
  (storeIn around shared world).settings

theorem settingsIn_eq (around : Surroundings) (shared : GlobalOptions) (world : World) :
    settingsIn around shared world =
      (SettingsStore.load world.work.disk (Path.ofText (settingsFile around shared))).settings :=
  rfl

theorem settingsIn_of_missing {around : Surroundings} {shared : GlobalOptions}
    (missing : world.work.disk.text? (Path.ofText (settingsFile around shared)) = none) :
    settingsIn around shared world = .initial := by
  rw [settingsIn_eq, SettingsStore.load, missing]
  rfl

theorem settings_storeIn (around : Surroundings) (shared : GlobalOptions) (world : World) :
    (storeIn around shared world).settings = settingsIn around shared world :=
  rfl

theorem path_storeIn (around : Surroundings) (shared : GlobalOptions) (world : World) :
    (storeIn around shared world).path = Path.ofText (settingsFile around shared) :=
  rfl

theorem storeIn_congr {around later : Surroundings} {shared laterShared : GlobalOptions}
    (sameFile : settingsFile later laterShared = settingsFile around shared) {world after : World}
    (sameDisk : after.work.disk = world.work.disk) :
    storeIn later laterShared after = storeIn around shared world := by
  rw [storeIn, sameFile, sameDisk, storeIn]

theorem runIn_loadStore (around : Surroundings) (shared : GlobalOptions) (world : World) :
    (loadStore around shared).runIn world = (.ok (storeIn around shared world), world) := by
  rw [loadStore]
  exact runIn_bind_of_ok (runIn_get world)

theorem loadStore_ok {around : Surroundings} {shared : GlobalOptions} {store : SettingsStore}
    (ran : (loadStore around shared).runIn world = (.ok store, after)) :
    after = world ∧ store = storeIn around shared world := by
  rw [runIn_loadStore] at ran
  cases ran
  exact ⟨rfl, rfl⟩

theorem runIn_saveStore (store : SettingsStore) (world : World) :
    (saveStore store).runIn world =
      match store.saveWith world.work with
      | (.ok (), saved, work) => (.ok saved, { world with work })
      | (.error error, _, work) => (.error (.store error), { world with work }) := by
  rw [saveStore, runIn_bind_of_ok (runIn_get world)]
  dsimp only
  rcases store.saveWith world.work with ⟨result, saved, work⟩
  cases result <;> rfl

theorem runIn_keepStore (store : SettingsStore) (world : World) :
    (keepStore store).runIn world = (.ok (store.saveIfChangedWith world.work).2.1,
      { world with work := (store.saveIfChangedWith world.work).2.2 }) :=
  rfl

theorem saveStore_of_saved {store : SettingsStore} {work : Work}
    (saved : world.work.save store.path store.settings.toText = (.ok (), work)) :
    (saveStore store).runIn world =
      (.ok { store with savedVersion := store.version }, { world with work }) := by
  rw [runIn_saveStore, SettingsStore.saveWith, saved]

theorem saveStore_cases {store : SettingsStore} {result : Except CommandError SettingsStore}
    (ran : (saveStore store).runIn world = (result, after)) :
    let saving := world.work.save store.path store.settings.toText
    after = { world with work := saving.2 } ∧
      ((∃ trouble, saving.1 = .error trouble ∧ result = .error (.store .io)) ∨
        saving.1 = .ok () ∧ result = .ok { store with savedVersion := store.version }) := by
  rw [runIn_saveStore, SettingsStore.saveWith] at ran
  dsimp only
  generalize world.work.save store.path store.settings.toText = saving at ran ⊢
  rcases saving with ⟨outcome, work⟩
  cases outcome with
  | error trouble =>
      cases ran
      exact ⟨rfl, .inl ⟨trouble, rfl, rfl⟩⟩
  | ok =>
      cases ran
      exact ⟨rfl, .inr ⟨rfl, rfl⟩⟩

theorem saveStore_bind_cases {store : SettingsStore} {value : α}
    {result : Except CommandError α}
    (ran : (discard (saveStore store) >>= fun _ => pure value).runIn world = (result, after)) :
    let saving := world.work.save store.path store.settings.toText
    after = { world with work := saving.2 } ∧
      ((∃ trouble, saving.1 = .error trouble ∧ result = .error (.store .io)) ∨
        saving.1 = .ok () ∧ result = .ok value) := by
  rw [discard_bind] at ran
  rcases runIn_bind_cases ran with ⟨error, unsaved, isError⟩ | ⟨stored, last, saved, rest⟩
  · rcases saveStore_cases unsaved with ⟨isAfter, ⟨trouble, failed, isFailed⟩ | ⟨_, isSaved⟩⟩
    · cases isFailed
      exact ⟨isAfter, .inl ⟨trouble, failed, isError⟩⟩
    · exact nomatch isSaved
  · rcases saveStore_cases saved with ⟨isAfter, ⟨_, _, isFailed⟩ | ⟨done, _⟩⟩
    · exact nomatch isFailed
    · cases rest
      exact ⟨isAfter, .inr ⟨done, rfl⟩⟩

theorem settings_load_saveStore {store saved : SettingsStore}
    (ran : (saveStore store).runIn world = (.ok saved, after)) :
    (SettingsStore.load after.work.disk store.path).settings = store.settings.reread := by
  rcases saveStore_cases ran with ⟨isAfter, ⟨trouble, _, failed⟩ | ⟨written, _⟩⟩
  · exact nomatch failed
  · rw [isAfter]
    exact KeptStore.settings_load_save written

end Task

/-! ## Command lines -/

def RunResult.of : Except CommandError String → RunResult
  | .ok printed => .succeeded printed
  | .error error => .failed error

theorem CommandError.exitCode_ne_zero (error : CommandError) : error.exitCode ≠ 0 := by
  unfold exitCode
  split
  next error =>
    split
    next => exact Nat.succ_ne_zero 1
    next => split <;> exact Nat.succ_ne_zero _
  next => exact Nat.one_ne_zero

theorem runCommandLine_cases {around : Surroundings} {environment : Keyed String}
    {arguments : List String} {shared : GlobalOptions} {command : Command} {world after : World}
    {result : RunResult}
    (reads : CommandLine.read environment arguments = .command shared command)
    (ran : runCommandLine around environment arguments world = (result, after)) :
    ∃ outcome, (command.run around shared).runIn world = (outcome, after) ∧
      result = .of outcome := by
  unfold runCommandLine at ran
  rw [reads] at ran
  dsimp only at ran
  generalize (command.run around shared).runIn world = finished at ran ⊢
  rcases finished with ⟨outcome, last⟩
  cases outcome with
  | ok printed =>
      cases ran
      exact ⟨.ok printed, rfl, rfl⟩
  | error error =>
      cases ran
      exact ⟨.error error, rfl, rfl⟩

theorem runCommandLine_succeeded_iff {around : Surroundings} {environment : Keyed String}
    {arguments : List String} {shared : GlobalOptions} {command : Command} {world after : World}
    {printed : String}
    (reads : CommandLine.read environment arguments = .command shared command) :
    runCommandLine around environment arguments world = (.succeeded printed, after) ↔
      (command.run around shared).runIn world = (.ok printed, after) := by
  unfold runCommandLine
  rw [reads]
  dsimp only
  rcases (command.run around shared).runIn world with ⟨outcome, last⟩
  cases outcome <;> simp

theorem runCommandLine_failed {around : Surroundings} {environment : Keyed String}
    {arguments : List String} {world after : World} {result : RunResult}
    (ran : runCommandLine around environment arguments world = (result, after))
    (fails : result.exitCode ≠ 0) :
    (result = .refused ∧ after = world) ∨
      ∃ shared command error, CommandLine.read environment arguments = .command shared command ∧
        result = .failed error ∧
        (command.run around shared).runIn world = (.error error, after) := by
  cases reads : CommandLine.read environment arguments with
  | refused =>
      rw [runCommandLine, reads] at ran
      cases ran
      exact .inl ⟨rfl, rfl⟩
  | help =>
      rw [runCommandLine, reads] at ran
      cases ran
      exact absurd rfl fails
  | version =>
      rw [runCommandLine, reads] at ran
      cases ran
      exact absurd rfl fails
  | command shared command =>
      rcases runCommandLine_cases reads ran with ⟨outcome, done, rfl⟩
      cases outcome with
      | ok printed => exact absurd rfl fails
      | error error => exact .inr ⟨shared, command, error, rfl, rfl, done⟩

end GatewayConsole
