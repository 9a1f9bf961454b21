import GatewayConsole.Proofs.Command.Tasks
import GatewayConsole.Proofs.Gateway.Calls
import GatewayConsole.Proofs.Gateway.Sending
import GatewayConsole.Proofs.Storage.FailedSaving

/-!
# Logins

What a login sends, and what it stores. It asks the gateway whose the new access token is, with
nothing that is stored but the address. Nothing is saved before the gateway has said so, and
then the settings change in the access token and the user alone.
-/

namespace GatewayConsole

/-! ## Asking whose an access token is -/

def Request.AsksWhose (request : Request) (server token : String) (userId : Option Int64) : Prop :=
  ∃ client, GatewayClient.ofAddress server = .ok client ∧
    (client.withCredentials token userId).request .get ["api", "user", "self"] [] none =
      .ok request

theorem Request.AsksWhose.headers {request : Request} {server token : String}
    {userId : Option Int64} (asks : request.AsksWhose server token userId) :
    request.authorization? = some ("Bearer " ++ token) ∧
      request.userHeader? = userId.map fun id => toString id.toInt := by
  rcases asks with ⟨client, _, made⟩
  have isMade := GatewayClient.isMadeBy_of_request _ _ _ _ _ made
  exact ⟨isMade.token, isMade.user⟩

namespace GatewayClient

variable {client : GatewayClient} {server token : String} {userId : Option Int64}
  {gateway : Gateway} {traffic after : Traffic}

theorem currentUser_cases {result : Except GatewayError User}
    (address : ofAddress server = .ok client)
    (called : (client.withCredentials token userId).currentUser gateway traffic =
      (result, after)) :
    ((∀ request : Request, request.AsksWhose server token userId → request.isSendable = false) ∧
      (∃ error, result = .error error) ∧ after = traffic) ∨
    ∃ request earlier, request.AsksWhose server token userId ∧ traffic.Attempts request after ∧
      after.exchanges = earlier ++ [⟨request, gateway earlier request⟩] ∧
      ∀ user, (gateway earlier request).Brings User.ofTree? user ↔ result = .ok user := by
  rcases call_cases called with
    ⟨unsendable, failed, same⟩ | ⟨request, earlier, made, _, attempted, exchanged, isRead⟩
  · refine .inl ⟨?_, failed, same⟩
    rintro request ⟨other, again, made⟩
    cases address.symm.trans again
    exact unsendable request made
  · refine .inr ⟨request, earlier, ⟨client, address, made⟩, attempted, exchanged, ?_⟩
    intro user
    rw [isRead]
    exact Outcome.brings_iff

end GatewayClient

/-! ## Where a login ends -/

def Settings.loggedIn (settings : Settings) (token : String) (userId : Int64) : Settings :=
  { settings with accessToken := some token, userId := some userId }

theorem Settings.reread_loggedIn {settings : Settings} (token : String) (userId : Int64)
    (readable : settings.pricing.criteria.IsReadable) :
    (settings.loggedIn token userId).reread = settings.loggedIn token userId :=
  (reread_eq_self_iff (settings.loggedIn token userId)).mpr readable

theorem SettingsStore.path_setCredentials (store : SettingsStore) (token : String)
    (userId : Option Int64) : (store.setCredentials token userId).path = store.path :=
  KeptStore.path_update store _

theorem SettingsStore.settings_setCredentials (store : SettingsStore) (token : String)
    (userId : Int64) :
    (store.setCredentials token (some userId)).settings = store.settings.loggedIn token userId :=
  settings_update store _

namespace SettingsAction

variable {around : Surroundings} {shared : GlobalOptions} {store : SettingsStore} {token : String}
  {world after : World}

def greeting (user : User) : String :=
  Output.line ("Logged in as " ++ nameOf user ++ " (role " ++ toString user.role.toInt ++ ")")

theorem loginClient_cases {settings : Settings} {result : Except CommandError GatewayClient}
    (ran : (loginClient settings shared token).runIn world = (result, after)) :
    after = world ∧
      ((∃ error, GatewayClient.ofAddress (Task.serverOf settings shared) = .error error ∧
          result = .error (.gateway (.invalidAddress error))) ∨
        ∃ client, GatewayClient.ofAddress (Task.serverOf settings shared) = .ok client ∧
          result = .ok (client.withCredentials token shared.userId)) := by
  unfold loginClient at ran
  split at ran
  next client address =>
    cases ran
    exact ⟨rfl, .inr ⟨client, address, rfl⟩⟩
  next error refused =>
    cases ran
    exact ⟨rfl, .inl ⟨error, refused, rfl⟩⟩

theorem loginTo_cases {result : Except CommandError String}
    (ran : (loginTo store around shared token).runIn world = (result, after)) :
    let server := Task.serverOf store.settings shared
    (∃ error, GatewayClient.ofAddress server = .error error ∧
      result = .error (.gateway (.invalidAddress error)) ∧ after = world) ∨
    ∃ client answer traffic, GatewayClient.ofAddress server = .ok client ∧
      (client.withCredentials token shared.userId).currentUser around.gateway world.traffic =
        (answer, traffic) ∧
      ((∃ error, answer = .error error ∧ result = .error (.gateway error) ∧
          after = { world with traffic }) ∨
        ∃ user, answer = .ok user ∧
          let settings := store.settings.loggedIn token (shared.userId.getD user.id)
          let saving := world.work.save store.path settings.toText
          after = { world with traffic, work := saving.2 } ∧
          ((∃ trouble, saving.1 = .error trouble ∧ result = .error (.store .io)) ∨
            saving.1 = .ok () ∧ result = .ok (greeting user))) := by
  rcases Task.runIn_bind_cases ran with ⟨error, refused, isError⟩ | ⟨client, between, made, rest⟩
  · rcases loginClient_cases refused with ⟨same, ⟨reason, address, isRefused⟩ | ⟨_, _, isMade⟩⟩
    · cases isRefused
      exact .inl ⟨reason, address, isError, same⟩
    · exact nomatch isMade
  rcases loginClient_cases made with ⟨rfl, ⟨_, _, isRefused⟩ | ⟨client, address, isMade⟩⟩
  · exact nomatch isRefused
  cases isMade
  rcases Task.runIn_bind_cases rest with ⟨error, failed, isError⟩ | ⟨user, later, known, rest⟩
  · rcases Task.runIn_call_error failed with ⟨trouble, traffic, called, isTrouble, isAfter⟩
    cases isTrouble
    exact .inr ⟨client, _, traffic, address, called, .inl ⟨trouble, rfl, isError, isAfter⟩⟩
  rcases Task.runIn_call_ok_iff.mp known with ⟨traffic, called, rfl⟩
  refine .inr ⟨client, _, traffic, address, called, .inr ⟨user, rfl, ?_⟩⟩
  have ended := Task.saveStore_bind_cases rest
  rw [store.path_setCredentials, store.settings_setCredentials] at ended
  exact ended

theorem run_login (around : Surroundings) (shared : GlobalOptions) (token : String)
    (world : World) :
    ((SettingsAction.login token).run around shared).runIn world =
      (loginTo (Task.storeIn around shared world) around shared token).runIn world := by
  rw [SettingsAction.run, Task.runIn_bind_of_ok (Task.runIn_loadStore around shared world)]

/-! ## What a login leaves -/

/-- Whether a login has failed because of the gateway, with everything on the disk as it was. -/
structure IsTurnedAway (world after : World) (result : RunResult) : Prop where
  failed : ∃ error, result = .failed (.gateway error)
  work : after.work = world.work

/-- What a login of a user has come to: it has saved settings, or it has failed to do so and
has left their file as it was. -/
structure Stores (disk : Disk) (hazards : List Hazard) (path : Path) (settings : Settings)
    (user : User) (after : World) (result : RunResult) : Prop where
  work : after.work = ((Work.start disk hazards).save path settings.toText).2
  unsaved : ∀ trouble,
    ((Work.start disk hazards).save path settings.toText).1 = .error trouble →
      result = .failed (.store .io) ∧ Work.KeepsFile disk path after.work.disk
  saved : ((Work.start disk hazards).save path settings.toText).1 = .ok () →
    result = .succeeded (greeting user) ∧
      (SettingsStore.load after.work.disk path).settings = settings ∧
      after.work.disk.nodeAt? path = some (.file Work.ownerFile settings.toText)

theorem stores_of_saving {disk : Disk} {hazards : List Hazard} {path : Path} {user : User}
    {userId : Int64} {outcome : Except CommandError String} (tree : disk.IsTree) :
    let settings := (SettingsStore.load disk path).settings.loggedIn token userId
    let saving := (Work.start disk hazards).save path settings.toText
    after.work = saving.2 →
    ((∃ trouble, saving.1 = .error trouble ∧ outcome = .error (.store .io)) ∨
      saving.1 = .ok () ∧ outcome = .ok (greeting user)) →
    Stores disk hazards path settings user after (.of outcome) := by
  intro settings saving isWork ended
  refine ⟨isWork, ?_, ?_⟩
  · intro trouble failed
    rcases ended with ⟨_, _, rfl⟩ | ⟨done, _⟩
    · rw [isWork]
      exact ⟨rfl, Work.keepsFile_save_failed tree failed⟩
    · exact nomatch done.symm.trans failed
  · intro done
    rcases ended with ⟨_, failed, _⟩ | ⟨_, rfl⟩
    · exact nomatch done.symm.trans failed
    · have readable := KeptStore.isReadable_load disk path
      rw [isWork, KeptStore.settings_load_save done, Settings.reread_loggedIn token userId readable]
      exact ⟨rfl, rfl, Work.nodeAt?_save done⟩

/-- A login sends the new access token and the user that its options name, and nothing that is
stored but the address. Unless the gateway tells whose the token is, nothing on the disk
changes; if it does, the token and the user are all that changes in the settings, and a saving
that fails leaves their file as it was. -/
theorem login_stores_new_credentials {environment : Keyed String} {arguments : List String}
    {disk : Disk} {hazards : List Hazard} {traffic : Traffic} {result : RunResult}
    (tree : disk.IsTree)
    (reads : CommandLine.read environment arguments = .command shared (.settings (.login token)))
    (ran : runCommandLine around environment arguments ⟨.start disk hazards, traffic⟩ =
      (result, after)) :
    let path := Path.ofText (Task.settingsFile around shared)
    let loaded := (SettingsStore.load disk path).settings
    let server := shared.server.getD loaded.serverUrl
    ((∀ request : Request, request.AsksWhose server token shared.userId →
        request.isSendable = false) ∧
      after.traffic = traffic ∧ IsTurnedAway ⟨.start disk hazards, traffic⟩ after result) ∨
    ∃ request earlier, request.AsksWhose server token shared.userId ∧
      request.authorization? = some ("Bearer " ++ token) ∧
      (request.userHeader? = shared.userId.map fun id => toString id.toInt) ∧
      traffic.Attempts request after.traffic ∧
      after.traffic.exchanges = earlier ++ [⟨request, around.gateway earlier request⟩] ∧
      ((∀ user, ¬(around.gateway earlier request).Brings User.ofTree? user) →
        IsTurnedAway ⟨.start disk hazards, traffic⟩ after result) ∧
      ∀ user, (around.gateway earlier request).Brings User.ofTree? user →
        Stores disk hazards path (loaded.loggedIn token (shared.userId.getD user.id)) user after
          result := by
  intro path loaded server
  rcases runCommandLine_cases reads ran with ⟨outcome, login, rfl⟩
  rw [Command.run, run_login] at login
  rcases loginTo_cases login with
    ⟨error, refused, rfl, rfl⟩ | ⟨client, answer, last, address, called, ended⟩
  · refine .inl ⟨?_, rfl, ⟨_, rfl⟩, rfl⟩
    rintro request ⟨client, address, _⟩
    exact nomatch refused.symm.trans address
  rcases GatewayClient.currentUser_cases address called with
    ⟨unsendable, ⟨error, isError⟩, same⟩ | ⟨request, earlier, asks, attempted, exchanged, brings⟩
  · rcases ended with ⟨trouble, _, rfl, rfl⟩ | ⟨user, isUser, _⟩
    · exact .inl ⟨unsendable, same, ⟨trouble, rfl⟩, rfl⟩
    · exact nomatch isError.symm.trans isUser
  rcases ended with ⟨trouble, isTrouble, rfl, rfl⟩ | ⟨user, isUser, isAfter, ended⟩
  · refine .inr ⟨request, earlier, asks, asks.headers.1, asks.headers.2, attempted, exchanged, ?_⟩
    refine ⟨fun _ => ⟨⟨trouble, rfl⟩, rfl⟩, fun user told => ?_⟩
    exact nomatch isTrouble.symm.trans ((brings user).mp told)
  · rw [isAfter]
    refine .inr ⟨request, earlier, asks, asks.headers.1, asks.headers.2, attempted, exchanged, ?_⟩
    refine ⟨fun untold => absurd ((brings user).mpr isUser) (untold user), fun other told => ?_⟩
    cases isUser.symm.trans ((brings other).mp told)
    exact stores_of_saving tree rfl ended

/-- The credentials of another user are replaced, unless the file cannot be. -/
theorem login_replaces_credentials :
    let stored : Settings :=
      { Settings.initial with
        serverUrl := "http://kept", accessToken := some "old", userId := some 1 }
    let path := Path.ofText "s.json"
    let disk := ((Work.start .empty []).save path stored.toText).2.disk
    let user : User := ⟨7, "ann", "", 1⟩
    let answer : Json := .object [("success", .bool true), ("data", user.toJson)]
    let around : Surroundings :=
      ⟨fun _ _ => .answered ⟨200, [], .whole answer.compact⟩, "/", ⟨2024, 2, 29, by decide⟩⟩
    let login (hazards : List Hazard) : RunResult × World :=
      runCommandLine around [] ["config", "login", "new", "--config", "s.json", "--server",
        "http://gw"] ⟨.start disk hazards, .silent⟩
    disk.IsTree ∧ ((login []).1 = .succeeded (greeting user) ∧
        (SettingsStore.load (login []).2.work.disk path).settings = stored.loggedIn "new" 7) ∧
      (login [.none, .none, .refused]).1 = .failed (.store .io) ∧
        (login [.none, .none, .refused]).2.work.disk.text? path = some stored.toText := by
  intro stored path disk user answer around login
  let shared : GlobalOptions :=
    { GlobalOptions.initial with settingsFile := some "s.json", server := some "http://gw" }
  have reads : CommandLine.read [] ["config", "login", "new", "--config", "s.json", "--server",
      "http://gw"] = .command shared (.settings (.login "new")) := by
    decide +kernel
  have tree : disk.IsTree := Work.isTree_save Disk.isTree_empty
  have written : ((Work.start .empty []).save path stored.toText).1 = .ok () := by
    decide +kernel
  have loaded : (SettingsStore.load disk path).settings = stored :=
    (KeptStore.settings_load_save written).trans
      ((Settings.reread_eq_self_iff stored).mpr (by decide +kernel))
  let client : GatewayClient :=
    ⟨⟨"http", .path (some ⟨"", some (.domain "gw"), none⟩) [""], none, none⟩, none, .standard⟩
  have address : GatewayClient.ofAddress "http://gw" = .ok client := rfl
  have told (earlier : List Exchange) (request : Request) :
      (around.gateway earlier request).Brings User.ofTree? user := by
    have survives : answer.Survives Reader.depthLimit := ⟨by decide +kernel, by decide +kernel⟩
    refine ⟨_, answer.compact, "", rfl, rfl, rfl, ?_⟩
    rw [survives.document_compact]
    decide +kernel
  -- The request can be sent, so the gateway is asked and tells whose the token is.
  have ends (hazards : List Hazard) : Stores disk hazards path (stored.loggedIn "new" 7) user
      (login hazards).2 (login hazards).1 := by
    rcases ran : login hazards with ⟨result, after⟩
    rcases login_stores_new_credentials tree reads ran with
      ⟨unsendable, _⟩ | ⟨request, earlier, _, _, _, _, _, _, stores⟩
    · rcases made : (client.withCredentials "new" none).request .get ["api", "user", "self"] []
          none with error | request
      · exact nomatch made
      have sendable : request.isSendable = true := by
        cases made
        decide +kernel
      exact nomatch sendable.symm.trans (unsendable request ⟨client, address, made⟩)
    · have stores : Stores disk hazards path
          ((SettingsStore.load disk path).settings.loggedIn "new" 7) user after result :=
        stores user (told earlier request)
      rwa [loaded] at stores
  have saved := (ends []).saved (by decide +kernel)
  have unsaved := (ends [.none, .none, .refused]).unsaved .other (by decide +kernel)
  have text : disk.text? path = some stored.toText := by
    rw [Disk.text?, Work.nodeAt?_save written]
    rfl
  exact ⟨tree, ⟨saved.1, saved.2.1⟩, unsaved.1, unsaved.2.text?_of_found text⟩

end SettingsAction
end GatewayConsole
