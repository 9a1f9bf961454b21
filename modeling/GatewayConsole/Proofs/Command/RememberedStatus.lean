import GatewayConsole.Proofs.Command.Tasks
import GatewayConsole.Proofs.Gateway.Calls
import GatewayConsole.Proofs.Settings.Reloading

/-!
# What is remembered of the gateway

What the gateway says about its header, its footer and its home page is what is shown of them
when it is not asked again: from the store at once, and from the file if it could be saved.
-/

namespace GatewayConsole

theorem Task.isInStep_storeIn (around : Surroundings) (shared : GlobalOptions) (world : World) :
    (storeIn around shared world).IsInStep world.work.disk := by
  rw [storeIn]
  exact SettingsStore.isInStep_load _ _

/-! ## The status -/

namespace SiteSnapshot

/-- Snapshots that tell the same, though one may be remembered and the other not. -/
structure AgreesWith (snapshot other : SiteSnapshot) : Prop where
  switches : snapshot.switches = other.switches
  docsLink : snapshot.docsLink = other.docsLink
  footer : snapshot.footer = other.footer

theorem settings_remember (store : SettingsStore) (status : SiteStatus) :
    (remember store status).settings =
      { store.settings with
        headerModules := status.headerModules
        docsLink := status.shownDocsLink
        footer := status.shownFooter } := by
  rw [remember, SettingsStore.cacheFooter, SettingsStore.settings_update,
    SettingsStore.cacheStatus, SettingsStore.settings_update]

theorem agreesWith_remember (store : SettingsStore) (status : SiteStatus) :
    (ofStatus status).AgreesWith (.ofSettings (remember store status).settings) := by
  rw [settings_remember]
  exact ⟨rfl, rfl, rfl⟩

theorem AgreesWith.of_settings {snapshot : SiteSnapshot} {settings other : Settings}
    (agrees : snapshot.AgreesWith (.ofSettings other)) (settingsAgree : settings.AgreesWith other) :
    snapshot.AgreesWith (.ofSettings settings) := by
  rcases settingsAgree with ⟨pricing, same⟩
  cases same
  exact ⟨agrees.switches, agrees.docsLink, agrees.footer⟩

variable {around : Surroundings} {client : GatewayClient} {store : SettingsStore} {world : World}
  {traffic : Traffic}

def IsKept (around : Surroundings) (client : GatewayClient) (store : SettingsStore)
    (world : World) : Prop :=
  ∀ status traffic, client.status around.gateway world.traffic = (.ok status, traffic) →
    ∃ changed, ((remember store status).saveIfChangedWith world.work).1 = .ok changed

theorem isInStep_remember {disk : Disk} (inStep : store.IsInStep disk) (status : SiteStatus) :
    (remember store status).IsInStep disk := by
  rw [remember, SettingsStore.cacheFooter, SettingsStore.cacheStatus]
  exact (inStep.update _).update _

theorem path_remember (store : SettingsStore) (status : SiteStatus) :
    (remember store status).path = store.path :=
  (KeptStore.path_update _ _).trans (KeptStore.path_update _ _)

theorem runIn_refresh_of_status {status : SiteStatus}
    (answered : client.status around.gateway world.traffic = (.ok status, traffic)) :
    (refresh around client store).runIn world =
      (.ok (.ofStatus status, ((remember store status).saveIfChangedWith world.work).2.1),
        ⟨((remember store status).saveIfChangedWith world.work).2.2, traffic⟩) := by
  have attempts := Task.runIn_attempt around client.status world
  rw [answered] at attempts
  exact (Task.runIn_bind_of_ok attempts).trans (Task.runIn_bind_of_ok (Task.runIn_keepStore _ _))

theorem runIn_refresh_of_error {error : GatewayError}
    (failed : client.status around.gateway world.traffic = (.error error, traffic)) :
    (refresh around client store).runIn world =
      (.ok (.ofSettings store.settings, store), { world with traffic }) := by
  have attempts := Task.runIn_attempt around client.status world
  rw [failed] at attempts
  exact Task.runIn_bind_of_ok attempts

theorem load_of_remembered {status : SiteStatus} {work : Work} {changed : Bool}
    (saved : ((remember store status).saveIfChangedWith work).1 = .ok changed)
    (inStep : changed = false → store.IsInStep work.disk) :
    (SettingsStore.load ((remember store status).saveIfChangedWith work).2.2.disk
      store.path).settings.AgreesWith (remember store status).settings := by
  have agrees := SettingsStore.load_of_saved saved fun same =>
    isInStep_remember (inStep same) status
  rw [path_remember] at agrees
  exact agrees

end SiteSnapshot

/-! ## The header -/

namespace HeaderOptions

variable {options : HeaderOptions} {around : Surroundings} {shared : GlobalOptions}
  {client : GatewayClient} {world after : World}

def withoutAsking (options : HeaderOptions) : HeaderOptions :=
  { options with offline := true }

theorem switches_of_agreesWith {snapshot other : SiteSnapshot} {switches : Switches}
    (agrees : snapshot.AgreesWith other)
    (ran : (options.switches snapshot).runIn world = (.ok switches, after)) :
    after = world ∧ ∀ later : World, later.work = world.work →
      (options.withoutAsking.switches other).runIn later = (.ok switches, later) := by
  unfold HeaderOptions.switches at ran ⊢
  rw [withoutAsking]
  dsimp only
  cases file : options.modulesFile with
  | none =>
      rw [file] at ran
      cases ran
      refine ⟨rfl, fun later _ => ?_⟩
      dsimp only
      rw [agrees.switches]
      rfl
  | some path =>
      rw [file] at ran
      rcases Task.runIn_bind_ok_iff.mp ran with ⟨text, between, found, rest⟩
      cases rest
      rcases Task.fileText_ok found with ⟨same, text⟩
      refine ⟨same, fun later work => ?_⟩
      rw [← work] at text
      exact Task.runIn_bind_of_ok (Task.fileText_of_found text)

theorem report_withoutAsking {snapshot other : SiteSnapshot} (agrees : snapshot.AgreesWith other)
    (translate : Translator) (switches : Switches) (session : Session) :
    options.withoutAsking.report translate other switches session =
      options.report translate snapshot switches session := by
  unfold HeaderOptions.report
  rw [agrees.docsLink, withoutAsking]

theorem leaves_session (options : HeaderOptions) (around : Surroundings) (client : GatewayClient) :
    (options.session around client).Leaves (·.work) := by
  unfold session
  split
  · exact Task.leaves_pure _
  · split
    · exact Task.leaves_pure _
    · split
      · apply (Task.leaves_attempt around _).bind
        intro outcome
        cases outcome with
        | ok user => exact Task.leaves_pure _
        | error error => exact Task.leaves_pure _
      · exact Task.leaves_pure _

theorem connect_of_agreesWith {settings : Settings} {store : SettingsStore} {status : SiteStatus}
    (agrees : settings.AgreesWith (SiteSnapshot.remember store status).settings) :
    Task.connect settings shared = Task.connect store.settings shared := by
  rcases agrees with ⟨pricing, same⟩
  rw [SiteSnapshot.settings_remember] at same
  apply Task.connect_congr <;> rw [same]

theorem snapshot_of_refreshed {store kept : SettingsStore} {snapshot : SiteSnapshot}
    (online : options.offline = false)
    (refreshed : (SiteSnapshot.refresh around client store).runIn world =
      (.ok (snapshot, kept), after)) :
    (options.snapshot around client store).runIn world = (.ok snapshot, after) := by
  unfold HeaderOptions.snapshot
  rw [online, if_neg Bool.false_ne_true]
  exact Task.runIn_bind_of_ok refreshed

theorem snapshot_kept {snapshot : SiteSnapshot} (online : options.offline = false)
    (kept : SiteSnapshot.IsKept around client (Task.storeIn around shared world) world)
    (ran : (options.snapshot around client (Task.storeIn around shared world)).runIn world =
      (.ok snapshot, after)) :
    snapshot.AgreesWith (.ofSettings (Task.settingsIn around shared after)) ∧
      Task.connect (Task.settingsIn around shared after) shared =
        Task.connect (Task.settingsIn around shared world) shared := by
  unfold HeaderOptions.snapshot at ran
  rw [online, if_neg Bool.false_ne_true] at ran
  rcases Task.runIn_bind_ok_iff.mp ran with ⟨⟨given, store⟩, between, refreshed, rest⟩
  cases rest
  rcases answer : client.status around.gateway world.traffic with ⟨outcome, traffic⟩
  cases outcome with
  | ok status =>
      rw [SiteSnapshot.runIn_refresh_of_status answer] at refreshed
      cases refreshed
      rcases kept status traffic answer with ⟨changed, saved⟩
      have agrees := SiteSnapshot.load_of_remembered saved fun _ =>
        Task.isInStep_storeIn around shared world
      rw [Task.path_storeIn] at agrees
      rw [Task.settingsIn_eq]
      dsimp only
      exact ⟨(SiteSnapshot.agreesWith_remember _ status).of_settings agrees,
        connect_of_agreesWith agrees⟩
  | error error =>
      rw [SiteSnapshot.runIn_refresh_of_error answer] at refreshed
      cases refreshed
      exact ⟨⟨rfl, rfl, rfl⟩, rfl⟩

/-- Whether the viewer is known without asking: the options name one, or there is no access
token to ask with. -/
def NamesViewer (options : HeaderOptions) (client : GatewayClient) : Prop :=
  options.anonymous = true ∨ options.role.isSome = true ∨ client.credentials = none

theorem session_of_named (named : options.NamesViewer client) :
    ∃ session, ∀ around world, (options.session around client).runIn world =
      (.ok session, world) := by
  unfold session
  cases anonymous : options.anonymous with
  | true => exact ⟨.anonymous, fun _ _ => rfl⟩
  | false =>
      cases isRole : options.role with
      | some role => exact ⟨⟨some (someoneWith role)⟩, fun _ _ => rfl⟩
      | none =>
          have noToken : client.credentials = none := by
            simpa [NamesViewer, anonymous, isRole] using named
          rw [noToken]
          exact ⟨.anonymous, fun _ _ => rfl⟩

def printed (options : HeaderOptions) (shared : GlobalOptions) (translate : Translator)
    (snapshot : SiteSnapshot) (switches : Switches) (session : Session) : String :=
  let report := options.report translate snapshot switches session
  Output.report shared (title session) (ResolvedLink.listText report.links) report.toJson

structure Shows (options : HeaderOptions) (around : Surroundings) (shared : GlobalOptions)
    (world between after : World) (client : GatewayClient) (translate : Translator)
    (snapshot : SiteSnapshot) (switches : Switches) (session : Session) : Prop where
  connects : (Task.connect (Task.settingsIn around shared world) shared).runIn world =
    (.ok client, world)
  labels : (Task.loadTranslator shared).runIn world = (.ok translate, world)
  status : (options.snapshot around client (Task.storeIn around shared world)).runIn world =
    (.ok snapshot, between)
  switches : (options.switches snapshot).runIn between = (.ok switches, between)
  viewer : (options.session around client).runIn between = (.ok session, after)

section Shows

variable {between : World} {translate : Translator} {snapshot : SiteSnapshot}
  {switches : Switches} {session : Session}

theorem run_of_shows
    (shows : options.Shows around shared world between after client translate snapshot switches
      session) :
    (options.run around shared).runIn world =
      (.ok (options.printed shared translate snapshot switches session), after) := by
  unfold HeaderOptions.run
  rw [Task.runIn_bind_of_ok (Task.runIn_loadStore around shared world), Task.settings_storeIn,
    Task.runIn_bind_of_ok shows.connects, Task.runIn_bind_of_ok shows.labels,
    Task.runIn_bind_of_ok shows.status, Task.runIn_bind_of_ok shows.switches]
  exact Task.runIn_bind_of_ok shows.viewer

theorem shows_of_run {text : String}
    (ran : (options.run around shared).runIn world = (.ok text, after)) :
    ∃ between client translate snapshot switches session,
      options.Shows around shared world between after client translate snapshot switches session ∧
        text = options.printed shared translate snapshot switches session := by
  unfold HeaderOptions.run at ran
  rcases Task.runIn_bind_ok_iff.mp ran with ⟨store, first, loads, ran⟩
  rcases Task.loadStore_ok loads with ⟨same, isLoaded⟩
  rw [same, isLoaded, Task.settings_storeIn] at ran
  rcases Task.runIn_bind_ok_iff.mp ran with ⟨client, second, connects, ran⟩
  cases (Task.leaves_connect _ shared).world_eq connects
  rcases Task.runIn_bind_ok_iff.mp ran with ⟨translate, third, labels, ran⟩
  cases (Task.leaves_loadTranslator shared).world_eq labels
  rcases Task.runIn_bind_ok_iff.mp ran with ⟨snapshot, between, status, ran⟩
  rcases Task.runIn_bind_ok_iff.mp ran with ⟨switches, fourth, switched, ran⟩
  cases (switches_of_agreesWith ⟨rfl, rfl, rfl⟩ switched).1
  rcases Task.runIn_bind_ok_iff.mp ran with ⟨session, fifth, viewer, ran⟩
  cases ran
  exact ⟨between, client, translate, snapshot, switches, session,
    ⟨connects, labels, status, switched, viewer⟩, rfl⟩

theorem Shows.viewer_again
    (shows : options.Shows around shared world between after client translate snapshot switches
      session)
    {later : Surroundings}
    (views : options.NamesViewer client ∨
      ((options.session later client).runIn after).1 = .ok session) :
    ((options.session later client).runIn after).1 = .ok session := by
  -- The options, or the lack of a token, decide before the gateway is asked.
  rcases views with named | same
  · rcases session_of_named named with ⟨known, always⟩
    have viewer := shows.viewer
    rw [always] at viewer ⊢
    exact congrArg Prod.fst viewer
  · exact same

theorem Shows.withoutAsking
    (shows : options.Shows around shared world between after client translate snapshot switches
      session)
    (online : options.offline = false)
    (kept : SiteSnapshot.IsKept around client (Task.storeIn around shared world) world)
    {later : Surroundings}
    (sameFile : Task.settingsFile later shared = Task.settingsFile around shared)
    (labels : ((Task.loadTranslator shared).runIn after).1 = .ok translate) {other : Session}
    (views : ((options.session later client).runIn after).1 = .ok other) :
    ∃ last, (options.withoutAsking.run later shared).runIn after =
      (.ok (options.printed shared translate snapshot switches other), last) := by
  rcases snapshot_kept online kept shows.status with ⟨agrees, connection⟩
  have work : after.work = between.work := by
    have leaves := leaves_session options around client between
    rw [shows.viewer] at leaves
    exact leaves
  -- Asking for the viewer may lead to more traffic, but it changes no file.
  have store : Task.storeIn later shared after = Task.storeIn around shared between :=
    Task.storeIn_congr sameFile (congrArg Work.disk work)
  rw [← Task.settings_storeIn, ← store, Task.settings_storeIn] at agrees connection
  have connects := Task.connect_anywhere shows.connects after
  rw [← connection] at connects
  have again : options.withoutAsking.Shows later shared after after
      ((options.session later client).runIn after).2 client translate
      (.ofSettings (Task.settingsIn later shared after)) switches other :=
    { connects
      labels := Prod.ext labels ((Task.leaves_loadTranslator shared : Task.Leaves id _) after)
      status := rfl
      switches := (switches_of_agreesWith agrees shows.switches).2 after work
      viewer := Prod.ext views rfl }
  refine ⟨((options.session later client).runIn after).2, ?_⟩
  rw [run_of_shows again, printed, report_withoutAsking agrees, printed]

end Shows

end HeaderOptions

/-! ## The home page -/

theorem SettingsStore.homeContents_cacheHomePage (store : SettingsStore) (contents : String) :
    (store.cacheHomePage contents).settings.homeContents = .classify contents ∧
      ∀ work changed, ((store.cacheHomePage contents).saveIfChangedWith work).1 = .ok changed →
        (changed = false → store.IsInStep work.disk) →
        (load ((store.cacheHomePage contents).saveIfChangedWith work).2.2.disk
          store.path).settings.homeContents = .classify contents := by
  have shown : (store.cacheHomePage contents).settings.homeContents = .classify contents := by
    rw [SettingsStore.cacheHomePage, SettingsStore.settings_update]
    rfl
  refine ⟨shown, fun work changed saved inStep => ?_⟩
  rcases load_of_saved saved fun same => (inStep same).update _ with ⟨pricing, same⟩
  rw [SettingsStore.cacheHomePage, KeptStore.path_update] at same
  rw [SettingsStore.cacheHomePage, same]
  exact shown

/-! ## Everything that is remembered -/

/-- What the gateway answers is what its store remembers, and the file if it can be saved; so a
header that was asked for is shown again without asking, to the same viewer. Without an answer
nothing changes. A home page is remembered as it was sent. -/
theorem SiteSnapshot.refresh_remembers (around : Surroundings) :
    (∀ client store world status traffic,
      client.status around.gateway world.traffic = (.ok status, traffic) →
      ∃ kept after,
        (refresh around client store).runIn world = (.ok (.ofStatus status, kept), after) ∧
        (ofStatus status).AgreesWith (.ofSettings kept.settings) ∧
        ∀ changed, ((remember store status).saveIfChangedWith world.work).1 = .ok changed →
          (changed = false → store.IsInStep world.work.disk) →
          (ofStatus status).AgreesWith
            (.ofSettings (SettingsStore.load after.work.disk store.path).settings)) ∧
    (∀ client store world error traffic,
      client.status around.gateway world.traffic = (.error error, traffic) →
      (refresh around client store).runIn world =
        (.ok (.ofSettings store.settings, store), { world with traffic })) ∧
    (∀ (options : HeaderOptions) shared world after text,
      options.offline = false → (options.run around shared).runIn world = (.ok text, after) →
      ∃ between client translate snapshot switches session,
        options.Shows around shared world between after client translate snapshot switches
          session ∧
        (IsKept around client (Task.storeIn around shared world) world →
          ∀ later : Surroundings,
            Task.settingsFile later shared = Task.settingsFile around shared →
            ((Task.loadTranslator shared).runIn after).1 = .ok translate →
            options.NamesViewer client ∨
              ((options.session later client).runIn after).1 = .ok session →
            ∃ last, (options.withoutAsking.run later shared).runIn after = (.ok text, last))) ∧
    (∀ (store : SettingsStore) contents,
      (store.cacheHomePage contents).settings.homeContents = .classify contents ∧
        ∀ work changed, ((store.cacheHomePage contents).saveIfChangedWith work).1 = .ok changed →
          (changed = false → store.IsInStep work.disk) →
          (SettingsStore.load ((store.cacheHomePage contents).saveIfChangedWith work).2.2.disk
            store.path).settings.homeContents = .classify contents) := by
  refine ⟨?_, ?_, ?_, ?_⟩
  · intro client store world status traffic answered
    refine ⟨_, _, runIn_refresh_of_status answered, ?_, fun changed saved inStep => ?_⟩
    · rw [SettingsStore.settings_saveIfChangedWith]
      exact agreesWith_remember store status
    · exact (agreesWith_remember store status).of_settings (load_of_remembered saved inStep)
  · intro client store world error traffic failed
    exact runIn_refresh_of_error failed
  · intro options shared world after text online ran
    rcases HeaderOptions.shows_of_run ran with
      ⟨between, client, translate, snapshot, switches, session, shows, isPrinted⟩
    refine ⟨between, client, translate, snapshot, switches, session, shows, ?_⟩
    intro kept later sameFile labels views
    rw [isPrinted]
    exact shows.withoutAsking online kept sameFile labels (shows.viewer_again views)
  · intro store contents
    exact store.homeContents_cacheHomePage contents

theorem SiteSnapshot.refresh_remembers_of_answer :
    let told : Json :=
      .object [("docs_link", .text " "), ("footer_html", .text "<p>"),
        ("HeaderNavModules", .text "x")]
    let envelope : Json := .object [("success", .bool true), ("data", told)]
    let around : Surroundings :=
      ⟨fun _ _ => .answered ⟨200, [], .whole envelope.compact⟩, "/", ⟨2024, 2, 29, by decide⟩⟩
    let shared : GlobalOptions :=
      { GlobalOptions.initial with settingsFile := some "s.json", server := some "http://gw" }
    let options : HeaderOptions := { HeaderOptions.initial with role := some 10 }
    let client : GatewayClient :=
      ⟨⟨"http", .path (some ⟨"", some (.domain "gw"), none⟩) [""], none, none⟩, none, .standard⟩
    let world : World := ⟨.start .empty [], .silent⟩
    ∃ status traffic kept after text last,
      client.status around.gateway world.traffic = (.ok status, traffic) ∧
      (refresh around client (Task.storeIn around shared world)).runIn world =
        (.ok (.ofStatus status, kept), after) ∧
      (ofStatus status).AgreesWith (.ofSettings kept.settings) ∧
      (options.run around shared).runIn world = (.ok text, after) ∧
      (options.withoutAsking.run around shared).runIn after = (.ok text, last) := by
  intro told envelope around shared options client world
  let status : SiteStatus := ⟨"", "", "", some " ", some "<p>", some "x", false⟩
  let reply : Reply := ⟨200, [], .whole envelope.compact⟩
  have survives : envelope.Survives Reader.depthLimit := ⟨rfl, by decide⟩
  have isStatus : GatewayClient.payloadOf SiteStatus.ofTree? reply = .ok status := by
    exact GatewayClient.payloadOf_of_compact survives rfl rfl
  rcases made : client.request .get ["api", "status"] [] none with error | request
  · exact nomatch made
  have sendable : request.isSendable = true := by
    cases made
    decide +kernel
  have answered : client.status around.gateway world.traffic =
      (.ok status, world.traffic.exchange request (.answered reply)) := by
    have called := @GatewayClient.call_of_answer around.gateway _ world.traffic reply _ client _ _ _
      _ (GatewayClient.payloadOf SiteStatus.ofTree?) made sendable rfl (by decide)
    rw [isStatus] at called
    exact called
  have file : Task.settingsFile around shared = "s.json" := rfl
  have saves (text : String) :
      (world.work.save (Path.ofText (Task.settingsFile around shared)) text).1 = .ok () := by
    rw [file]
    rfl
  have savable (client : GatewayClient) :
      IsKept around client (Task.storeIn around shared world) world := by
    intro other traffic _
    apply SettingsStore.saveIfChangedWith_ok
    rw [path_remember, Task.path_storeIn]
    exact saves _
  rcases (refresh_remembers around).1 client (Task.storeIn around shared world) world status _
    answered with ⟨kept, after, refreshed, agrees, _⟩
  have connects : (Task.connect (Task.settingsIn around shared world) shared).runIn world =
      (.ok client, world) := by
    have missing :
        world.work.disk.text? (Path.ofText (Task.settingsFile around shared)) = none := by
      rw [file]
      rfl
    have address : GatewayClient.ofAddress "http://gw" = .ok client := rfl
    rw [Task.settingsIn_of_missing missing]
    exact Task.connect_of_server rfl address .initial world
  have given := @HeaderOptions.snapshot_of_refreshed options _ _ _ _ _ _ _ rfl refreshed
  have shows : options.Shows around shared world after after client .unchanged (.ofStatus status)
      (.ofOption (some "x")) ⟨some (HeaderOptions.someoneWith 10)⟩ :=
    ⟨connects, rfl, given, rfl, rfl⟩
  have ran := HeaderOptions.run_of_shows shows
  rcases (refresh_remembers around).2.2.1 options shared world after _ rfl ran with
    ⟨between, connected, translate, snapshot, switches, session, again, withoutAsking⟩
  have labels : (Task.loadTranslator shared).runIn world = (.ok .unchanged, world) := rfl
  rw [again.labels] at labels
  cases labels
  rcases withoutAsking (savable connected) around rfl rfl (.inl (.inr (.inl rfl))) with
    ⟨last, offline⟩
  exact ⟨status, _, kept, after, _, last, answered, refreshed, agrees, ran, offline⟩

/-- A header that is shown without asking for its status is shown to somebody else if the gateway,
which is asked who the viewer is, gives another answer. -/
theorem SiteSnapshot.forgets_viewer_of_token :
    let envelope (role : Int) : Json :=
      .object [("success", .bool true),
        ("data", .object [("id", .integer 5), ("role", .integer role)])]
    let around (role : Int) : Surroundings :=
      ⟨fun _ _ => .answered ⟨200, [], .whole (envelope role).compact⟩, "/",
        ⟨2024, 2, 29, by decide⟩⟩
    let shared : GlobalOptions :=
      { GlobalOptions.initial with
        settingsFile := some "s.json", server := some "http://gw", token := some "t",
        format := some .json }
    let options : HeaderOptions := HeaderOptions.initial
    let world : World := ⟨.start .empty [], .silent⟩
    ∃ client text after other last,
      (Task.connect (Task.settingsIn (around 100) shared world) shared).runIn world =
        (.ok client, world) ∧
      IsKept (around 100) client (Task.storeIn (around 100) shared world) world ∧
      (options.run (around 100) shared).runIn world = (.ok text, after) ∧
      (options.withoutAsking.run (around 1) shared).runIn after = (.ok other, last) ∧
      other ≠ text := by
  intro envelope around shared options world
  let client : GatewayClient :=
    ⟨⟨"http", .path (some ⟨"", some (.domain "gw"), none⟩) [""], none, none⟩, some ⟨"t", none⟩,
      .standard⟩
  let status : SiteStatus := ⟨"", "", "", none, none, none, false⟩
  let user (role : Int64) : User := ⟨5, "", "", role⟩
  have file (role : Int) : Task.settingsFile (around role) shared = "s.json" := rfl
  have connects :
      (Task.connect (Task.settingsIn (around 100) shared world) shared).runIn world =
        (.ok client, world) := by
    have missing :
        world.work.disk.text? (Path.ofText (Task.settingsFile (around 100) shared)) = none := by
      rw [file]
      rfl
    have address : GatewayClient.ofAddress "http://gw" =
        .ok { client with credentials := none } := rfl
    rw [Task.settingsIn_of_missing missing]
    exact Task.connect_of_server rfl address .initial world
  have kept : IsKept (around 100) client (Task.storeIn (around 100) shared world) world := by
    intro other traffic _
    apply SettingsStore.saveIfChangedWith_ok
    rw [path_remember, Task.path_storeIn, file]
    rfl
  have answers {α : Type} {read : Document → Option α} {payload : α} {path : List String}
      (role : Int) (traffic : Traffic) (survives : (envelope role).Survives Reader.depthLimit)
      (isPath : path = ["api", "status"] ∨ path = ["api", "user", "self"])
      (isEnvelope : Envelope.ofTree? read (envelope role).asTree = some ⟨true, "", some payload⟩) :
      ∃ last, client.call .get path [] none (GatewayClient.payloadOf read) (around role).gateway
        traffic = (.ok payload, last) := by
    rcases made : client.request .get path [] none with error | request
    · rcases isPath with rfl | rfl <;> exact nomatch made
    have sendable : request.isSendable = true := by
      rcases isPath with rfl | rfl <;> cases made <;> decide +kernel
    exact ⟨_, GatewayClient.call_of_envelope made sendable rfl survives isEnvelope⟩
  have viewer (role : Int) (world : World) {known : User}
      (survives : (envelope role).Survives Reader.depthLimit)
      (isEnvelope : Envelope.ofTree? User.ofTree? ((envelope role).asTree : Document) =
        some ⟨true, "", some known⟩) :
      ∃ last, (options.session (around role) client).runIn world =
        (.ok ⟨some known⟩, last) := by
    rcases answers role world.traffic survives (.inr rfl) isEnvelope with ⟨last, called⟩
    have attempts := Task.runIn_attempt (around role) client.currentUser world
    have asked :
        client.currentUser (around role).gateway world.traffic = (.ok known, last) := called
    rw [asked] at attempts
    exact ⟨_, Task.runIn_bind_of_ok attempts⟩
  have survives : (envelope 100).Survives Reader.depthLimit := ⟨rfl, by decide⟩
  have isStatus : Envelope.ofTree? SiteStatus.ofTree? ((envelope 100).asTree : Document) =
      some ⟨true, "", some status⟩ := rfl
  rcases answers 100 world.traffic survives (.inl rfl) isStatus with ⟨traffic, answered⟩
  have refreshed := @runIn_refresh_of_status _ _ (Task.storeIn (around 100) shared world) _ _ _
    answered
  have given := @HeaderOptions.snapshot_of_refreshed options _ _ _ _ _ _ _ rfl refreshed
  rcases viewer 100 _ survives rfl with ⟨after, viewed⟩
  have shows : options.Shows (around 100) shared world _ after client .unchanged
      (.ofStatus status) (.ofOption none) ⟨some (user 100)⟩ :=
    ⟨connects, rfl, given, rfl, viewed⟩
  rcases viewer 1 after ⟨rfl, by decide⟩ rfl with ⟨_, viewedAgain⟩
  have sameFile := (file 1).trans (file 100).symm
  rcases shows.withoutAsking rfl kept sameFile rfl (congrArg Prod.fst viewedAgain) with
    ⟨last, again⟩
  refine ⟨client, _, after, _, last, connects, kept, HeaderOptions.run_of_shows shows, again, ?_⟩
  decide +kernel

end GatewayConsole
