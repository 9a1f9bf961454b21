import GatewayConsole.Proofs.Settings.KeptStore
import GatewayConsole.Proofs.Settings.Written
import GatewayConsole.Proofs.Storage.FailedSaving
import GatewayConsole.Proofs.Storage.Replacement

/-!
# Persistence

As long as only the store writes its file, a store without unsaved changes finds its
settings there again. The path must keep leading to that file: a directory that saving
makes may turn a path with steps up into one that leads to another file.
-/

namespace GatewayConsole
namespace KeptStore

variable {kept : KeptStore} {event : StoreEvent}

/-! ## Calls that keep the file -/

/-- Whether a call stores no criteria but such as were entered and, if it comes from outside,
changes neither the file nor the directory of its path. -/
def IsOwn (kept : KeptStore) (event : StoreEvent) : Prop :=
  match event with
  | .update change => (change kept.store.settings).pricing.criteria.IsEntered
  | .setPricingView view => view.criteria.IsEntered
  | .outside disk =>
      disk.IsTree ∧ disk.text? kept.store.path = kept.disk.text? kept.store.path ∧
        (Work.Anchors kept.disk kept.store.path → Work.Anchors disk kept.store.path)
  | _ => True

def AllOwn (kept : KeptStore) : List StoreEvent → Prop
  | [] => True
  | event :: rest => kept.IsOwn event ∧ (kept.step event).AllOwn rest

def stored (kept : KeptStore) : Settings :=
  (SettingsStore.load kept.disk kept.store.path).settings

/-- What holds between a store and its file: without unsaved changes, the file holds the
settings. -/
structure Synced (kept : KeptStore) : Prop where
  tree : kept.disk.IsTree
  anchored : Work.Anchors kept.disk kept.store.path
  readable : kept.store.settings.pricing.criteria.IsReadable
  ahead : kept.store.savedVersion ≤ kept.store.version
  current : kept.store.version = kept.store.savedVersion → kept.stored = kept.store.settings

theorem loaded_settings (disk : Disk) (path : Path) :
    (SettingsStore.load disk path).settings =
      ((disk.text? path).bind Settings.ofText?).getD .initial :=
  rfl

theorem isReadable_load (disk : Disk) (path : Path) :
    (SettingsStore.load disk path).settings.pricing.criteria.IsReadable := by
  rw [loaded_settings]
  cases read : (disk.text? path).bind Settings.ofText? with
  | none => exact (by decide : Settings.initial.pricing.criteria.IsReadable)
  | some settings =>
      rcases Option.bind_eq_some_iff.mp read with ⟨text, _, read⟩
      exact Settings.isReadable_of_ofText? read

theorem settings_load_save {work : Work} {path : Path} {settings : Settings}
    (saved : (work.save path settings.toText).1 = .ok ()) :
    (SettingsStore.load (work.save path settings.toText).2.disk path).settings =
      settings.reread := by
  rw [loaded_settings, Disk.text?, Work.nodeAt?_save saved]
  change (Settings.ofText? settings.toText).getD .initial = _
  rw [Settings.ofText?_toText]
  rfl

theorem synced_load {disk : Disk} {path : Path} (tree : disk.IsTree)
    (anchored : Work.Anchors disk path) : (load disk path).Synced :=
  ⟨tree, anchored, isReadable_load disk path, Nat.le_refl 0, fun _ => rfl⟩

theorem synced_update (synced : kept.Synced) (change : Settings → Settings)
    (readable : (change kept.store.settings).pricing.criteria.IsReadable) :
    ({ kept with store := kept.store.update change } : KeptStore).Synced := by
  rw [SettingsStore.update]
  split
  next => exact synced
  next =>
    refine ⟨synced.tree, synced.anchored, readable, Nat.le_succ_of_le synced.ahead, ?_⟩
    intro same
    have later : kept.store.savedVersion < kept.store.version + 1 :=
      Nat.lt_succ_of_le synced.ahead
    exact absurd same (Nat.ne_of_gt later)

theorem synced_save (synced : kept.Synced) (hazards : List Hazard) :
    (⟨(kept.saveUnder hazards).2.1, (kept.saveUnder hazards).2.2.disk⟩ : KeptStore).Synced := by
  rw [saveUnder_work]
  let work :=
    ((Work.start kept.disk hazards).save kept.store.path kept.store.settings.toText).2
  have tree : work.disk.IsTree := Work.isTree_save synced.tree
  have anchored : Work.Anchors work.disk kept.store.path := Work.anchors_save synced.anchored
  rcases saveUnder_cases kept hazards with ⟨_, saved, store⟩ | ⟨_, ⟨trouble, failed⟩, store⟩
  · rw [store]
    refine ⟨tree, anchored, synced.readable, Nat.le_refl _, fun _ => ?_⟩
    rw [stored, settings_load_save saved]
    exact (Settings.reread_eq_self_iff _).mpr synced.readable
  · rw [store]
    refine ⟨tree, anchored, synced.readable, synced.ahead, fun same => ?_⟩
    rw [stored, loaded_settings, Work.text?_save_failed synced.tree synced.anchored failed]
    exact synced.current same

theorem synced_step (synced : kept.Synced) (own : kept.IsOwn event) : (kept.step event).Synced := by
  cases event with
  | update change => exact synced_update synced change own.isReadable
  | setServerUrl url =>
      rcases setServerUrl_cases kept.store url with ⟨_, done⟩ | ⟨_, reason, refused⟩
      · rw [step, done]
        exact synced_update synced _ synced.readable
      · rw [step, refused]
        exact synced
  | setCredentials token userId => exact synced_update synced _ synced.readable
  | clearCredentials => exact synced_update synced _ synced.readable
  | setPricingView view => exact synced_update synced _ own.isReadable
  | resetPricingView =>
      have readable : PricingView.initial.criteria.IsReadable := by decide
      exact synced_update synced (fun settings => { settings with pricing := .initial }) readable
  | cacheStatus headerModules docsLink => exact synced_update synced _ synced.readable
  | cacheHomePage contents => exact synced_update synced _ synced.readable
  | cacheFooter footer => exact synced_update synced _ synced.readable
  | closeNotice today => exact synced_update synced _ synced.readable
  | save hazards => exact synced_save synced hazards
  | saveIfChanged hazards =>
      rw [step]
      cases unsaved : kept.store.hasUnsaved with
      | false =>
          rw [saveIfChangedUnder_of_saved unsaved]
          exact synced
      | true =>
          rw [saveIfChangedUnder_of_unsaved unsaved]
          exact synced_save synced hazards
  | outside disk =>
      rcases own with ⟨tree, text, anchored⟩
      refine ⟨tree, anchored synced.anchored, synced.readable, synced.ahead, fun same => ?_⟩
      have known := synced.current same
      -- Loading reads nothing but the text at the path, which is the same.
      rw [stored, loaded_settings] at known ⊢
      rw [step, text]
      exact known

theorem synced_run (synced : kept.Synced) {events : List StoreEvent} (own : kept.AllOwn events) :
    (kept.run events).Synced := by
  induction events generalizing kept with
  | nil => exact synced
  | cons event rest induction => exact induction (synced_step synced own.1) own.2

/-! ## Loaded stores -/

theorem path_update (store : SettingsStore) (change : Settings → Settings) :
    (store.update change).path = store.path := by
  rw [SettingsStore.update]
  split <;> rfl

theorem path_step (kept : KeptStore) (event : StoreEvent) :
    (kept.step event).store.path = kept.store.path := by
  rcases step_cases kept event with
    ⟨change, isStep, _⟩ | ⟨hazards, isStep, _⟩ | ⟨isStep, _⟩ | ⟨disk, rfl⟩
  · rw [isStep]
    exact path_update kept.store change
  · rw [isStep]
    rcases saveUnder_cases kept hazards with ⟨_, _, store⟩ | ⟨_, _, store⟩
    · rw [store]
    · rw [store]
  · rw [isStep]
  · rfl

theorem path_run (kept : KeptStore) (events : List StoreEvent) :
    (kept.run events).store.path = kept.store.path := by
  induction events generalizing kept with
  | nil => rfl
  | cons event rest induction => exact (induction (kept.step event)).trans (path_step kept event)

theorem saveIfChangedUnder_run {disk : Disk} {path : Path} (events : List StoreEvent)
    (hazards : List Hazard) :
    (((load disk path).run events).saveIfChangedUnder hazards).1 = .ok false ↔
      (load disk path).unsavedCount 0 events = 0 := by
  rw [← hasUnsaved_run (load disk path) events rfl]
  cases unsaved : ((load disk path).run events).store.hasUnsaved with
  | false =>
      rw [saveIfChangedUnder_of_saved unsaved]
      exact ⟨fun _ => rfl, fun _ => rfl⟩
  | true =>
      rw [saveIfChangedUnder_of_unsaved unsaved]
      cases (((load disk path).run events).saveUnder hazards).1 <;> exact ⟨nofun, nofun⟩

/-- A store that was loaded counts its changes, tells subscribers and the next saving of
them, is not touched by savings that fail, and finds its settings again when all changes are
saved. The last needs a path that keeps leading to one file. -/
theorem load_run (disk : Disk) (path : Path) (events : List StoreEvent) :
    let loaded := load disk path
    let kept := loaded.run events
    kept.store.version = loaded.changeCount events ∧
    (∀ (earlier later : List StoreEvent) (subscription previous : Subscription),
      events = earlier ++ later →
      (subscription = .start (loaded.run earlier).store ∨
        subscription = previous.mark (loaded.run earlier).store) →
      (subscription.hasNews kept.store = true ↔ 0 < (loaded.run earlier).changeCount later)) ∧
    (∀ hazards,
      ((kept.saveIfChangedUnder hazards).1 = .ok false ↔ loaded.unsavedCount 0 events = 0) ∧
      (loaded.unsavedCount 0 events = 0 →
        kept.saveIfChangedUnder hazards = (.ok false, kept.store, Work.start kept.disk hazards))) ∧
    (∀ hazards error, (kept.saveUnder hazards).1 = .error error →
      (kept.saveUnder hazards).2.1 = kept.store) ∧
    (∀ hazards error, (kept.saveIfChangedUnder hazards).1 = .error error →
      (kept.saveIfChangedUnder hazards).2.1 = kept.store) ∧
    (disk.IsTree → Work.Anchors disk path → loaded.AllOwn events →
      kept.store.version = kept.store.savedVersion →
      (SettingsStore.load kept.disk path).settings = kept.store.settings) := by
  intro loaded kept
  refine ⟨?_, ?_, ?_, ?_, ?_, ?_⟩
  · exact (version_run loaded events).trans (Nat.zero_add _)
  · intro earlier later subscription previous split begins
    have news := hasNews_run (loaded.run earlier) later
    rw [← run_append, ← split] at news
    rcases begins with rfl | rfl
    · exact news
    · exact news
  · intro hazards
    refine ⟨saveIfChangedUnder_run events hazards, fun none => ?_⟩
    exact saveIfChangedUnder_of_saved ((hasUnsaved_run loaded events rfl).mpr none)
  · intro hazards error failed
    exact store_saveUnder_failed failed
  · intro hazards error failed
    exact store_saveIfChangedUnder_failed failed
  · intro tree anchored own same
    have synced := synced_run (synced_load tree anchored) own
    have current := synced.current same
    rw [stored, path_run] at current
    exact current

theorem load_run_of_saved_credentials :
    ∃ kept, kept = (load .empty ⟨true, [.name "settings.json"]⟩).run
        [.setCredentials "token" none, .save []] ∧
      kept.store.version = 1 ∧ kept.store.savedVersion = 1 ∧
      (SettingsStore.load kept.disk ⟨true, [.name "settings.json"]⟩).settings =
        kept.store.settings := by
  have version : ((load .empty ⟨true, [.name "settings.json"]⟩).run
      [.setCredentials "token" none, .save []]).store.version = 1 := by rfl
  have savedVersion : ((load .empty ⟨true, [.name "settings.json"]⟩).run
      [.setCredentials "token" none, .save []]).store.savedVersion = 1 := by rfl
  refine ⟨_, rfl, version, savedVersion, ?_⟩
  exact (load_run .empty ⟨true, [.name "settings.json"]⟩
    [.setCredentials "token" none, .save []]).2.2.2.2.2 Disk.isTree_empty (.inl (by decide))
    ⟨trivial, trivial, trivial⟩ (version.trans savedVersion.symm)

def changedBefore : Settings :=
  { Settings.initial with serverUrl := "http://gateway.example" }

def diskBefore : Disk :=
  Disk.empty.put ["settings.json"] (.file 0o600 changedBefore.toText)

def pathAround : Path :=
  ⟨true, [.name "settings.json", .up, .name "settings.json.tmp"]⟩

/-- Without that, settings that have never been changed may not be found: saving makes the
directory that the path steps up from, and fails; then the path leads to another file. -/
theorem load_differs_after_failed_save :
    ∃ kept, kept = (load diskBefore pathAround).run [.save []] ∧
      diskBefore.IsTree ∧ (load diskBefore pathAround).AllOwn [.save []] ∧
      kept.store.version = kept.store.savedVersion ∧
      (SettingsStore.load kept.disk pathAround).settings ≠ kept.store.settings := by
  have tree : diskBefore.IsTree := by
    refine Disk.isTree_empty.put ?_ fun isDirectory => ?_
    · intro above name same
      rw [← List.nil_append ["settings.json"]] at same
      rw [← (List.append_inj' same rfl).1]
      exact Disk.isTree_empty.root
    · exact absurd isDirectory (Disk.no_directory_of_free rfl)
  have begins : ((load diskBefore pathAround).run [.save []]).store.settings = .initial := by rfl
  have found : ((load diskBefore pathAround).run [.save []]).disk.text? pathAround =
      some changedBefore.toText := by rfl
  have readable : changedBefore.pricing.criteria.IsReadable := by decide
  refine ⟨_, rfl, tree, ⟨trivial, trivial⟩, by rfl, ?_⟩
  rw [loaded_settings, found, begins, Option.bind_some, Settings.ofText?_toText,
    (Settings.reread_eq_self_iff changedBefore).mpr readable]
  decide

end KeptStore
end GatewayConsole
