import GatewayConsole.Settings.Store

/-!
# Kept stores

A store of settings and the disk it is kept on, through any sequence of calls, with savings
that may fail at any operation. What counts is how often the settings have changed: the
version counts it from the beginning, a subscriber from what it has last seen, and the
store from what it has last saved.
-/

namespace GatewayConsole

/-! ## Calls -/

inductive StoreEvent
  | update (change : Settings → Settings)
  | setServerUrl (url : String)
  | setCredentials (token : String) (userId : Option Int64)
  | clearCredentials
  | setPricingView (view : PricingView)
  | resetPricingView
  | cacheStatus (headerModules docsLink : Option String)
  | cacheHomePage (contents : String)
  | cacheFooter (footer : Option String)
  | closeNotice (today : Date)
  | save (hazards : List Hazard)
  | saveIfChanged (hazards : List Hazard)
  | outside (disk : Disk)

structure KeptStore where
  store : SettingsStore
  disk : Disk

namespace KeptStore

variable {kept : KeptStore} {event : StoreEvent}

def load (disk : Disk) (path : Path) : KeptStore :=
  ⟨.load disk path, disk⟩

def saveUnder (kept : KeptStore) (hazards : List Hazard) :
    Except StoreError Unit × SettingsStore × Work :=
  kept.store.saveWith (Work.start kept.disk hazards)

def saveIfChangedUnder (kept : KeptStore) (hazards : List Hazard) :
    Except StoreError Bool × SettingsStore × Work :=
  kept.store.saveIfChangedWith (Work.start kept.disk hazards)

def step (kept : KeptStore) (event : StoreEvent) : KeptStore :=
  match event with
  | .update change => { kept with store := kept.store.update change }
  | .setServerUrl url =>
      match kept.store.setServerUrl url with
      | .ok store => { kept with store }
      | .error _ => kept
  | .setCredentials token userId =>
      { kept with store := kept.store.setCredentials token userId }
  | .clearCredentials => { kept with store := kept.store.clearCredentials }
  | .setPricingView view => { kept with store := kept.store.setPricingView view }
  | .resetPricingView => { kept with store := kept.store.resetPricingView }
  | .cacheStatus headerModules docsLink =>
      { kept with store := kept.store.cacheStatus headerModules docsLink }
  | .cacheHomePage contents => { kept with store := kept.store.cacheHomePage contents }
  | .cacheFooter footer => { kept with store := kept.store.cacheFooter footer }
  | .closeNotice today => { kept with store := kept.store.closeNotice today }
  | .save hazards =>
      let (_, store, work) := kept.saveUnder hazards
      ⟨store, work.disk⟩
  | .saveIfChanged hazards =>
      let (_, store, work) := kept.saveIfChangedUnder hazards
      ⟨store, work.disk⟩
  | .outside disk => { kept with disk }

def run (kept : KeptStore) (events : List StoreEvent) : KeptStore :=
  events.foldl step kept

def changes (kept : KeptStore) (event : StoreEvent) : Bool :=
  decide ((kept.step event).store.settings ≠ kept.store.settings)

def saves (kept : KeptStore) (event : StoreEvent) : Bool :=
  match event with
  | .save hazards => (kept.saveUnder hazards).1.isOk
  | .saveIfChanged hazards =>
      match (kept.saveIfChangedUnder hazards).1 with
      | .ok changed => changed
      | .error _ => false
  | _ => false

def changeCount (kept : KeptStore) : List StoreEvent → Nat
  | [] => 0
  | event :: rest => (kept.changes event).toNat + (kept.step event).changeCount rest

def unsavedCount (kept : KeptStore) (already : Nat) : List StoreEvent → Nat
  | [] => already
  | event :: rest =>
      (kept.step event).unsavedCount
        (if kept.saves event then 0 else already + (kept.changes event).toNat) rest

/-! ## Saving -/

theorem saveIfChangedUnder_of_saved {hazards : List Hazard}
    (saved : kept.store.hasUnsaved = false) :
    kept.saveIfChangedUnder hazards = (.ok false, kept.store, Work.start kept.disk hazards) := by
  rw [saveIfChangedUnder, SettingsStore.saveIfChangedWith, saved]
  rfl

theorem saveIfChangedUnder_of_unsaved {hazards : List Hazard}
    (unsaved : kept.store.hasUnsaved = true) :
    kept.saveIfChangedUnder hazards =
      ((kept.saveUnder hazards).1.map fun _ => true, (kept.saveUnder hazards).2) := by
  rw [saveIfChangedUnder, SettingsStore.saveIfChangedWith, unsaved, if_pos rfl, saveUnder]
  rcases kept.store.saveWith (Work.start kept.disk hazards) with ⟨result, store, work⟩
  cases result <;> rfl

theorem saveUnder_cases (kept : KeptStore) (hazards : List Hazard) :
    ((kept.saveUnder hazards).1 = .ok () ∧
      ((Work.start kept.disk hazards).save kept.store.path kept.store.settings.toText).1 = .ok () ∧
      (kept.saveUnder hazards).2.1 = { kept.store with savedVersion := kept.store.version }) ∨
    ((kept.saveUnder hazards).1 = .error .io ∧
      (∃ trouble, ((Work.start kept.disk hazards).save kept.store.path
        kept.store.settings.toText).1 = .error trouble) ∧
      (kept.saveUnder hazards).2.1 = kept.store) := by
  unfold saveUnder SettingsStore.saveWith
  rcases (Work.start kept.disk hazards).save kept.store.path kept.store.settings.toText with
      ⟨result, work⟩
  cases result with
  | ok => exact .inl ⟨rfl, rfl, rfl⟩
  | error trouble => exact .inr ⟨rfl, ⟨trouble, rfl⟩, rfl⟩

theorem saveUnder_work (kept : KeptStore) (hazards : List Hazard) :
    (kept.saveUnder hazards).2.2 =
      ((Work.start kept.disk hazards).save kept.store.path kept.store.settings.toText).2 := by
  unfold saveUnder SettingsStore.saveWith
  rcases (Work.start kept.disk hazards).save kept.store.path kept.store.settings.toText with
      ⟨result, work⟩
  cases result <;> rfl

theorem store_saveUnder_failed {hazards : List Hazard} {error : StoreError}
    (failed : (kept.saveUnder hazards).1 = .error error) :
    (kept.saveUnder hazards).2.1 = kept.store := by
  rcases saveUnder_cases kept hazards with ⟨done, _, _⟩ | ⟨_, _, same⟩
  · exact nomatch done.symm.trans failed
  · exact same

theorem store_saveIfChangedUnder_failed {hazards : List Hazard} {error : StoreError}
    (failed : (kept.saveIfChangedUnder hazards).1 = .error error) :
    (kept.saveIfChangedUnder hazards).2.1 = kept.store := by
  cases unsaved : kept.store.hasUnsaved with
  | false => rw [saveIfChangedUnder_of_saved unsaved]
  | true =>
      rw [saveIfChangedUnder_of_unsaved unsaved] at failed ⊢
      rcases saveUnder_cases kept hazards with ⟨done, _, _⟩ | ⟨_, _, same⟩
      · rw [done] at failed
        exact nomatch failed
      · exact same

/-! ## Single calls -/

theorem setServerUrl_cases (store : SettingsStore) (url : String) :
    (SettingsStore.isWebUrl (SettingsStore.trimmedUrl url) = true ∧ store.setServerUrl url =
      .ok (store.update fun settings =>
        { settings with serverUrl := SettingsStore.trimmedUrl url })) ∨
    (SettingsStore.isWebUrl (SettingsStore.trimmedUrl url) = false ∧
      ∃ reason, store.setServerUrl url = .error (.configuration reason)) := by
  rw [SettingsStore.setServerUrl]
  cases SettingsStore.isWebUrl (SettingsStore.trimmedUrl url) with
  | true => exact .inl ⟨rfl, rfl⟩
  | false => exact .inr ⟨rfl, _, rfl⟩

theorem step_cases (kept : KeptStore) (event : StoreEvent) :
    (∃ change, kept.step event = { kept with store := kept.store.update change } ∧
      kept.saves event = false) ∨
    (∃ hazards, kept.step event =
        ⟨(kept.saveUnder hazards).2.1, (kept.saveUnder hazards).2.2.disk⟩ ∧
      kept.saves event = (kept.saveUnder hazards).1.isOk) ∨
    (kept.step event = kept ∧ kept.saves event = false) ∨
    (∃ disk, event = .outside disk) := by
  cases event with
  | update change => exact .inl ⟨change, rfl, rfl⟩
  | setServerUrl url =>
      rcases setServerUrl_cases kept.store url with ⟨_, done⟩ | ⟨_, reason, refused⟩
      · rw [step, done]
        exact .inl ⟨_, rfl, rfl⟩
      · rw [step, refused]
        exact .inr (.inr (.inl ⟨rfl, rfl⟩))
  | setCredentials token userId => exact .inl ⟨_, rfl, rfl⟩
  | clearCredentials => exact .inl ⟨_, rfl, rfl⟩
  | setPricingView view => exact .inl ⟨_, rfl, rfl⟩
  | resetPricingView =>
      exact .inl ⟨fun settings => { settings with pricing := .initial }, rfl, rfl⟩
  | cacheStatus headerModules docsLink => exact .inl ⟨_, rfl, rfl⟩
  | cacheHomePage contents => exact .inl ⟨_, rfl, rfl⟩
  | cacheFooter footer => exact .inl ⟨_, rfl, rfl⟩
  | closeNotice today => exact .inl ⟨_, rfl, rfl⟩
  | save hazards => exact .inr (.inl ⟨hazards, rfl, rfl⟩)
  | saveIfChanged hazards =>
      rw [step, saves]
      cases unsaved : kept.store.hasUnsaved with
      | false =>
          rw [saveIfChangedUnder_of_saved unsaved]
          exact .inr (.inr (.inl ⟨rfl, rfl⟩))
      | true =>
          rw [saveIfChangedUnder_of_unsaved unsaved]
          refine .inr (.inl ⟨hazards, rfl, ?_⟩)
          cases (kept.saveUnder hazards).1 <;> rfl
  | outside disk => exact .inr (.inr (.inr ⟨disk, rfl⟩))

theorem changes_of_same_settings
    (same : (kept.step event).store.settings = kept.store.settings) :
    kept.changes event = false := by
  rw [changes, same]
  exact decide_eq_false (not_not_intro rfl)

theorem version_update (store : SettingsStore) (change : Settings → Settings) :
    (store.update change).version =
      store.version + (decide ((store.update change).settings ≠ store.settings)).toNat ∧
    (store.update change).savedVersion = store.savedVersion := by
  rw [SettingsStore.settings_update, SettingsStore.update]
  by_cases same : change store.settings = store.settings
  · simp [same]
  · simp [same]

theorem versions_step (kept : KeptStore) (event : StoreEvent) :
    (kept.step event).store.version = kept.store.version + (kept.changes event).toNat ∧
    (kept.step event).store.savedVersion =
      if kept.saves event then (kept.step event).store.version else kept.store.savedVersion := by
  rcases step_cases kept event with
    ⟨change, isStep, notSaved⟩ | ⟨hazards, isStep, isSaved⟩ | ⟨isStep, notSaved⟩ | ⟨disk, rfl⟩
  · rw [changes, isStep, notSaved]
    exact version_update kept.store change
  · rcases saveUnder_cases kept hazards with ⟨done, _, store⟩ | ⟨failed, _, store⟩
    · rw [done] at isSaved
      rw [changes_of_same_settings (by rw [isStep, store]), isSaved, isStep, store]
      exact ⟨rfl, rfl⟩
    · rw [failed] at isSaved
      rw [changes_of_same_settings (by rw [isStep, store]), isSaved, isStep, store]
      exact ⟨rfl, rfl⟩
  · rw [changes_of_same_settings (by rw [isStep]), notSaved, isStep]
    exact ⟨rfl, rfl⟩
  · rw [changes_of_same_settings rfl]
    exact ⟨rfl, rfl⟩

/-! ## Runs -/

theorem version_run (kept : KeptStore) (events : List StoreEvent) :
    (kept.run events).store.version = kept.store.version + kept.changeCount events := by
  induction events generalizing kept with
  | nil => rfl
  | cons event rest induction =>
      have first := (versions_step kept event).1
      have later := induction (kept.step event)
      rw [run, List.foldl_cons, changeCount, ← run, later, first, Nat.add_assoc]

theorem unsaved_run (kept : KeptStore) (events : List StoreEvent) {already : Nat}
    (counted : kept.store.version = kept.store.savedVersion + already) :
    (kept.run events).store.version =
      (kept.run events).store.savedVersion + kept.unsavedCount already events := by
  -- Saving begins the count anew, so it may stand anywhere when the rest is run.
  induction events generalizing kept already with
  | nil => exact counted
  | cons event rest induction =>
      rcases versions_step kept event with ⟨version, savedVersion⟩
      rw [run, List.foldl_cons, unsavedCount, ← run]
      apply induction
      rw [savedVersion]
      cases kept.saves event with
      | true => rfl
      | false =>
          rw [version, counted, Nat.add_assoc]
          rfl

theorem run_append (kept : KeptStore) (earlier later : List StoreEvent) :
    kept.run (earlier ++ later) = (kept.run earlier).run later :=
  List.foldl_append

theorem hasNews_run (kept : KeptStore) (events : List StoreEvent) :
    (Subscription.start kept.store).hasNews (kept.run events).store = true ↔
      0 < kept.changeCount events := by
  have count := version_run kept events
  rw [Subscription.hasNews, bne_iff_ne, count]
  change kept.store.version + kept.changeCount events ≠ kept.store.version ↔ _
  omega

theorem hasUnsaved_run (kept : KeptStore) (events : List StoreEvent) {already : Nat}
    (counted : kept.store.version = kept.store.savedVersion + already) :
    (kept.run events).store.hasUnsaved = false ↔ kept.unsavedCount already events = 0 := by
  rw [SettingsStore.hasUnsaved, unsaved_run kept events counted, bne_eq_false_iff_eq]
  omega

end KeptStore
end GatewayConsole
