import GatewayConsole.Proofs.Command.Reading
import GatewayConsole.Proofs.Command.Tasks
import GatewayConsole.Proofs.Pricing.Pages

/-!
# Resuming the pricing view

A view that has been saved is shown again by a command that sets nothing, page by page as it
was. The page that is saved lies inside the list already, and all criteria come back from the
file.
-/

namespace GatewayConsole

/-! ## Commands that set nothing -/

structure GlobalOptions.PrintsAs (later earlier : GlobalOptions) : Prop where
  format : later.format = earlier.format
  pretty : later.pretty = earlier.pretty
  noColor : later.noColor = earlier.noColor

namespace PricingOptions

/-- Whether options show the saved view as it is, in the way that others show theirs. -/
structure Resumes (later earlier : PricingOptions) : Prop where
  criteria : later.setsCriteria = false
  page : later.page = none
  reset : later.reset = false
  save : later.save = false
  pageSize : later.pageSize = earlier.pageSize
  facetsOnly : later.facetsOnly = earlier.facetsOnly

structure Finds (options : PricingOptions) (around : Surroundings) (shared : GlobalOptions)
    (world : World) (translate : Translator) (catalog : Catalog) : Prop where
  labels : ((Task.loadTranslator shared).runIn world).1 = .ok translate
  catalog : ((options.catalog around shared (Task.settingsIn around shared world)).runIn world).1 =
    .ok catalog

variable {options later : PricingOptions}

theorem view_of_resumes (resumes : later.Resumes options) (saved : PricingView) :
    later.view saved = saved := by
  simp [view, withPage, resumes.criteria, resumes.page, resumes.reset]

theorem report_of_resumes (resumes : later.Resumes options) (translate : Translator)
    (catalog : Catalog) (view : PricingView) :
    later.report translate catalog (options.report translate catalog view).1 =
      options.report translate catalog view := by
  have size : later.modelsPerPage = options.modelsPerPage := by
    rw [modelsPerPage, resumes.pageSize, modelsPerPage]
  simp only [report, size, resumes.facetsOnly, Page.paginate_page]

theorem output_of_prints {shared laterShared : GlobalOptions} (prints : laterShared.PrintsAs shared)
    (translate : Translator) (report : PricingReport) :
    output laterShared translate report = output shared translate report := by
  have json (value : Json) : Output.json laterShared value = Output.json shared value := by
    rw [Output.json, prints.pretty, Output.json]
  have styled : Output.styled laterShared = Output.styled shared := by
    funext text
    rw [Output.styled, prints.noColor, Output.styled]
  rw [output, output, GlobalOptions.writesJson, prints.format, json, styled,
    GlobalOptions.writesJson]

theorem isReadable_view (entered : options.IsEntered) {saved : PricingView}
    (readable : saved.criteria.IsReadable) : (options.view saved).criteria.IsReadable := by
  have start : (if options.reset then PricingView.initial else saved).criteria.IsReadable := by
    split
    · decide
    · exact readable
  have withPage (view : PricingView) : (options.withPage view).criteria = view.criteria := by
    rw [PricingOptions.withPage]
    split <;> rfl
  rw [view, withPage]
  split
  · exact entered _ start
  · exact start

theorem leaves_catalog (options : PricingOptions) (around : Surroundings) (shared : GlobalOptions)
    (settings : Settings) : (options.catalog around shared settings).Leaves (·.work) := by
  unfold catalog
  split
  · apply (Task.leaves_fileText _ _).bind
    intro text
    split
    · exact Task.leaves_pure _
    · exact Task.leaves_fail _
  · apply (Task.leaves_connect _ _).bind
    intro client
    exact Task.leaves_call around _

variable {around : Surroundings} {shared : GlobalOptions} {world after : World}

theorem runIn_catalog_of_file {settings : Settings} {path text : String} {catalog : Catalog}
    (file : options.catalogFile = some path)
    (found : world.work.disk.text? (Path.ofText path) = some text)
    (reads : (Document.ofText? text).bind Catalog.ofTree? = some catalog) :
    (options.catalog around shared settings).runIn world = (.ok catalog, world) := by
  rw [PricingOptions.catalog, file]
  refine (Task.runIn_bind_of_ok (Task.fileText_of_found found)).trans ?_
  rw [reads]
  rfl

theorem run_ok {printed : String}
    (ran : (options.run around shared).runIn world = (.ok printed, after)) :
    ∃ translate catalog, options.Finds around shared world translate catalog ∧
      let shown := options.report translate catalog
        (options.view (Task.settingsIn around shared world).pricing)
      printed = output shared translate shown.2 ∧
      (options.save = true ∨ options.reset = true → Task.settingsIn around shared after =
        { Task.settingsIn around shared world with pricing := shown.1 }.reread) := by
  unfold run at ran
  rcases Task.runIn_bind_ok_iff.mp ran with ⟨store, first, loads, ran⟩
  rcases Task.loadStore_ok loads with ⟨same, isLoaded⟩
  have settings : store.settings = Task.settingsIn around shared world := by rw [isLoaded]; rfl
  have path : store.path = Path.ofText (Task.settingsFile around shared) := by rw [isLoaded]; rfl
  rw [same, settings] at ran
  rcases Task.runIn_bind_ok_iff.mp ran with ⟨translate, second, translates, ran⟩
  cases (Task.leaves_loadTranslator shared).world_eq translates
  rcases Task.runIn_bind_ok_iff.mp ran with ⟨catalog, third, finds, ran⟩
  refine ⟨translate, catalog, ⟨congrArg Prod.fst translates, congrArg Prod.fst finds⟩, ?_⟩
  generalize options.report translate catalog
    (options.view (Task.settingsIn around shared world).pricing) = shown at ran ⊢
  rcases shown with ⟨view, report⟩
  dsimp only at ran ⊢
  split at ran
  next keeps =>
    rcases Task.runIn_bind_ok_iff.mp ran with ⟨_, fourth, saves, ran⟩
    cases ran
    rcases Task.runIn_discard_ok saves with ⟨saved, saves⟩
    have loads := Task.settings_load_saveStore saves
    rw [SettingsStore.setPricingView, KeptStore.path_update, SettingsStore.settings_update,
      settings, path] at loads
    exact ⟨rfl, fun _ => loads⟩
  next drops =>
    cases ran
    refine ⟨rfl, fun keeps => absurd ?_ drops⟩
    rw [Bool.or_eq_true]
    exact keeps

theorem pricing_of_saved {translate : Translator} {catalog : Catalog} (entered : options.IsEntered)
    (saved : Task.settingsIn around shared after =
      { Task.settingsIn around shared world with
        pricing := (options.report translate catalog
          (options.view (Task.settingsIn around shared world).pricing)).1 }.reread) :
    (Task.settingsIn around shared after).pricing = (options.report translate catalog
      (options.view (Task.settingsIn around shared world).pricing)).1 := by
  have readable := isReadable_view entered (KeptStore.isReadable_load world.work.disk
    (Path.ofText (Task.settingsFile around shared)))
  rw [saved]
  exact (PricingView.reread_eq_self_iff _).mpr readable

theorem runIn_run {translate : Translator} {catalog : Catalog} {between : World}
    (labels : (Task.loadTranslator shared).runIn world = (.ok translate, world))
    (found : (options.catalog around shared (Task.settingsIn around shared world)).runIn world =
      (.ok catalog, between)) :
    (options.run around shared).runIn world =
      let shown := options.report translate catalog
        (options.view (Task.settingsIn around shared world).pricing)
      Task.runIn (do
        if options.save || options.reset then
          discard (Task.saveStore ((Task.storeIn around shared world).setPricingView shown.1))
        return output shared translate shown.2) between := by
  have loads := Task.runIn_loadStore around shared world
  exact (Task.runIn_bind_of_ok loads).trans
    ((Task.runIn_bind_of_ok labels).trans ((Task.runIn_bind_of_ok found).trans rfl))

theorem run_of_saved {translate : Translator} {catalog : Catalog} {between : World} {work : Work}
    (keeps : (options.save || options.reset) = true)
    (labels : (Task.loadTranslator shared).runIn world = (.ok translate, world))
    (found : (options.catalog around shared (Task.settingsIn around shared world)).runIn world =
      (.ok catalog, between))
    (saved : between.work.save (Path.ofText (Task.settingsFile around shared))
      { Task.settingsIn around shared world with
        pricing := (options.report translate catalog
          (options.view (Task.settingsIn around shared world).pricing)).1 : Settings }.toText =
            (.ok (), work)) :
    ∃ printed, (options.run around shared).runIn world =
      (.ok printed, { between with work }) := by
  rw [runIn_run labels found]
  dsimp only
  rw [if_pos keeps]
  refine ⟨_, Task.runIn_bind_of_ok (Task.runIn_discard_of_ok (Task.saveStore_of_saved ?_))⟩
  rw [SettingsStore.setPricingView, KeptStore.path_update, SettingsStore.settings_update]
  exact saved

theorem run_of_finds {translate : Translator} {catalog : Catalog} (save : options.save = false)
    (reset : options.reset = false) (finds : options.Finds around shared world translate catalog) :
    ∃ last, (options.run around shared).runIn world =
        (.ok (output shared translate (options.report translate catalog
          (options.view (Task.settingsIn around shared world).pricing)).2), last) ∧
      last.work = world.work := by
  have labels : (Task.loadTranslator shared).runIn world = (.ok translate, world) :=
    Prod.ext finds.labels ((Task.leaves_loadTranslator shared : Task.Leaves id _) world)
  have leaves := leaves_catalog options around shared (Task.settingsIn around shared world) world
  rcases found : (options.catalog around shared (Task.settingsIn around shared world)).runIn world
    with ⟨outcome, last⟩
  rw [found] at leaves
  have isCatalog : outcome = .ok catalog := (congrArg Prod.fst found).symm.trans finds.catalog
  cases isCatalog
  refine ⟨last, ?_, leaves⟩
  rw [runIn_run labels found, save, reset]
  rfl

end PricingOptions

/-! ## Resuming -/

/-- What a command that saves the pricing view prints is printed again, without changes of the
disk, by a command that sets nothing and finds the same labels and the same catalog. -/
theorem runCommandLine_resumed {around laterAround : Surroundings}
    {environment laterEnvironment : Keyed String} {arguments laterArguments : List String}
    {shared laterShared : GlobalOptions} {options later : PricingOptions} {world after : World}
    {printed : String}
    (reads : CommandLine.read environment arguments = .command shared (.pricing options))
    (keeps : options.save = true ∨ options.reset = true)
    (succeeds : runCommandLine around environment arguments world = (.succeeded printed, after))
    (laterReads :
      CommandLine.read laterEnvironment laterArguments = .command laterShared (.pricing later))
    (resumes : later.Resumes options) (prints : laterShared.PrintsAs shared)
    (sameFile : Task.settingsFile laterAround laterShared = Task.settingsFile around shared) :
    ∃ translate catalog, options.Finds around shared world translate catalog ∧
      (later.Finds laterAround laterShared after translate catalog →
        ∃ last, runCommandLine laterAround laterEnvironment laterArguments after =
            (.succeeded printed, last) ∧
          last.work = after.work) := by
  have ran := (runCommandLine_succeeded_iff reads).mp succeeds
  rcases PricingOptions.run_ok ran with ⟨translate, catalog, finds, isPrinted, saved⟩
  refine ⟨translate, catalog, finds, fun laterFinds => ?_⟩
  rcases PricingOptions.run_of_finds resumes.save resumes.reset laterFinds with
    ⟨last, laterRan, work⟩
  refine ⟨last, (runCommandLine_succeeded_iff laterReads).mpr ?_, work⟩
  have again := PricingOptions.pricing_of_saved (CommandLine.isEntered_of_read reads)
    (saved keeps)
  have settings : Task.settingsIn laterAround laterShared after =
      Task.settingsIn around shared after :=
    congrArg SettingsStore.settings (Task.storeIn_congr sameFile rfl)
  rw [settings, PricingOptions.view_of_resumes resumes, again,
    PricingOptions.report_of_resumes resumes, PricingOptions.output_of_prints prints, ← isPrinted]
    at laterRan
  exact laterRan

theorem runCommandLine_resumed_of_page :
    let model (tags : String) : Json :=
      .object [("model_name", .text "m"), ("tags", .text tags)]
    let prices : Json := .object [("data", .array [model "new", model "NEW;fast"])]
    let around : Surroundings := ⟨.absent, "/", ⟨2024, 2, 29, by decide⟩⟩
    let world : World :=
      ⟨.start (Disk.empty.put ["prices"] (.file 0o600 prices.compact)) [], .silent⟩
    ∃ printed after last,
      runCommandLine around [] ["pricing", "--config", "s.json", "--input", "prices",
        "--tag", "new", "--page", "9", "--save"] world = (.succeeded printed, after) ∧
      runCommandLine around [] ["pricing", "--config", "s.json", "--input", "prices"] after =
        (.succeeded printed, last) := by
  intro model prices around world
  let shared : GlobalOptions := { GlobalOptions.initial with settingsFile := some "s.json" }
  let later : PricingOptions := { PricingOptions.initial with catalogFile := some "prices" }
  let options : PricingOptions :=
    { later with tag := some (.only "new"), page := some 9, save := true }
  have reads : CommandLine.read [] ["pricing", "--config", "s.json", "--input", "prices",
      "--tag", "new", "--page", "9", "--save"] = .command shared (.pricing options) := by
    decide +kernel
  have laterReads : CommandLine.read [] ["pricing", "--config", "s.json", "--input", "prices"] =
      .command shared (.pricing later) := by decide +kernel
  have survives : prices.Survives Reader.depthLimit := ⟨rfl, by decide⟩
  let catalog : Catalog := ⟨[⟨"m", none, some "new", [], none, [], none, none, none, none⟩,
    ⟨"m", none, some "NEW;fast", [], none, [], none, none, none, none⟩], ⟨[], []⟩⟩
  have isCatalog : (Document.ofText? prices.compact).bind Catalog.ofTree? = some catalog := by
    rw [survives.document_compact]
    rfl
  have labels : (Task.loadTranslator shared).runIn world = (.ok .unchanged, world) := rfl
  have saves (old text : String) : ∃ work,
      (Work.start (Disk.empty.put ["prices"] (.file 0o600 old)) []).save (Path.ofText "s.json")
        text = (.ok (), work) ∧
      work.disk.text? (Path.ofText "prices") = some old := by
    refine ⟨_, rfl, ?_⟩
    rfl
  rcases saves prices.compact _ with ⟨work, saved, text⟩
  have found {options : PricingOptions} {settings : Settings} {state : World}
      (file : options.catalogFile = some "prices")
      (text : state.work.disk.text? (Path.ofText "prices") = some prices.compact) :
      (options.catalog around shared settings).runIn state = (.ok catalog, state) :=
    PricingOptions.runIn_catalog_of_file file text isCatalog
  rcases PricingOptions.run_of_saved rfl labels (@found options _ world rfl rfl) saved with
    ⟨printed, ran⟩
  have succeeds := (runCommandLine_succeeded_iff reads).mpr ran
  rcases runCommandLine_resumed reads (.inl rfl) succeeds laterReads
      ⟨rfl, rfl, rfl, rfl, rfl, rfl⟩ ⟨rfl, rfl, rfl⟩ rfl with ⟨translate, other, finds, resumed⟩
  have sameCatalog := finds.catalog
  rw [@found options _ world rfl rfl] at sameCatalog
  cases sameCatalog
  rcases resumed ⟨finds.labels, congrArg Prod.fst (@found later _ { world with work } rfl text)⟩
    with ⟨last, laterRan, _⟩
  exact ⟨printed, _, last, succeeds, laterRan⟩

end GatewayConsole
