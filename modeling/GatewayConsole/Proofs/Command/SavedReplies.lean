import GatewayConsole.Proofs.Command.ResumedView
import GatewayConsole.Proofs.Gateway.Calls
import GatewayConsole.Proofs.Pricing.CatalogTexts

/-!
# Saved replies

Prices are shown alike from the gateway and from a file with the same text. The gateway has
to say that the call succeeded. A file holds a catalog and need not say so.
-/

namespace GatewayConsole

/-! ## Runs that end alike -/

namespace Task

variable {α β : Type} {left right : Except CommandError α × World} {world other : World}

/-- Whether two runs fail both or come to the same value, and leave the same disk. -/
structure EndAlike (left right : Except CommandError α × World) : Prop where
  work : left.2.work = right.2.work
  outcome : (∃ value, left.1 = .ok value ∧ right.1 = .ok value) ∨
    ∃ error trouble, left.1 = .error error ∧ right.1 = .error trouble

theorem endAlike_refl (left : Except CommandError α × World) : EndAlike left left := by
  refine ⟨rfl, ?_⟩
  cases left.1 with
  | ok value => exact .inl ⟨value, rfl, rfl⟩
  | error error => exact .inr ⟨error, error, rfl, rfl⟩

theorem EndAlike.bind {first second : Task α} {onward further : α → Task β}
    (alike : EndAlike (first.runIn world) (second.runIn other))
    (later : ∀ value between beside, between.work = beside.work →
      first.runIn world = (.ok value, between) → second.runIn other = (.ok value, beside) →
        EndAlike ((onward value).runIn between) ((further value).runIn beside)) :
    EndAlike ((first >>= onward).runIn world) ((second >>= further).runIn other) := by
  rw [runIn_bind, runIn_bind]
  rcases firstRan : first.runIn world with ⟨outcome, between⟩
  rcases secondRan : second.runIn other with ⟨ending, beside⟩
  rw [firstRan, secondRan] at alike
  rcases alike with ⟨work, ⟨value, isValue, isSame⟩ | ⟨error, trouble, isError, isTrouble⟩⟩
  · cases isValue
    cases isSame
    exact later value between beside work firstRan secondRan
  · cases isError
    cases isTrouble
    exact ⟨work, .inr ⟨error, trouble, rfl, rfl⟩⟩

theorem endAlike_saveStore (store : SettingsStore) (same : world.work = other.work) :
    EndAlike ((saveStore store).runIn world) ((saveStore store).runIn other) := by
  rw [runIn_saveStore, runIn_saveStore, same]
  rcases store.saveWith other.work with ⟨result, saved, work⟩
  cases result with
  | ok => exact ⟨rfl, .inl ⟨saved, rfl, rfl⟩⟩
  | error error => exact ⟨rfl, .inr ⟨_, _, rfl, rfl⟩⟩

theorem endAlike_pure (value : α) (same : world.work = other.work) :
    EndAlike ((pure value : Task α).runIn world) ((pure value : Task α).runIn other) :=
  ⟨same, .inl ⟨value, rfl, rfl⟩⟩

theorem endAlike_keep (keeps : Bool) (store : SettingsStore) (printed : String)
    (same : world.work = other.work) :
    let keep : Task String := do
      if keeps then
        discard (saveStore store)
      return printed
    EndAlike (keep.runIn world) (keep.runIn other) := by
  intro keep
  cases keeps with
  | false => exact endAlike_pure printed same
  | true =>
      refine EndAlike.bind ((endAlike_saveStore store same).bind ?_) ?_
      · exact fun _ _ _ saved _ _ => endAlike_pure () saved
      · exact fun _ _ _ saved _ _ => endAlike_pure printed saved

end Task

/-! ## Showing prices -/

namespace PricingOptions

variable {options : PricingOptions} {around : Surroundings} {shared : GlobalOptions}
variable {world : World}

def from? (options : PricingOptions) (file : Option String) : PricingOptions :=
  { options with catalogFile := file }

theorem endAlike_run (options : PricingOptions) {file other : Option String}
    (catalogs : Task.EndAlike
      (((options.from? file).catalog around shared
        (Task.settingsIn around shared world)).runIn world)
      (((options.from? other).catalog around shared
        (Task.settingsIn around shared world)).runIn world)) :
    Task.EndAlike (((options.from? file).run around shared).runIn world)
      (((options.from? other).run around shared).runIn world) := by
  refine (Task.endAlike_refl ((Task.loadStore around shared).runIn world)).bind ?_
  intro store between beside _ loads loadsBeside
  rcases Task.loadStore_ok loads with ⟨rfl, rfl⟩
  rcases Task.loadStore_ok loadsBeside with ⟨rfl, _⟩
  refine (Task.endAlike_refl ((Task.loadTranslator shared).runIn _)).bind ?_
  intro translate between beside _ translates translatesBeside
  cases (Task.leaves_loadTranslator shared).world_eq translates
  cases (Task.leaves_loadTranslator shared).world_eq translatesBeside
  -- From here on, the runs may be in worlds that differ in what has been exchanged.
  refine catalogs.bind fun catalog between beside same _ _ => ?_
  exact Task.endAlike_keep (options.save || options.reset) _ _ same

/-! ## Catalogs from both sides -/

structure AnswersPrices (around : Surroundings) (shared : GlobalOptions) (world : World)
    (client : GatewayClient) (request : Request) (reply : Reply) : Prop where
  connected : (Task.connect (Task.settingsIn around shared world) shared).runIn world =
    (.ok client, world)
  made : client.request .get ["api", "pricing"] [] none = .ok request
  sendable : request.isSendable = true
  answered : around.gateway world.traffic.exchanges request = .answered reply

variable {client : GatewayClient} {request : Request} {reply : Reply} {json : Json}
variable {path text : String} {settings : Settings}

theorem runIn_catalog_of_text (hasText : json.HasText text)
    (holds : world.work.disk.text? (Path.ofText path) = some text) :
    ((options.from? (some path)).catalog around shared settings).runIn world =
      match Catalog.ofTree? json with
      | some catalog => (.ok catalog, world)
      | none => (.error (.invalidCatalog path), world) := by
  refine (Task.runIn_bind_of_ok (Task.fileText_of_found holds)).trans ?_
  rw [hasText.catalog]
  cases Catalog.ofTree? json <;> rfl

theorem runIn_catalog_of_answer (success : reply.status = 200)
    (answers : AnswersPrices around shared world client request reply) :
    ((options.from? none).catalog around shared (Task.settingsIn around shared world)).runIn
        world =
      ((GatewayClient.catalogOf reply).mapError .gateway,
        { world with traffic := world.traffic.exchange request (.answered reply) }) := by
  have inRange : 200 ≤ reply.status ∧ reply.status < 300 := by rw [success]; decide
  have called : client.pricing around.gateway world.traffic =
      (GatewayClient.catalogOf reply, world.traffic.exchange request (.answered reply)) :=
    GatewayClient.call_of_answer answers.made answers.sendable answers.answered inRange
  refine (Task.runIn_bind_of_ok answers.connected).trans ?_
  rw [Task.runIn_call, called]

theorem endAlike_catalog (hasText : json.HasText text)
    (holds : world.work.disk.text? (Path.ofText path) = some text)
    (success : reply.status = 200) (whole : reply.body = .whole text)
    (answers : AnswersPrices around shared world client request reply)
    (fits : json.ReportsSuccess ∨ Catalog.ofTree? json = none) :
    Task.EndAlike
      (((options.from? (some path)).catalog around shared
        (Task.settingsIn around shared world)).runIn world)
      (((options.from? none).catalog around shared
        (Task.settingsIn around shared world)).runIn world) := by
  have brings (catalog : Catalog) : GatewayClient.catalogOf reply = .ok catalog ↔
      json.ReportsSuccess ∧ Catalog.ofTree? json = some catalog :=
    hasText.catalogOf_ok_iff whole
  rw [runIn_catalog_of_text hasText holds, runIn_catalog_of_answer success answers]
  cases read : Catalog.ofTree? json with
  | some catalog =>
      have reports := fits.resolve_right (by rw [read]; exact Option.some_ne_none catalog)
      rw [(brings catalog).mpr ⟨reports, read⟩]
      exact ⟨rfl, .inl ⟨catalog, rfl, rfl⟩⟩
  | none =>
      cases brought : GatewayClient.catalogOf reply with
      | error error => exact ⟨rfl, .inr ⟨_, _, rfl, rfl⟩⟩
      | ok catalog => exact nomatch read.symm.trans ((brings catalog).mp brought).2

end PricingOptions

/-! ## Command lines -/

theorem runCommandLine_of_text {around : Surroundings} {shared : GlobalOptions}
    {environment : Keyed String} {arguments : List String} {options : PricingOptions}
    {world : World} {json : Json} {path text : String} {catalog : Catalog}
    (hasText : json.HasText text)
    (reads : CommandLine.read environment arguments =
      .command shared (.pricing (options.from? (some path))))
    (holds : world.work.disk.text? (Path.ofText path) = some text)
    (isCatalog : Catalog.ofTree? json = some catalog) (save : options.save = false)
    (reset : options.reset = false) (unlabelled : shared.labelsFile = none) :
    ∃ printed last, runCommandLine around environment arguments world =
      (.succeeded printed, last) := by
  have labels : ((Task.loadTranslator shared).runIn world).1 = .ok .unchanged := by
    rw [Task.loadTranslator, unlabelled]
    rfl
  have found : ((options.from? (some path)).catalog around shared
      (Task.settingsIn around shared world)).runIn world = (.ok catalog, world) := by
    rw [PricingOptions.runIn_catalog_of_text hasText holds, isCatalog]
  have sameSave : (options.from? (some path)).save = false := save
  have sameReset : (options.from? (some path)).reset = false := reset
  rcases PricingOptions.run_of_finds sameSave sameReset ⟨labels, congrArg Prod.fst found⟩ with
    ⟨last, ran, _⟩
  exact ⟨_, last, (runCommandLine_succeeded_iff reads).mpr ran⟩

theorem runCommandLine_of_unreported {around : Surroundings} {shared : GlobalOptions}
    {environment : Keyed String} {arguments : List String} {options : PricingOptions}
    {world : World} {client : GatewayClient} {request : Request} {reply : Reply} {json : Json}
    {text : String} (hasText : json.HasText text)
    (reads : CommandLine.read environment arguments =
      .command shared (.pricing (options.from? none)))
    (answers : PricingOptions.AnswersPrices around shared world client request reply)
    (success : reply.status = 200) (whole : reply.body = .whole text)
    (unreported : ¬json.ReportsSuccess) :
    ∃ error, (runCommandLine around environment arguments world).1 = .failed error := by
  rcases finished : runCommandLine around environment arguments world with ⟨result, last⟩
  rcases runCommandLine_cases reads finished with ⟨outcome, ran, rfl⟩
  cases outcome with
  | error error => exact ⟨error, rfl⟩
  | ok printed =>
      rcases PricingOptions.run_ok ran with ⟨_, catalog, finds, _⟩
      have found := finds.catalog
      rw [PricingOptions.runIn_catalog_of_answer success answers] at found
      cases brought : GatewayClient.catalogOf reply with
      | ok known => exact absurd ((hasText.catalogOf_ok_iff whole).mp brought).1 unreported
      | error error =>
          rw [brought] at found
          exact nomatch found

/-- A command that reads a value from a file and one that asks the gateway for it, with the
same options otherwise, print the same and leave the same disk, or fail both, when the value
reports success or is no catalog. The gateway's value has to report success, the file's has
not. -/
theorem runCommandLine_from_file_or_gateway {around : Surroundings} {shared : GlobalOptions}
    {environment laterEnvironment : Keyed String} {arguments laterArguments : List String}
    {options : PricingOptions} {world : World} {client : GatewayClient} {request : Request}
    {reply : Reply} {json : Json} {path text : String}
    (hasText : json.HasText text)
    (reads : CommandLine.read environment arguments =
      .command shared (.pricing (options.from? (some path))))
    (holds : world.work.disk.text? (Path.ofText path) = some text)
    (laterReads : CommandLine.read laterEnvironment laterArguments =
      .command shared (.pricing (options.from? none)))
    (answers : PricingOptions.AnswersPrices around shared world client request reply)
    (success : reply.status = 200) (whole : reply.body = .whole text) :
    let file := runCommandLine around environment arguments world
    let live := runCommandLine around laterEnvironment laterArguments world
    (json.ReportsSuccess ∨ Catalog.ofTree? json = none →
      file.2.work = live.2.work ∧
      ((∃ printed, file.1 = .succeeded printed ∧ live.1 = .succeeded printed) ∨
        ∃ error trouble, file.1 = .failed error ∧ live.1 = .failed trouble)) ∧
    (¬json.ReportsSuccess → ∃ error, live.1 = .failed error) := by
  intro file live
  rcases runCommandLine_cases reads (Prod.mk.eta (p := file)).symm with ⟨ending, ran, isFile⟩
  rcases runCommandLine_cases laterReads (Prod.mk.eta (p := live)).symm with
    ⟨outcome, laterRan, isLive⟩
  refine ⟨fun fits => ?_, ?_⟩
  · have alike := PricingOptions.endAlike_run options
      (PricingOptions.endAlike_catalog hasText holds success whole answers fits)
    have fileRan : ((options.from? (some path)).run around shared).runIn world =
      (ending, file.2) := ran
    have liveRan : ((options.from? none).run around shared).runIn world =
      (outcome, live.2) := laterRan
    rw [fileRan, liveRan] at alike
    refine ⟨alike.work, ?_⟩
    rw [isFile, isLive]
    rcases alike.outcome with ⟨printed, fileEnds, liveEnds⟩ | ⟨error, trouble, fileEnds, liveEnds⟩
    · cases fileEnds
      cases liveEnds
      exact .inl ⟨printed, rfl, rfl⟩
    · cases fileEnds
      cases liveEnds
      exact .inr ⟨error, trouble, rfl, rfl⟩
  · exact runCommandLine_of_unreported hasText laterReads answers success whole

theorem PricingOptions.exists_answersPrices {prices : Json} {catalog : Catalog}
    (hasText : prices.HasText prices.compact) (isCatalog : Catalog.ofTree? prices = some catalog) :
    let around : Surroundings :=
      ⟨fun _ _ => .answered ⟨200, [], .whole prices.compact⟩, "/", ⟨2024, 2, 29, by decide⟩⟩
    let world : World :=
      ⟨.start (Disk.empty.put ["prices"] (.file 0o600 prices.compact)) [], .silent⟩
    let arguments := ["pricing", "--config", "s.json", "--server", "http://gw"]
    ∃ shared client request,
      CommandLine.read [] (arguments ++ ["--input", "prices"]) =
        .command shared (.pricing (PricingOptions.initial.from? (some "prices"))) ∧
      CommandLine.read [] arguments =
        .command shared (.pricing (PricingOptions.initial.from? none)) ∧
      AnswersPrices around shared world client request ⟨200, [], .whole prices.compact⟩ ∧
      ∃ printed last, runCommandLine around [] (arguments ++ ["--input", "prices"]) world =
        (.succeeded printed, last) := by
  intro around world arguments
  let shared : GlobalOptions :=
    { GlobalOptions.initial with settingsFile := some "s.json", server := some "http://gw" }
  let client : GatewayClient :=
    ⟨⟨"http", .path (some ⟨"", some (.domain "gw"), none⟩) [""], none, none⟩, none, .standard⟩
  have located : GatewayClient.ofAddress "http://gw" = .ok client := rfl
  have missing : world.work.disk.text? (Path.ofText (Task.settingsFile around shared)) = none := by
    have file : Task.settingsFile around shared = "s.json" := rfl
    rw [file]
    rfl
  have connected : (Task.connect (Task.settingsIn around shared world) shared).runIn world =
      (.ok client, world) := by
    rw [Task.settingsIn_of_missing missing]
    exact Task.connect_of_server rfl located .initial world
  rcases made : client.request .get ["api", "pricing"] [] none with error | request
  · exact nomatch made
  have sendable : request.isSendable = true := by
    cases made
    decide +kernel
  have reads : CommandLine.read [] (arguments ++ ["--input", "prices"]) =
      .command shared (.pricing (PricingOptions.initial.from? (some "prices"))) := by
    decide +kernel
  have holds : world.work.disk.text? (Path.ofText "prices") = some prices.compact := rfl
  exact ⟨shared, client, request, reads, by decide +kernel, ⟨connected, made, sendable, rfl⟩,
    runCommandLine_of_text hasText reads holds isCatalog rfl rfl rfl⟩

theorem runCommandLine_from_file_or_gateway_of_success :
    let prices : Json :=
      .object [("data", .array [.object [("model_name", .text "m")]]), ("success", .bool true)]
    let around : Surroundings :=
      ⟨fun _ _ => .answered ⟨200, [], .whole prices.compact⟩, "/", ⟨2024, 2, 29, by decide⟩⟩
    let world : World :=
      ⟨.start (Disk.empty.put ["prices"] (.file 0o600 prices.compact)) [], .silent⟩
    let arguments := ["pricing", "--config", "s.json", "--server", "http://gw"]
    prices.ReportsSuccess ∧ ∃ printed,
      (runCommandLine around [] (arguments ++ ["--input", "prices"]) world).1 =
        .succeeded printed ∧
      (runCommandLine around [] arguments world).1 = .succeeded printed := by
  intro prices around world arguments
  have survives : prices.Survives Reader.depthLimit := ⟨rfl, by decide⟩
  have hasText : prices.HasText prices.compact :=
    Json.hasText_of_ascend (by decide) survives.document_compact
  have isCatalog : Catalog.ofTree? prices =
      some ⟨[⟨"m", none, none, [], none, [], none, none, none, none⟩], ⟨[], []⟩⟩ := rfl
  rcases PricingOptions.exists_answersPrices hasText isCatalog with
    ⟨shared, client, request, reads, laterReads, answers, printed, last, shows⟩
  have both := runCommandLine_from_file_or_gateway hasText reads rfl laterReads answers rfl rfl
  have ends := (both.1 (.inl rfl)).2
  rw [shows] at ends
  refine ⟨rfl, ?_⟩
  rcases ends with ⟨shown, isShown, live⟩ | ⟨error, _, failed, _⟩
  · exact ⟨shown, by rw [shows, isShown], live⟩
  · exact nomatch failed

/-- A refusal that a gateway answers with is reported, but if it was saved to a file it is shown
as prices of nothing. -/
theorem runCommandLine_of_unreported_prices :
    let prices : Json :=
      .object [("message", .text "no permission"), ("success", .bool false)]
    let around : Surroundings :=
      ⟨fun _ _ => .answered ⟨200, [], .whole prices.compact⟩, "/", ⟨2024, 2, 29, by decide⟩⟩
    let world : World :=
      ⟨.start (Disk.empty.put ["prices"] (.file 0o600 prices.compact)) [], .silent⟩
    let arguments := ["pricing", "--config", "s.json", "--server", "http://gw"]
    (∃ printed, (runCommandLine around [] (arguments ++ ["--input", "prices"]) world).1 =
        .succeeded printed) ∧
      ∃ error, (runCommandLine around [] arguments world).1 = .failed error := by
  intro prices around world arguments
  have survives : prices.Survives Reader.depthLimit := ⟨rfl, by decide⟩
  have hasText : prices.HasText prices.compact :=
    Json.hasText_of_ascend (by decide) survives.document_compact
  have isCatalog : Catalog.ofTree? prices =
      some ⟨[], ⟨[], []⟩⟩ := rfl
  have unreported : ¬prices.ReportsSuccess :=
    fun reports => absurd (Option.some.inj reports) (by decide)
  rcases PricingOptions.exists_answersPrices hasText isCatalog with
    ⟨shared, client, request, _, laterReads, answers, printed, last, shows⟩
  exact ⟨⟨printed, congrArg Prod.fst shows⟩,
    runCommandLine_of_unreported hasText laterReads answers rfl rfl unreported⟩

end GatewayConsole
