import GatewayConsole.Proofs.Command.Tasks
import GatewayConsole.Proofs.Gateway.Calls

/-!
# Closed notices

A notice that is closed stays closed for the day, also when the console is started again in
between. Only the day on which it was last closed counts: on every other day the notice is
shown, be it a day before that.
-/

namespace GatewayConsole

/-! ## Presenting a notice -/

namespace NoticeOptions

variable {options : NoticeOptions} {around : Surroundings} {client : GatewayClient}
  {store : SettingsStore} {world after : World} {result : Except CommandError NoticeReport}

def Asks (options : NoticeOptions) (closedOn : Option Date) (today : Date) : Prop :=
  options.force = true ∨ closedOn ≠ some today

theorem closed_of_not_asks {closedOn : Option Date} {today : Date}
    (unasked : ¬options.Asks closedOn today) : options.force = false ∧ closedOn = some today := by
  rcases not_or.mp unasked with ⟨unforced, closed⟩
  exact ⟨Bool.eq_false_iff.mpr unforced, not_not.mp closed⟩

/-- What presenting a notice comes to when it was last closed on some day. -/
structure Presents (options : NoticeOptions) (around : Surroundings) (client : GatewayClient)
    (closedOn : Option Date) (world : World) (result : Except CommandError NoticeReport)
    (after : World) : Prop where
  work : after.work = world.work
  asked : ∀ request, client.request .get ["api", "notice"] [] none = .ok request →
    request.isSendable = true →
    (world.traffic.Attempts request after.traffic ↔ options.Asks closedOn around.today)
  told : options.Asks closedOn around.today →
    ∃ answer, client.notice around.gateway world.traffic = (answer, after.traffic) ∧
      match answer with
      | .ok content => ∃ report, result = .ok report ∧ report.content = content
      | .error error => result = .error (.gateway error)
  untold : ¬options.Asks closedOn around.today → result = .ok ⟨false, true, ""⟩ ∧ after = world
  shown : ∀ report, result = .ok report →
    (report.visible = true ↔
      Text.isBlankText report.content = false ∧ options.Asks closedOn around.today) ∧
    (report.dismissedToday = true ↔ closedOn = some around.today)

theorem report_of_asks (asks : options.Asks store.settings.noticeClosedOn around.today) :
    options.report around client store = do
      let content ← Task.call around client.notice
      return ⟨!Text.isBlankText content, store.noticeClosedOn around.today, content⟩ := by
  unfold report
  dsimp only
  rcases asks with force | other
  · rw [force, Bool.not_true, Bool.and_false, if_neg Bool.false_ne_true]
    rfl
  · have unclosed : (store.settings.noticeClosedOn == some around.today) = false :=
      beq_eq_false_iff_ne.mpr other
    rw [SettingsStore.noticeClosedOn, unclosed, Bool.false_and, if_neg Bool.false_ne_true]
    simp only [SettingsStore.noticeVisible, SettingsStore.showsNotice, bne, unclosed,
      Bool.not_false, Bool.and_true, ite_self]

theorem report_of_not_asks (unasked : ¬options.Asks store.settings.noticeClosedOn around.today) :
    options.report around client store = pure ⟨false, true, ""⟩ := by
  rcases closed_of_not_asks unasked with ⟨unforced, closed⟩
  have dismissed : store.noticeClosedOn around.today = true := beq_iff_eq.mpr closed
  unfold report
  dsimp only
  rw [dismissed, unforced]
  rfl

theorem attempts_of_notice {gateway : Gateway} {before traffic : Traffic} {request : Request}
    {answer : Except GatewayError String}
    (answered : client.notice gateway before = (answer, traffic))
    (made : client.request .get ["api", "notice"] [] none = .ok request)
    (sendable : request.isSendable = true) : before.Attempts request traffic := by
  have isAfter : (client.notice gateway before).2 = traffic := congrArg Prod.snd answered
  rw [← isAfter]
  exact GatewayClient.attempts_call made sendable gateway before

theorem presents_report
    (ran : (options.report around client store).runIn world = (result, after)) :
    options.Presents around client store.settings.noticeClosedOn world result after := by
  by_cases asks : options.Asks store.settings.noticeClosedOn around.today
  · rw [report_of_asks asks, Task.runIn_bind, Task.runIn_call] at ran
    rcases answered : client.notice around.gateway world.traffic with ⟨answer, traffic⟩
    rw [answered] at ran
    have attempted (request : Request)
        (made : client.request .get ["api", "notice"] [] none = .ok request)
        (sendable : request.isSendable = true) : world.traffic.Attempts request traffic :=
      attempts_of_notice answered made sendable
    cases answer with
    | ok content =>
        cases ran
        refine ⟨rfl, ?_, ?_, fun unasked => absurd asks unasked, ?_⟩
        · intro request made sendable
          exact iff_of_true (attempted request made sendable) asks
        · intro _
          exact ⟨.ok content, answered, _, rfl, rfl⟩
        · intro report isReport
          cases isReport
          refine ⟨?_, beq_iff_eq⟩
          rw [Bool.not_eq_true']
          exact (and_iff_left asks).symm
    | error error =>
        cases ran
        refine ⟨rfl, ?_, ?_, fun unasked => absurd asks unasked, nofun⟩
        · intro request made sendable
          exact iff_of_true (attempted request made sendable) asks
        · intro _
          exact ⟨.error error, answered, rfl⟩
  · rw [report_of_not_asks asks] at ran
    cases ran
    refine ⟨rfl, ?_, fun asked => absurd asked asks, fun _ => ⟨rfl, rfl⟩, ?_⟩
    · intro request _ _
      exact iff_of_false (world.traffic.not_attempts_self request) asks
    · intro report isReport
      cases isReport
      exact ⟨⟨nofun, fun ⟨_, asked⟩ => absurd asked asks⟩, fun _ => (closed_of_not_asks asks).2,
        fun _ => rfl⟩

end NoticeOptions

/-! ## Days -/

inductive NoticeEvent
  | closed (today : Date)
  | restarted
  | presented (options : NoticeOptions) (today : Date)

namespace NoticeEvent

def closedOn? : NoticeEvent → Option Date
  | .closed today => some today
  | _ => none

inductive Step (kept : KeptStore) : NoticeEvent → KeptStore → Prop
  | closed {today : Date} {hazards : List Hazard} {store : SettingsStore} {work : Work}
      (saved : (⟨kept.store.closeNotice today, kept.disk⟩ : KeptStore).saveUnder hazards =
        (.ok (), store, work)) :
      Step kept (.closed today) ⟨store, work.disk⟩
  | restarted : Step kept .restarted (.load kept.disk kept.store.path)
  | presented {options : NoticeOptions} {around : Surroundings} {client : GatewayClient}
      {world after : World} {result : Except CommandError NoticeReport}
      (found : world.work.disk = kept.disk)
      (ran : (options.report around client kept.store).runIn world = (result, after)) :
      Step kept (.presented options around.today) ⟨kept.store, after.work.disk⟩

inductive Steps (first : KeptStore) : List NoticeEvent → KeptStore → Prop
  | none : Steps first [] first
  | next {events : List NoticeEvent} {event : NoticeEvent} {kept after : KeptStore}
      (earlier : Steps first events kept) (step : event.Step kept after) :
      Steps first (event :: events) after

end NoticeEvent

namespace KeptStore

variable {first kept after : KeptStore} {closedOn : Option Date} {event : NoticeEvent}

/-- Whether a store and its file have the settings that a store had at first, but for the day
on which the notice was last closed. -/
structure Remembers (kept first : KeptStore) (closedOn : Option Date) : Prop where
  path : kept.store.path = first.store.path
  settings : kept.store.settings = { first.store.settings with noticeClosedOn := closedOn }
  onDisk : kept.stored = kept.store.settings

theorem remembers_load (disk : Disk) (path : Path) :
    (load disk path).Remembers (load disk path)
      (load disk path).store.settings.noticeClosedOn :=
  ⟨rfl, rfl, rfl⟩

theorem Remembers.close (remembers : kept.Remembers first closedOn)
    (readable : first.store.settings.pricing.criteria.IsReadable) {today : Date}
    {hazards : List Hazard} {store : SettingsStore} {work : Work}
    (saved : (⟨kept.store.closeNotice today, kept.disk⟩ : KeptStore).saveUnder hazards =
      (.ok (), store, work)) :
    (⟨store, work.disk⟩ : KeptStore).Remembers first (some today) := by
  let closed : KeptStore := ⟨kept.store.closeNotice today, kept.disk⟩
  have settings : closed.store.settings =
      { first.store.settings with noticeClosedOn := some today } := by
    unfold closed SettingsStore.closeNotice
    rw [SettingsStore.settings_update, remembers.settings]
  have path : closed.store.path = first.store.path :=
    (path_update kept.store _).trans remembers.path
  have reread : closed.store.settings.reread = closed.store.settings := by
    rw [Settings.reread_eq_self_iff, settings]
    exact readable
  have isWork := saveUnder_work closed hazards
  rcases saveUnder_cases closed hazards with ⟨_, written, isStore⟩ | ⟨failed, _⟩
  · rw [saved] at isStore isWork
    dsimp only at isStore isWork
    rw [isStore, isWork]
    refine ⟨path, settings, ?_⟩
    rw [stored, settings_load_save written, reread]
  · rw [saved] at failed
    cases failed

theorem Remembers.restart (remembers : kept.Remembers first closedOn) :
    (load kept.disk kept.store.path).Remembers first closedOn :=
  ⟨remembers.path, remembers.onDisk.trans remembers.settings, rfl⟩

theorem remembers_step (readable : first.store.settings.pricing.criteria.IsReadable)
    (remembers : kept.Remembers first closedOn) (step : event.Step kept after) :
    after.Remembers first (event.closedOn?.or closedOn) := by
  cases step with
  | closed saved => exact remembers.close readable saved
  | restarted => exact remembers.restart
  | presented found ran =>
      have same := (NoticeOptions.presents_report ran).work
      rw [same, found]
      exact remembers

theorem remembers_steps {events : List NoticeEvent}
    (readable : first.store.settings.pricing.criteria.IsReadable)
    (loaded : first.Remembers first first.store.settings.noticeClosedOn)
    (steps : NoticeEvent.Steps first events kept) :
    kept.Remembers first
      ((events.findSome? (·.closedOn?)).or first.store.settings.noticeClosedOn) := by
  induction steps with
  | none => exact loaded
  | next earlier step induction =>
      have remembers := remembers_step readable induction step
      rw [← Option.or_assoc] at remembers
      rw [List.findSome?_cons]
      generalize NoticeEvent.closedOn? _ = closed at remembers ⊢
      cases closed <;> exact remembers

/-- Whatever is done about notices, and however often the console is started again, only the
last closing is remembered, no other setting has changed, and a notice is presented according
to the day of that closing. -/
theorem notices_by_last_closing {disk : Disk} {path : Path} {events : List NoticeEvent}
    (steps : NoticeEvent.Steps (load disk path) events kept) :
    let closedOn := (events.findSome? (·.closedOn?)).or
      (SettingsStore.load disk path).settings.noticeClosedOn
    kept.Remembers (load disk path) closedOn ∧
    ∀ (options : NoticeOptions) around client world result after,
      (options.report around client kept.store).runIn world = (result, after) →
      options.Presents around client closedOn world result after := by
  intro closedOn
  have remembers := remembers_steps (isReadable_load disk path) (remembers_load disk path) steps
  refine ⟨remembers, fun options around client world result after ran => ?_⟩
  have presents := NoticeOptions.presents_report ran
  rw [remembers.settings] at presents
  exact presents

theorem notice_closed_before_restart :
    let today : Date := ⟨2024, 2, 29, by decide⟩
    let path : Path := ⟨true, [.name "settings.json"]⟩
    let quiet : NoticeOptions := ⟨false, false⟩
    ∃ kept, NoticeEvent.Steps (load .empty path) [.restarted, .closed today] kept ∧
      kept.store.settings = { Settings.initial with noticeClosedOn := some today } ∧
      ∀ gateway client world,
        (quiet.report ⟨gateway, "/", today⟩ client kept.store).runIn world =
          (.ok ⟨false, true, ""⟩, world) := by
  intro today path quiet
  let closed : KeptStore := ⟨(load .empty path).store.closeNotice today, .empty⟩
  have succeeds : (closed.saveUnder []).1 = .ok () := by decide +kernel
  rcases saved : closed.saveUnder [] with ⟨result, store, work⟩
  rw [saved] at succeeds
  cases succeeds
  have steps : NoticeEvent.Steps (load .empty path) [.restarted, .closed today] _ :=
    .next (.next .none (.closed saved)) .restarted
  rcases notices_by_last_closing steps with ⟨remembers, presents⟩
  have initially : (load .empty path).store.settings = .initial := rfl
  have settings := remembers.settings
  rw [initially] at settings
  refine ⟨_, steps, settings, fun gateway client world => ?_⟩
  rcases ran : (quiet.report ⟨gateway, "/", today⟩ client _).runIn world with ⟨result, after⟩
  have unasked : ¬quiet.Asks (some today) today := by
    rintro (force | other)
    · exact nomatch force
    · exact other rfl
  rcases (presents quiet _ client world result after ran).untold unasked with ⟨rfl, rfl⟩
  rfl

end KeptStore
end GatewayConsole
