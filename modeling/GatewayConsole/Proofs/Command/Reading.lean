import GatewayConsole.Command.CommandLine
import GatewayConsole.Command.Pricing
import GatewayConsole.Proofs.Pricing.WrittenView

/-!
# Properties of read command lines

What every option and every operand of a level keeps holds of the record that the level is
read as. So the choices of a command are such as can be read from texts.
-/

namespace GatewayConsole

variable {σ τ : Type} {property : σ → Prop}

/-! ## Options -/

namespace OptionForm

def Keeps (property : σ → Prop) (form : OptionForm σ) : Prop :=
  match form.effect with
  | .mark apply => ∀ record after, property record → apply record = some after → property after
  | .value apply =>
      ∀ text record after, property record → apply text record = some after → property after

theorem keeps_mark {name : String} {letter : Option Char} {isSet : σ → Bool} {set : σ → σ}
    (keeps : ∀ record, property record → property (set record)) :
    (mark name letter isSet set).Keeps property := by
  intro record after holds applied
  dsimp only at applied
  split at applied
  · exact nomatch applied
  · cases applied
    exact keeps record holds

theorem keeps_value {α : Type} {name : String} {letter : Option Char} {read : String → Option α}
    {get : σ → Option α} {set : α → σ → σ}
    (keeps : ∀ text given record, read text = some given → property record →
      property (set given record)) :
    (value name letter read get set).Keeps property := by
  intro text record after holds applied
  dsimp only at applied
  split at applied
  · exact nomatch applied
  · rcases Option.map_eq_some_iff.mp applied with ⟨given, isGiven, same⟩
    cases same
    exact keeps text given record isGiven holds

theorem Keeps.within {form : OptionForm σ} (keeps : form.Keeps property) {get : τ → σ}
    {set : σ → τ → τ} (get_set : ∀ inner record, get (set inner record) = inner) :
    (form.within get set).Keeps fun record => property (get record) := by
  unfold Keeps at keeps
  unfold Keeps OptionForm.within
  cases effect : form.effect with
  | mark apply =>
      rw [effect] at keeps
      intro record after holds applied
      rcases Option.map_eq_some_iff.mp applied with ⟨inner, isApplied, same⟩
      cases same
      rw [get_set]
      exact keeps _ _ holds isApplied
  | value apply =>
      rw [effect] at keeps
      intro text record after holds applied
      rcases Option.map_eq_some_iff.mp applied with ⟨inner, isApplied, same⟩
      cases same
      rw [get_set]
      exact keeps _ _ _ holds isApplied

theorem keeps_within_other {form : OptionForm σ} {get : τ → σ} {set : σ → τ → τ}
    {other : τ → Prop} (keeps : ∀ inner record, other record → other (set inner record)) :
    (form.within get set).Keeps other := by
  unfold Keeps OptionForm.within
  cases form.effect with
  | mark apply =>
      intro record after holds applied
      rcases Option.map_eq_some_iff.mp applied with ⟨inner, _, same⟩
      cases same
      exact keeps inner record holds
  | value apply =>
      intro text record after holds applied
      rcases Option.map_eq_some_iff.mp applied with ⟨inner, _, same⟩
      cases same
      exact keeps inner record holds

end OptionForm

/-! ## Levels -/

def ArgumentStep.Holds (property : σ → Prop) : ArgumentStep σ → Prop
  | .complete record => property record
  | .needsValue apply => ∀ text record, apply text = some record → property record
  | _ => True

def Expectation.Holds (property : σ → Prop) : Expectation σ → Prop
  | .anything record? => ∀ record, record? = some record → property record
  | .value apply => ∀ text record, apply text = some record → property record
  | .operands record => property record

namespace ArgumentLevel

structure Keeps (level : ArgumentLevel σ) (property : σ → Prop) : Prop where
  options : ∀ form ∈ level.options, form.Keeps property
  operand : ∀ text record after, property record → level.operand text record = some after →
    property after

variable {level : ArgumentLevel σ} {record : σ}

theorem holds_stepOf {record? : Option σ}
    (holds : ∀ record, record? = some record → property record) :
    (stepOf record?).Holds property := by
  cases record? with
  | none => trivial
  | some record => exact holds record rfl

theorem Keeps.readName (keeps : level.Keeps property) (holds : property record)
    (text : List Char) : (level.readName text record).Holds property := by
  rw [ArgumentLevel.readName]
  split
  · split <;> trivial
  · split
    · split <;> trivial
    · split
      next => trivial
      next form found =>
        have kept := keeps.options form (List.mem_of_find?_eq_some found)
        rw [OptionForm.Keeps] at kept
        split <;> simp only [*] at kept
        next => exact holds_stepOf fun after applied => kept _ _ holds applied
        next => trivial
        next => exact holds_stepOf fun after applied => kept _ _ _ holds applied
        next => exact fun text after applied => kept _ _ _ holds applied

theorem Keeps.readLetters (keeps : level.Keeps property) (holds : property record)
    (letters : List Char) : (level.readLetters letters record).Holds property := by
  induction letters generalizing record with
  | nil => exact holds
  | cons letter rest induction =>
      rw [ArgumentLevel.readLetters]
      split
      · trivial
      · split
        · trivial
        · split
          next => trivial
          next form found =>
            have kept := keeps.options form (List.mem_of_find?_eq_some found)
            rw [OptionForm.Keeps] at kept
            split <;> simp only [*] at kept
            next =>
              split
              next applied => exact induction (kept _ _ holds applied)
              next => trivial
            next => exact fun text after applied => kept _ _ _ holds applied
            next => exact holds_stepOf fun after applied => kept _ _ _ holds applied
            next => exact holds_stepOf fun after applied => kept _ _ _ holds applied

/-- What holds of a step holds of the record that the arguments after it are read as. -/
theorem holds_after_step {rest : List String}
    (onward : ∀ {expected : Expectation σ}, expected.Holds property →
      level.read expected rest = .finished record → property record)
    {step : ArgumentStep σ}
    (finished : (match step with
      | .refused => .refused
      | .help => .help []
      | .version => .version
      | .complete record => level.read (.anything (some record)) rest
      | .needsValue apply => level.read (.value apply) rest) = LevelReading.finished record)
    (holds : step.Holds property) : property record := by
  cases step with
  | refused | help | version => cases finished
  | complete next =>
      refine onward ?_ finished
      intro other same
      cases same
      exact holds
  | needsValue apply => exact @onward (.value apply) holds finished

theorem Keeps.read (keeps : level.Keeps property) {expected : Expectation σ}
    (holds : expected.Holds property) {arguments : List String}
    (finished : level.read expected arguments = .finished record) : property record := by
  -- The record goes along with what is expected next, and so does the property.
  induction arguments generalizing expected with
  | nil =>
      unfold ArgumentLevel.read at finished
      split at finished
      next => cases finished; exact holds _ rfl
      next => cases finished; exact holds
      next => cases finished
  | cons argument rest induction =>
      unfold ArgumentLevel.read at finished
      cases expected with
      | value apply =>
          dsimp only at finished
          split at finished
          · exact @induction (.anything (apply argument)) (holds argument) finished
          · cases finished
      | operands before =>
          dsimp only at finished
          split at finished
          next after applied =>
            exact @induction (.operands after) (keeps.operand _ _ _ holds applied) finished
          next => cases finished
      | anything record? =>
          dsimp only at finished
          split at finished
          · cases finished
          · split at finished
            · cases finished
            · split at finished
              next => cases finished
              next before _ => exact @induction (.operands before) (holds _ rfl) finished
              next => exact holds_after_step induction finished (keeps.readName (holds _ rfl) _)
              next => exact holds_after_step induction finished (keeps.readLetters (holds _ rfl) _)
              next =>
                refine holds_after_step induction finished (holds_stepOf fun after applied => ?_)
                exact keeps.operand _ _ _ (holds _ rfl) applied

end ArgumentLevel

/-! ## Entered options -/

/-- Whether the criteria that options set have no words of the format for names, if the
criteria before have none. -/
def PricingOptions.IsEntered (options : PricingOptions) : Prop :=
  ∀ criteria : Criteria, criteria.IsReadable → (options.applyTo criteria).IsReadable

def Command.IsEntered : Command → Prop
  | .pricing options => options.IsEntered
  | _ => True

namespace CommandLine

theorem keeps_isEntered {form : OptionForm PricingOptions} (member : form ∈ pricingForms) :
    form.Keeps PricingOptions.IsEntered := by
  simp only [pricingForms, List.mem_cons, List.not_mem_nil, or_false] at member
  rcases member with rfl | rfl | rfl | rfl | rfl | rfl | rfl | rfl | rfl | rfl | rfl | rfl
  · apply OptionForm.keeps_value
    intro text vendor options read entered criteria readable
    exact ⟨Criteria.not_word_of_ofText? read, (entered criteria readable).2⟩
  · apply OptionForm.keeps_value
    intro text tag options read entered criteria readable
    rcases entered criteria readable with ⟨vendor, _, others⟩
    exact ⟨vendor, Criteria.not_allWord_of_ofText? read, others⟩
  · apply OptionForm.keeps_value
    intro text group options read entered criteria readable
    rcases entered criteria readable with ⟨vendor, tag, _, others⟩
    exact ⟨vendor, tag, Criteria.not_allWord_of_ofText? read, others⟩
  · exact OptionForm.keeps_value fun _ _ _ _ entered => entered
  · apply OptionForm.keeps_value
    intro text endpointType options read entered criteria readable
    rcases entered criteria readable with ⟨vendor, tag, group, _⟩
    exact ⟨vendor, tag, group, Criteria.not_allWord_of_ofText? read⟩
  · exact OptionForm.keeps_value fun _ _ _ _ entered => entered
  · exact OptionForm.keeps_value fun _ _ _ _ entered => entered
  · exact OptionForm.keeps_mark fun _ entered => entered
  · exact OptionForm.keeps_value fun _ _ _ _ entered => entered
  · exact OptionForm.keeps_value fun _ _ _ _ entered => entered
  · exact OptionForm.keeps_mark fun _ entered => entered
  · exact OptionForm.keeps_mark fun _ entered => entered

theorem keeps_levelOf {α : Type} {forms : List (OptionForm α)} {property : α → Prop}
    (keeps : ∀ form ∈ forms, form.Keeps property) :
    (levelOf forms [] noOperand).Keeps fun record => property record.own := by
  constructor
  · intro form member
    rcases List.mem_append.mp member with shared | own
    · rcases List.mem_map.mp shared with ⟨inner, _, same⟩
      cases same
      exact OptionForm.keeps_within_other fun _ _ holds => holds
    · rcases List.mem_map.mp own with ⟨inner, isForm, same⟩
      cases same
      exact (keeps inner isForm).within fun _ _ => rfl
  · intro text record after _ applied
    exact nomatch applied

def Reading.Yields (property : Command → Prop) (reading : Reading) : Prop :=
  ∀ options command, reading = .command options command → property command

variable {property : Command → Prop} {environment : Keyed String}

theorem yields_of_ne {reading : Reading}
    (different : ∀ options command, reading ≠ .command options command) :
    reading.Yields property :=
  fun options command same => absurd same (different options command)

theorem yields_refused : Reading.refused.Yields property :=
  yields_of_ne fun _ _ same => Reading.noConfusion same

theorem yields_help : Reading.help.Yields property :=
  yields_of_ne fun _ _ same => Reading.noConfusion same

theorem yields_version : Reading.version.Yields property :=
  yields_of_ne fun _ _ same => Reading.noConfusion same

theorem yields_complete {levels : Option (List GlobalOptions)} {command : Option Command}
    (holds : ∀ given, command = some given → property given) :
    (complete environment levels command).Yields property := by
  intro options given isGiven
  unfold complete at isGiven
  split at isGiven
  next => exact nomatch isGiven
  next => exact nomatch isGiven
  next =>
    split at isGiven
    · cases isGiven
      exact holds _ rfl
    · exact nomatch isGiven

theorem yields_readLast {α : Type} {outer : List (Option GlobalOptions)}
    {level : ArgumentLevel (Record α)} {own : α} {arguments : List String}
    {command : α → Option Command}
    (holds : ∀ record, level.readAll ⟨.initial, own⟩ arguments = .finished record →
      ∀ given, command record.own = some given → property given) :
    (readLast environment outer level own arguments command).Yields property := by
  unfold readLast
  split
  next => exact yields_refused
  next => exact yields_refused
  next => exact yields_help
  next => exact yields_version
  next record finished => exact yields_complete (holds record finished)

theorem yields_readHelp (wordsBehind : List String → List String) (path words : List String) :
    (readHelp wordsBehind path words).Yields property := by
  induction words generalizing path with
  | nil => exact yields_help
  | cons word rest induction =>
      unfold readHelp
      dsimp only
      split
      · exact induction _
      · exact yields_refused

theorem yields_readWords {commands arguments : List String}
    {next : String → List String → Option GlobalOptions → Reading}
    (holds : ∀ word rest options, (next word rest options).Yields property) :
    (readWords commands arguments next).Yields property := by
  unfold readWords
  split
  next => exact yields_refused
  next => exact yields_refused
  next => exact yields_readHelp _ _ _
  next => exact yields_version
  next => exact holds _ _ _

section WithoutCriteria

variable {α β : Type} {outer : List (Option GlobalOptions)} {level : ArgumentLevel (Record α)}
  {own : α} {arguments : List String}

theorem yields_isEntered {command : α → Option Command}
    (entered : ∀ own given, command own = some given → given.IsEntered) :
    (readLast environment outer level own arguments command).Yields Command.IsEntered :=
  yields_readLast fun record _ => entered record.own

theorem yields_plain {command : α → Command} (entered : ∀ own, (command own).IsEntered) :
    (readLast environment outer level own arguments fun own => some (command own)).Yields
      Command.IsEntered :=
  yields_isEntered fun own _ same => Option.some.inj same ▸ entered own

theorem yields_checked {refused : α → Bool} {command : α → Command}
    (entered : ∀ own, (command own).IsEntered) :
    (readLast environment outer level own arguments fun own =>
      if refused own then none else some (command own)).Yields Command.IsEntered := by
  apply yields_isEntered
  intro own given isGiven
  split at isGiven
  · exact nomatch isGiven
  · exact Option.some.inj isGiven ▸ entered own

theorem yields_operand {level : ArgumentLevel (Record (Option β))} {command : β → Command}
    (entered : ∀ operand, (command operand).IsEntered) :
    (readLast environment outer level none arguments (·.map command)).Yields
      Command.IsEntered := by
  apply yields_isEntered
  intro own given isGiven
  rcases Option.map_eq_some_iff.mp isGiven with ⟨operand, _, same⟩
  exact same ▸ entered operand

end WithoutCriteria

theorem yields_readModules (outer : Option GlobalOptions) (arguments : List String) :
    (readModules environment outer arguments).Yields Command.IsEntered := by
  apply yields_readWords
  intro word rest options
  dsimp only
  split
  · exact yields_operand fun _ => trivial
  · exact yields_operand fun _ => trivial
  · exact yields_operand fun _ => trivial
  · exact yields_plain fun _ => trivial
  · exact yields_plain fun _ => trivial

theorem yields_readSettings (outer : Option GlobalOptions) (arguments : List String) :
    (readSettings environment outer arguments).Yields Command.IsEntered := by
  apply yields_readWords
  intro word rest options
  dsimp only
  split
  · exact yields_plain fun _ => trivial
  · exact yields_operand fun _ => trivial
  · exact yields_operand fun _ => trivial
  · exact yields_plain fun _ => trivial
  · exact yields_plain fun _ => trivial
  · exact yields_plain fun _ => trivial

theorem yields_readPricing {outer : List (Option GlobalOptions)} (arguments : List String) :
    (readLast environment outer (levelOf pricingForms [] noOperand) .initial arguments
      fun options => some (.pricing options)).Yields Command.IsEntered := by
  apply yields_readLast
  intro record finished command isCommand
  have keeps := keeps_levelOf fun form member => @keeps_isEntered form member
  have start : (Expectation.anything (some ⟨.initial, .initial⟩)).Holds
      fun record : Record PricingOptions => record.own.IsEntered := by
    intro record same
    cases same
    exact fun criteria readable => readable
  cases isCommand
  exact keeps.read start finished

theorem yields_readCommand (word : String) (arguments : List String)
    (outer : Option GlobalOptions) :
    (readCommand environment word arguments outer).Yields Command.IsEntered := by
  unfold readCommand
  dsimp only
  split
  · exact yields_checked fun _ => trivial
  · exact yields_checked fun _ => trivial
  · exact yields_readPricing arguments
  · exact yields_readPricing arguments
  · exact yields_readModules outer arguments
  · exact yields_readModules outer arguments
  · exact yields_checked fun _ => trivial
  · exact yields_plain fun _ => trivial
  · exact yields_plain fun _ => trivial
  · exact yields_plain fun _ => trivial
  · exact yields_readSettings outer arguments

theorem isEntered_of_read {arguments : List String} {shared : GlobalOptions} {command : Command}
    (reads : read environment arguments = .command shared command) : command.IsEntered := by
  unfold read at reads
  split at reads
  · exact nomatch reads
  · exact nomatch reads
  · exact yields_readHelp _ _ _ _ _ reads
  · exact nomatch reads
  · exact yields_readCommand _ _ _ _ _ reads

end CommandLine
end GatewayConsole
