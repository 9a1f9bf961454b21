import GatewayConsole.Proofs.Command.Tasks

/-!
# Shown settings

Settings are shown as they are stored, but for the access token. Nothing that is shown depends
on what the token is, not even whether it is empty: an empty token is no login, and is shown
as one.
-/

namespace GatewayConsole

def Json.replaceMember (json : Json) (key : String) (value : Json) : Json :=
  match json with
  | .object members =>
      .object (members.map fun member => if member.1 = key then (key, value) else member)
  | json => json

namespace Settings

variable {settings : Settings} {shared : GlobalOptions}

/-! ## Redacted settings -/

theorem toJson_redacted (settings : Settings) :
    settings.redacted.toJson =
      settings.toJson.replaceMember "access_token" (.text hiddenToken) := by
  rcases settings with ⟨serverUrl, accessToken, userId⟩
  cases accessToken <;> cases userId <;> rfl

theorem redacted_of_token {token : String} (isToken : settings.accessToken = some token)
    (other : String) :
    { settings with accessToken := some other }.redacted = settings.redacted := by
  rw [redacted, redacted, isToken]
  rfl

theorem isLoggedIn_redacted (settings : Settings) :
    settings.redacted.isLoggedIn = settings.accessToken.isSome := by
  rw [redacted, isLoggedIn]
  cases settings.accessToken with
  | none => rfl
  | some token => exact (by decide +kernel : (some hiddenToken).any (· ≠ "") = true)

theorem isLoggedIn_redacted_iff (settings : Settings) :
    settings.redacted.isLoggedIn = settings.isLoggedIn ↔ settings.accessToken ≠ some "" := by
  rw [isLoggedIn_redacted, isLoggedIn]
  cases settings.accessToken with
  | none => exact iff_of_true rfl nofun
  | some token => simp

/-! ## Lines -/

def loginLine (settings : Settings) : String :=
  "Logged in:       " ++ if settings.isLoggedIn then "true" else "false"

theorem loginLine_at (settings : Settings) : settings.lines[2]? = some settings.loginLine :=
  rfl

theorem loginLine_inj {other : Settings} (same : settings.loginLine = other.loginLine) :
    settings.isLoggedIn = other.isLoggedIn := by
  unfold loginLine at same
  cases login : settings.isLoggedIn <;> cases otherLogin : other.isLoggedIn
  case true.true | false.false => rfl
  all_goals
    rw [login, otherLogin] at same
    exact absurd same (by decide +kernel)

theorem lines_redacted_iff (settings : Settings) :
    settings.redacted.lines = settings.lines ↔ settings.accessToken ≠ some "" := by
  rw [← isLoggedIn_redacted_iff]
  constructor
  · intro same
    have login := loginLine_at settings.redacted
    rw [same, loginLine_at] at login
    exact loginLine_inj (Option.some.inj login).symm
  · intro login
    unfold lines
    rw [login]
    rfl

/-! ## Outputs -/

def plainText (settings : Settings) : String :=
  Output.header "Tollgate Configuration" ++ String.join (settings.lines.map Output.line)

def jsonWithoutToken (settings : Settings) : Json :=
  settings.toJson.replaceMember "access_token" (.text hiddenToken)

theorem output_of_text (writesText : shared.writesJson = false)
    (token : settings.accessToken ≠ some "") : settings.output shared = settings.plainText := by
  rw [output, plainText, writesText, (lines_redacted_iff settings).mpr token]
  rfl

theorem output_of_json (writesJson : shared.writesJson = true) :
    settings.output shared = Output.json shared settings.jsonWithoutToken := by
  rw [output, jsonWithoutToken, writesJson, toJson_redacted]
  rfl

theorem output_of_token {token : String} (isToken : settings.accessToken = some token)
    (other : String) :
    { settings with accessToken := some other }.output shared = settings.output shared := by
  rw [output, output, redacted_of_token isToken]

end Settings

/-! ## Command lines -/

namespace SettingsAction

variable {around : Surroundings} {environment : Keyed String} {arguments : List String}
  {shared : GlobalOptions}

/-- A command line that is to show the settings prints the stored ones and changes nothing. In
text they are printed as they are exactly when the token is not empty; in JSON the token is
replaced, and nothing else. What the token is cannot be seen. -/
theorem shows_stored_settings
    (reads : CommandLine.read environment arguments = .command shared (.settings .present)) :
    (∀ world, runCommandLine around environment arguments world =
      (.succeeded ((Task.settingsIn around shared world).output shared), world)) ∧
    ∀ settings : Settings,
      (shared.writesJson = false → settings.accessToken ≠ some "" →
        settings.output shared = settings.plainText) ∧
      (settings.redacted.lines = settings.lines ↔ settings.accessToken ≠ some "") ∧
      (shared.writesJson = true →
        settings.output shared = Output.json shared settings.jsonWithoutToken) ∧
      ∀ token other, settings.accessToken = some token →
        { settings with accessToken := some other }.output shared = settings.output shared := by
  constructor
  · intro world
    refine (runCommandLine_succeeded_iff reads).mpr ?_
    exact Task.runIn_bind_of_ok (Task.runIn_loadStore around shared world)
  · intro settings
    refine ⟨Settings.output_of_text, settings.lines_redacted_iff, Settings.output_of_json, ?_⟩
    intro token other isToken
    exact Settings.output_of_token isToken other

theorem shows_settings_of_login :
    let shared : GlobalOptions := { GlobalOptions.initial with settingsFile := some "s.json" }
    let settings : Settings := { Settings.initial with accessToken := some "secret" }
    CommandLine.read [] ["config", "show", "--config", "s.json"] =
        .command shared (.settings .present) ∧
      settings.output shared = settings.plainText ∧
      settings.loginLine = "Logged in:       true" ∧
      { settings with accessToken := some "other" }.output shared = settings.output shared := by
  intro shared settings
  have reads : CommandLine.read [] ["config", "show", "--config", "s.json"] =
      .command shared (.settings .present) := by
    decide +kernel
  let around : Surroundings := ⟨.absent, "/", ⟨2024, 2, 29, by decide⟩⟩
  have shows := (@shows_stored_settings around _ _ _ reads).2 settings
  rcases shows with ⟨text, _, _, hidden⟩
  exact ⟨reads, text rfl (by decide +kernel), by decide +kernel, hidden "secret" "other" rfl⟩

/-- An empty token is shown as a login. -/
theorem shows_login_of_empty_token :
    let disk := Disk.empty.put ["s.json"] (.file 0o600 "\x7b\"access_token\":\"\"\x7d")
    let around : Surroundings := ⟨.absent, "/", ⟨2024, 2, 29, by decide⟩⟩
    let shared : GlobalOptions := { GlobalOptions.initial with settingsFile := some "s.json" }
    let arguments := ["config", "show", "--config", "s.json"]
    let before : World := ⟨.start disk [], .silent⟩
    CommandLine.read [] arguments = .command shared (.settings .present) ∧
      (Task.settingsIn around shared before).isLoggedIn = false ∧
      (runCommandLine around [] arguments before).1 = .succeeded
        (Output.header "Tollgate Configuration" ++ String.join (List.map Output.line
          ["", "Server:          http://localhost:3000", "Logged in:       true",
            "Request timeout: 30s", "Log level:       warn", "", "Pricing filters: none saved",
            "Notice dismissed: never"])) := by
  decide +kernel

end SettingsAction
end GatewayConsole
