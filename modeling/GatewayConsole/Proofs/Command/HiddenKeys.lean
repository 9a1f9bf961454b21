import GatewayConsole.Proofs.Account.TokenReports
import GatewayConsole.Proofs.Command.Tasks
import GatewayConsole.Proofs.Gateway.Calls

/-!
# Hidden keys

Tokens are shown with masked keys. A masked key tells how long the key is and, of a long one,
its first and last four characters. Pages of tokens that agree in this and differ in their keys
otherwise are shown alike, whatever is selected on them.
-/

namespace GatewayConsole

/-! ## Masked keys -/

namespace Token

variable {key other : List Char}

/-- Whether keys have the same length and, if that is long enough, the same characters at both
ends. -/
structure KeysAlike (key other : List Char) : Prop where
  length : other.length = key.length
  head : hiddenLength < key.length → other.take shownLength = key.take shownLength
  tail : hiddenLength < key.length →
    other.drop (other.length - shownLength) = key.drop (key.length - shownLength)

theorem mask_of_short (short : key.length ≤ hiddenLength) :
    mask key = List.replicate key.length '*' :=
  if_pos short

theorem mask_of_long (long : hiddenLength < key.length) :
    mask key = key.take shownLength ++
      (List.replicate (key.length - 2 * shownLength) '*' ++
        key.drop (key.length - shownLength)) := by
  rw [mask, if_neg (Nat.not_le.mpr long), List.append_assoc]

theorem mask_eq_iff : mask other = mask key ↔ KeysAlike key other := by
  constructor
  · intro same
    have length : other.length = key.length := by
      rw [← length_mask other, same, length_mask]
    by_cases short : key.length ≤ hiddenLength
    · exact ⟨length, fun long => absurd short (Nat.not_le.mpr long),
        fun long => absurd short (Nat.not_le.mpr long)⟩
    · have long : hiddenLength < key.length := Nat.not_le.mp short
      rw [mask_of_long long, mask_of_long (length ▸ long)] at same
      rcases List.append_inj same (by simp [length]) with ⟨head, rest⟩
      have tail := (List.append_inj rest (by simp [length])).2
      exact ⟨length, fun _ => head, fun _ => tail⟩
  · rintro ⟨length, head, tail⟩
    by_cases short : key.length ≤ hiddenLength
    · rw [mask_of_short short, mask_of_short (length ▸ short), length]
    · have long : hiddenLength < key.length := Nat.not_le.mp short
      rw [mask_of_long long, mask_of_long (length ▸ long), head long, tail long, length]

structure Masks (key : List Char) (head : List Char) (stars : Nat) (tail : List Char) : Prop where
  masked : mask key = head ++ (List.replicate stars '*' ++ tail)
  isHead : head <+: key
  isTail : tail <:+ key
  shown : head.length + tail.length = if key.length ≤ 8 then 0 else 8
  length : stars + (head.length + tail.length) = key.length

theorem exists_masks (key : List Char) : ∃ head stars tail, Masks key head stars tail := by
  by_cases short : key.length ≤ hiddenLength
  · refine ⟨[], key.length, [], ?_, List.nil_prefix, List.nil_suffix, (if_pos short).symm, rfl⟩
    rw [mask_of_short short, List.nil_append, List.append_nil]
  · have long : hiddenLength < key.length := Nat.not_le.mp short
    have room : shownLength ≤ key.length := Nat.le_trans (by decide) (Nat.le_of_lt long)
    have head : (key.take shownLength).length = 4 := by
      rw [List.length_take, Nat.min_eq_left room]
      rfl
    have tail : (key.drop (key.length - shownLength)).length = 4 := by
      rw [List.length_drop, Nat.sub_sub_self room]
      rfl
    refine ⟨key.take shownLength, key.length - 2 * shownLength, key.drop (key.length - shownLength),
      mask_of_long long, List.take_prefix _ _, List.drop_suffix _ _, ?_, ?_⟩
    · rw [head, tail]
      exact (if_neg short).symm
    · rw [head, tail]
      exact Nat.sub_add_cancel (Nat.le_of_lt long)

/-- Whether tokens differ in their keys at most, and these are alike. -/
structure AlikeButKey (token other : Token) : Prop where
  keys : KeysAlike token.key.toList other.key.toList
  rest : other = { token with key := other.key }

theorem AlikeButKey.maskedKey_eq {token other : Token} (alike : token.AlikeButKey other) :
    other.maskedKey = token.maskedKey := by
  rw [maskedKey, maskedKey, mask_eq_iff.mpr alike.keys]

theorem map_eq_of_alike {α : Type} {view : Token → α} {tokens others : List Token}
    (same : ∀ token other, token.AlikeButKey other → view other = view token)
    (alike : List.Forall₂ AlikeButKey tokens others) : others.map view = tokens.map view := by
  induction alike with
  | nil => rfl
  | cons first _ induction => rw [List.map_cons, List.map_cons, same _ _ first, induction]

end Token

/-! ## Reports -/

theorem TokenRow.ofToken_eq {token other : Token} (alike : token.AlikeButKey other)
    (selected : Bool) : ofToken other selected = ofToken token selected := by
  have masked := alike.maskedKey_eq
  rw [ofToken, masked, alike.rest]
  rfl

structure TokenPage.AlikeButKeys (page other : TokenPage) : Prop where
  items : List.Forall₂ Token.AlikeButKey page.items other.items
  rest : other = { page with items := other.items }

def TokenReport.ofPage (page : TokenPage) (selection : Selection) : TokenReport :=
  .ofTokens page.page page.pageSize page.total page.items selection

namespace TokenPage

variable {page other : TokenPage}

theorem AlikeButKeys.ids_eq (alike : page.AlikeButKeys other) :
    other.items.map (·.id) = page.items.map (·.id) := by
  refine Token.map_eq_of_alike (fun token other alike => ?_) alike.items
  rw [alike.rest]

theorem AlikeButKeys.ofPage_eq (alike : page.AlikeButKeys other) (selection : Selection) :
    TokenReport.ofPage other selection = TokenReport.ofPage page selection := by
  have rows : other.items.map (fun token => TokenRow.ofToken token (selection.contains token.id)) =
      page.items.map (fun token => TokenRow.ofToken token (selection.contains token.id)) := by
    refine Token.map_eq_of_alike (fun token other alike => ?_) alike.items
    rw [TokenRow.ofToken_eq alike, alike.rest]
  rw [TokenReport.ofPage, TokenReport.ofTokens, alike.ids_eq, rows, alike.rest]
  rfl

end TokenPage

/-! ## The command -/

namespace TokensOptions

variable {options : TokensOptions} {page other : TokenPage} {around : Surroundings}
  {shared : GlobalOptions} {world : World} {client : GatewayClient}

theorem report_eq_ofPage (options : TokensOptions) (page : TokenPage) :
    options.report page = TokenReport.ofPage page (options.selection page) :=
  rfl

theorem report_eq (alike : page.AlikeButKeys other) :
    options.report other = options.report page := by
  have chosen : options.selection other = options.selection page := by
    rw [selection, selection, alike.ids_eq]
  rw [report_eq_ofPage, report_eq_ofPage, chosen, alike.ofPage_eq]

def printed (options : TokensOptions) (shared : GlobalOptions) (page : TokenPage) : String :=
  Output.report shared "API Tokens" (options.report page).text (options.report page).toJson

theorem runCommandLine_of_page {environment : Keyed String} {arguments : List String}
    (reads : CommandLine.read environment arguments = .command shared (.tokens options))
    (connected : (Task.connect (Task.settingsIn around shared world) shared).runIn world =
      (.ok client, world))
    (answered : (client.tokens options.wantedPage options.wantedSize around.gateway
      world.traffic).1 = .ok page) :
    (runCommandLine around environment arguments world).1 =
      .succeeded (options.printed shared page) := by
  have loaded := Task.runIn_loadStore around shared world
  rcases asked : client.tokens options.wantedPage options.wantedSize around.gateway world.traffic
    with ⟨outcome, traffic⟩
  rw [asked] at answered
  cases answered
  have called := Task.runIn_call_ok_iff.mpr ⟨traffic, asked, rfl⟩
  have ran : (options.run around shared).runIn world =
      (.ok (options.printed shared page), { world with traffic }) := by
    rw [TokensOptions.run, Task.runIn_bind_of_ok loaded, Task.settings_storeIn,
      Task.runIn_bind_of_ok connected, Task.runIn_bind_of_ok called]
    rfl
  rw [(runCommandLine_succeeded_iff reads).mpr ran]

/-- Pages that are alike are reported alike, in text and in JSON and whatever is selected, and
the command prints the same when gateways answer with them. The key that is reported is the masked
one. Of a key at most eight characters are shown, of one with eight characters or fewer none, and
there is a star for each of the others. -/
theorem keys_stay_hidden (alike : page.AlikeButKeys other) :
    (∀ selection,
      (∀ colors, (TokenReport.ofPage other selection).text.render colors =
        (TokenReport.ofPage page selection).text.render colors) ∧
      (TokenReport.ofPage other selection).toJson = (TokenReport.ofPage page selection).toJson) ∧
    (∀ around gateway environment arguments shared options world client,
      CommandLine.read environment arguments = .command shared (.tokens options) →
      (Task.connect (Task.settingsIn around shared world) shared).runIn world =
        (.ok client, world) →
      (client.tokens options.wantedPage options.wantedSize around.gateway world.traffic).1 =
        .ok page →
      (client.tokens options.wantedPage options.wantedSize gateway world.traffic).1 = .ok other →
      (runCommandLine around environment arguments world).1 =
        .succeeded (options.printed shared page) ∧
      (runCommandLine { around with gateway } environment arguments world).1 =
        (runCommandLine around environment arguments world).1) ∧
    (∀ token selected,
      (TokenRow.ofToken token selected).toJson.member? "key" = some (.text token.maskedKey) ∧
      ∀ colors,
        (TokenRow.ofToken token selected).line.render colors = token.lineText selected colors) ∧
    ∀ token : Token, ∃ head stars tail,
      token.maskedKey = "sk-" ++ String.ofList (head ++ (List.replicate stars '*' ++ tail)) ∧
      Token.Masks token.key.toList head stars tail := by
  refine ⟨fun selection => ?_, ?_, fun token selected => ?_, fun token => ?_⟩
  · rw [alike.ofPage_eq]
    exact ⟨fun _ => rfl, rfl⟩
  · intro around gateway environment arguments shared options world client reads connected
      answered otherAnswered
    have same : options.printed shared other = options.printed shared page := by
      rw [printed, printed, report_eq alike]
    have prints := runCommandLine_of_page reads connected answered
    have otherPrints : (runCommandLine { around with gateway } environment arguments world).1 =
        .succeeded (options.printed shared other) :=
      runCommandLine_of_page reads connected otherAnswered
    exact ⟨prints, by rw [otherPrints, prints, same]⟩
  · exact ⟨TokenRow.member?_key _, TokenRow.render_line token selected⟩
  · rcases Token.exists_masks token.key.toList with ⟨head, stars, tail, masks⟩
    exact ⟨head, stars, tail, by rw [Token.maskedKey, masks.masked], masks⟩

/-- A gateway that answers with another long key and another short one is not told apart. -/
theorem keys_stay_hidden_of_two_gateways :
    let token (id : Int64) (key : String) : Token :=
      ⟨id, "ci", key, .enabled, 750, 250, false, "default", 0, -1⟩
    let page (long short : String) : TokenPage := ⟨[token 7 long, token 8 short], 2, 1, 10⟩
    let answer (page : TokenPage) : Json :=
      .object [("success", .bool true), ("data", .object
        [("items", .array (page.items.map Token.toJson)), ("total", .integer page.total.toNat),
          ("page", .integer page.page.toNat), ("page_size", .integer page.pageSize.toNat)])]
    let gateway (page : TokenPage) : Gateway :=
      fun _ _ => .answered ⟨200, [], .whole (answer page).compact⟩
    let around (page : TokenPage) : Surroundings :=
      ⟨gateway page, "/", ⟨2024, 2, 29, by decide⟩⟩
    let arguments := ["tokens", "--config", "s.json", "--server", "http://gw", "--token", "t",
      "--select", "7", "--format", "json"]
    let one := page "abcd1234efgh5678" "short"
    let other := page "abcd-hidden-5678" "*&^%$"
    let world : World := ⟨.start .empty [], .silent⟩
    one.AlikeButKeys other ∧ one ≠ other ∧
      (runCommandLine (around one) [] arguments world).1 =
        (runCommandLine (around other) [] arguments world).1 ∧
      (token 7 "abcd1234efgh5678").maskedKey = "sk-abcd********5678" := by
  intro token page answer gateway around arguments one other world
  have alike : one.AlikeButKeys other := by
    refine ⟨.cons ⟨?_, rfl⟩ (.cons ⟨?_, rfl⟩ .nil), rfl⟩
    · exact Token.mask_eq_iff.mp (by decide +kernel)
    · exact Token.mask_eq_iff.mp (by decide +kernel)
  let shared : GlobalOptions :=
    { GlobalOptions.initial with
      settingsFile := some "s.json", server := some "http://gw", token := some "t",
      format := some .json }
  let options : TokensOptions := { TokensOptions.initial with selected := [7] }
  have reads : CommandLine.read [] arguments = .command shared (.tokens options) := by
    decide +kernel
  let client : GatewayClient :=
    ⟨⟨"http", .path (some ⟨"", some (.domain "gw"), none⟩) [""], none, none⟩, some ⟨"t", none⟩,
      .standard⟩
  have connected : (Task.connect (Task.settingsIn (around one) shared world) shared).runIn world =
      (.ok client, world) := by
    have missing : world.work.disk.text? (Path.ofText (Task.settingsFile (around one) shared)) =
        none := by
      have file : Task.settingsFile (around one) shared = "s.json" := rfl
      rw [file]
      rfl
    have address : GatewayClient.ofAddress "http://gw" =
        .ok { client with credentials := none } := rfl
    rw [Task.settingsIn_of_missing missing]
    exact Task.connect_of_server rfl address .initial _
  have answers (page : TokenPage) (survives : (answer page).Survives Reader.depthLimit)
      (isEnvelope : Envelope.ofTree? TokenPage.ofTree? ((answer page).asTree : Document) =
        some ⟨true, "", some page⟩) :
      (client.tokens options.wantedPage options.wantedSize (gateway page) world.traffic).1 =
        .ok page := by
    rcases made : client.request .get ["api", "token", ""] [("p", 1), ("size", 10)] none with
      error | request
    · exact nomatch made
    have sendable : request.isSendable = true := by
      cases made
      decide +kernel
    exact congrArg Prod.fst
      (GatewayClient.call_of_envelope made sendable rfl survives isEnvelope)
  have answered := answers one ⟨by decide +kernel, by decide +kernel⟩ (by decide +kernel)
  have otherAnswered := answers other ⟨by decide +kernel, by decide +kernel⟩ (by decide +kernel)
  have hidden := (keys_stay_hidden alike).2.1 (around one) (gateway other) [] arguments shared
    options world client reads connected answered otherAnswered
  exact ⟨alike, by decide +kernel, hidden.2.symm, by decide +kernel⟩

end TokensOptions

end GatewayConsole
