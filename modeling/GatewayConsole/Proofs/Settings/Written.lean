import GatewayConsole.Proofs.Calendar.DateText
import GatewayConsole.Proofs.Pricing.WrittenView
import GatewayConsole.Settings.Basic

/-!
# The file of settings

Settings are read back from the text of their file. They come back as they were exactly
when their criteria do, and criteria that were themselves read always do.
-/

namespace GatewayConsole
namespace Settings

variable {Gap : Type}

/-! ## The fields of a file -/

def writtenRest (settings : Settings) : Fields Gap :=
  [("request_timeout_secs", .integer settings.timeoutSeconds.toNat),
    ("log_level", .text settings.logLevel.name),
    ("pricing", settings.pricing.toJson.asTree),
    ("notice_close_date", ((settings.noticeClosedOn.map Date.toJson).getD .null).asTree),
    ("home_page_content", (textOrNull settings.homePage).asTree),
    ("footer_html", (textOrNull settings.footer).asTree),
    ("header_nav_modules", (textOrNull settings.headerModules).asTree),
    ("docs_link", (textOrNull settings.docsLink).asTree)]

def written (settings : Settings) : Fields Gap :=
  [("server_url", .text settings.serverUrl)]
    ++ (settings.accessToken.map fun token => ("access_token", .text token)).toList
    ++ (settings.userId.map fun id => ("user_id", .integer id.toInt)).toList
    ++ settings.writtenRest

theorem fields?_toJson (settings : Settings) :
    (settings.toJson.asTree : JsonTree Gap).fields? fieldNames = some settings.written := by
  have tree : (settings.toJson.asTree : JsonTree Gap) = .object settings.written := by
    rw [toJson, Json.asTree]
    simp only [Json.memberTrees_append, Json.memberTrees_presentMember, Option.map_map]
    rfl
  rw [tree]
  rcases settings with ⟨serverUrl, accessToken, userId, _, _, _, _, _, _, _, _⟩
  apply Fields.fields?_object
  · cases accessToken <;> cases userId <;> rfl
  · cases accessToken <;> cases userId <;> rfl

theorem find?_written {settings : Settings} {name : String}
    (behind : name ∉ ["server_url", "access_token", "user_id"]) :
    (settings.written : Fields Gap).find? name = settings.writtenRest.find? name := by
  simp only [List.mem_cons, List.not_mem_nil, or_false, not_or] at behind
  rcases behind with ⟨notUrl, notToken, notId⟩
  rw [written]
  cases settings.accessToken <;> cases settings.userId <;>
    simp [Fields.find?, Ne.symm notUrl, Ne.symm notToken, Ne.symm notId]

theorem optional_rest {α : Type} {settings : Settings} {name : String} {default value : α}
    {read : JsonTree Gap → Option α} {tree : JsonTree Gap}
    (found : settings.writtenRest.find? name = some tree) (reads : read tree = some value)
    (behind : name ∉ ["server_url", "access_token", "user_id"]) :
    (settings.written : Fields Gap).optional name default read = some value :=
  Fields.optional_given ((find?_written behind).trans found) reads

theorem optional_accessToken (settings : Settings) :
    (settings.written : Fields Gap).optional "access_token" none (JsonTree.nullable? (·.asText?)) =
      some settings.accessToken := by
  rcases settings with ⟨_, accessToken, userId, _, _, _, _, _, _, _, _⟩
  cases accessToken <;> cases userId <;> rfl

theorem optional_userId (settings : Settings) :
    (settings.written : Fields Gap).optional "user_id" none (JsonTree.nullable? (·.asSigned?)) =
      some settings.userId := by
  rcases settings with ⟨_, accessToken, userId, _, _, _, _, _, _, _, _⟩
  cases userId with
  | none => cases accessToken <;> rfl
  | some id =>
      have read : JsonTree.nullable? (·.asSigned?) (.integer id.toInt : JsonTree Gap) =
          some (some id) := congrArg (Option.map some) (JsonTree.asSigned?_toInt id)
      cases accessToken <;> exact Fields.optional_given rfl read

theorem nullable?_textOrNull (text : Option String) :
    JsonTree.nullable? (·.asText?) ((textOrNull text).asTree : JsonTree Gap) = some text := by
  cases text <;> rfl

theorem nullable?_date (date : Option Date) :
    JsonTree.nullable? Date.ofTree? (((date.map Date.toJson).getD .null).asTree : JsonTree Gap) =
      some date := by
  cases date with
  | none => rfl
  | some date => exact congrArg (Option.map some) (Date.ofText?_toText date)

/-! ## Reading them back -/

def reread (settings : Settings) : Settings :=
  { settings with pricing := settings.pricing.reread }

theorem reread_eq_self_iff (settings : Settings) :
    settings.reread = settings ↔ settings.pricing.criteria.IsReadable := by
  rw [← PricingView.reread_eq_self_iff]
  constructor
  · exact fun same => congrArg pricing same
  · intro same
    rw [reread, same]

theorem ofTree?_toJson (settings : Settings) :
    ofTree? (settings.toJson.asTree : JsonTree Gap) = some settings.reread := by
  let fields : Fields Gap := settings.written
  have serverUrl : fields.optional "server_url" initialServerUrl (·.asText?) =
      some settings.serverUrl := rfl
  have timeoutSeconds : fields.optional "request_timeout_secs" 30 (·.asWord?) =
      some settings.timeoutSeconds :=
    optional_rest rfl (JsonTree.asWord?_toNat settings.timeoutSeconds) (by decide)
  have logLevel :
      fields.optional "log_level" .warn (·.asVariant?.bind LogLevel.ofName?) =
        some settings.logLevel :=
    optional_rest rfl (by cases settings.logLevel <;> rfl) (by decide)
  have pricing : fields.optional "pricing" .initial PricingView.ofTree? =
      some settings.pricing.reread :=
    optional_rest rfl (PricingView.ofTree?_toJson settings.pricing) (by decide)
  have noticeClosedOn :
      fields.optional "notice_close_date" none (JsonTree.nullable? Date.ofTree?) =
        some settings.noticeClosedOn :=
    optional_rest rfl (nullable?_date settings.noticeClosedOn) (by decide)
  have homePage : fields.optional "home_page_content" none (JsonTree.nullable? (·.asText?)) =
      some settings.homePage :=
    optional_rest rfl (nullable?_textOrNull settings.homePage) (by decide)
  have footer : fields.optional "footer_html" none (JsonTree.nullable? (·.asText?)) =
      some settings.footer :=
    optional_rest rfl (nullable?_textOrNull settings.footer) (by decide)
  have headerModules :
      fields.optional "header_nav_modules" none (JsonTree.nullable? (·.asText?)) =
        some settings.headerModules :=
    optional_rest rfl (nullable?_textOrNull settings.headerModules) (by decide)
  have docsLink : fields.optional "docs_link" none (JsonTree.nullable? (·.asText?)) =
      some settings.docsLink :=
    optional_rest rfl (nullable?_textOrNull settings.docsLink) (by decide)
  have named : settings.written = fields := rfl
  rw [ofTree?, fields?_toJson, Option.bind_eq_bind, Option.bind_some, named]
  dsimp only
  rw [serverUrl, optional_accessToken, optional_userId, timeoutSeconds, logLevel, pricing,
    noticeClosedOn, homePage, footer, headerModules, docsLink]
  rfl

theorem survives_textOrNull {depth : Nat} (text : Option String) :
    (textOrNull text).Survives depth := by
  cases text with
  | none => exact Json.survives_null
  | some text => exact Json.survives_text text

theorem survives (settings : Settings) : settings.toJson.Survives Reader.depthLimit := by
  have token : ∀ json ∈ settings.accessToken.map .text, Json.Survives 126 json := by
    intro json found
    rcases Option.map_eq_some_iff.mp found with ⟨token, _, rfl⟩
    exact Json.survives_text token
  have userId : ∀ json ∈ settings.userId.map fun id => .integer id.toInt,
      Json.Survives 126 json := by
    intro json found
    rcases Option.map_eq_some_iff.mp found with ⟨id, _, rfl⟩
    exact Json.survives_signed id
  have date : ((settings.noticeClosedOn.map Date.toJson).getD .null).Survives 126 := by
    cases settings.noticeClosedOn with
    | none => exact Json.survives_null
    | some date => exact Json.survives_text date.toText
  apply Json.survives_object
  simp only [List.forall_mem_append, List.forall_mem_cons, List.not_mem_nil, false_imp_iff,
    implies_true, and_true]
  exact ⟨⟨⟨Json.survives_text settings.serverUrl, Json.survives_presentMember token⟩,
    Json.survives_presentMember userId⟩, Json.survives_word settings.timeoutSeconds,
    Json.survives_text settings.logLevel.name, settings.pricing.survives, date,
    survives_textOrNull _, survives_textOrNull _, survives_textOrNull _, survives_textOrNull _⟩

theorem ofText?_toText (settings : Settings) :
    ofText? settings.toText = some settings.reread := by
  rw [ofText?, toText, settings.survives.document, Option.bind_eq_bind, Option.bind_some,
    ofTree?_toJson]

theorem isReadable_of_ofText? {text : String} {settings : Settings}
    (read : ofText? text = some settings) : settings.pricing.criteria.IsReadable := by
  rcases Option.bind_eq_some_iff.mp read with ⟨document, _, read⟩
  rw [ofTree?] at read
  rcases Option.bind_eq_some_iff.mp read with ⟨fields, _, read⟩
  -- The criteria are in the sixth field, and five follow it.
  iterate 5 rcases Option.bind_eq_some_iff.mp read with ⟨_, _, read⟩
  rcases Option.bind_eq_some_iff.mp read with ⟨pricing, pricingRead, read⟩
  iterate 5 rcases Option.bind_eq_some_iff.mp read with ⟨_, _, read⟩
  cases read
  rcases Fields.default_or_read pricingRead with rfl | ⟨tree, read⟩
  · exact (by decide : PricingView.initial.criteria.IsReadable)
  · exact PricingView.isReadable_of_ofTree? read

/-! ## Which settings come back -/

/-- Settings come back from the text of their file exactly when no vendor, tag, group or
endpoint type has the name of a word of the format; criteria that were read, from JSON or
from the command line, have no such names. -/
theorem comes_back_iff_isReadable :
    (∀ settings : Settings,
      ofText? settings.toText = some settings ↔ settings.pricing.criteria.IsReadable) ∧
    (∀ (Gap : Type) (tree : JsonTree Gap) (criteria : Criteria),
      Criteria.ofTree? tree = some criteria → criteria.IsReadable) ∧
    (∀ (criteria : Criteria) (vendor tag group billing endpointType : String),
      Choice.ofText? (some ∘ Vendor.ofText) vendor = some criteria.vendor →
      Choice.ofText? some tag = some criteria.tag →
      Choice.ofText? some group = some criteria.group →
      Choice.ofText? Billing.ofText? billing = some criteria.billing →
      Choice.ofText? some endpointType = some criteria.endpointType →
      criteria.IsReadable) := by
  refine ⟨?_, ?_, ?_⟩
  · intro settings
    rw [ofText?_toText, Option.some.injEq]
    exact reread_eq_self_iff settings
  · intro Gap tree criteria read
    exact Criteria.isReadable_of_ofTree? read
  · intro criteria vendor tag group billing endpointType vendorRead tagRead groupRead _
      endpointTypeRead
    exact ⟨Criteria.not_word_of_ofText? vendorRead, Criteria.not_allWord_of_ofText? tagRead,
      Criteria.not_allWord_of_ofText? groupRead, Criteria.not_allWord_of_ofText? endpointTypeRead⟩

theorem comes_back_of_words :
    ofText? initial.toText = some initial ∧
    Criteria.ofTree? (.object [("vendor", .text "unknown")] : Document) =
      some ⟨.only .unknown, .all, .all, .all, .all, ""⟩ ∧
    Criteria.IsReadable ⟨.only .unknown, .all, .all, .all, .all, ""⟩ ∧
    Criteria.IsReadable ⟨.only (.named "openai"), .all, .only "vip", .all, .only "chat", ""⟩ := by
  have read : Criteria.ofTree? (.object [("vendor", .text "unknown")] : Document) =
      some ⟨.only .unknown, .all, .all, .all, .all, ""⟩ := by rfl
  rcases comes_back_iff_isReadable with ⟨settings, fromTree, fromWords⟩
  refine ⟨(settings initial).mpr (by decide), read, fromTree Unit _ _ read, ?_⟩
  exact fromWords _ "openai" " ALL " "vip" "all" "chat" (by decide +kernel) (by decide +kernel)
    (by decide +kernel) (by decide +kernel) (by decide +kernel)

end Settings
end GatewayConsole
