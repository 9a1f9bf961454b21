import GatewayConsole.Navigation.Switches
import GatewayConsole.Proofs.Json.WrittenRecord
import GatewayConsole.Proofs.Text.LowerCase

/-!
# Written switches

Switches that are written as an option are read from it again.
-/

namespace GatewayConsole

theorem Json.isTrimmed_compact_object (members : List (String × Json)) :
    Text.IsTrimmed (compact (.object members)).toList := by
  have braces : (compact (.object members)).toList =
      '\x7b' :: ((compactMembers members).toList ++ ['\x7d']) := by
    rw [compact, String.toList_append, String.toList_append]
    rfl
  rw [braces]
  refine ⟨fun char first => ?_, fun char last => ?_⟩
  · cases first
    rfl
  · rw [← List.cons_append, List.getLast?_append] at last
    cases last
    rfl

namespace Switches

theorem survives_toJson (switches : Switches) : switches.toJson.Survives Reader.depthLimit :=
  ⟨rfl, Nat.le_of_ble_eq_true rfl⟩

def sortedJson (switches : Switches) : Json :=
  .object
    [("about", .bool switches.about), ("account", .bool switches.account),
      ("console", .bool switches.console), ("docs", .bool switches.docs),
      ("home", .bool switches.home), ("logs", .bool switches.logs),
      ("pricing", switches.pricing.toJson), ("token", .bool switches.token),
      ("wallet", .bool switches.wallet)]

theorem value?_toJson (switches : Switches) :
    (switches.toJson.asTree : Document).value? = some switches.sortedJson :=
  rfl

theorem ofJson_sortedJson (switches : Switches) : ofJson switches.sortedJson = switches := by
  have same : ofJson switches.sortedJson = ofJson switches.toJson := rfl
  rw [same, ofJson_toJson]

theorem ofText?_toText (switches : Switches) : ofText? switches.toText = some switches := by
  rw [ofText?, Json.ofText?, toText, (survives_toJson switches).document_compact,
    Option.bind_eq_bind, Option.bind_some, value?_toJson, Option.map_some, ofJson_sortedJson]

theorem trim_toText (switches : Switches) : Text.trim switches.toText = switches.toText := by
  have trimmed : Text.IsTrimmed switches.toText.toList := Json.isTrimmed_compact_object _
  rw [Text.trim, Text.trimChars_of_isTrimmed trimmed, String.ofList_toList]

theorem ofOption_toText (switches : Switches) : ofOption (some switches.toText) = switches := by
  rw [ofOption, Option.map_some, trim_toText]
  split
  next missing => exact nomatch missing
  next blank =>
    have noSwitches : ofText? "" = none := by decide +kernel
    have isRead := ofText?_toText switches
    rw [Option.some.inj blank, noSwitches] at isRead
    exact nomatch isRead
  next text _ isText =>
    cases isText
    rw [ofText?_toText, Option.getD_some]

end Switches
end GatewayConsole
