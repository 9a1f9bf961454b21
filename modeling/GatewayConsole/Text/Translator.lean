import GatewayConsole.Text.Keyed

/-!
# Translators

Labels are looked up by their English text. A label that is not found stays as it is.
-/

namespace GatewayConsole

abbrev Translator := String → String

namespace Translator

def unchanged : Translator := fun label => label

def ofTable (table : Keyed String) : Translator :=
  fun label => (table.find? label).getD label

example : ofTable [("Home", "Start")] "Home" = "Start" := by decide

example : ofTable [("Home", "Start")] "About" = "About" := by decide

end Translator
end GatewayConsole
