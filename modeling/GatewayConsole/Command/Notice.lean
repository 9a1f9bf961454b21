import GatewayConsole.Command.World
import GatewayConsole.Report.Contents

/-!
# Showing and closing the notice

A notice that has been closed is not even asked for on the same day, unless it is forced to
be shown.
-/

namespace GatewayConsole
namespace NoticeOptions

def report (options : NoticeOptions) (around : Surroundings) (client : GatewayClient)
    (store : SettingsStore) : Task NoticeReport := do
  let dismissed := store.noticeClosedOn around.today
  if dismissed && !options.force then return ⟨false, dismissed, ""⟩
  let content ← Task.call around client.notice
  let visible :=
    if options.force then !Text.isBlankText content else store.noticeVisible content around.today
  return ⟨visible, dismissed, content⟩

def run (options : NoticeOptions) (around : Surroundings) (shared : GlobalOptions) :
    Task String := do
  let loaded ← Task.loadStore around shared
  let store ←
    if options.dismiss then Task.saveStore (loaded.closeNotice around.today) else pure loaded
  let client ← Task.connect store.settings shared
  let report ← options.report around client store
  return Output.report shared "Notice" report.text report.toJson

end NoticeOptions
end GatewayConsole
