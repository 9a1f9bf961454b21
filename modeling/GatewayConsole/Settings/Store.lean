import GatewayConsole.Settings.Basic
import GatewayConsole.Storage.Save

/-!
# The store of settings

Settings in memory, with the file they are kept in. A version counts the updates that
changed something; subscribers see from it whether there is news, and the store whether
anything is left to save.
-/

namespace GatewayConsole

/-! ## Errors -/

inductive StoreError
  | io
  | serialization
  | configuration (reason : String)
deriving DecidableEq, Repr

namespace StoreError

def isTransient : StoreError → Bool
  | .io => true
  | _ => false

def message : StoreError → String
  | .io => "IO error"
  | .serialization => "Serialization error"
  | .configuration reason => "Configuration error: " ++ reason

end StoreError

/-! ## The store -/

/-- Settings with their file, the number of updates, and how many of them are saved. -/
structure SettingsStore where
  path : Path
  settings : Settings
  version : Nat
  savedVersion : Nat

namespace SettingsStore

def ofSettings (path : Path) (settings : Settings) : SettingsStore :=
  ⟨path, settings, 0, 0⟩

/-- Load a store. Without a file that can be read, the settings are the initial ones. -/
def load (disk : Disk) (path : Path) : SettingsStore :=
  .ofSettings path (((disk.text? path).bind Settings.ofText?).getD .initial)

/-- Change settings. An update that changes nothing does not count. -/
def update (store : SettingsStore) (change : Settings → Settings) : SettingsStore :=
  let settings := change store.settings
  if settings = store.settings then store
  else { store with settings, version := store.version + 1 }

theorem settings_update (store : SettingsStore) (change : Settings → Settings) :
    (store.update change).settings = change store.settings := by
  unfold update
  by_cases same : change store.settings = store.settings <;> simp [same]

/-! ## Saving -/

def saveWith (store : SettingsStore) (work : Work) :
    Except StoreError Unit × SettingsStore × Work :=
  match work.save store.path store.settings.toText with
  | (.ok (), work) => (.ok (), { store with savedVersion := store.version }, work)
  | (.error _, work) => (.error .io, store, work)

def save (store : SettingsStore) (disk : Disk) : Except StoreError Unit × SettingsStore × Disk :=
  let (result, store, work) := store.saveWith (Work.start disk [])
  (result, store, work.disk)

def hasUnsaved (store : SettingsStore) : Bool :=
  store.version != store.savedVersion

/-- Save settings that have unsaved updates, as part of work on a disk. The result says
whether there were any. -/
def saveIfChangedWith (store : SettingsStore) (work : Work) :
    Except StoreError Bool × SettingsStore × Work :=
  if store.hasUnsaved then
    match store.saveWith work with
    | (.ok (), store, work) => (.ok true, store, work)
    | (.error error, store, work) => (.error error, store, work)
  else (.ok false, store, work)

def saveIfChanged (store : SettingsStore) (disk : Disk) :
    Except StoreError Bool × SettingsStore × Disk :=
  let (result, store, work) := store.saveIfChangedWith (Work.start disk [])
  (result, store, work.disk)

/-! ## Connection -/

def trimmedUrl (url : String) : String :=
  String.ofList (Text.dropEndWhile (· == '/') (Text.trimChars url.toList))

def isWebUrl (url : String) : Bool :=
  "http://".toList.isPrefixOf url.toList || "https://".toList.isPrefixOf url.toList

def setServerUrl (store : SettingsStore) (url : String) : Except StoreError SettingsStore :=
  let serverUrl := trimmedUrl url
  if isWebUrl serverUrl then .ok (store.update fun settings => { settings with serverUrl })
  else .error (.configuration ("server URL must start with http:// or https://: " ++ serverUrl))

def setCredentials (store : SettingsStore) (token : String) (userId : Option Int64) :
    SettingsStore :=
  store.update fun settings => { settings with accessToken := some token, userId }

def clearCredentials (store : SettingsStore) : SettingsStore :=
  store.update fun settings => { settings with accessToken := none, userId := none }

/-! ## Views and cached contents -/

def setPricingView (store : SettingsStore) (pricing : PricingView) : SettingsStore :=
  store.update fun settings => { settings with pricing }

def resetPricingView (store : SettingsStore) : SettingsStore :=
  store.setPricingView .initial

def cacheStatus (store : SettingsStore) (headerModules docsLink : Option String) :
    SettingsStore :=
  store.update fun settings => { settings with headerModules, docsLink }

def cacheHomePage (store : SettingsStore) (contents : String) : SettingsStore :=
  store.update fun settings => { settings with homePage := some contents }

def cacheFooter (store : SettingsStore) (footer : Option String) : SettingsStore :=
  store.update fun settings => { settings with footer }

/-! ## The notice -/

/-- Whether a notice is shown on a day: it has a text, and it was not closed on that
day. -/
def showsNotice (notice : String) (closedOn : Option Date) (today : Date) : Bool :=
  !Text.isBlankText notice && closedOn != some today

def noticeClosedOn (store : SettingsStore) (today : Date) : Bool :=
  store.settings.noticeClosedOn == some today

def noticeVisible (store : SettingsStore) (notice : String) (today : Date) : Bool :=
  showsNotice notice store.settings.noticeClosedOn today

def closeNotice (store : SettingsStore) (today : Date) : SettingsStore :=
  store.update fun settings => { settings with noticeClosedOn := some today }

end SettingsStore

/-! ## Subscriptions -/

structure Subscription where
  seen : Nat
deriving DecidableEq, Repr

namespace Subscription

def start (store : SettingsStore) : Subscription := ⟨store.version⟩

def hasNews (subscription : Subscription) (store : SettingsStore) : Bool :=
  store.version != subscription.seen

def mark (_ : Subscription) (store : SettingsStore) : Subscription := ⟨store.version⟩

end Subscription
end GatewayConsole
