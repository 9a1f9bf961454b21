import GatewayConsole.Proofs.Settings.KeptStore
import GatewayConsole.Proofs.Text.Trimming

/-!
# Addresses of servers

A store keeps only addresses of web servers, without a blank in front and without a slash at
the end. Blanks are trimmed before slashes, so a blank that slashes hide is kept at the end of
the address. All other addresses stay as they are when they are set again.
-/

namespace GatewayConsole

/-! ## Trimmed addresses -/

namespace SettingsStore

structure IsKeptUrl (url : String) : Prop where
  web : "http://".toList <+: url.toList ∨ "https://".toList <+: url.toList
  start : ∀ char ∈ url.toList.head?, Text.isBlank char = false
  stop : ∀ char ∈ url.toList.getLast?, char ≠ '/'

def EndsInBlank (url : String) : Prop :=
  ∃ char ∈ url.toList.getLast?, Text.isBlank char = true

/-- Whether nothing but slashes is behind a blank of an address, once the blanks around it are
gone. -/
def HidesBlank (url : String) : Prop :=
  ∃ front blank slashes, Text.isBlank blank = true ∧
    Text.trimChars url.toList = front ++ [blank] ++ List.replicate (slashes + 1) '/'

variable {url : String}

theorem isWebUrl_iff : isWebUrl url = true ↔
    "http://".toList <+: url.toList ∨ "https://".toList <+: url.toList := by
  rw [isWebUrl, Bool.or_eq_true, List.isPrefixOf_iff_prefix, List.isPrefixOf_iff_prefix]

theorem toList_trimmedUrl (url : String) :
    (trimmedUrl url).toList = Text.dropEndWhile (· == '/') (Text.trimChars url.toList) := by
  rw [trimmedUrl, String.toList_ofList]

theorem isKeptUrl_trimmedUrl (web : isWebUrl (trimmedUrl url) = true) :
    IsKeptUrl (trimmedUrl url) where
  web := isWebUrl_iff.mp web
  start := by
    intro char member
    rw [toList_trimmedUrl] at member
    exact (Text.isTrimmed_trimChars url.toList).1 char
      (Text.mem_head_of_mem_head_dropEndWhile member)
  stop := by
    intro char member
    rw [toList_trimmedUrl] at member
    have other := Text.not_of_mem_getLast_dropEndWhile member
    exact beq_eq_false_iff_ne.mp other

theorem endsInBlank_trimmedUrl_iff (url : String) :
    EndsInBlank (trimmedUrl url) ↔ HidesBlank url := by
  rw [EndsInBlank, toList_trimmedUrl, HidesBlank]
  constructor
  · rintro ⟨blank, last, isBlank⟩
    rcases List.getLast?_eq_some_iff.mp last with ⟨front, left⟩
    rcases Text.exists_dropEndWhile_append (· == '/') (Text.trimChars url.toList) with
      ⟨slashes, whole, drops⟩
    rw [left] at whole
    have replicated : slashes = List.replicate slashes.length '/' :=
      List.eq_replicate_of_mem fun char member => beq_iff_eq.mp (drops char member)
    cases count : slashes.length with
    | zero =>
        rw [List.length_eq_zero_iff.mp count, List.append_nil] at whole
        -- Without a slash behind it the blank would have been trimmed.
        have trimmed := (Text.isTrimmed_trimChars url.toList).2 blank (by simp [whole])
        exact absurd (trimmed.symm.trans isBlank) Bool.false_ne_true
    | succ more =>
        rw [count] at replicated
        exact ⟨front, blank, more, isBlank, replicated ▸ whole⟩
  · rintro ⟨front, blank, slashes, isBlank, whole⟩
    have drops : ∀ char ∈ List.replicate (slashes + 1) '/', (char == '/') = true :=
      fun char member => beq_iff_eq.mpr (List.eq_of_mem_replicate member)
    have stays : ∀ char ∈ (front ++ [blank]).getLast?, (char == '/') = false := by
      intro char member
      rw [List.getLast?_concat, Option.mem_some] at member
      subst member
      refine beq_false_of_ne ?_
      rintro rfl
      exact absurd isBlank (by decide)
    rw [whole, Text.dropEndWhile_append drops, Text.dropEndWhile_of_getLast stays]
    exact ⟨blank, List.getLast?_concat, isBlank⟩

theorem trimmedUrl_eq_self_iff (kept : IsKeptUrl url) :
    trimmedUrl url = url ↔ ¬EndsInBlank url := by
  rw [← String.toList_inj, toList_trimmedUrl]
  constructor
  · rintro same ⟨blank, last, isBlank⟩
    have short : Text.trimChars url.toList <:+: url.toList :=
      (Text.dropEndWhile_isPrefix _ _).isInfix.trans (List.dropWhile_suffix _).isInfix
    have long : url.toList <+: Text.trimChars url.toList := by
      have shorter := Text.dropEndWhile_isPrefix (· == '/') (Text.trimChars url.toList)
      rwa [same] at shorter
    have trims := long.eq_of_length_le short.length_le
    have trimmed := Text.isTrimmed_trimChars url.toList
    rw [← trims] at trimmed
    exact absurd ((trimmed.2 blank last).symm.trans isBlank) Bool.false_ne_true
  · intro noBlank
    have trimmed : Text.IsTrimmed url.toList :=
      ⟨kept.start, fun char last =>
        eq_false_of_ne_true fun isBlank => noBlank ⟨char, last, isBlank⟩⟩
    rw [Text.trimChars_of_isTrimmed trimmed]
    exact Text.dropEndWhile_of_getLast fun char last => beq_false_of_ne (kept.stop char last)

/-! ## Setting an address -/

theorem update_serverUrl_eq_self_iff (store : SettingsStore) (serverUrl : String) :
    (store.update fun settings => { settings with serverUrl }) = store ↔
      serverUrl = store.settings.serverUrl := by
  constructor
  · intro same
    have settings := congrArg SettingsStore.settings same
    rw [settings_update] at settings
    exact congrArg Settings.serverUrl settings
  · rintro rfl
    rw [update]
    exact if_pos rfl

theorem setServerUrl_again_iff {store : SettingsStore} (same : store.settings.serverUrl = url)
    (kept : IsKeptUrl url) : store.setServerUrl url = .ok store ↔ ¬EndsInBlank url := by
  subst same
  rw [← trimmedUrl_eq_self_iff kept]
  rcases KeptStore.setServerUrl_cases store store.settings.serverUrl with
    ⟨_, done⟩ | ⟨noWeb, reason, refused⟩
  · rw [done, Except.ok.injEq]
    exact update_serverUrl_eq_self_iff store _
  · rw [refused]
    refine ⟨nofun, fun same => ?_⟩
    rw [same, isWebUrl_iff.mpr kept.web] at noWeb
    exact absurd noWeb.symm Bool.false_ne_true

end SettingsStore

namespace KeptStore

/-- Setting an address either is refused and changes nothing, or the trimmed address is kept.
It stays as it is when it is set again, unless it ends in a blank that slashes hid. -/
theorem serverUrl_settles (kept : KeptStore) (url : String) :
    (∃ reason, kept.store.setServerUrl url = .error (.configuration reason) ∧
      kept.step (.setServerUrl url) = kept) ∨
    ∃ store serverUrl, kept.store.setServerUrl url = .ok store ∧
      kept.step (.setServerUrl url) = { kept with store } ∧
      store.settings = { kept.store.settings with serverUrl } ∧
      SettingsStore.IsKeptUrl serverUrl ∧
      (SettingsStore.EndsInBlank serverUrl ↔ SettingsStore.HidesBlank url) ∧
      (store.setServerUrl serverUrl = .ok store ↔ ¬SettingsStore.HidesBlank url) := by
  rcases setServerUrl_cases kept.store url with
    ⟨web, done⟩ | ⟨_, reason, refused⟩
  · have isKept := SettingsStore.isKeptUrl_trimmedUrl web
    have hides := SettingsStore.endsInBlank_trimmedUrl_iff url
    have settings := SettingsStore.settings_update kept.store
      fun settings => { settings with serverUrl := SettingsStore.trimmedUrl url }
    refine .inr ⟨_, _, done, by rw [step, done], settings, isKept, hides, ?_⟩
    have same := congrArg Settings.serverUrl settings
    rw [← hides]
    exact SettingsStore.setServerUrl_again_iff same isKept
  · exact .inl ⟨reason, refused, by rw [step, refused]⟩

/-- A blank in front of a slash is kept at the end of an address. When the address is set
again, the blank goes away, which leaves another address or none at all. -/
theorem serverUrl_ends_in_blank :
    ∃ first second kept : SettingsStore,
      (load Disk.empty (Path.ofText "settings.json")).store.setServerUrl "http://a /" = .ok first ∧
      first.settings.serverUrl = "http://a " ∧ first.version = 1 ∧
      first.setServerUrl "http://a " = .ok second ∧
      second.settings.serverUrl = "http://a" ∧ second.version = 2 ∧
      second.setServerUrl "http:// /" = .ok kept ∧ kept.settings.serverUrl = "http:// " ∧
      kept.setServerUrl "http:// " = .error
        (.configuration "server URL must start with http:// or https://: http:") := by
  refine ⟨_, _, _, rfl, ?_, ?_, rfl, ?_, ?_, rfl, ?_, rfl⟩
  all_goals decide +kernel

end KeptStore
end GatewayConsole
