import GatewayConsole.Proofs.Settings.Persistence

/-!
# Loading again

What is loaded once nothing is left to save. Settings are found as they are, but for a pricing
view that was never read from anywhere.
-/

namespace GatewayConsole

def Settings.AgreesWith (settings other : Settings) : Prop :=
  ∃ pricing, settings = { other with pricing }

theorem Settings.AgreesWith.refl (settings : Settings) : settings.AgreesWith settings :=
  ⟨settings.pricing, rfl⟩

namespace SettingsStore

structure IsInStep (store : SettingsStore) (disk : Disk) : Prop where
  ahead : store.savedVersion ≤ store.version
  current : store.hasUnsaved = false →
    (load disk store.path).settings.AgreesWith store.settings

variable {store : SettingsStore} {disk : Disk} {work : Work}

theorem isInStep_load (disk : Disk) (path : Path) : (load disk path).IsInStep disk :=
  ⟨Nat.le_refl 0, fun _ => .refl _⟩

theorem IsInStep.update (inStep : store.IsInStep disk) (change : Settings → Settings) :
    (store.update change).IsInStep disk := by
  rw [SettingsStore.update]
  split
  · exact inStep
  · refine ⟨Nat.le_succ_of_le inStep.ahead, fun saved => ?_⟩
    have same : store.version + 1 = store.savedVersion := by simpa [hasUnsaved] using saved
    have ahead := inStep.ahead
    omega

theorem saveIfChangedWith_cases (store : SettingsStore) (work : Work) :
    (store.hasUnsaved = false ∧ store.saveIfChangedWith work = (.ok false, store, work)) ∨
    (∃ after, work.save store.path store.settings.toText = (.ok (), after) ∧
      store.saveIfChangedWith work =
        (.ok true, { store with savedVersion := store.version }, after)) ∨
    (store.hasUnsaved = true ∧ ∃ trouble after,
      work.save store.path store.settings.toText = (.error trouble, after) ∧
      store.saveIfChangedWith work = (.error .io, store, after)) := by
  unfold saveIfChangedWith saveWith
  cases store.hasUnsaved with
  | false => exact .inl ⟨rfl, rfl⟩
  | true =>
      rw [if_pos rfl]
      rcases work.save store.path store.settings.toText with ⟨outcome, after⟩
      cases outcome with
      | ok => exact .inr (.inl ⟨after, rfl, rfl⟩)
      | error trouble => exact .inr (.inr ⟨rfl, trouble, after, rfl, rfl⟩)

theorem settings_saveIfChangedWith (store : SettingsStore) (work : Work) :
    (store.saveIfChangedWith work).2.1.settings = store.settings := by
  rcases saveIfChangedWith_cases store work with
    ⟨_, done⟩ | ⟨after, _, done⟩ | ⟨_, trouble, after, _, done⟩ <;> rw [done]

theorem saveIfChangedWith_ok (saved : (work.save store.path store.settings.toText).1 = .ok ()) :
    ∃ changed, (store.saveIfChangedWith work).1 = .ok changed := by
  rcases saveIfChangedWith_cases store work with
    ⟨_, done⟩ | ⟨after, _, done⟩ | ⟨_, trouble, after, failed, _⟩
  · exact ⟨false, congrArg Prod.fst done⟩
  · exact ⟨true, congrArg Prod.fst done⟩
  · rw [failed] at saved
    exact nomatch saved

theorem load_of_saved {changed : Bool} (saved : (store.saveIfChangedWith work).1 = .ok changed)
    (inStep : changed = false → store.IsInStep work.disk) :
    (load (store.saveIfChangedWith work).2.2.disk store.path).settings.AgreesWith
      store.settings := by
  rcases saveIfChangedWith_cases store work with
    ⟨nothing, done⟩ | ⟨after, written, done⟩ | ⟨_, trouble, after, _, done⟩
  · rw [done] at saved ⊢
    cases saved
    exact (inStep rfl).current nothing
  · rw [done]
    have loads := KeptStore.settings_load_save (congrArg Prod.fst written)
    rw [written] at loads
    exact ⟨store.settings.pricing.reread, loads⟩
  · rw [done] at saved
    exact nomatch saved

end SettingsStore
end GatewayConsole
