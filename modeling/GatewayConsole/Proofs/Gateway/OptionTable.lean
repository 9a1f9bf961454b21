import GatewayConsole.Proofs.Gateway.Calls
import GatewayConsole.Proofs.Gateway.Sending
import Mathlib.Logic.Function.Basic

/-!
# Option tables

Gateways that keep a table of options: what is asked for leaves it as it is and lists it
whole, and what is stored changes one option. Nothing else is known about when such a gateway
answers, with what, or whether a change that it does not acknowledge was made.
-/

namespace GatewayConsole

abbrev OptionTable := String → Option String

structure OptionTable.IsListedBy (table : OptionTable) (entries : List OptionEntry) : Prop where
  once : (entries.map (·.key)).Nodup
  lists : ∀ key value, ⟨key, value⟩ ∈ entries ↔ table key = some value

/-! ## Looking entries up -/

namespace OptionEntry

variable {entries : List OptionEntry}

theorem lookup?_cons_same (entry : OptionEntry) (entries : List OptionEntry) :
    lookup? (entry :: entries) entry.key = some entry.value := by
  rw [lookup?, List.find?_cons_of_pos (by exact beq_self_eq_true entry.key), Option.map_some]

theorem lookup?_cons_other {entry : OptionEntry} {key : String} (other : key ≠ entry.key) :
    lookup? (entry :: entries) key = lookup? entries key := by
  rw [lookup?, List.find?_cons_of_neg (by simpa using other.symm), lookup?]

theorem mem_of_lookup? {key value : String} (found : lookup? entries key = some value) :
    ⟨key, value⟩ ∈ entries := by
  rcases Option.map_eq_some_iff.mp found with ⟨⟨other, stored⟩, first, isValue⟩
  have sameKey : other = key := by simpa using List.find?_some first
  cases sameKey
  cases isValue
  exact List.mem_of_find?_eq_some first

theorem lookup?_of_mem (once : (entries.map (·.key)).Nodup) {key value : String}
    (member : ⟨key, value⟩ ∈ entries) : lookup? entries key = some value := by
  induction entries with
  | nil => cases member
  | cons entry entries induction =>
      have parts := List.nodup_cons.mp once
      rcases List.mem_cons.mp member with first | later
      · cases first
        exact lookup?_cons_same _ entries
      · have other : key ≠ entry.key := by
          intro same
          exact parts.1 (List.mem_map.mpr ⟨_, later, same⟩)
        rw [lookup?_cons_other other]
        exact induction parts.2 later

end OptionEntry

theorem OptionTable.lookup?_of_listed {table : OptionTable} {entries : List OptionEntry}
    (listed : table.IsListedBy entries) (key : String) :
    OptionEntry.lookup? entries key = table key := by
  apply Option.ext
  intro value
  constructor
  · intro found
    exact (listed.lists key value).mp (OptionEntry.mem_of_lookup? found)
  · intro stored
    exact OptionEntry.lookup?_of_mem listed.once ((listed.lists key value).mpr stored)

/-! ## Gateways that keep options -/

def Request.AsksForOptions (request : Request) : Prop :=
  ∃ client, request.IsMadeBy client .get ["api", "option", ""] [] none

def Request.StoresOption (request : Request) (entry : OptionEntry) : Prop :=
  ∃ client, request.IsMadeBy client .put ["api", "option", ""] [] (some entry.toJson)

def OptionTable.store (table : OptionTable) (entry : OptionEntry) : OptionTable :=
  Function.update table entry.key (some entry.value)

theorem OptionTable.store_of_either {table other : OptionTable} {entry : OptionEntry}
    (either : other = table ∨ other = table.store entry) :
    other.store entry = table.store entry := by
  rcases either with same | stored
  · rw [same]
  · rw [stored, OptionTable.store, OptionTable.store, Function.update_idem]

/-- Whether a gateway keeps a table of options, which is known from all exchanges so far. A
change may be made without being acknowledged, but not the other way round. -/
structure Gateway.KeepsOptions (gateway : Gateway) (table : List Exchange → OptionTable) :
    Prop where
  asked : ∀ earlier request, request.method = .get →
    table (earlier ++ [⟨request, gateway earlier request⟩]) = table earlier
  listed : ∀ earlier request reply entries, request.AsksForOptions →
    gateway earlier request = .answered reply → reply.status.isSuccess = true →
    GatewayClient.payloadOf (·.asList? OptionEntry.ofTree?) reply = .ok entries →
    (table earlier).IsListedBy entries
  stored : ∀ earlier request entry, request.StoresOption entry →
    let after := table (earlier ++ [⟨request, gateway earlier request⟩])
    after = table earlier ∨ after = (table earlier).store entry
  acknowledged : ∀ earlier request entry reply, request.StoresOption entry →
    gateway earlier request = .answered reply → reply.status.isSuccess = true →
    (GatewayClient.envelopeOf (·.value?) reply).bind (·.acknowledged) = .ok () →
    table (earlier ++ [⟨request, .answered reply⟩]) = (table earlier).store entry

namespace GatewayClient

variable {client : GatewayClient} {gateway : Gateway} {table : List Exchange → OptionTable}
  {traffic after : Traffic} {key : String}

theorem keeps_table_of_asking {before : OptionTable} {path : List String}
    (asked : ∀ earlier request, request.method = .get →
      table (earlier ++ [⟨request, gateway earlier request⟩]) = table earlier)
    (request : Request) (made : client.request .get path [] none = .ok request) :
    gateway.Keeps request (table · = before) := by
  intro earlier same
  exact (asked earlier request (isMadeBy_of_request _ _ _ _ _ made).method).trans same

theorem option_of_kept (keeps : gateway.KeepsOptions table) {value : Option String}
    (called : client.option key gateway traffic = (.ok value, after)) :
    value = table traffic.exchanges key ∧ table after.exchanges = table traffic.exchanges := by
  unfold GatewayClient.option at called
  rcases asked : client.options gateway traffic with ⟨outcome, last⟩
  rw [asked] at called
  cases outcome with
  | error error => exact nomatch called
  | ok entries =>
      cases called
      rcases answers_call (keeps_table_of_asking keeps.asked) rfl (called_withToken asked) with
        ⟨request, reply, made, ⟨earlier, same, answered, success, exchanged⟩, isRead⟩
      have isMade := isMadeBy_of_request _ _ _ _ _ made
      have listed := keeps.listed earlier request reply entries ⟨client, isMade⟩ answered success
        isRead
      constructor
      · rw [← same]
        exact OptionTable.lookup?_of_listed listed key
      · rw [exchanged, ← answered, keeps.asked earlier request isMade.method]
        exact same

theorem updateOption_of_kept (keeps : gateway.KeepsOptions table) {value : String}
    (called : client.updateOption key value gateway traffic = (.ok (), after)) :
    table after.exchanges = (table traffic.exchanges).store ⟨key, value⟩ := by
  let entry : OptionEntry := ⟨key, value⟩
  -- An attempt that came to nothing may have stored the option all the same.
  have atMostStored (request : Request)
      (made : client.request .put ["api", "option", ""] [] (some entry.toJson) = .ok request) :
      gateway.Keeps request fun earlier => table earlier = table traffic.exchanges ∨
        table earlier = (table traffic.exchanges).store entry := by
    intro earlier before
    have stored := keeps.stored earlier request entry
      ⟨client, isMadeBy_of_request _ _ _ _ _ made⟩
    rcases stored with unchanged | stored
    · rw [unchanged]
      exact before
    · rw [stored]
      exact .inr (OptionTable.store_of_either before)
  rcases answers_call atMostStored (.inl rfl) (called_withToken called) with
    ⟨request, reply, made, ⟨earlier, before, answered, success, exchanged⟩, acknowledged⟩
  rw [exchanged, keeps.acknowledged earlier request entry reply
    ⟨client, isMadeBy_of_request _ _ _ _ _ made⟩ answered success acknowledged]
  exact OptionTable.store_of_either before

end GatewayClient
end GatewayConsole
