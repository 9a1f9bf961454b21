import GatewayConsole.Proofs.Gateway.OptionTable

/-!
# Servers with options

A gateway that has a list of options, answers every request at once, and does nothing else.
-/

namespace GatewayConsole

/-! ## Lists of options -/

namespace OptionEntry

def store (entry : OptionEntry) (entries : List OptionEntry) : List OptionEntry :=
  entry :: entries.filter (·.key != entry.key)

theorem lookup?_filter_other {entries : List OptionEntry} {key other : String}
    (different : other ≠ key) :
    lookup? (entries.filter (·.key != key)) other = lookup? entries other := by
  induction entries with
  | nil => rfl
  | cons entry entries induction =>
      by_cases same : entry.key = key
      · rw [List.filter_cons_of_neg (by simpa using same), induction, lookup?_cons_other]
        exact fun found => different (found.trans same)
      · rw [List.filter_cons_of_pos (by simpa using same)]
        by_cases found : other = entry.key
        · rw [found, lookup?_cons_same, lookup?_cons_same]
        · rw [lookup?_cons_other found, lookup?_cons_other found, induction]

theorem lookup?_store (entry : OptionEntry) (entries : List OptionEntry) :
    lookup? (entry.store entries) = OptionTable.store (lookup? entries) entry := by
  funext key
  rw [OptionTable.store, OptionEntry.store]
  by_cases same : key = entry.key
  · rw [same, lookup?_cons_same, Function.update_self]
  · rw [lookup?_cons_other same, lookup?_filter_other same, Function.update_of_ne same]

theorem once_store {entries : List OptionEntry} (once : (entries.map (·.key)).Nodup)
    (entry : OptionEntry) : ((entry.store entries).map (·.key)).Nodup := by
  refine List.nodup_cons.mpr ⟨?_, (List.filter_sublist.map _).nodup once⟩
  intro found
  rcases List.mem_map.mp found with ⟨other, member, same⟩
  exact absurd same (by simpa using (List.mem_filter.mp member).2)

theorem isListedBy_lookup? {entries : List OptionEntry} (once : (entries.map (·.key)).Nodup) :
    OptionTable.IsListedBy (lookup? entries) entries :=
  ⟨once, fun _ _ => ⟨lookup?_of_mem once, mem_of_lookup?⟩⟩

theorem ofTree?_toJson (entry : OptionEntry) : ofTree? entry.toJson = some entry :=
  rfl

end OptionEntry

/-! ## Requests and replies -/

namespace OptionServer

def take (entries : List OptionEntry) (request : Request) : List OptionEntry :=
  match request.method, request.body.bind OptionEntry.ofTree? with
  | .put, some entry => entry.store entries
  | _, _ => entries

def entriesAfter (initial : List OptionEntry) (exchanges : List Exchange) : List OptionEntry :=
  exchanges.foldl (fun entries exchange => take entries exchange.request) initial

def answer (entries : List OptionEntry) : RequestMethod → Json
  | .get => .object [("success", .bool true), ("data", .array (entries.map (·.toJson)))]
  | .put => .object [("success", .bool true)]

def reply (entries : List OptionEntry) (method : RequestMethod) : Reply :=
  ⟨200, [], .whole (answer entries method).compact⟩

def gateway (initial : List OptionEntry) : Gateway := fun earlier request =>
  .answered (reply (entriesAfter initial earlier) request.method)

variable {initial : List OptionEntry}

theorem entriesAfter_append (initial : List OptionEntry) (earlier : List Exchange)
    (exchange : Exchange) : entriesAfter initial (earlier ++ [exchange]) =
      take (entriesAfter initial earlier) exchange.request := by
  rw [entriesAfter, List.foldl_append, entriesAfter]
  rfl

theorem once_take {entries : List OptionEntry} (once : (entries.map (·.key)).Nodup)
    (request : Request) : ((take entries request).map (·.key)).Nodup := by
  unfold take
  split
  · exact OptionEntry.once_store once _
  · exact once

theorem once_entriesAfter (once : (initial.map (·.key)).Nodup) (exchanges : List Exchange) :
    ((entriesAfter initial exchanges).map (·.key)).Nodup := by
  induction exchanges generalizing initial with
  | nil => exact once
  | cons exchange exchanges induction => exact induction (once_take once exchange.request)

theorem take_of_get {request : Request} (asks : request.method = .get)
    (entries : List OptionEntry) : take entries request = entries := by
  rw [take, asks]

theorem take_of_stores {request : Request} {entry : OptionEntry}
    (stores : request.StoresOption entry) (entries : List OptionEntry) :
    take entries request = entry.store entries := by
  rcases stores with ⟨client, made⟩
  rw [take, made.method, made.body, Option.bind_some, OptionEntry.ofTree?_toJson]

theorem survives_answer (entries : List OptionEntry) :
    (answer entries .get).Survives Reader.depthLimit := by
  refine Json.survives_object fun member found => ?_
  rcases List.mem_cons.mp found with rfl | found
  · exact Json.survives_bool true
  · cases List.mem_singleton.mp found
    refine Json.survives_array fun item isItem => ?_
    rcases List.mem_map.mp isItem with ⟨entry, _, rfl⟩
    exact ⟨rfl, Nat.le_of_ble_eq_true rfl⟩

theorem payloadOf_reply (entries : List OptionEntry) :
    GatewayClient.payloadOf (·.asList? OptionEntry.ofTree?) (reply entries .get) =
      .ok entries := by
  have isEnvelope : Envelope.ofTree? (·.asList? OptionEntry.ofTree?)
      ((answer entries .get).asTree : Document) = some ⟨true, "", some entries⟩ := by
    refine Envelope.ofTree?_of_data ?_
    exact congrArg (Option.map some) (Json.asList?_itemTrees (fun _ => rfl) entries)
  exact GatewayClient.payloadOf_of_compact (survives_answer entries) rfl isEnvelope

theorem keepsOptions_gateway (once : (initial.map (·.key)).Nodup) :
    (gateway initial).KeepsOptions fun exchanges =>
      OptionEntry.lookup? (entriesAfter initial exchanges) where
  asked earlier request asks := by
    rw [entriesAfter_append, take_of_get asks]
  listed earlier request reply entries asks answered _ isRead := by
    rcases asks with ⟨client, made⟩
    rw [gateway, made.method] at answered
    cases answered
    rw [payloadOf_reply] at isRead
    cases isRead
    exact OptionEntry.isListedBy_lookup? (once_entriesAfter once earlier)
  stored earlier request entry stores := by
    rw [entriesAfter_append, take_of_stores stores, OptionEntry.lookup?_store]
    exact .inr rfl
  acknowledged earlier request entry reply stores _ _ _ := by
    rw [entriesAfter_append, take_of_stores stores, OptionEntry.lookup?_store]

/-! ## Calls -/

theorem success_reply (entries : List OptionEntry) (method : RequestMethod) :
    200 ≤ (reply entries method).status ∧ (reply entries method).status < 300 :=
  ⟨Nat.le_refl 200, Nat.le_of_ble_eq_true rfl⟩

theorem acknowledged_reply (entries : List OptionEntry) :
    (GatewayClient.envelopeOf (·.value?) (reply entries .put)).bind (·.acknowledged) = .ok () := by
  have survives : (answer entries .put).Survives Reader.depthLimit :=
    ⟨rfl, Nat.le_of_ble_eq_true rfl⟩
  have isEnvelope : Envelope.ofTree? (·.value?) ((answer entries .put).asTree : Document) =
      some ⟨true, "", none⟩ := rfl
  rw [GatewayClient.envelopeOf_of_compact survives rfl isEnvelope]
  rfl

section Calls

variable {client : GatewayClient} {traffic : Traffic} {request : Request}
  (token : client.credentials.isSome = true) (sendable : request.isSendable = true)

include token sendable

theorem option_of_reply {gateway : Gateway} {entries : List OptionEntry}
    (made : client.request .get ["api", "option", ""] [] none = .ok request)
    (answers : gateway traffic.exchanges request = .answered (reply entries .get)) (key : String) :
    client.option key gateway traffic = (.ok (OptionEntry.lookup? entries key),
      traffic.exchange request (.answered (reply entries .get))) := by
  have called := @GatewayClient.call_of_answer _ _ _ _ _ client _ _ _ _
    (GatewayClient.payloadOf (·.asList? OptionEntry.ofTree?)) made sendable answers
    (success_reply _ _)
  rw [payloadOf_reply] at called
  unfold GatewayClient.option GatewayClient.options GatewayClient.withToken
  rw [if_pos token, called]
  rfl

theorem option_gateway (made : client.request .get ["api", "option", ""] [] none = .ok request)
    (key : String) :
    client.option key (gateway initial) traffic =
      (.ok (OptionEntry.lookup? (entriesAfter initial traffic.exchanges) key),
        traffic.exchange request (gateway initial traffic.exchanges request)) := by
  have answers : gateway initial traffic.exchanges request =
      .answered (reply (entriesAfter initial traffic.exchanges) .get) := by
    rw [gateway, (GatewayClient.isMadeBy_of_request _ _ _ _ _ made).method]
  rw [option_of_reply token sendable made answers, answers]

theorem updateOption_gateway {key value : String}
    (made : client.request .put ["api", "option", ""] [] (some (OptionEntry.toJson ⟨key, value⟩)) =
      .ok request) :
    client.updateOption key value (gateway initial) traffic =
      (.ok (), traffic.exchange request (gateway initial traffic.exchanges request)) := by
  have answers : gateway initial traffic.exchanges request =
      .answered (reply (entriesAfter initial traffic.exchanges) .put) := by
    rw [gateway, (GatewayClient.isMadeBy_of_request _ _ _ _ _ made).method]
  unfold GatewayClient.updateOption GatewayClient.withToken
  rw [if_pos token, GatewayClient.call_of_answer made sendable answers (success_reply _ _),
    acknowledged_reply, answers]

end Calls

end OptionServer
end GatewayConsole
