import DiscoC.Web.RequestLife

/-! # Callbacks of requests

  For a callback that is given several messages, `message_array` is allocated
  for as many as have been received before the first one, which is none. So
  the messages are delivered as they should be exactly when there are none
  (`messages_delivered_iff`).
-/

namespace DiscoC

/-! ### Handling a response -/

/-- An execution of a request, with the callbacks it handles. -/
def request_handled (cJSON_Parse : Option String → Option CJson) (client : Client)
    (n : RequestNode) (t : Transfer) : Option (List Handled × Client) :=
  handle_callbacks client
    ((request_t_pool cJSON_Parse client n t).events.filterMap RequestEvent.called)

/-! ### Delivery -/

/-- The callback is called once, with all messages of the response; they are
    stored within the array, and they have not been destroyed. -/
structure MessagesDelivered (messages : List CJson) (h : Handled) (message_array : List Message) :
    Prop where
  call : h.call = .messages messages.length (some message_array)
  decoded : List.Forall₂ (fun c m => ∃ n log, (_d_json_to_message c).run n = some (m, log))
    messages message_array
  in_bounds : ∀ store ∈ h.stores, store.1 < store.2
  alive : ∀ m ∈ message_array,
    (DiscoCacheType.message_cache, DiscordStructure.mk m.address m.id) ∉ h.client.caches.destroyed

/-- A request for several messages is answered by the array `messages`. -/
structure AnsweredBy (cJSON_Parse : Option String → Option CJson) (n : RequestNode)
    (t : Transfer) (messages : List CJson) : Prop where
  no_files : n.files = []
  type : n.rc = some .DISCORD_MULTIPLE_MESSAGE_CALLBACK
  attempt : n.iteration < 5
  sent : is_transient t.http = false ∧ t.http ≠ 429
  response : last_response cJSON_Parse (some t) = some (.array messages)

/-- An answered request handles its callback, once. -/
theorem request_handled_answered {cJSON_Parse : Option String → Option CJson} {n : RequestNode}
    {t : Transfer} {messages : List CJson} (h : AnsweredBy cJSON_Parse n t messages)
    (client : Client) :
    request_handled cJSON_Parse client n t =
      (handle_callback client .DISCORD_MULTIPLE_MESSAGE_CALLBACK (some (.array messages))).map
        fun handled => ([handled], handled.client) := by
  have hcalled : (request_t_pool cJSON_Parse client n t).events.filterMap RequestEvent.called =
      [(.DISCORD_MULTIPLE_MESSAGE_CALLBACK, some (.array messages))] := by
    -- the attempt is the last one, and its response is handled
    rw [request_t_pool_sent h.attempt h.sent.1 h.sent.2]
    show (attempt_part n (attempted n t) ++ _).filterMap RequestEvent.called = _
    rw [List.filterMap_append, attempt_part_called, List.nil_append, request_finalise_called]
    show n.rc.toList.map (fun type => (type, last_response cJSON_Parse (some t))) = _
    rw [h.response, h.type]
    rfl
  unfold request_handled
  rw [hcalled, handle_callbacks_single]

/-- Messages that are stored within the array are none. -/
theorem MessagesDelivered.eq_nil {client : Client} {messages : List CJson} {h : Handled}
    {message_array : List Message}
    (hh : handle_callback client .DISCORD_MULTIPLE_MESSAGE_CALLBACK (some (.array messages)) =
      some h)
    (hd : MessagesDelivered messages h message_array) : messages = [] := by
  obtain ⟨s, hs, hh⟩ := Option.bind_eq_some_iff.mp hh
  cases hh
  cases messages with
  | nil => rfl
  | cons c rest =>
    have hlt : 0 < 0 := hd.in_bounds _ (handle_array_out hs)
    exact absurd hlt (Nat.lt_irrefl 0)

/-- **Delivery of messages**: the callback is called once with the messages
    of a response, all stored within the array and none destroyed, exactly
    when there are no messages in it. -/
theorem messages_delivered_iff {cJSON_Parse : Option String → Option CJson} {n : RequestNode}
    {t : Transfer} {messages : List CJson} (h : AnsweredBy cJSON_Parse n t messages)
    (client : Client) :
    (∃ handled client' message_array,
      request_handled cJSON_Parse client n t = some ([handled], client') ∧
        MessagesDelivered messages handled message_array) ↔ messages = [] := by
  rw [request_handled_answered h]
  constructor
  · intro hall
    obtain ⟨handled, client', message_array, hrun, hdelivered⟩ := hall
    obtain ⟨handled', hh, heq⟩ := Option.map_eq_some_iff.mp hrun
    cases heq
    exact hdelivered.eq_nil hh
  · rintro rfl
    exact ⟨_, _, [], rfl, rfl, .nil, fun _ hstore => (nomatch hstore), fun _ hm => (nomatch hm)⟩

/-- A request for the messages of a channel. -/
def messages_request : RequestNode :=
  request "u" none .REQUEST_GET "t" (some .DISCORD_MULTIPLE_MESSAGE_CALLBACK) []

/-- A parser that always finds the array `messages`. -/
def array_document (messages : List CJson) : Option String → Option CJson :=
  fun _ => some (.array messages)

theorem array_document_answers (messages : List CJson) :
    AnsweredBy (array_document messages) messages_request (answered 200 (some "?")) messages :=
  ⟨rfl, rfl, by decide, by decide, rfl⟩

/-- A channel without messages. -/
theorem no_messages_delivered :
    (∃ handled client' message_array,
      request_handled (array_document []) (Client.init 1000 1000 1000) messages_request
          (answered 200 (some "?")) = some ([handled], client') ∧
        MessagesDelivered [] handled message_array) ↔ ([] : List CJson) = [] :=
  messages_delivered_iff (array_document_answers []) (Client.init 1000 1000 1000)

/-- It is received by an empty client. -/
theorem id_message_received :
    ∃ s, receive_messages (Client.init 1000 1000 1000) [id_message] = some s := by
  have hone : ∃ s, receive_message
      { client := { Client.init 1000 1000 1000 with next := 1 }, allocated := 0
        message_array := [], stores := [] } id_message = some s := by
    unfold receive_message
    rw [_d_json_to_message]
    exact ⟨_, rfl⟩
  obtain ⟨s, hs⟩ := hone
  exact ⟨s, congrArg (fun s => Option.bind s some) hs⟩

/-- A single message is stored at index 0 of an array without entries. -/
theorem one_message_out_of_bounds :
    ∃ handled client',
      AnsweredBy (array_document [id_message]) messages_request (answered 200 (some "?"))
        [id_message] ∧
      request_handled (array_document [id_message]) (Client.init 1000 1000 1000) messages_request
        (answered 200 (some "?")) = some ([handled], client') ∧
      handled.stores = [(0, 0)] ∧
      ¬ ∃ message_array, MessagesDelivered [id_message] handled message_array := by
  have h := array_document_answers [id_message]
  obtain ⟨s, hs⟩ := id_message_received
  have hh : handle_callback (Client.init 1000 1000 1000) .DISCORD_MULTIPLE_MESSAGE_CALLBACK
      (some (.array [id_message])) = some
        ⟨s.client, .messages s.message_array.length (some s.message_array),
          s.stores.map fun i => (i, s.allocated)⟩ := by
    show (receive_messages _ [id_message]).bind _ = _
    rw [hs]
    rfl
  rw [request_handled_answered h, hh]
  refine ⟨_, _, h, rfl, ?_, fun hd => ?_⟩
  · -- one index, into an array for none
    have hreceived := receive_messages_received hs
    show s.stores.map _ = _
    rw [hreceived.stores, hreceived.allocated]
    rfl
  · obtain ⟨message_array, hd⟩ := hd
    cases hd.eq_nil hh

end DiscoC
