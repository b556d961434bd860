import DiscoC.Discord.MessageOwnership
import DiscoC.Framework.Yields
import DiscoC.Web.Request

/-! # When a response can be handled

  At the end of a request its response is decoded for the callback. A message
  that is not readable cannot be decoded. Where several messages are
  expected, `message_array` is allocated for as many as have been received
  before the first one, which is none; so the first one is stored behind it.

  A response is handled as it should be exactly when it holds no such
  message (`handledFor_iff`).
-/

namespace DiscoC

/-! ### Handling a response well -/

/-- A message is decoded from a document. -/
def DecodedFrom (c : CJson) (m : Message) : Prop :=
  ∃ n log, (_d_json_to_message c).run n = some (m, log)

/-- The callback is called with what `res_json` holds, and nothing is stored
    outside an array. -/
structure HandledFor (res_json : Option CJson) (type : CallbackType) (h : Handled) : Prop where
  call : match type with
    | .DISCORD_MESSAGE_CALLBACK =>
      ∃ msg, h.call = .message msg ∧ DecodedFrom (event_data res_json) msg
    | .DISCORD_MULTIPLE_MESSAGE_CALLBACK =>
      if cJSON_IsArray res_json then ∃ message_array,
        h.call = .messages message_array.length (some message_array) ∧
          List.Forall₂ DecodedFrom (cJSON_ArrayItems res_json) message_array
      else h.call = .messages 0 none
  in_bounds : ∀ store ∈ h.stores, store.1 < store.2

/-- A response can be handled for a callback: it can be decoded as a message;
    where several messages are expected, there is none. -/
def CanHandle (type : CallbackType) (res_json : Option CJson) : Prop :=
  match type with
  | .DISCORD_MESSAGE_CALLBACK =>
    message_everywhere message_readable interaction_readable (event_data res_json)
  | .DISCORD_MULTIPLE_MESSAGE_CALLBACK =>
    cJSON_IsArray res_json = true → cJSON_ArrayItems res_json = []

/-! ### The loop -/

/-- A turn of the loop stores one message, at the next index. -/
theorem receive_message_spec {s s' : Receiving} {c : CJson} (h : receive_message s c = some s') :
    s'.allocated = s.allocated ∧ s'.stores = s.stores ++ [s.message_array.length] ∧
      ∃ m, DecodedFrom c m ∧ s'.message_array = s.message_array ++ [m] := by
  obtain ⟨⟨m, client⟩, hrun, h⟩ := Option.bind_eq_some_iff.mp h
  obtain ⟨client', -, h⟩ := Option.bind_eq_some_iff.mp h
  cases h
  obtain ⟨⟨m', log⟩, hdecode, hclient⟩ := Option.map_eq_some_iff.mp hrun
  cases hclient
  exact ⟨rfl, rfl, m, ⟨_, log, hdecode⟩, rfl⟩

/-- What has been received of the documents `messages`. -/
structure Received (messages : List CJson) (s : Receiving) : Prop where
  allocated : s.allocated = 0
  stores : s.stores = List.range messages.length
  decoded : List.Forall₂ DecodedFrom messages s.message_array

/-- **Step lemma.** -/
theorem Received.step {messages : List CJson} {s s' : Receiving} {c : CJson}
    (h : Received messages s) (hs : receive_message s c = some s') :
    Received (messages ++ [c]) s' := by
  obtain ⟨hallocated, hstores, m, hdecode, harray⟩ := receive_message_spec hs
  refine ⟨hallocated.trans h.allocated, ?_, ?_⟩
  · rw [hstores, h.stores, ← h.decoded.length_eq, List.length_append, List.length_singleton,
      List.range_succ]
  · rw [harray]
    exact List.rel_append h.decoded (.cons hdecode .nil)

/-- **Run lemma.** -/
theorem Received.run {messages rest : List CJson} {s s' : Receiving} (h : Received messages s)
    (hs : rest.foldlM receive_message s = some s') : Received (messages ++ rest) s' := by
  induction rest generalizing messages s with
  | nil =>
    cases hs
    rwa [List.append_nil]
  | cons c rest ih =>
    obtain ⟨s₁, hstep, hs⟩ := Option.bind_eq_some_iff.mp hs
    rw [List.append_cons]
    exact ih (h.step hstep) hs

/-- **The loop** stores the messages one after the other, into an array
    without entries. -/
theorem receive_messages_received {client : Client} {messages : List CJson} {s : Receiving}
    (h : receive_messages client messages = some s) : Received messages s := by
  unfold receive_messages at h
  obtain ⟨⟨_, client'⟩, -, h⟩ := Option.bind_eq_some_iff.mp h
  exact (⟨rfl, rfl, .nil⟩ : Received [] _).run h

/-! ### When it goes well -/

/-- A document is decoded from any address, or from none. -/
theorem message_decoded_iff (data : CJson) (n : Nat) :
    ((_d_json_to_message data).run n).isSome = true ↔
      message_everywhere message_readable interaction_readable data :=
  (Mem.Returns.of_spec (message_owns data)).run_iff n

/-- A single message only has to be decoded. -/
theorem handle_message_iff (client : Client) (res_json : Option CJson) :
    (∃ h, handle_callback client .DISCORD_MESSAGE_CALLBACK res_json = some h ∧
        HandledFor res_json .DISCORD_MESSAGE_CALLBACK h) ↔
      CanHandle .DISCORD_MESSAGE_CALLBACK res_json := by
  refine Iff.trans ?_ (message_decoded_iff (event_data res_json) client.next)
  unfold handle_callback Client.run
  cases hdecode : (_d_json_to_message (event_data res_json)).run client.next with
  | none => simp
  | some r =>
    refine iff_of_true ⟨_, rfl, ?_, ?_⟩ rfl
    · exact ⟨r.1, rfl, client.next, r.2, hdecode⟩
    · intro store hstore
      exact absurd hstore List.not_mem_nil

/-- The first of several messages is stored at index 0, behind an array
    without entries. -/
theorem handle_array_out {client : Client} {c : CJson} {rest : List CJson} {s : Receiving}
    (hs : receive_messages client (c :: rest) = some s) :
    (0, 0) ∈ s.stores.map fun i => (i, s.allocated) := by
  have hreceived := receive_messages_received hs
  rw [hreceived.allocated, hreceived.stores]
  exact List.mem_map_of_mem (List.mem_range.mpr (Nat.succ_pos _))

/-- Of several messages, the first one must not be there. -/
theorem handle_messages_iff (client : Client) (res_json : Option CJson) :
    (∃ h, handle_callback client .DISCORD_MULTIPLE_MESSAGE_CALLBACK res_json = some h ∧
        HandledFor res_json .DISCORD_MULTIPLE_MESSAGE_CALLBACK h) ↔
      CanHandle .DISCORD_MULTIPLE_MESSAGE_CALLBACK res_json := by
  by_cases harray : cJSON_IsArray res_json = true
  · cases hitems : cJSON_ArrayItems res_json with
    | nil =>
      refine iff_of_true ?_ fun _ => hitems
      unfold handle_callback
      rw [if_pos harray, hitems]
      refine ⟨_, rfl, ?_, ?_⟩
      · show if cJSON_IsArray res_json = true then _ else _
        rw [if_pos harray, hitems]
        exact ⟨[], rfl, .nil⟩
      · intro store hstore
        exact absurd hstore List.not_mem_nil
    | cons c rest =>
      refine iff_of_false ?_ fun hcan => ?_
      · intro hall
        obtain ⟨h, hhandle, hfor⟩ := hall
        unfold handle_callback at hhandle
        rw [if_pos harray, hitems] at hhandle
        obtain ⟨s, hs, hh⟩ := Option.bind_eq_some_iff.mp hhandle
        cases hh
        have hlt : 0 < 0 := hfor.in_bounds _ (handle_array_out hs)
        exact absurd hlt (Nat.lt_irrefl 0)
      · have hnil := hcan harray
        rw [hitems] at hnil
        cases hnil
  · refine iff_of_true ?_ fun h => absurd h harray
    unfold handle_callback
    rw [if_neg harray]
    refine ⟨_, rfl, ?_, ?_⟩
    · show if cJSON_IsArray res_json = true then _ else _
      rw [if_neg harray]
    · intro store hstore
      exact absurd hstore List.not_mem_nil

/-- **A response is handled as it should be** exactly when it can be
    handled, whatever the client is. -/
theorem handledFor_iff (client : Client) (type : CallbackType) (res_json : Option CJson) :
    (∃ h, handle_callback client type res_json = some h ∧ HandledFor res_json type h) ↔
      CanHandle type res_json := by
  cases type with
  | DISCORD_MESSAGE_CALLBACK => exact handle_message_iff client res_json
  | DISCORD_MULTIPLE_MESSAGE_CALLBACK => exact handle_messages_iff client res_json

end DiscoC
