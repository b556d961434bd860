import DiscoC.Discord.ClientCache
import DiscoC.Discord.CopyReturns

/-! # Which payloads can be received

  `gateway_on_receive` with all of `event_handle`: what it reads, the copies
  it makes for the callbacks, and the structures it puts into the cache.

  A payload is received exactly when it is readable and its message, if it
  has one, can be copied (`receive_total_iff`). What the client has received
  before does not matter: all that its cache holds has been copied already.
-/

namespace DiscoC

open Mem

/-! ### Receiving a payload -/

/-- `gateway_handle_dispatch`, where `event_type` may be null. Without
    callbacks `event_handle` does nothing. -/
def Client.gateway_handle_dispatch (callbacks : Option Callbacks) (client : Client)
    (json : CJson) : Option (Option CallbackCall × Client) := do
  let event_type ← cJSON_GetObjectItemCaseSensitive json "t"
  let data := cJSON_GetObjectItemCaseSensitive json "d"
  match callbacks with
  | some callbacks => client.event_handle callbacks data event_type.valuestring
  | none => some (none, client)

/-- `gateway_on_receive`, for the client, once `cJSON_Parse` has returned
    `result`. -/
def Client.gateway_on_receive (callbacks : Option Callbacks) (client : Client)
    (result : Option CJson) : Option (Option CallbackCall × Client) :=
  match result with
  | some json =>
    if payload_op json = some 0 then client.gateway_handle_dispatch callbacks json
    else some (none, client)
  | none => some (none, client)

/-- `gateway_on_receive`, for the connection and for the client: the frames
    that are sent, and the callback that is called. -/
def bot_on_receive (callbacks : Option Callbacks) (c : GatewayClient) (client : Client)
    (result : Option CJson) :
    Option ((GatewayClient × List Frame) × Option CallbackCall × Client) := do
  let connection ← gateway_on_receive c result
  let handled ← client.gateway_on_receive callbacks result
  some (connection, handled)

/-! ### What has to be there -/

/-- The message that `event_handle` copies of an event can be copied. -/
structure CopiedEvent (callbacks : Callbacks) (event : String) (data : CJson) : Prop where
  message_create : event = "MESSAGE_CREATE" → callbacks.on_message →
    message_everywhere message_copyable interaction_copyable data
  message_update : event = "MESSAGE_UPDATE" → callbacks.on_message_edit →
    message_everywhere message_copyable interaction_copyable data

/-- What is used of a payload without a check is there: in a dispatch the
    name of the event, as a string if there are callbacks, and what the event
    needs. Its message can be copied. -/
def Receivable (callbacks : Option Callbacks) (result : Option CJson) : Prop :=
  ∀ json, result = some json → payload_op json = some 0 →
    ∃ event_type, cJSON_GetObjectItemCaseSensitive json "t" = some event_type ∧
      ∀ cb, callbacks = some cb → ∃ event, event_type.valuestring = some event ∧
        Readable cb event (event_data (cJSON_GetObjectItemCaseSensitive json "d")) ∧
        CopiedEvent cb event (event_data (cJSON_GetObjectItemCaseSensitive json "d"))

/-- A client in a state that it can be in: without callbacks it is never
    touched, and otherwise it has been through a run. -/
def ClientOf (callbacks : Option Callbacks) (client : Client) : Prop :=
  ∀ cb, callbacks = some cb →
    ∃ message_cache_size channel_cache_size guild_cache_size s,
      (client_system cb message_cache_size channel_cache_size guild_cache_size).Reachable s ∧
        s.client = client

/-! ### Which events are handled -/

/-- What has to hold of `data` for the message of a branch to be copied. -/
def branch_copyable (callbacks : Callbacks) (data : CJson) : EventBranch → Prop
  | .message_create => callbacks.on_message →
    message_everywhere message_copyable interaction_copyable data
  | .message_update => callbacks.on_message_edit →
    message_everywhere message_copyable interaction_copyable data
  | _ => True

theorem copiedEvent_iff (callbacks : Callbacks) (event : String) (data : CJson) :
    branch_copyable callbacks data (event_branch event) ↔ CopiedEvent callbacks event data := by
  constructor
  · intro h
    constructor
    · intro he
      rwa [(event_branch_message_create event).mpr he] at h
    · intro he
      rwa [(event_branch_message_update event).mpr he] at h
  · intro h
    cases hb : event_branch event with
    | message_create => exact h.message_create ((event_branch_message_create event).mp hb)
    | message_update => exact h.message_update ((event_branch_message_update event).mp hb)
    | _ => trivial

/-- A routine has a result if it returns from somewhere. -/
theorem result_iff {α : Type} {x : CMem α} {D : Prop} (h : x.Returns D) :
    (∃ a, x.Result a) ↔ D := by
  constructor
  · intro hresult
    obtain ⟨a, n, log, hrun⟩ := hresult
    exact (h.run_iff n).mp (Option.isSome_of_eq_some hrun)
  · intro hD
    obtain ⟨a, log, hrun, -⟩ := (h 0).1 hD
    exact ⟨a, 0, log, hrun⟩

theorem read_if_copyable {callback : Bool} {read : CMem EventData} {D : Prop}
    (h : read.Ensures fun r => r.Copyable ↔ D) :
    (read_if callback read).Ensures fun r => r.Copyable ↔ (callback = true → D) := by
  unfold read_if
  cases callback with
  | false => exact Ensures.pure (iff_of_true trivial nofun)
  | true => exact h.mono fun r hr => hr.trans (by simp)

/-- What a branch has read can be copied when its document allows it. -/
theorem branch_copies (callbacks : Callbacks) (data : CJson) (branch : EventBranch) :
    (branch_read callbacks data branch).Ensures fun r =>
      r.Copyable ↔ branch_copyable callbacks data branch := by
  -- only messages can stand in the way
  have hother {callback : Bool} {read : CMem EventData}
      (h : read.Ensures fun r => r.Copyable ↔ True) :
      (read_if callback read).Ensures fun r => r.Copyable ↔ True :=
    (read_if_copyable h).mono fun r hr => hr.trans (iff_of_true (fun _ => trivial) trivial)
  cases branch with
  | ready =>
    exact Ensures.skip fun user => Ensures.skip fun session_id => Ensures.pure Iff.rfl
  | channel_create => exact hother (Ensures.skip fun channel => Ensures.pure Iff.rfl)
  | channel_update => exact hother (Ensures.skip fun channel => Ensures.pure Iff.rfl)
  | channel_delete => exact hother (Ensures.skip fun type => Ensures.pure Iff.rfl)
  | message_create =>
    refine read_if_copyable ((message_copy_returns data).bind fun message hmessage => ?_)
    exact Ensures.pure (result_iff hmessage)
  | message_update =>
    refine read_if_copyable ((message_copy_returns data).bind fun message hmessage => ?_)
    exact Ensures.pure (result_iff hmessage)
  | message_delete => exact hother (Ensures.pure Iff.rfl)
  | interaction_create => exact hother (Ensures.skip fun interaction => Ensures.pure Iff.rfl)
  | ignored => exact Ensures.pure Iff.rfl

section event
variable {ms cs : Int} {client : Client} {messages : Versions Message} {channels : Versions Channel}

/-- **One event** is handled exactly when it is readable and its message can
    be copied, whatever the cache holds. -/
theorem event_handle_iff (h : ClientOk ms cs client.next client messages channels)
    (callbacks : Callbacks) (data : Option CJson) (event : Option String) :
    (client.event_handle callbacks data event).isSome = true ↔ ∃ name, event = some name ∧
      Readable callbacks name (event_data data) ∧
      CopiedEvent callbacks name (event_data data) := by
  have hread : ((event_read (some callbacks) data event).run client.next).isSome = true ↔
      ∃ name, event = some name ∧ Readable callbacks name (event_data data) := by
    rw [(event_returns (some callbacks) data event).run_iff]
    simp
  -- what has been read can be copied when the document allows it
  have hcopied : ∀ name, event = some name → ∀ read log,
      (event_read (some callbacks) data event).run client.next = some (read, log) →
      (read.Copyable ↔ CopiedEvent callbacks name (event_data data)) := by
    intro name hname read log hrun
    rw [hname] at hrun
    rw [← copiedEvent_iff]
    exact branch_copies callbacks (event_data data) (event_branch name) _ read log hrun
  rcases event_handled h callbacks data event with hhandled | hnone
  · obtain ⟨read, log, call, client', hrun, hhandle, hcopyable, -⟩ := hhandled
    obtain ⟨name, hname, hreadable⟩ := hread.mp (Option.isSome_of_eq_some hrun)
    have hcopies := (hcopied name hname read log hrun).mp hcopyable
    exact iff_of_true (Option.isSome_of_eq_some hhandle) ⟨name, hname, hreadable, hcopies⟩
  · obtain ⟨hfails, hnot⟩ := hnone
    rw [hfails]
    refine iff_of_false Bool.false_ne_true fun hall => ?_
    obtain ⟨name, hname, hreadable, hcopies⟩ := hall
    obtain ⟨⟨read, log⟩, hrun⟩ :=
      Option.isSome_iff_exists.mp (hread.mpr ⟨name, hname, hreadable⟩)
    exact hnot read log hrun ((hcopied name hname read log hrun).mpr hcopies)

end event

/-! ### The gateway connection -/

theorem event_handle_isSome {c : GatewayClient} {data : Option CJson} {event : Option String}
    (h : c.callbacks = true → ∃ name, event = some name ∧ (name = "READY" →
      ∀ item, cJSON_GetObjectItem data "session_id" = some item → item.valuestring.isSome)) :
    (event_handle c data event).isSome = true := by
  unfold event_handle
  by_cases hc : c.callbacks = true
  · obtain ⟨name, rfl, hready⟩ := h hc
    simp only [hc, Bool.not_true, Bool.false_eq_true, if_false, Option.bind_eq_bind,
      Option.bind_some]
    split
    next hcmp =>
      have hname : name = "READY" := (strncmp_eq_iff (by decide)).mp hcmp
      split
      next item hitem =>
        obtain ⟨s, hs⟩ := Option.isSome_iff_exists.mp (hready hname item hitem)
        rw [hs]
        rfl
      next => rfl
    next => rfl
  · simp [hc]

/-- A field of a `data` that may be null. -/
theorem getObjectItem_event_data (data : Option CJson) (name : String) :
    cJSON_GetObjectItem (some (event_data data)) name = cJSON_GetObjectItem data name := by
  cases data <;> rfl

/-- The connection survives every payload that can be received. -/
theorem gateway_receives {callbacks : Option Callbacks} {result : Option CJson}
    (h : Receivable callbacks result) {c : GatewayClient}
    (hc : c.callbacks = callbacks.isSome) : (gateway_on_receive c result).isSome = true := by
  cases result with
  | none => rfl
  | some json =>
    unfold gateway_on_receive
    split
    next => rfl
    next heq =>
      cases heq
      split
      next hop =>
        -- a dispatch has a name, and what the gateway reads is read by the event too
        obtain ⟨event_type, ht, hevent⟩ := h json rfl hop
        rw [Option.isSome_map, gateway_handle_dispatch, ht]
        refine event_handle_isSome fun hcallbacks => ?_
        obtain ⟨cb, hcb⟩ := Option.isSome_iff_exists.mp (hc.symm.trans hcallbacks)
        obtain ⟨name, hname, hreadable, -⟩ := hevent cb hcb
        refine ⟨name, hname, fun he item hitem => hreadable.ready he item ?_⟩
        rw [getObjectItem_event_data]
        exact hitem
      next => rfl
      next => cases hello_interval json <;> rfl
      next => rfl
      next => rfl

/-! ### When a payload is received -/

/-- The client, for its part, receives what can be received. -/
theorem client_receives_iff {callbacks : Option Callbacks} {client : Client}
    (h : ClientOf callbacks client) (result : Option CJson) :
    (client.gateway_on_receive callbacks result).isSome = true ↔ Receivable callbacks result := by
  unfold Client.gateway_on_receive Receivable
  cases result with
  | none => simp
  | some json =>
    by_cases hop : payload_op json = some 0
    · simp only [Option.some.injEq, forall_eq', hop, forall_const]
      unfold Client.gateway_handle_dispatch
      cases cJSON_GetObjectItemCaseSensitive json "t" with
      | none => simp
      | some event_type =>
        cases callbacks with
        | none => simp
        | some cb =>
          obtain ⟨m, c, g, s, hreach, rfl⟩ := h cb rfl
          simpa using event_handle_iff (client_ok hreach) cb
            (cJSON_GetObjectItemCaseSensitive json "d") event_type.valuestring
    · simp only [if_neg hop, Option.isSome_some, true_iff]
      intro json' heq hop'
      cases heq
      exact absurd hop' hop

/-- **Receiving is total** exactly on the payloads that are readable and
    whose messages can be copied: whatever has been received before, nothing
    that `gateway_on_receive` does with such a payload is undefined. -/
theorem receive_total_iff {callbacks : Option Callbacks} {client : Client}
    (h : ClientOf callbacks client) {c : GatewayClient} (hc : c.callbacks = callbacks.isSome)
    (result : Option CJson) :
    (bot_on_receive callbacks c client result).isSome = true ↔ Receivable callbacks result := by
  have hclient := client_receives_iff h result
  unfold bot_on_receive
  constructor
  · intro hsome
    obtain ⟨r, hr⟩ := Option.isSome_iff_exists.mp hsome
    obtain ⟨connection, -, hr⟩ := Option.bind_eq_some_iff.mp hr
    obtain ⟨handled, hhandled, -⟩ := Option.bind_eq_some_iff.mp hr
    exact hclient.mp (Option.isSome_of_eq_some hhandled)
  · intro hreceivable
    obtain ⟨handled, hhandled⟩ := Option.isSome_iff_exists.mp (hclient.mpr hreceivable)
    obtain ⟨connection, hconnection⟩ :=
      Option.isSome_iff_exists.mp (gateway_receives hreceivable hc)
    rw [hconnection, hhandled]
    rfl

/-- A dispatch of an event. -/
def dispatch (event : String) (data : CJson) : CJson :=
  .object [("op", .number 0), ("t", .string event), ("d", data)]

def message_callbacks : Callbacks where
  on_ready := false
  on_message := true
  on_message_edit := true
  on_message_delete := false
  on_channel_create := false
  on_channel_update := false
  on_channel_delete := false
  on_interaction_create := false

/-- A message, and the same with an interaction that has been given the
    number 5. -/
def first_message : CJson := .object [("id", .string "1")]

def number_message : CJson :=
  .object [("id", .string "1"), ("interaction", .object [("data", .object [("options", .array
    [.object [("name", .string "n"), ("type", .number 4), ("value", .number 5)]])])])]

theorem first_message_everywhere {pm pi : CJson → Prop} (h : pm first_message) :
    message_everywhere pm pi first_message :=
  (message_everywhere_iff pm pi first_message).mpr ⟨h, nofun, nofun⟩

/-- An event that is handled is a step of the client. -/
theorem ClientHistory.exec_event {callbacks : Callbacks} {s : ClientHistory}
    {data : Option CJson} {event : Option String}
    (h : (s.client.event_handle callbacks data event).isSome = true) :
    ∃ s', s.exec callbacks (.event data event) = some s' := by
  obtain ⟨⟨call, client⟩, hhandle⟩ := Option.isSome_iff_exists.mp h
  obtain ⟨⟨read, client₁⟩, hread, -⟩ := Option.bind_eq_some_iff.mp hhandle
  refine ⟨⟨client, read.put_message s.messages, read.put_channel s.channels⟩, ?_⟩
  show (s.client.run (event_read (some callbacks) data event)).bind _ = _
  rw [hread]
  exact congrArg (Option.bind · _) hhandle

/-- A client that has received the message. -/
theorem first_message_received : ∃ s, (client_system message_callbacks 10 10 10).Run
    [.event (some first_message) (some "MESSAGE_CREATE")] s := by
  have hreadable : Readable message_callbacks "MESSAGE_CREATE" first_message := by
    refine ⟨fun h => ?_, fun h => ?_, fun _ _ => ?_, fun h => ?_, fun h => ?_⟩
    · exact absurd h (by decide)
    · exact absurd h (by decide)
    · exact first_message_everywhere ⟨nofun, nofun, nofun⟩
    · exact absurd h (by decide)
    · exact absurd h (by decide)
  have hcopied : CopiedEvent message_callbacks "MESSAGE_CREATE" first_message :=
    ⟨fun _ _ => first_message_everywhere rfl, fun h => absurd h (by decide)⟩
  have hok : ClientOk (clamp_cache_size 10) (clamp_cache_size 10) (Client.init 10 10 10).next
      (Client.init 10 10 10) .empty .empty := ClientOk.init 10 10 10
  have hhandle := (event_handle_iff hok message_callbacks (some first_message)
    (some "MESSAGE_CREATE")).mpr ⟨_, rfl, hreadable, hcopied⟩
  obtain ⟨s, hs⟩ := ClientHistory.exec_event
    (s := ⟨Client.init 10 10 10, .empty, .empty⟩) hhandle
  exact ⟨s, .snoc (.start rfl) hs⟩

/-- The message is edited, and the interaction makes the client copy the
    number as a string. -/
theorem receive_total_edited : ∃ client, ClientOf (some message_callbacks) client ∧
    ((bot_on_receive (some message_callbacks) (gateway_init "t" true) client
        (some (dispatch "MESSAGE_UPDATE" number_message))).isSome = true ↔
      Receivable (some message_callbacks) (some (dispatch "MESSAGE_UPDATE" number_message))) ∧
    ¬ Receivable (some message_callbacks) (some (dispatch "MESSAGE_UPDATE" number_message)) := by
  obtain ⟨s, hrun⟩ := first_message_received
  have hclient : ClientOf (some message_callbacks) s.client := by
    intro cb hcb
    cases hcb
    exact ⟨10, 10, 10, s, ⟨_, hrun⟩, rfl⟩
  refine ⟨s.client, hclient, receive_total_iff hclient rfl _, fun h => ?_⟩
  obtain ⟨event_type, ht, hevent⟩ := h _ rfl rfl
  cases ht
  obtain ⟨event, hname, -, hcopied⟩ := hevent _ rfl
  cases hname
  have hmessage := hcopied.message_update rfl rfl
  -- the option below the interaction is of the type INTEGER
  obtain ⟨-, -, hinteraction⟩ := (message_everywhere_iff _ _ _).mp hmessage
  obtain ⟨hdata, -⟩ := (interaction_everywhere_iff _ _ _).mp (hinteraction _ rfl)
  have hoption := (hdata _ rfl).1 _ (List.mem_singleton_self _)
  have hvalue := ((option_copied_iff _).mp hoption).1.1 rfl
  exact absurd hvalue (by decide)

/-- A dispatch that does not say which event it is. -/
def unnamed_dispatch : CJson := .object [("op", .number 0)]

/-- It is never received, with or without callbacks. -/
theorem unnamed_dispatch_fails : ¬ ∃ callbacks c client,
    (bot_on_receive callbacks c client (some unnamed_dispatch)).isSome = true := by
  intro h
  obtain ⟨callbacks, c, client, h⟩ := h
  cases h

end DiscoC
