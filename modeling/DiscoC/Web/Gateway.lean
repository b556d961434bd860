import DiscoC.External.CJson
import DiscoC.External.CString

/-! # The gateway connection

  Model of `web/gateway.c` with what it uses of `web/websocket.c` and
  `discord/event.c`: the payloads received, the frames sent in answer, and
  the state that survives a reconnect. Heartbeats sent by the heartbeat
  thread and measured times are left out.

  `event_handle` is modelled for the event READY. The other events change
  nothing here.
-/

namespace DiscoC

/-! ### Data -/

/-- What is kept of a connection: the `static` variables of `gateway.c` and
    the fields of `websocket_client_t`. -/
structure GatewayClient where
  /-- sequence id -/
  seq : Int
  HEARTBEAT_INTERVAL : Int
  token : String
  /-- session id used to reconnect -/
  session_id : Option String
  /-- if the client was able to successfully login with the Discord token -/
  success_login : Bool
  /-- if the client is ready to be used -/
  active : Bool
  /-- if a heartbeat thread has already been started -/
  heartbeat_active : Bool
  /-- if the websocket should be exited -/
  exit : Bool
  /-- `bot->callbacks` is not null. -/
  callbacks : Bool
  deriving DecidableEq, Repr

/-- A frame sent. -/
inductive Frame where
  /-- op 1 -/
  | heartbeat (seq : Option Int)
  /-- op 2 -/
  | identify (token : String)
  /-- op 6 -/
  | resume (token session_id : String) (seq : Int)
  deriving DecidableEq, Repr

/-- `discord_start_bot`, up to the event loop. -/
def gateway_init (token : String) (callbacks : Bool) : GatewayClient where
  seq := -1
  HEARTBEAT_INTERVAL := 10000
  token := token
  session_id := none
  success_login := false
  active := true
  heartbeat_active := false
  exit := false
  callbacks := callbacks

/-! ### Closing and reconnecting -/

/-- `websocket_connect`. -/
def websocket_connect (c : GatewayClient) : GatewayClient := { c with active := true }

/-- `websocket_close`. -/
def websocket_close (c : GatewayClient) : GatewayClient := { c with heartbeat_active := false }

/-- `websocket_reconnect`. -/
def websocket_reconnect (c : GatewayClient) : GatewayClient := websocket_close c

/-- `websocket_exit`. -/
def websocket_exit (c : GatewayClient) : GatewayClient := websocket_close { c with exit := true }

/-- `websocket_callback`, for `LWS_CALLBACK_CLIENT_CLOSED`. -/
def websocket_closed (c : GatewayClient) : GatewayClient :=
  if c.success_login && !c.exit then websocket_connect c
  else
    let c := if c.success_login then c else { c with exit := true }
    { websocket_close { c with active := false } with success_login := false }

/-! ### Receiving -/

/-- `gateway_send_heartbeat`. -/
def gateway_send_heartbeat (c : GatewayClient) : Frame :=
  .heartbeat (if c.seq == -1 then none else some c.seq)

/-- The frame `gateway_handle_identify` answers a HELLO with. -/
def gateway_identify (c : GatewayClient) : Frame :=
  match c.session_id with
  | some session_id => .resume c.token session_id c.seq
  | none => .identify c.token

/-- `gateway_handle_identify`. -/
def gateway_handle_identify (c : GatewayClient) : GatewayClient × List Frame :=
  ({ c with heartbeat_active := true }, [gateway_send_heartbeat c, gateway_identify c])

/-- `event_handle`. `none` stands for an access through the null pointer. -/
def event_handle (c : GatewayClient) (data : Option CJson) (event : Option String) :
    Option GatewayClient :=
  if !c.callbacks then some c
  else do
    let event ← event
    if strncmp_eq event "READY" 6 then
      match cJSON_GetObjectItem data "session_id" with
      | some user_data => do
        let valuestring ← user_data.valuestring
        some { c with session_id := some (strndup valuestring 100) }
      | none => some c
    else some c

/-- The sequence id after a dispatch. -/
def next_seq (seq : Int) (local_s : Option CJson) : Int :=
  match cJSON_IsNumber local_s with
  | some d => CJson.int_of d
  | none => if cJSON_IsNull local_s then -1 else seq

/-- `gateway_handle_dispatch`. -/
def gateway_handle_dispatch (c : GatewayClient) (json : CJson) : Option GatewayClient := do
  let local_s := cJSON_GetObjectItemCaseSensitive json "s"
  let event_type := cJSON_GetObjectItemCaseSensitive json "t"
  let data := cJSON_GetObjectItemCaseSensitive json "d"
  let event_type ← event_type
  event_handle { c with seq := next_seq c.seq local_s } data event_type.valuestring

/-- The heartbeat interval a HELLO sets. -/
def hello_interval (json : CJson) : Option Int :=
  let d := cJSON_GetObjectItemCaseSensitive json "d"
  if cJSON_IsObject d then
    (cJSON_IsNumber (cJSON_GetObjectItemCaseSensitive d "heartbeat_interval")).map fun d =>
      CJson.int_of d % 4294967296
  else none

/-- The operation of a payload. -/
def payload_op (json : CJson) : Option Int :=
  (cJSON_IsNumber (cJSON_GetObjectItemCaseSensitive json "op")).map CJson.int_of

/-- `gateway_on_receive`, once `cJSON_Parse` has returned `result`. -/
def gateway_on_receive (c : GatewayClient) (result : Option CJson) :
    Option (GatewayClient × List Frame) :=
  match result with
  | none => some (c, [])
  | some json =>
    match payload_op json with
    | some 0 => (gateway_handle_dispatch { c with success_login := true } json).map (·, [])
    | some 9 => some (websocket_reconnect { c with seq := -1 }, [])
    | some 10 =>
      let (c, frames) := gateway_handle_identify c
      match hello_interval json with
      | some interval => some ({ c with HEARTBEAT_INTERVAL := interval }, frames)
      | none => some (c, frames)
    | some 1 => some (c, [gateway_send_heartbeat c])
    | _ => some (c, [])

/-! ### Runs -/

/-- What happens on the service thread. -/
inductive GatewayEvent where
  /-- A message is received; `result` is what it parses to. -/
  | receive (result : Option CJson)
  /-- The connection is closed. -/
  | closed
  /-- A callback or the event loop asks for it. -/
  | reconnect
  | exit

/-- The state after an event, with the frames sent. -/
def gateway_step (c : GatewayClient) : GatewayEvent → Option (GatewayClient × List Frame)
  | .receive result => gateway_on_receive c result
  | .closed => some (websocket_closed c, [])
  | .reconnect => some (websocket_reconnect c, [])
  | .exit => some (websocket_exit c, [])

end DiscoC
