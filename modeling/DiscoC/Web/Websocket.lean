import DiscoC.Framework.System
import DiscoC.Web.Gateway

/-! # The service thread

  Model of `web/websocket.c`, `gateway_handle_identify` and
  `gateway_event_loop`: the flags of `websocket_client_t` and the heartbeat
  threads that are started and joined along the way.

  libwebsockets delivers its events on one thread. It has one connection at
  a time and delivers nothing on it once it is closed (`link`).
  `pthread_create` succeeds; `pthread_join` of a thread that does not wait to
  be joined has no meaning (`none`).

  What a handler does on its way is kept in a log, so that the states inside
  of a handler can be spoken about, too.
-/

namespace DiscoC

/-! ### Data -/

/-- What is observed of the service thread. -/
inductive ServiceAction where
  | heartbeat_started (thread : Nat)
  | heartbeat_joined (thread : Nat)
  /-- `exit` is set to 1. -/
  | exit_set
  /-- `websocket_connect` is called. -/
  | connect
  /-- `lws_context_destroy` is called. -/
  | context_destroyed
  deriving DecidableEq, Repr

/-- The flags of `websocket_client_t`, and its heartbeat thread. -/
structure WebsocketClient where
  /-- if the client is connected to the Discord websocket -/
  connected : Bool
  /-- if the client was able to successfully login with the Discord token -/
  success_login : Bool
  /-- if the client is ready to be used -/
  active : Bool
  /-- if a heartbeat thread has already been started -/
  heartbeat_active : Bool
  /-- if the websocket should be exited -/
  exit : Bool
  heartbeat_thread : Option Nat
  deriving DecidableEq, Repr

/-- Where `discord_start_bot` is. -/
inductive ServicePlace where
  /-- In `gateway_event_loop`. -/
  | event_loop
  /-- Behind it. -/
  | returned
  /-- Behind `websocket_destroy_client`. -/
  | destroyed
  /-- `exit(1)` has been called. -/
  | exited
  deriving DecidableEq, Repr

/-- The service thread. -/
structure ServiceThread where
  client : WebsocketClient
  place : ServicePlace
  /-- libwebsockets has a connection. -/
  link : Bool
  sigterm_recv : Bool
  /-- The number of threads started so far. -/
  threads : Nat
  log : List ServiceAction
  deriving DecidableEq, Repr

/-- A call that an event callback makes. -/
inductive ClientCall where
  | exit
  | reconnect
  deriving DecidableEq, Repr

/-- What happens to the service thread. -/
inductive ServiceEvent where
  /-- `LWS_CALLBACK_CLIENT_ESTABLISHED`. -/
  | established
  /-- `LWS_CALLBACK_CLIENT_RECEIVE` with the final fragment of a message;
      `result` is what it parses to, `calls` what the event callbacks do. -/
  | receive (result : Option CJson) (calls : List ClientCall)
  /-- `LWS_CALLBACK_CLIENT_CLOSED`. -/
  | closed
  /-- `LWS_CALLBACK_CLIENT_CONNECTION_ERROR`. -/
  | connection_error
  /-- The signal arrives. -/
  | sigterm
  /-- `lws_service` returns to the event loop. -/
  | service_returns
  /-- `websocket_destroy_client` is called. -/
  | destroy

/-! ### Threads -/

/-- One more action on the threads that are started and not yet joined. -/
def join_threads (threads : List Nat) : ServiceAction → List Nat
  | .heartbeat_started thread => thread :: threads
  | .heartbeat_joined thread => threads.erase thread
  | _ => threads

/-- The heartbeat threads that are started and not yet joined. -/
def unjoined (log : List ServiceAction) : List Nat := log.foldl join_threads []

theorem unjoined_snoc (log : List ServiceAction) (a : ServiceAction) :
    unjoined (log ++ [a]) = join_threads (unjoined log) a := by
  simp [unjoined]

namespace ServiceThread

/-- One more action. -/
def act (s : ServiceThread) (a : ServiceAction) : ServiceThread := { s with log := s.log ++ [a] }

/-- `pthread_create` of the heartbeat thread. -/
def pthread_create (s : ServiceThread) : ServiceThread :=
  { s with
    client := { s.client with heartbeat_thread := some s.threads }
    threads := s.threads + 1 }.act (.heartbeat_started s.threads)

/-- `pthread_join` of the heartbeat thread. -/
def pthread_join (s : ServiceThread) : Option ServiceThread := do
  let thread ← s.client.heartbeat_thread
  if thread ∈ unjoined s.log then some (s.act (.heartbeat_joined thread)) else none

/-! ### The functions of the websocket -/

/-- `websocket_create`. -/
def websocket_create : WebsocketClient where
  connected := false
  success_login := false
  active := true
  heartbeat_active := false
  exit := false
  heartbeat_thread := none

/-- `websocket_connect`. -/
def websocket_connect (s : ServiceThread) : ServiceThread :=
  { s with client := { s.client with active := true }, link := true }.act .connect

/-- `websocket_close`. -/
def websocket_close (s : ServiceThread) : Option ServiceThread :=
  if s.client.heartbeat_active then
    { s with client := { s.client with heartbeat_active := false } }.pthread_join
  else some s

/-- `exit = 1`. -/
def set_exit (s : ServiceThread) : ServiceThread :=
  { s with client := { s.client with exit := true } }.act .exit_set

/-- `websocket_reconnect`. -/
def websocket_reconnect (s : ServiceThread) : Option ServiceThread := s.websocket_close

/-- `websocket_exit`. -/
def websocket_exit (s : ServiceThread) : Option ServiceThread := s.set_exit.websocket_close

/-- `websocket_callback` for `LWS_CALLBACK_CLIENT_CLOSED`, the connection
    being gone. -/
def websocket_closed (s : ServiceThread) : Option ServiceThread :=
  let s := { s with link := false }
  if s.client.success_login && !s.client.exit then some s.websocket_connect
  else do
    let s := if s.client.success_login then s else s.set_exit
    let s ← { s with client := { s.client with active := false } }.websocket_close
    some { s with client := { s.client with connected := false, success_login := false } }

/-- `websocket_callback` for `LWS_CALLBACK_CLIENT_CONNECTION_ERROR`. -/
def websocket_connection_error (s : ServiceThread) : Option ServiceThread := do
  let client := { s.client with connected := false, active := false }
  let s ← { s with client, link := false }.websocket_close
  some { s with place := .exited }

/-- `lws_context_destroy`: the connection is closed first, if there is one. -/
def lws_context_destroy (s : ServiceThread) : Option ServiceThread :=
  let s := s.act .context_destroyed
  if s.link then s.websocket_closed else some s

/-- `websocket_destroy_client`. It tests `heartbeat_active` after it has
    cleared it. -/
def websocket_destroy_client (s : ServiceThread) : Option ServiceThread := do
  let s ← s.lws_context_destroy
  let client := { s.client with active := false, heartbeat_active := false }
  let s := { s with client, place := .destroyed }
  if s.client.heartbeat_active then s.pthread_join else some s

/-! ### The functions of the gateway -/

/-- `gateway_handle_identify`, but for what it sends. -/
def gateway_handle_identify (s : ServiceThread) : ServiceThread :=
  if !s.client.heartbeat_active then
    { s with client := { s.client with heartbeat_active := true } }.pthread_create
  else s

/-- A call of an event callback. -/
def call (s : ServiceThread) : ClientCall → Option ServiceThread
  | .exit => s.websocket_exit
  | .reconnect => s.websocket_reconnect

/-- `gateway_on_receive`, once `cJSON_Parse` has returned `result`. -/
def gateway_on_receive (s : ServiceThread) (result : Option CJson) (calls : List ClientCall) :
    Option ServiceThread :=
  match result.bind payload_op with
  | some 0 => calls.foldlM call { s with client := { s.client with success_login := true } }
  | some 9 => s.websocket_reconnect
  | some 10 => some s.gateway_handle_identify
  | _ => some s

/-- One round of `gateway_event_loop` after `lws_service`, with the test of
    the next round. -/
def gateway_event_loop (s : ServiceThread) : Option ServiceThread :=
  if s.sigterm_recv then s.websocket_exit.map fun s => { s with place := .returned }
  else if s.client.active then some s
  else some { s with place := .returned }

/-! ### The system -/

/-- `discord_start_bot`, up to the event loop. -/
def discord_start_bot : ServiceThread :=
  websocket_connect
    { client := websocket_create
      place := .event_loop
      link := false
      sigterm_recv := false
      threads := 0
      log := [] }

/-- Where an event may occur. -/
def enabled (s : ServiceThread) : ServiceEvent → Prop
  | .established => s.place = .event_loop ∧ s.link = true
  | .receive _ _ => s.place = .event_loop ∧ s.link = true
  | .closed => s.place = .event_loop ∧ s.link = true
  | .connection_error => s.place = .event_loop ∧ s.link = true
  | .sigterm => True
  | .service_returns => s.place = .event_loop
  | .destroy => s.place = .returned

/-- What happens then. -/
def handle (s : ServiceThread) : ServiceEvent → Option ServiceThread
  | .established => some { s with client := { s.client with connected := true } }
  | .receive result calls => s.gateway_on_receive result calls
  | .closed => s.websocket_closed
  | .connection_error => s.websocket_connection_error
  | .sigterm => some { s with sigterm_recv := true }
  | .service_returns => s.gateway_event_loop
  | .destroy => s.websocket_destroy_client

instance (s : ServiceThread) : ∀ e, Decidable (s.enabled e)
  | .established => inferInstanceAs (Decidable (s.place = .event_loop ∧ s.link = true))
  | .receive _ _ => inferInstanceAs (Decidable (s.place = .event_loop ∧ s.link = true))
  | .closed => inferInstanceAs (Decidable (s.place = .event_loop ∧ s.link = true))
  | .connection_error => inferInstanceAs (Decidable (s.place = .event_loop ∧ s.link = true))
  | .sigterm => inferInstanceAs (Decidable True)
  | .service_returns => inferInstanceAs (Decidable (s.place = .event_loop))
  | .destroy => inferInstanceAs (Decidable (s.place = .returned))

/-- The service thread under any events. -/
def service_system : System ServiceThread ServiceEvent :=
  .ofFn discord_start_bot fun s e => if s.enabled e then s.handle e else none

end ServiceThread

end DiscoC
