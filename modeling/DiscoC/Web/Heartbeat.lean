import DiscoC.Framework.System
import DiscoC.Utils.PrioQueue
import DiscoC.Web.Websocket

/-! # The service thread and its heartbeat threads

  Model of `web/gateway.c` with `gateway_heartbeat_loop`, which runs on a
  thread of its own beside the service thread. The two share the flags of
  `websocket_client_t`, the sequence id, the heartbeat interval and the time
  of the last heartbeat.

  Each access to what is shared is one step, and the steps of the threads
  are taken in any order. A handler of the service thread is the list of its
  accesses (`ServiceOp`): it decides which way to take from what only its own
  thread writes. `pthread_join` waits until the thread has ended, `usleep`
  until its time is over. A signal may arrive at any moment. It is handled by
  one of the threads; if that one is in `usleep`, the sleep ends early.

  The clock counts microseconds and does not go back. `gateway_identify`
  (the frame that answers a HELLO) is modelled with `GatewayClient`.
-/

namespace DiscoC

/-! ### Data -/

/-- Where a heartbeat thread is in `gateway_heartbeat_loop`. The rounds since
    its last heartbeat are `t`; `interval` is the one it has waited for. -/
inductive HeartbeatPc where
  /-- About to read `client->active`. -/
  | test_active (t : Nat)
  /-- About to read `client->heartbeat_active`. -/
  | test_heartbeat_active (t : Nat)
  /-- About to compare `t * 10` with `HEARTBEAT_INTERVAL`. -/
  | compare (t : Nat)
  /-- In `gateway_send_heartbeat`, about to compare `seq` with -1. -/
  | test_seq (interval : Int)
  /-- About to print the frame, with or without `seq`. -/
  | print (interval : Int) (null : Bool)
  /-- About to send it. -/
  | send (interval : Int) (seq : Option Int)
  /-- About to take the time. -/
  | stamp
  /-- In `usleep`, which may return at `wake`. -/
  | sleep (t wake : Nat)
  /-- Out of the loop. -/
  | ended
  deriving DecidableEq, Repr

/-- What the service thread does to what is shared, or to its own fields of
    `websocket_client_t`. -/
inductive ServiceOp where
  | connected (b : Bool)
  | success_login (b : Bool)
  | active (b : Bool)
  | heartbeat_active (b : Bool)
  /-- `client->exit = 1` -/
  | exit
  /-- libwebsockets has lost the connection. -/
  | unlink
  /-- `websocket_connect` -/
  | connect
  /-- `websocket_close` -/
  | close
  /-- `pthread_create` of the heartbeat thread. -/
  | create
  /-- `pthread_join` of the heartbeat thread. -/
  | join
  /-- `lws_context_destroy`, once the connection is closed. -/
  | context_destroyed
  /-- `discord_start_bot` moves on. -/
  | place (place : ServicePlace)
  | seq (seq : Int)
  | HEARTBEAT_INTERVAL (interval : Int)
  /-- `gateway_send_heartbeat`, up to the time it takes. -/
  | send_heartbeat
  /-- `gettimeofday(&last_hearbeat)` -/
  | last_hearbeat
  /-- `gettimeofday(&heartbeat_recv)` -/
  | heartbeat_recv
  | heartbeat_latency
  deriving DecidableEq, Repr

/-- A heartbeat that has been sent. -/
structure Beat where
  /-- The heartbeat thread, or none for the service thread. -/
  thread : Option Nat
  /-- The interval that has been waited for. -/
  interval : Int
  /-- The `d` of the frame. -/
  seq : Option Int
  time : Nat
  deriving DecidableEq, Repr

/-- The service thread, the heartbeat threads and what they share. -/
structure GatewayThreads where
  service : ServiceThread
  /-- What is left of the handler that runs. -/
  todo : List ServiceOp
  /-- The heartbeat threads in the order they were created. -/
  threads : List HeartbeatPc
  /-- sequence id -/
  seq : Int
  HEARTBEAT_INTERVAL : Int
  last_hearbeat : Timeval
  heartbeat_recv : Timeval
  heartbeat_latency : Int
  clock : Nat
  /-- The heartbeats sent, the latest one first. -/
  sent : List Beat
  deriving DecidableEq, Repr

/-- `gettimeofday`. -/
def gettimeofday (clock : Nat) : Timeval where
  tv_sec := clock / 1000000
  tv_usec := clock % 1000000

/-- `usleep(slp)`, in microseconds. -/
def slp : Nat := 10000

/-- The milliseconds from `last` to `recv`. -/
def latency_ms (recv last : Timeval) : Int :=
  (recv.tv_sec - last.tv_sec) * 1000 + (recv.tv_usec - last.tv_usec).tdiv 1000

/-- What an access does to the fields of the service thread. -/
def ServiceOp.run (s : ServiceThread) : ServiceOp → Option ServiceThread
  | .connected b => some { s with client := { s.client with connected := b } }
  | .success_login b => some { s with client := { s.client with success_login := b } }
  | .active b => some { s with client := { s.client with active := b } }
  | .heartbeat_active b => some { s with client := { s.client with heartbeat_active := b } }
  | .exit => some s.set_exit
  | .unlink => some { s with link := false }
  | .connect => some s.websocket_connect
  | .close => s.websocket_close
  | .create => some s.pthread_create
  | .join => s.pthread_join
  | .context_destroyed => some (s.act .context_destroyed)
  | .place p => some { s with place := p }
  | .seq _ => some s
  | .HEARTBEAT_INTERVAL _ => some s
  | .send_heartbeat => some s
  | .last_hearbeat => some s
  | .heartbeat_recv => some s
  | .heartbeat_latency => some s

namespace GatewayThreads

/-! ### Handlers -/

/-- `gateway_send_heartbeat`, on the service thread. -/
def gateway_send_heartbeat : List ServiceOp := [.send_heartbeat, .last_hearbeat]

/-- `gateway_handle_identify`. -/
def gateway_handle_identify (c : WebsocketClient) : List ServiceOp :=
  gateway_send_heartbeat ++
    if !c.heartbeat_active then [.heartbeat_active true, .create] else []

/-- `websocket_exit`. -/
def websocket_exit : List ServiceOp := [.exit, .close]

/-- A call of an event callback. -/
def call : ClientCall → List ServiceOp
  | .exit => websocket_exit
  | .reconnect => [.close]

/-- `gateway_handle_dispatch`, with the calls of the event callbacks. -/
def gateway_handle_dispatch (seq : Int) (json : CJson) (calls : List ClientCall) :
    List ServiceOp :=
  .seq (next_seq seq (cJSON_GetObjectItemCaseSensitive json "s")) :: calls.flatMap call

/-- `gateway_on_receive`, once `cJSON_Parse` has returned `result`. -/
def gateway_on_receive (s : GatewayThreads) (result : Option CJson) (calls : List ClientCall) :
    List ServiceOp :=
  match result with
  | none => []
  | some json =>
    match payload_op json with
    | some 0 => .success_login true :: gateway_handle_dispatch s.seq json calls
    | some 9 => [.seq (-1), .close]
    | some 10 => gateway_handle_identify s.service.client ++
        (hello_interval json).toList.map .HEARTBEAT_INTERVAL
    | some 1 => gateway_send_heartbeat
    | some 11 => [.heartbeat_recv, .heartbeat_latency]
    | _ => []

/-- `websocket_callback` for `LWS_CALLBACK_CLIENT_CLOSED`. -/
def websocket_closed (c : WebsocketClient) : List ServiceOp :=
  .unlink ::
    if c.success_login && !c.exit then [.connect]
    else (if c.success_login then [] else [.exit]) ++
      [.active false, .close, .connected false, .success_login false]

/-- What the service thread does for an event. A signal only sets a flag. -/
def handler (s : GatewayThreads) : ServiceEvent → List ServiceOp
  | .established => [.connected true]
  | .receive result calls => s.gateway_on_receive result calls
  | .closed => websocket_closed s.service.client
  | .connection_error => [.connected false, .active false, .unlink, .close, .place .exited]
  | .sigterm => []
  | .service_returns =>
    if s.service.sigterm_recv then websocket_exit ++ [.place .returned]
    else if s.service.client.active then [] else [.place .returned]
  -- `websocket_destroy_client` tests `heartbeat_active` once it has cleared it
  | .destroy =>
    .context_destroyed ::
      ((if s.service.link then websocket_closed s.service.client else []) ++
        [.active false, .heartbeat_active false, .place .destroyed])

/-! ### One access -/

/-- The thread that `pthread_join` waits for. -/
def joined (s : GatewayThreads) : Option HeartbeatPc :=
  s.service.client.heartbeat_thread.bind fun thread => s.threads[thread]?

/-- `websocket_close` clears the flag and then joins. -/
def start_close (s : GatewayThreads) (todo : List ServiceOp) : GatewayThreads :=
  if s.service.client.heartbeat_active then
    { s with
      service := { s.service with client := { s.service.client with heartbeat_active := false } }
      todo := .join :: todo }
  else { s with todo }

/-- What an access does to what the threads share beside the flags. -/
def share (s : GatewayThreads) : ServiceOp → GatewayThreads
  | .create => { s with threads := s.threads ++ [.test_active 0] }
  | .seq seq => { s with seq }
  | .HEARTBEAT_INTERVAL HEARTBEAT_INTERVAL => { s with HEARTBEAT_INTERVAL }
  | .send_heartbeat => { s with sent :=
      { thread := none
        interval := 0
        seq := if s.seq == -1 then none else some s.seq
        time := s.clock } :: s.sent }
  | .last_hearbeat => { s with last_hearbeat := gettimeofday s.clock }
  | .heartbeat_recv => { s with heartbeat_recv := gettimeofday s.clock }
  | .heartbeat_latency =>
    { s with heartbeat_latency := latency_ms s.heartbeat_recv s.last_hearbeat }
  | _ => s

/-- The next access of the service thread. `pthread_join` waits. -/
def service_step (s : GatewayThreads) : Option GatewayThreads :=
  match s.todo with
  | [] => none
  | .close :: todo => some (s.start_close todo)
  | .join :: todo =>
    if s.joined = some .ended then
      s.service.pthread_join.map fun service => { s with service, todo }
    else none
  | op :: todo => (op.run s.service).map fun service => { s.share op with service, todo }

/-- A heartbeat thread moves on. -/
def set_thread (s : GatewayThreads) (i : Nat) (pc : HeartbeatPc) : GatewayThreads :=
  { s with threads := s.threads.set i pc }

/-- One access of `gateway_heartbeat_loop`. `usleep` waits. -/
def heartbeat_step (s : GatewayThreads) (i : Nat) : Option GatewayThreads :=
  match s.threads[i]? with
  | none => none
  | some (.test_active t) =>
    some (s.set_thread i (if s.service.client.active then .test_heartbeat_active t else .ended))
  | some (.test_heartbeat_active t) =>
    some (s.set_thread i (if s.service.client.heartbeat_active then .compare (t + 1) else .ended))
  | some (.compare t) =>
    some (s.set_thread i
      (if s.HEARTBEAT_INTERVAL ≤ t * 10 then .test_seq s.HEARTBEAT_INTERVAL
      else .sleep t (s.clock + slp)))
  | some (.test_seq interval) => some (s.set_thread i (.print interval (s.seq == -1)))
  | some (.print interval null) =>
    some (s.set_thread i (.send interval (if null then none else some s.seq)))
  | some (.send interval seq) =>
    some { s.set_thread i .stamp with
      sent := { thread := some i, interval, seq, time := s.clock } :: s.sent }
  | some .stamp =>
    some { s.set_thread i (.sleep 0 (s.clock + slp)) with last_hearbeat := gettimeofday s.clock }
  | some (.sleep t wake) =>
    if wake ≤ s.clock then some (s.set_thread i (.test_active t)) else none
  | some .ended => none

/-! ### The system -/

/-- The steps of the threads. -/
inductive GatewayLabel where
  /-- The service thread is called for an event, or the signal arrives. -/
  | event (e : ServiceEvent)
  /-- The signal arrives at a heartbeat thread in `usleep`. -/
  | interrupt (i : Nat)
  /-- The service thread moves on. -/
  | service
  /-- A heartbeat thread moves on. -/
  | heartbeat (i : Nat)
  /-- Time passes. -/
  | tick (clock : Nat)

/-- An event that is handled. The signal interrupts whatever runs. -/
def event_step (s : GatewayThreads) : ServiceEvent → Option GatewayThreads
  | .sigterm => some { s with service := { s.service with sigterm_recv := true } }
  | e => if s.todo = [] ∧ s.service.enabled e then some { s with todo := s.handler e } else none

/-- `sighandle`, on a heartbeat thread: `usleep` may return now. -/
def interrupt_step (s : GatewayThreads) (i : Nat) : Option GatewayThreads :=
  match s.threads[i]? with
  | some (.sleep t wake) =>
    some { s.set_thread i (.sleep t (min wake s.clock)) with
      service := { s.service with sigterm_recv := true } }
  | _ => none

/-- What a step does. -/
def exec (s : GatewayThreads) : GatewayLabel → Option GatewayThreads
  | .event e => s.event_step e
  | .interrupt i => s.interrupt_step i
  | .service => s.service_step
  | .heartbeat i => s.heartbeat_step i
  | .tick clock => if s.clock ≤ clock then some { s with clock } else none

/-- `discord_start_bot`, up to the event loop. -/
def start (clock : Nat) : GatewayThreads where
  service := .discord_start_bot
  todo := []
  threads := []
  seq := -1
  HEARTBEAT_INTERVAL := 10000
  last_hearbeat := { tv_sec := 0, tv_usec := 0 }
  heartbeat_recv := { tv_sec := 0, tv_usec := 0 }
  heartbeat_latency := 0
  clock := clock
  sent := []

end GatewayThreads

/-- The service thread and the heartbeat threads, in any order of steps. -/
def gateway_threads (clock : Nat) : System GatewayThreads GatewayThreads.GatewayLabel :=
  .ofFn (.start clock) GatewayThreads.exec

end DiscoC
