import DiscoC.Discord.Client
import DiscoC.Utils.PrioQueue
import Mathlib.Algebra.Group.Int.Defs

/-! # Requests

  Model of `web/request.c`. `request` creates a node and queues it;
  `request_t_pool` executes it once, and may queue it again. A life of a
  node is what its executions do, one after the other, until it is no longer
  queued.

  An execution is seen as its events: the transfer, the callback, the blocks
  it frees, and what it does wrong. It has three parts, which are separate
  steps for the other threads: the attempt, up to where the node may be
  queued again; the cleanup that follows it in any case; and the end of the
  request.

  At the end the response is decoded for the callback, which may read through
  a null pointer, and several messages are put into the cache. This is seen
  from the client as it is then (`handle_callback`).

  The transfer itself, the JSON parser and the clock are not part of the
  repository: their results are inputs.
-/

namespace DiscoC

/-! ### Data -/

/-- `enum Request_Type`. -/
inductive RequestType where
  | REQUEST_GET | REQUEST_POST | REQUEST_PATCH | REQUEST_PUT | REQUEST_DELETE | REQUEST_UPDATE
  deriving DecidableEq, Repr

/-- `enum Discord_Request_Callback_Type`. -/
inductive CallbackType where
  | DISCORD_MESSAGE_CALLBACK | DISCORD_MULTIPLE_MESSAGE_CALLBACK
  deriving DecidableEq, Repr

/-- `struct request_work_node`. A field that was never assigned is `none`;
    the filenames carry a mark once they are freed. -/
structure RequestNode where
  url : String
  json : Option String
  request_type : RequestType
  token : String
  rc : Option CallbackType
  iteration : Nat
  http : Option Int
  res : Option Int
  files : List String
  files_freed : Bool
  deriving DecidableEq, Repr

/-- What `curl_easy_perform` leaves behind (its result, the status code and
    the received bytes, if there are any), and the time read after it. -/
structure Transfer where
  res : Int
  http : Int
  memory : Option String
  now : Timeval
  deriving DecidableEq, Repr

/-- The blocks of a request. -/
inductive RequestBlock where
  | url | json | token | rc | node | files
  | file (i : Nat)
  deriving DecidableEq, Repr

/-- What an execution does. -/
inductive RequestEvent where
  /-- It reads a variable that was never assigned. -/
  | unassigned (var : String)
  /-- It reads a block that has been freed. -/
  | use_after_free (block : RequestBlock)
  /-- A part of a multipart body. -/
  | part_json (json : Option String)
  | part_file (filename : String)
  /-- The transfer. -/
  | perform (request_str url : String) (postfields : Option String)
  /-- The parsed response is handled for the callback of the request. -/
  | callback (type : CallbackType) (res_json : Option CJson)
  | free (block : RequestBlock)

/-- What an attempt leads to: `sent_message` with the variable `response`, a
    call of `t_pool_add_work`, or neither. -/
inductive Attempt where
  | sent (response : Option (Option String))
  | requeue (wait_until : Timeval)
  | unsent
  deriving DecidableEq, Repr

/-- A call of the callback of a request, with its arguments. -/
inductive RequestCall where
  | message (msg : Message)
  | messages (received : Nat) (message_array : Option (List Message))

/-- Messages while they are received: how many entries `message_array` was
    allocated for, the messages stored so far, and the indices they were
    stored at. -/
structure Receiving where
  client : Client
  allocated : Nat
  message_array : List Message
  stores : List Nat

/-- What handling a response leads to: a call, and the stores into
    `message_array`, each with the number of its entries. -/
structure Handled where
  client : Client
  call : RequestCall
  stores : List (Nat × Nat)

/-! ### Creating a request -/

/-- `request`, up to the call of `t_pool_add_work`. The fields `http` and
    `res` are left as `malloc` returns them. -/
def request (url : String) (content : Option String) (request_type : RequestType)
    (token : String) (rc : Option CallbackType) (files : List String) : RequestNode where
  url := strndup url 2050
  json := content
  request_type := request_type
  token := strndup token 200
  rc := rc
  iteration := 0
  http := none
  res := none
  files := files
  files_freed := false

/-- What a request uses of `bot_client_t`: the token of its websocket client.
    The pool is there whenever the bot is. -/
structure BotClient where
  token : String

/-- `request`, with what it puts on the pool of `bot`. Without a bot there is
    no pool, and `bot->thread_pool` is an access through the null pointer. -/
def request_queued (cJSON_Print : CJson → String) (url : String) (content : Option CJson)
    (request_type : RequestType) (token : String) (bot : Option BotClient)
    (rc : Option CallbackType) (files : List String) : Option (List RequestNode) :=
  match bot with
  | some _ => some [request url (content.map cJSON_Print) request_type token rc files]
  | none => none

/-! ### Handling a response -/

/-- A turn of the loop over the messages. -/
def receive_message (s : Receiving) (c_message : CJson) : Option Receiving := do
  let (msg, client) ← s.client.run (_d_json_to_message c_message)
  let received := s.message_array.length
  let client ← client.discord_cache_set_message msg
  some { s with
    client
    message_array := s.message_array ++ [msg]
    stores := s.stores ++ [received] }

/-- `malloc(sizeof(struct discord_message *) * received)` and the loop. -/
def receive_messages (client : Client) (messages : List CJson) : Option Receiving := do
  let received := 0
  let (_, client) ← client.run (Mem.alloc .array)
  messages.foldlM receive_message
    { client, allocated := received, message_array := [], stores := [] }

/-- What `request_t_pool` does for a callback of the type `type`. -/
def handle_callback (client : Client) (type : CallbackType) (res_json : Option CJson) :
    Option Handled :=
  match type with
  | .DISCORD_MESSAGE_CALLBACK => do
    let (msg, client) ← client.run (_d_json_to_message (event_data res_json))
    some { client, call := .message msg, stores := [] }
  | .DISCORD_MULTIPLE_MESSAGE_CALLBACK =>
    if cJSON_IsArray res_json then do
      let s ← receive_messages client (cJSON_ArrayItems res_json)
      some {
        client := s.client
        call := .messages s.message_array.length (some s.message_array)
        stores := s.stores.map fun i => (i, s.allocated) }
    else
      some { client, call := .messages 0 none, stores := [] }

/-- What is handled of the callbacks of a request, in order. -/
def handle_callbacks (client : Client) :
    List (CallbackType × Option CJson) → Option (List Handled × Client)
  | [] => some ([], client)
  | (type, res_json) :: rest => do
    let handled ← handle_callback client type res_json
    let (others, client) ← handle_callbacks handled.client rest
    some (handled :: others, client)

/-! ### One execution -/

/-- The method of a request. -/
def request_str : RequestType → String
  | .REQUEST_GET => "GET"
  | .REQUEST_POST => "POST"
  | .REQUEST_PATCH => "PATCH"
  | .REQUEST_DELETE => "DELETE"
  | .REQUEST_PUT => "PUT"
  | .REQUEST_UPDATE => "UPDATE"

/-- Freed filenames are read from freed memory. -/
def read_file (n : RequestNode) (i : Nat) : List RequestEvent :=
  if n.files_freed then [.use_after_free .files, .use_after_free (.file i)] else []

/-- `d_curl_setup_discord_header_files`: the list heads in `attachments_l`
    have just been allocated and are appended to as they are. -/
def d_curl_setup_discord_header_files (n : RequestNode) : List RequestEvent :=
  .part_json n.json :: n.files.zipIdx.flatMap fun (file, i) =>
    read_file n i ++ [.unassigned "attachments_l", .part_file file]

/-- The part of `request_t_pool` that sets up the transfer. -/
def request_setup (n : RequestNode) : List RequestEvent :=
  if n.files.length = 0 then [] else d_curl_setup_discord_header_files n

/-- The body of a request without files. -/
def postfields (n : RequestNode) : Option String :=
  if n.files.length = 0 then some (n.json.getD "") else none

/-- A value cast to `time_t`. -/
def to_time_t (q : Rat) : Int := q.num.tdiv q.den

/-- When to try again after a 429. -/
def retry_at (now : Timeval) (valuedouble : Rat) : Timeval :=
  let tv_sec := now.tv_sec + to_time_t valuedouble
  let tv_usec := now.tv_usec + (to_time_t (valuedouble * 1000000)).tmod 1000000
  if 1000000 < tv_usec then { tv_sec := tv_sec + 1, tv_usec := tv_usec - 1000000 }
  else { tv_sec, tv_usec }

/-- When to try again after a transient failure. -/
def backoff_at (now : Timeval) (iteration : Nat) : Timeval :=
  { now with tv_sec := now.tv_sec + 2 ^ iteration }

/-- The status codes of a transient failure; 0 if CURL fails. -/
def is_transient (http : Int) : Bool :=
  http == 0 || (500 ≤ http && http ≤ 599) || http == 409

section execution

variable (cJSON_Parse : Option String → Option CJson)

/-- The number in the field `retry_after` of a response. -/
def retry_after (response : Option String) : Option Rat :=
  cJSON_IsNumber (cJSON_GetObjectItem (cJSON_Parse response) "retry_after")

/-- The sending part of `request_t_pool`. The line that logs `retry_after`
    before the test of its type is not compiled into a release. -/
def request_attempt (n : RequestNode) (t : Transfer) : RequestNode × Attempt :=
  if 5 ≤ n.iteration then (n, .sent none)
  else
    let n := { n with res := some t.res, http := some t.http }
    let response := t.memory
    if 200 ≤ t.http && t.http ≤ 299 then (n, .sent (some response))
    else if t.http == 400 then (n, .sent (some response))
    else if t.http == 401 then (n, .sent (some response))
    else if t.http == 403 then (n, .sent (some response))
    else if t.http == 404 then (n, .sent (some response))
    else if t.http == 405 then (n, .sent (some response))
    else if t.http == 429 then
      match retry_after cJSON_Parse response with
      | some valuedouble => (n, .requeue (retry_at t.now valuedouble))
      | none => (n, .unsent)
    else if is_transient t.http then
      ({ n with iteration := n.iteration + 1 }, .requeue (backoff_at t.now n.iteration))
    else (n, .sent (some response))

/-- What an attempt does apart from its result. Without a transfer, it looks
    at the result and the status of the last one. -/
def attempt_events (n : RequestNode) : List RequestEvent :=
  if 5 ≤ n.iteration then
    (if n.res.isNone then [.unassigned "res"] else []) ++
      (if n.res ≠ some 0 ∧ n.http.isNone then [.unassigned "http"] else [])
  else [.perform (request_str n.request_type) n.url (postfields n)]

/-- The first cleanup of `request_t_pool`, after every attempt. -/
def request_cleanup (n : RequestNode) : List RequestEvent :=
  if 0 < n.files.length then
    (n.files.zipIdx.flatMap fun (_, i) =>
      (if n.files_freed then [.use_after_free .files] else []) ++ [.free (.file i)]) ++
      [.free .files]
  else []

/-- The node after the first cleanup. -/
def cleaned_up (n : RequestNode) : RequestNode :=
  if 0 < n.files.length then { n with files_freed := true } else n

/-- The second cleanup of `request_t_pool`, but for the callback. -/
def final_cleanup (n : RequestNode) : List RequestEvent :=
  (if n.json.isSome then [.free .json] else []) ++ [.free .url, .free .token, .free .node]

variable (client : Client)

/-- The end of `request_t_pool`, once the message counts as sent. Nothing
    comes after a response that cannot be handled. -/
def request_finalise (n : RequestNode) (response : Option (Option String)) : List RequestEvent :=
  let res_json := (response.getD none).bind fun memory => cJSON_Parse (some memory)
  (if response.isNone then [.unassigned "response"] else []) ++
    match n.rc with
    | some type => .callback type res_json ::
      if (handle_callback client type res_json).isSome then .free .rc :: final_cleanup n else []
    | none => final_cleanup n

/-- What one execution does, the node it leaves behind, and until when the
    node waits if it is queued again. -/
structure Execution where
  events : List RequestEvent
  node : RequestNode
  queued : Option Timeval

/-- `request_t_pool`. Where a response is handled, `client` is the client as
    it is then. -/
def request_t_pool (n : RequestNode) (t : Transfer) : Execution :=
  let (m, attempt) := request_attempt cJSON_Parse n t
  let before := request_setup n ++ attempt_events n ++ request_cleanup m
  match attempt with
  | .sent response =>
    { events := before ++ request_finalise cJSON_Parse client m response
      node := cleaned_up m
      queued := none }
  | .requeue wait_until => { events := before, node := cleaned_up m, queued := some wait_until }
  | .unsent => { events := before, node := cleaned_up m, queued := none }

/-! ### The life of a request -/

/-- An execution without a transfer makes no use of one. -/
def no_transfer : Transfer where
  res := 0
  http := 0
  memory := none
  now := { tv_sec := 0, tv_usec := 0 }

/-- The executions of a queued node when the transfers go as `ts`, up to
    where it is no longer queued. `none` if the transfers run out before, or
    are not all used. -/
def request_life : RequestNode → List Transfer → Option (List RequestEvent)
  | n, [] =>
    if 5 ≤ n.iteration then some (request_t_pool cJSON_Parse client n no_transfer).events else none
  | n, t :: ts =>
    if 5 ≤ n.iteration then none
    else
      let x := request_t_pool cJSON_Parse client n t
      match x.queued with
      | some _ => (request_life x.node ts).map (x.events ++ ·)
      | none => if ts.isEmpty then some x.events else none

end execution

end DiscoC
