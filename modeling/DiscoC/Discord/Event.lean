import DiscoC.Discord.Message
import DiscoC.Web.Gateway

/-! # Events

  Model of what `event_handle` of `discord/event.c` reads: which branch an
  event takes, and what the branch decodes before it goes to the cache and
  to the callbacks.

  A null `data` has no fields, and neither has the document `null`, so one
  stands for the other. The log prints a null text as such.
-/

namespace DiscoC

/-! ### Branches -/

/-- The branches of `event_handle` that do something. -/
inductive EventBranch where
  | ready
  | channel_create
  | channel_update
  | channel_delete
  | message_create
  | message_update
  | message_delete
  | interaction_create
  /-- nothing is done -/
  | ignored
  deriving DecidableEq, Repr

/-- The comparisons of `event_handle` in order: `strncmp(event, name, n)`. -/
def event_branches : List (String × Nat × EventBranch) :=
  [("READY", 6, .ready),
    ("RESUMED", 8, .ignored),
    ("RECONNECT", 10, .ignored),
    ("INVALID_SESSION", 16, .ignored),
    ("APPLICATION_COMMAND_PERMISSIONS_UPDATE", 39, .ignored),
    ("CHANNEL_CREATE", 15, .channel_create),
    ("CHANNEL_UPDATE", 15, .channel_update),
    ("CHANNEL_DELETE", 15, .channel_delete),
    ("CHANNEL_PINS_UPDATE", 20, .ignored),
    ("THREAD_CREATE", 14, .ignored),
    ("THREAD_UPDATE", 14, .ignored),
    ("THREAD_DELETE", 14, .ignored),
    ("THREAD_LIST_SYNC", 17, .ignored),
    ("THREAD_MEMBER_UPDATE", 21, .ignored),
    ("THREAD_MEMBERS_UPDATE", 22, .ignored),
    ("GUILD_CREATE", 13, .ignored),
    ("GUILD_UPDATE", 13, .ignored),
    ("GUILD_DELETE", 13, .ignored),
    ("GUILD_BAN_ADD", 14, .ignored),
    ("GUILD_BAN_REMOVE", 17, .ignored),
    ("GUILD_EMOJIS_UPDATE", 20, .ignored),
    ("GUILD_STICKERS_UPDATE", 22, .ignored),
    ("GUILD_INTEGRATIONS_UPDATE", 26, .ignored),
    ("GUILD_MEMBER_ADD", 17, .ignored),
    ("GUILD_MEMBER_REMOVE", 20, .ignored),
    ("GUILD_MEMBER_UPDATE", 20, .ignored),
    ("GUILD_MEMBERS_CHUNK", 20, .ignored),
    ("GUILD_ROLE_CREATE", 18, .ignored),
    ("GUILD_ROLE_UPDATE", 18, .ignored),
    ("GUILD_ROLE_DELETE", 18, .ignored),
    ("GUILD_SCHEDULED_EVENT_CREATE", 29, .ignored),
    ("GUILD_SCHEDULED_EVENT_UPDATE", 29, .ignored),
    ("GUILD_SCHEDULED_EVENT_DELETE", 29, .ignored),
    ("GUILD_SCHEDULED_EVENT_USER_ADD", 31, .ignored),
    ("GUILD_SCHEDULED_EVENT_USER_REMOVE", 34, .ignored),
    ("INTEGRATION_CREATE", 19, .ignored),
    ("INTEGRATION_UPDATE", 19, .ignored),
    ("INTEGRATION_DELETE", 19, .ignored),
    ("INVITE_CREATE", 14, .ignored),
    ("INVITE_DELETE", 14, .ignored),
    ("MESSAGE_CREATE", 15, .message_create),
    ("MESSAGE_UPDATE", 15, .message_update),
    ("MESSAGE_DELETE", 15, .message_delete),
    ("MESSAGE_DELETE_BULK", 20, .ignored),
    ("MESSAGE_REACTION_ADD", 21, .ignored),
    ("MESSAGE_REACTION_REMOVE", 24, .ignored),
    ("MESSAGE_REACTION_REMOVE_ALL", 28, .ignored),
    ("MESSAGE_REACTION_REMOVE_EMOJI", 30, .ignored),
    ("PRESENCE_UPDATE", 16, .ignored),
    ("STAGE_INSTANCE_CREATE", 22, .ignored),
    ("STAGE_INSTANCE_DELETE", 22, .ignored),
    ("STAGE_INSTANCE_UPDATE", 22, .ignored),
    ("TYPING_START", 13, .ignored),
    ("USER_UPDATE", 12, .ignored),
    ("VOICE_STATE_UPDATE", 19, .ignored),
    ("VOICE_SERVER_UPDATE", 20, .ignored),
    ("WEBHOOKS_UPDATE", 16, .ignored),
    ("INTERACTION_CREATE", 19, .interaction_create)]

/-- The branch an event takes: that of the first comparison that holds. -/
def event_branch (event : String) : EventBranch :=
  match event_branches.find? fun b => strncmp_eq event b.1 b.2.1 with
  | some (_, _, branch) => branch
  | none => .ignored

/-! ### What is decoded -/

/-- `discord_event_callbacks_t`: which callbacks are given. -/
structure Callbacks where
  on_ready : Bool
  on_message : Bool
  on_message_edit : Bool
  on_message_delete : Bool
  on_channel_create : Bool
  on_channel_update : Bool
  on_channel_delete : Bool
  on_interaction_create : Bool

/-- What has been read when `event_handle` goes to the cache and to the
    callbacks. -/
inductive EventData where
  | ready (user : Option User) (session_id : Option CStr)
  | channel_create (channel : Channel)
  | channel_update (channel : Channel)
  | channel_delete (id guild_id parent_id : UInt64) (type : Int)
  | message_create (message : Message)
  | message_update (message : Message)
  | message_delete (id channel_id guild_id : UInt64)
  | interaction_create (interaction : Interaction)
  /-- nothing is read -/
  | ignored

/-- The document for a `data` that may be null. -/
def event_data (data : Option CJson) : CJson := data.getD .null

/-- An id that is given as a string, or 0. -/
def string_id (data : CJson) (name : String) : UInt64 :=
  (((cJSON_GetObjectItem data name).bind CJson.valuestring).map strtoull).getD 0

/-- `c->valueint`, where `c` may be null. -/
def read_type (c : Option CJson) : CMem Int :=
  match c with
  | some c => pure c.valueint
  | none => Mem.undefined

/-- `strndup(user_data->valuestring, 100)`, where the string may be null. -/
def read_session_id (user_data : CJson) : CMem CStr :=
  match user_data.valuestring with
  | some s => new_string s 100
  | none => Mem.undefined

/-- What a branch reads, if the callback for it is given. -/
def read_if (callback : Bool) (read : CMem EventData) : CMem EventData :=
  if callback then read else pure .ignored

/-- What a branch of `event_handle` reads. -/
def branch_read (callbacks : Callbacks) (data : CJson) : EventBranch → CMem EventData
  | .ready => do
    let user ← Mem.unless_null (cJSON_GetObjectItem data "user") fun user_data _ =>
      _d_json_to_user user_data
    let session_id ← Mem.unless_null (cJSON_GetObjectItem data "session_id") fun user_data _ =>
      read_session_id user_data
    pure (.ready user session_id)
  | .channel_create => read_if callbacks.on_channel_create do
    let channel ← _d_json_to_channel data
    pure (.channel_create channel)
  | .channel_update => read_if callbacks.on_channel_update do
    let channel ← _d_json_to_channel data
    pure (.channel_update channel)
  | .channel_delete => read_if callbacks.on_channel_delete do
    let type ← read_type (cJSON_GetObjectItem data "type")
    pure (.channel_delete (string_id data "id") (string_id data "guild_id")
      (string_id data "parent_id") type)
  | .message_create => read_if callbacks.on_message do
    let message ← _d_json_to_message data
    pure (.message_create message)
  | .message_update => read_if callbacks.on_message_edit do
    let message ← _d_json_to_message data
    pure (.message_update message)
  | .message_delete => read_if callbacks.on_message_delete do
    pure (.message_delete (string_id data "id") (string_id data "channel_id")
      (string_id data "guild_id"))
  | .interaction_create => read_if callbacks.on_interaction_create do
    let interaction ← _d_json_to_interaction data
    pure (.interaction_create interaction)
  | .ignored => pure .ignored

/-- What `event_handle` reads. `strncmp` is undefined for a null event. -/
def event_read (callbacks : Option Callbacks) (data : Option CJson) (event : Option String) :
    CMem EventData :=
  match callbacks, event with
  | none, _ => pure .ignored
  | some callbacks, some event => branch_read callbacks (event_data data) (event_branch event)
  | some _, none => Mem.undefined

end DiscoC
