import DiscoC.Discord.CreateMessage
import DiscoC.Web.Request

/-! # Sending, editing and getting messages

  Model of the functions of `discord/message.c` that make a request. Each
  returns what it puts on the pool; `none` stands for an access through the
  null pointer and for a text that does not fit into its array.
-/

namespace DiscoC

/-- `strndup` of each filename, which may be null. -/
def copy_filenames (attachments : List Attachment) : Option (List String) :=
  attachments.mapM fun a => a.filename.map fun s => strndup s.bytes 256

/-- The attachments of a message that may be null. -/
def message_attachments (message : Option CreateMessage) : List Attachment :=
  (message.map CreateMessage.attachments).getD []

/-- The address of the messages of a channel. -/
def messages_url (channel_id : UInt64) : String :=
  "https://discord.com/api/v10/channels/" ++ format_ju channel_id ++ "/messages"

/-- The address of a message. -/
def message_url (channel_id message_id : UInt64) : String :=
  messages_url channel_id ++ "/" ++ format_ju message_id

/-- What `discord_channel_edit_message` adds to its object. -/
def edit_message_to_json (content : Option String) (message : Option CreateMessage) :
    Option (List (String × Option CJson)) :=
  match message with
  | none => some [("content", content_item content)]
  | some m => do
    let allowed_mentions ← m.allowed_mentions.mapM create_allowed_mentions
    some
      [("content", content_item content),
        ("embeds", array_item (m.all_embeds.map create_embed_json)),
        ("allowed_mentions", allowed_mentions),
        ("flags", flags_item m.flags)]

/-- The parameter that says where the messages to get are. -/
def id_field (around before after : UInt64) : Option (Option String) :=
  if around ≠ 0 then (sprintf 35 ("around=" ++ format_ju around)).map some
  else if before ≠ 0 then (sprintf 35 ("before=" ++ format_ju before)).map some
  else if after ≠ 0 then (sprintf 35 ("after=" ++ format_ju after)).map some
  else some none

/-- `strncat(url, id_field, 35)`, if there is a parameter. -/
def append_id_field (url : String) (id_field : Option String) : Option String :=
  match id_field with
  | some id_field => strncat 200 url id_field 35
  | none => some url

/-- The number of messages at the end of the address. The sign & goes between
    the parameters. -/
def append_limit (url : String) (added_id : Bool) (limit : Int) : Option String :=
  if limit ≠ 0 then do
    let lim ← sprintf 15 ((if added_id then "&limit=" else "limit=") ++ format_d limit)
    strncat 200 url lim 15
  else some url

/-- The `url` of `discord_get_messages`, put together in three arrays. -/
def get_messages_url (channel_id : UInt64) (limit : Int) (around before after : UInt64) :
    Option String := do
  let url ← sprintf 200 (messages_url channel_id ++ "?")
  let id_field ← id_field around before after
  let url ← append_id_field url id_field
  append_limit url id_field.isSome limit

section requests

variable (cJSON_Print : CJson → String)

/-- `discord_channel_send_message`; `cb` says if there is a callback. -/
def discord_channel_send_message (bot : BotClient) (content : Option String)
    (channel_id : UInt64) (message : Option CreateMessage) (cb : Bool) :
    Option (List RequestNode) := do
  let json ← _d_create_message_to_json [] content message
  let url ← sprintf 80 (messages_url channel_id)
  let rc := if cb then some .DISCORD_MESSAGE_CALLBACK else none
  let filenames ← copy_filenames (message_attachments message)
  request_queued cJSON_Print url (some (cJSON_object json)) .REQUEST_POST bot.token bot rc filenames

/-- `discord_channel_edit_message`. The message is tested for the null pointer
    where the object is filled, but not where the attachments are counted. -/
def discord_channel_edit_message (bot : BotClient) (content : Option String)
    (channel_id message_id : UInt64) (message : Option CreateMessage) :
    Option (List RequestNode) := do
  let json ← edit_message_to_json content message
  let m ← message
  let filenames ← copy_filenames m.attachments
  let uri ← sprintf 100 (message_url channel_id message_id)
  request_queued cJSON_Print uri (some (cJSON_object json)) .REQUEST_PATCH bot.token bot none
    filenames

/-- `discord_get_messages`. -/
def discord_get_messages (bot : BotClient) (channel_id : UInt64) (limit : Int)
    (around before after : UInt64) : Option (List RequestNode) := do
  let url ← sprintf 200 (messages_url channel_id ++ "?")
  let id_field ← id_field around before after
  let url ← append_id_field url id_field
  let url ← append_limit url id_field.isSome limit
  request_queued cJSON_Print url none .REQUEST_GET bot.token bot
    (some .DISCORD_MULTIPLE_MESSAGE_CALLBACK) []

/-- `discord_fetch_message`. -/
def discord_fetch_message (bot : BotClient) (channel_id message_id : UInt64) (cb : Bool) :
    Option (List RequestNode) :=
  if !cb then some []
  else do
    let url ← sprintf 100 (message_url channel_id message_id)
    request_queued cJSON_Print url none .REQUEST_GET bot.token bot
      (some .DISCORD_MESSAGE_CALLBACK) []

theorem discord_get_messages_eq (bot : BotClient) (channel_id : UInt64) (limit : Int)
    (around before after : UInt64) :
    discord_get_messages cJSON_Print bot channel_id limit around before after = (do
      let url ← get_messages_url channel_id limit around before after
      request_queued cJSON_Print url none .REQUEST_GET bot.token bot
        (some .DISCORD_MULTIPLE_MESSAGE_CALLBACK) []) := by
  simp only [discord_get_messages, get_messages_url, Option.bind_eq_bind, Option.bind_assoc]

end requests

end DiscoC
