import DiscoC.Discord.User

/-! # Channels and attachments

  Model of `discord/attachment.c` and `discord/channel.c`.
-/

namespace DiscoC

/-! ### Data -/

/-- `struct discord_attachment` -/
structure Attachment where
  address : Nat
  id : UInt64
  filename : Option CStr
  description : Option CStr
  content_type : Option CStr
  size : Int
  url : Option CStr
  proxy_url : Option CStr
  height : Int
  width : Int
  ephemeral : Bool

/-- `struct discord_channel_mention` -/
structure ChannelMention where
  address : Nat
  id : UInt64
  guild_id : UInt64
  type : Int
  name : Option CStr

/-- `struct discord_channel` -/
structure Channel where
  address : Nat
  id : UInt64
  type : Int
  guild_id : UInt64
  position : Int
  permission_overwrites : CArray Unimplemented
  name : Option CStr
  topic : Option CStr
  nsfw : Bool
  last_message_id : UInt64
  bitrate : Int
  user_limit : Int
  rate_limit_per_user : Int
  recipients : CArray User
  icon : Option CStr
  owner_id : UInt64
  application_id : UInt64
  parent_id : UInt64
  last_pin_timestamp : Option CStr
  rtc_region : Option CStr
  video_quality_mode : Int
  message_count : Int
  member_count : Int
  thread_metadata : Unimplemented
  member : Unimplemented
  default_auto_archive_duration : Int
  permissions : Option CStr
  flags : Int

/-! ### Attachments -/

/-- `_d_json_to_attachment`. -/
def _d_json_to_attachment (data : CJson) : CMem Attachment := do
  let address ← Mem.alloc .attachment
  let filename ← _d_get_string_from_json data "filename"
  let description ← _d_get_string_from_json data "description"
  let content_type ← _d_get_string_from_json data "content_type"
  let url ← _d_get_string_from_json data "url"
  let proxy_url ← _d_get_string_from_json data "proxy_url"
  pure {
    address, filename, description, content_type, url, proxy_url
    id := _d_get_long_from_string_json data "id" 0
    size := _d_get_int_from_json data "size" (-1)
    height := _d_get_int_from_json data "height" (-1)
    width := _d_get_int_from_json data "width" (-1)
    ephemeral := _d_get_bool_from_json data "ephemeral" false }

/-- `_d_copy_attachment`, of an attachment that is not null. -/
def _d_copy_attachment (src : Attachment) : CMem Attachment := do
  Mem.visit .attachment ⟨.attachment, src.address⟩
  let address ← Mem.alloc .attachment
  let filename ← copy_string src.filename 100
  let description ← copy_string src.description 1025
  let content_type ← copy_string src.content_type 50
  let url ← copy_string src.url 2048
  let proxy_url ← copy_string src.proxy_url 2048
  pure { src with address, filename, description, content_type, url, proxy_url }

/-- `discord_destroy_attachment`. -/
def discord_destroy_attachment (attachment : Attachment) : CMem Unit :=
  Mem.destroying .attachment attachment.address do
    free_string attachment.filename
    free_string attachment.description
    free_string attachment.content_type
    free_string attachment.url
    free_string attachment.proxy_url

/-! ### Channels -/

/-- `_d_json_to_channel_mention`. -/
def _d_json_to_channel_mention (data : CJson) : CMem ChannelMention := do
  let address ← Mem.alloc .channel_mention
  let name ← _d_get_string_from_json data "name"
  pure {
    address, name
    id := _d_get_long_from_string_json data "id" 0
    guild_id := _d_get_long_from_string_json data "guild_id" 0
    type := _d_get_int_from_json data "type" 0 }

/-- `_d_json_to_channel`. -/
def _d_json_to_channel (data : CJson) : CMem Channel := do
  let address ← Mem.alloc .channel
  let permission_overwrites ← _d_get_array_from_json data "permission_overwrites" fun cur _ =>
    _d_json_to_overwrite cur
  let name ← _d_get_string_from_json data "name"
  let topic ← _d_get_string_from_json data "topic"
  let recipients ← _d_get_array_from_json data "recipients" fun cur _ => _d_json_to_user cur
  let icon ← _d_get_string_from_json data "icon"
  let last_pin_timestamp ← _d_get_string_from_json data "last_pin_timestamp"
  let rtc_region ← _d_get_string_from_json data "rtc_region"
  let thread_metadata ← unimplemented_field (cJSON_GetObjectItem data "thread_metadata")
    _d_json_to_thread_metadata
  let member ← unimplemented_field (cJSON_GetObjectItem data "member") _d_json_to_thread_member
  let permissions ← _d_get_string_from_json data "permissions"
  pure {
    address, permission_overwrites, name, topic, recipients, icon, last_pin_timestamp, rtc_region
    thread_metadata, member, permissions
    id := _d_get_long_from_string_json data "id" 0
    type := _d_get_int_from_json data "type" 0
    guild_id := _d_get_long_from_string_json data "guild_id" 0
    position := _d_get_int_from_json data "position" (-1)
    nsfw := _d_get_bool_from_json data "nsfw" false
    last_message_id := _d_get_long_from_string_json data "last_message_id" 0
    bitrate := _d_get_int_from_json data "bitrate" 0
    user_limit := _d_get_int_from_json data "user_limit" 0
    rate_limit_per_user := _d_get_int_from_json data "rate_limit_per_user" 0
    owner_id := _d_get_long_from_string_json data "owner_id" 0
    application_id := _d_get_long_from_string_json data "application_id" 0
    parent_id := _d_get_long_from_string_json data "parent_id" 0
    video_quality_mode := _d_get_int_from_json data "video_quality_mode" 1
    message_count := _d_get_int_from_json data "message_count" 0
    member_count := _d_get_int_from_json data "member_count" 0
    default_auto_archive_duration := _d_get_int_from_json data "default_auto_archive_duration" 0
    flags := _d_get_int_from_json data "flags" 0 }

/-- `_d_copy_channel`, of a channel that is not null. The copy of the icon
    goes to the topic. -/
def _d_copy_channel (src : Channel) : CMem Channel := do
  Mem.visit .channel ⟨.channel, src.address⟩
  let address ← Mem.alloc .channel
  let permission_overwrites ← copy_array src.permission_overwrites fun o _ => _d_copy_overwrite o
  let name ← copy_string src.name 101
  let topic ← copy_string src.topic 1025
  let recipients ← copy_array src.recipients fun user _ => _d_copy_user user
  let icon ← copy_string src.icon 1025
  let last_pin_timestamp ← copy_string src.last_pin_timestamp 100
  let rtc_region ← copy_string src.rtc_region 100
  let thread_metadata ← _d_copy_thread_metadata src.thread_metadata
  let member ← _d_copy_thread_member src.member
  let permissions ← copy_string src.permissions 100
  pure { src with
    address, permission_overwrites, name, recipients, last_pin_timestamp, rtc_region
    thread_metadata, member, permissions
    topic := if icon.isSome then icon else topic }

/-- `discord_destroy_channel`. -/
def discord_destroy_channel (ch : Channel) : CMem Unit :=
  Mem.destroying .channel ch.address do
    free_string ch.name
    free_string ch.topic
    free_string ch.icon
    free_string ch.last_pin_timestamp
    free_string ch.rtc_region
    free_string ch.permissions
    destroy_array ch.permission_overwrites fun o _ => discord_destroy_overwrite o
    destroy_array ch.recipients fun user _ => discord_destroy_user user
    destroy_pointer ch.thread_metadata fun b _ => Mem.free b
    destroy_pointer ch.member fun b _ => Mem.free b

end DiscoC
