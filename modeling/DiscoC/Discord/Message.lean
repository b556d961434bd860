import DiscoC.Discord.Channel
import DiscoC.Discord.Component
import DiscoC.Discord.Embed

/-! # Messages and interactions

  Model of the decoders, copiers and destroyers of `discord/message.c` and
  `discord/interaction.c`, with `discord/application.c`. A message can hold
  an interaction and an interaction a message.

  Two fields are stored through `void *` and hold structures of another type
  than they are declared with: the `mention_channels` of a message and the
  `values` of an interaction.
-/

namespace DiscoC

/-! ### Data -/

/-- `struct discord_message_reference` -/
structure MessageReference where
  address : Nat
  message_id : UInt64
  channel_id : UInt64
  guild_id : UInt64
  fail_if_not_exists : Bool

/-- `struct discord_application`, of which no field is filled. -/
structure Application where
  address : Nat

/-- The union `value` of an option, as it was written. -/
inductive OptionValue where
  | string_ (s : Option CStr)
  | int_ (i : Int)
  | double_ (d : Double)
  /-- all zero -/
  | unset

/-- `struct discord_interaction_data_option` -/
structure InteractionDataOption where
  address : Nat
  name : Option CStr
  type : Int
  value_type : Int
  value : OptionValue
  options : CArray InteractionDataOption
  focused : Bool

/-- `struct discord_interaction_data` -/
structure InteractionData where
  address : Nat
  id : UInt64
  name : Option CStr
  type : Int
  options : CArray InteractionDataOption
  guild_id : UInt64
  target_id : UInt64
  custom_id : Option CStr
  component_type : Int
  /-- declared as options, decoded as select options -/
  values : CArray (InteractionDataOption ⊕ SelectOption)
  components : CArray Component

/-- `struct discord_interaction`, without the message -/
structure InteractionFields where
  address : Nat
  id : UInt64
  application_id : UInt64
  type : Int
  data : Option InteractionData
  guild_id : UInt64
  channel_id : UInt64
  member : Option Member
  user : Option User
  token : Option CStr
  version : Int
  app_permissions : Option CStr
  locale : Option CStr
  guild_locale : Option CStr

/-- `struct discord_message`, without the referenced message and the
    interaction -/
structure MessageFields where
  address : Nat
  id : UInt64
  channel_id : UInt64
  guild_id : UInt64
  user : Option User
  member : Option Member
  content : Option CStr
  timestamp : Option CStr
  edited_timestamp : Option CStr
  tts : Bool
  mention_everyone : Bool
  mentions : CArray Member
  mention_roles : CArray UInt64
  /-- declared as channels, decoded as channel mentions -/
  mention_channels : CArray (Channel ⊕ ChannelMention)
  attachments : CArray Attachment
  embeds : CArray Embed
  reactions : CArray Unimplemented
  nonce : Option CStr
  pinned : Bool
  webhook_id : UInt64
  type : Int
  activity : Unimplemented
  application : Option Application
  application_id : UInt64
  message_reference : Option MessageReference
  flags : Int
  thread : Option Channel
  components : CArray Component
  sticker_items : CArray Unimplemented
  stickers : CArray Unimplemented

mutual

/-- `struct discord_message` -/
structure Message extends MessageFields where
  referenced_message : Option Message
  interaction : Option Interaction

/-- `struct discord_interaction` -/
structure Interaction extends InteractionFields where
  message : Option Message

end

/-- Members of `enum Discord_Application_Command_Option_Type`. -/
def COMMAND_OPTION_STRING : Int := 3
def COMMAND_OPTION_INTEGER : Int := 4
def COMMAND_OPTION_NUMBER : Int := 10

/-- `VALUE_STRING` of `enum Value_Type`. -/
def VALUE_STRING : Int := 0

theorem InteractionDataOption.sizeOf_item {o c : InteractionDataOption}
    (h : c ∈ o.options.items) : sizeOf c < sizeOf o := by
  have hsize := CArray.sizeOf_item h
  cases o with
  | mk address name type value_type value options focused =>
    rw [InteractionDataOption.mk.sizeOf_spec]
    simp only at hsize
    omega

/-! ### Message references and applications -/

/-- `_d_json_to_message_reference`. -/
def _d_json_to_message_reference (data : CJson) : CMem MessageReference := do
  let address ← Mem.alloc .message_reference
  pure {
    address
    message_id := _d_get_long_from_string_json data "message_id" 0
    channel_id := _d_get_long_from_string_json data "channel_id" 0
    guild_id := _d_get_long_from_string_json data "guild_id" 0
    fail_if_not_exists := false }

/-- `_d_copy_message_reference`, of a structure that is not null. -/
def _d_copy_message_reference (src : MessageReference) : CMem MessageReference := do
  Mem.visit .message_reference ⟨.message_reference, src.address⟩
  let address ← Mem.alloc .message_reference
  pure { src with address }

/-- `discord_destroy_message_reference`. -/
def discord_destroy_message_reference (message : MessageReference) : CMem Unit :=
  Mem.destroying .message_reference message.address (pure ())

/-- `_d_json_to_application`. -/
def _d_json_to_application (_ : CJson) : CMem Application := do
  let address ← Mem.alloc .application
  pure { address }

/-- `_d_copy_application`, of an application that is not null. There is no
    copy. -/
def _d_copy_application (src : Application) : CMem (Option Application) := do
  Mem.visit .application ⟨.application, src.address⟩
  pure none

/-- `discord_destroy_application`. -/
def discord_destroy_application (application : Application) : CMem Unit :=
  Mem.destroying .application application.address (pure ())

/-! ### Options and data of interactions -/

/-- The value of an option is written as its type says. -/
def option_value (data : CJson) (type : Int) : CMem OptionValue :=
  if type = COMMAND_OPTION_STRING then do
    let s ← _d_get_string_from_json data "value"
    pure (.string_ s)
  else if type = COMMAND_OPTION_INTEGER then
    pure (.int_ (_d_get_int_from_json data "value" 0))
  else if type = COMMAND_OPTION_NUMBER then
    pure (.double_ (_d_get_double_from_string_json data "value" 0))
  else
    pure .unset

/-- The value read through `string_`. A number is no pointer if one of its bits
    is set. -/
def OptionValue.read_string : OptionValue → CMem (Option CStr)
  | .string_ s => pure s
  | .int_ i => if i = 0 then pure none else Mem.undefined
  | .double_ d => if d.is_null then pure none else Mem.undefined
  | .unset => pure none

/-- `_d_json_to_interaction_data_option`. -/
def _d_json_to_interaction_data_option (data : CJson) : CMem InteractionDataOption := do
  let address ← Mem.alloc .interaction_data_option
  let name ← _d_get_string_from_json data "name"
  let type := _d_get_int_from_json data "type" 0
  let value ← option_value data type
  let options ← _d_get_array_from_json data "options" fun cur h =>
    have : sizeOf cur < sizeOf data := sizeOf_array_item h
    _d_json_to_interaction_data_option cur
  pure {
    address, name, type, value, options
    value_type := VALUE_STRING
    focused := _d_get_bool_from_json data "focused" false }
termination_by data

/-- The value of the copy of an option. -/
def copy_option_value (src : InteractionDataOption) : CMem OptionValue :=
  if src.value_type = VALUE_STRING then do
    let s ← src.value.read_string
    let copy ← copy_string s 120
    pure (if copy.isSome then .string_ copy else src.value)
  else
    pure src.value

/-- `_d_copy_interaction_data_option`, of an option that is not null. -/
def _d_copy_interaction_data_option (src : InteractionDataOption) :
    CMem InteractionDataOption := do
  Mem.visit .interaction_data_option ⟨.interaction_data_option, src.address⟩
  let address ← Mem.alloc .interaction_data_option
  let name ← copy_string src.name 50
  let value ← copy_option_value src
  let options ← copy_array src.options fun o h =>
    have : sizeOf o < sizeOf src := InteractionDataOption.sizeOf_item h
    _d_copy_interaction_data_option o
  pure { src with address, name, value, options }
termination_by src

/-- `if (o->type == COMMAND_OPTION_STRING && o->value.string_)`, free it. -/
def free_option_value (o : InteractionDataOption) : CMem Unit :=
  if o.type = COMMAND_OPTION_STRING then do
    let s ← o.value.read_string
    free_string s
  else
    pure ()

/-- `discord_destroy_interaction_data_option`. -/
def discord_destroy_interaction_data_option (o : InteractionDataOption) : CMem Unit :=
  Mem.destroying .interaction_data_option o.address do
    free_string o.name
    free_option_value o
    destroy_array o.options fun c h =>
      have : sizeOf c < sizeOf o := InteractionDataOption.sizeOf_item h
      discord_destroy_interaction_data_option c
termination_by o

/-- `_d_json_to_interaction_data`. -/
def _d_json_to_interaction_data (data : CJson) : CMem InteractionData := do
  let address ← Mem.alloc .interaction_data
  let name ← _d_get_string_from_json data "name"
  let options ← _d_get_array_from_json data "options" fun cur _ =>
    _d_json_to_interaction_data_option cur
  let custom_id ← _d_get_string_from_json data "custom_id"
  let values ← _d_get_array_from_json data "values" fun cur _ => do
    -- The values are decoded by the routine for select options.
    let option ← _d_json_to_select_option cur
    pure (.inr option)
  let components ← _d_get_array_from_json data "components" fun cur _ =>
    _d_json_to_component cur
  pure {
    address, name, options, custom_id, values, components
    id := _d_get_long_from_string_json data "id" 0
    type := _d_get_int_from_json data "type" 1
    guild_id := _d_get_long_from_string_json data "guild_id" 0
    target_id := _d_get_long_from_string_json data "target_id" 0
    component_type := 0 }

/-- `_d_copy_interaction_data`, of data that is not null. -/
def _d_copy_interaction_data (src : InteractionData) : CMem InteractionData := do
  Mem.visit .interaction_data ⟨.interaction_data, src.address⟩
  let address ← Mem.alloc .interaction_data
  let name ← copy_string src.name 100
  let options ← copy_array src.options fun o _ => _d_copy_interaction_data_option o
  let custom_id ← copy_string src.custom_id 50
  let values ← copy_array src.values fun value _ => do
    let copy ← Mem.declared _d_copy_interaction_data_option value
    pure (.inl copy)
  let components ← copy_array src.components fun c _ => _d_copy_component c
  pure { src with address, name, options, custom_id, values, components }

/-- `discord_destroy_interaction_data`. -/
def discord_destroy_interaction_data (interaction : InteractionData) : CMem Unit :=
  Mem.destroying .interaction_data interaction.address do
    free_string interaction.name
    destroy_array interaction.options fun o _ => discord_destroy_interaction_data_option o
    free_string interaction.custom_id
    destroy_array interaction.values fun value _ =>
      Mem.declared discord_destroy_interaction_data_option value
    destroy_array interaction.components fun c _ => discord_destroy_component c

/-! ### Messages and interactions -/

/-- A field that is only read if the message is not that of a webhook. -/
def author_item (data : CJson) (name : String) : Option CJson :=
  if _d_get_long_from_string_json data "webhook_id" 0 = 0 then
    cJSON_GetObjectItem data name
  else
    none

/-- `tmp_json && !cJSON_IsNull(tmp_json)` for the referenced message. -/
def referenced_item (data : CJson) : Option CJson :=
  (cJSON_GetObjectItem data "referenced_message").filter fun tmp_json =>
    !cJSON_IsNull tmp_json

theorem sizeOf_referenced_item {data c : CJson} (h : referenced_item data = some c) :
    sizeOf c < sizeOf data :=
  sizeOf_item (Option.filter_eq_some_iff.mp h).1

/-- A message with empty content has no content. -/
def non_empty (content : Option CStr) : CMem (Option CStr) :=
  match content with
  | some s =>
    if s.bytes.isEmpty then do
      Mem.free ⟨.chars, s.address⟩
      pure none
    else
      pure content
  | none => pure none

mutual

/-- `_d_json_to_message`. -/
def _d_json_to_message (data : CJson) : CMem Message := do
  let address ← Mem.alloc .message
  -- The member shares the structure of the user.
  let user ← Mem.unless_null (author_item data "author") fun user _ => _d_json_to_user user
  let member ← Mem.unless_null (author_item data "member") fun member _ =>
    _d_json_to_member member user
  let content ← _d_get_string_from_json data "content"
  let content ← non_empty content
  let timestamp ← _d_get_string_from_json data "timestamp"
  let mentions ← _d_get_array_from_json data "mentions" fun cur _ => _d_json_to_member cur none
  let mention_roles ← _d_get_array_from_json data "mention_roles" fun cur _ => read_id cur
  let mention_channels ← _d_get_array_from_json data "mention_channels" fun cur _ => do
    -- The channels are decoded by the routine for channel mentions.
    let mention ← _d_json_to_channel_mention cur
    pure (.inr mention)
  let attachments ← _d_get_array_from_json data "attachments" fun cur _ =>
    _d_json_to_attachment cur
  let reactions ← _d_get_array_from_json data "reactions" fun cur _ => _d_json_to_reaction cur
  let nonce ← _d_get_string_from_json data "nonce"
  let activity ← unimplemented_field (cJSON_GetObjectItem data "activity")
    _d_json_to_message_activity
  let application ← Mem.unless_null (cJSON_GetObjectItem data "application") fun tmp _ =>
    _d_json_to_application tmp
  let message_reference ← Mem.unless_null (cJSON_GetObjectItem data "message_reference")
    fun tmp _ => _d_json_to_message_reference tmp
  let referenced_message ← Mem.unless_null (referenced_item data) fun tmp h =>
    have : sizeOf tmp < sizeOf data := sizeOf_referenced_item h
    _d_json_to_message tmp
  let interaction ← Mem.unless_null (cJSON_GetObjectItem data "interaction") fun tmp h =>
    have : sizeOf tmp < sizeOf data := sizeOf_item h
    _d_json_to_interaction tmp
  let components ← _d_get_array_from_json data "components" fun cur _ =>
    _d_json_to_component cur
  let sticker_items ← _d_get_array_from_json data "sticker_items" fun cur _ =>
    _d_json_to_sticker_item cur
  let stickers ← _d_get_array_from_json data "stickers" fun cur _ => _d_json_to_sticker cur
  pure {
    address, user, member, content, timestamp, mentions, mention_roles, mention_channels
    attachments, reactions, nonce, activity, application, message_reference
    referenced_message, interaction, components, sticker_items, stickers
    id := _d_get_long_from_string_json data "id" 0
    channel_id := _d_get_long_from_string_json data "channel_id" 0
    guild_id := _d_get_long_from_string_json data "guild_id" 0
    webhook_id := _d_get_long_from_string_json data "webhook_id" 0
    tts := _d_get_bool_from_json data "tts" false
    mention_everyone := _d_get_bool_from_json data "mention_everyone" false
    pinned := _d_get_bool_from_json data "pinned" false
    type := _d_get_int_from_json data "type" 0
    application_id := _d_get_long_from_string_json data "application_id" 0
    flags := _d_get_int_from_json data "flags" 0
    edited_timestamp := none
    embeds := .null
    thread := none }
termination_by data

/-- `_d_json_to_interaction`. -/
def _d_json_to_interaction (data : CJson) : CMem Interaction := do
  let address ← Mem.alloc .interaction
  let idata ← Mem.unless_null (cJSON_GetObjectItem data "data") fun tmp _ =>
    _d_json_to_interaction_data tmp
  let user ← Mem.unless_null (cJSON_GetObjectItem data "user") fun tmp _ => _d_json_to_user tmp
  let member ← Mem.unless_null (cJSON_GetObjectItem data "member") fun tmp _ =>
    _d_json_to_member tmp user
  let token ← _d_get_string_from_json data "token"
  let message ← Mem.unless_null (cJSON_GetObjectItem data "message") fun tmp h =>
    have : sizeOf tmp < sizeOf data := sizeOf_item h
    _d_json_to_message tmp
  let app_permissions ← _d_get_string_from_json data "app_permissions"
  let locale ← _d_get_string_from_json data "locale"
  let guild_locale ← _d_get_string_from_json data "guild_locale"
  pure {
    address, user, member, token, message, app_permissions, locale, guild_locale
    data := idata
    id := _d_get_long_from_string_json data "id" 0
    application_id := _d_get_long_from_string_json data "application_id" 0
    type := _d_get_int_from_json data "type" 1
    guild_id := _d_get_long_from_string_json data "guild_id" 0
    channel_id := _d_get_long_from_string_json data "channel_id" 0
    version := _d_get_int_from_json data "version" 0 }
termination_by data

end

theorem Message.sizeOf_referenced {m r : Message} (h : m.referenced_message = some r) :
    sizeOf r < sizeOf m := by
  cases m with
  | mk fields referenced_message interaction =>
    cases h
    rw [Message.mk.sizeOf_spec, Option.some.sizeOf_spec]
    omega

theorem Message.sizeOf_interaction {m : Message} {i : Interaction}
    (h : m.interaction = some i) : sizeOf i < sizeOf m := by
  cases m with
  | mk fields referenced_message interaction =>
    cases h
    rw [Message.mk.sizeOf_spec, Option.some.sizeOf_spec]
    omega

theorem Interaction.sizeOf_message {i : Interaction} {m : Message} (h : i.message = some m) :
    sizeOf m < sizeOf i := by
  cases i with
  | mk fields message =>
    cases h
    rw [Interaction.mk.sizeOf_spec, Option.some.sizeOf_spec]
    omega

mutual

/-- `_d_copy_message`, of a message that is not null. -/
def _d_copy_message (msg : Message) : CMem Message := do
  Mem.visit .message ⟨.message, msg.address⟩
  let address ← Mem.alloc .message
  let user ← Mem.unless_null msg.user fun user _ => _d_copy_user user
  let member ← Mem.unless_null msg.member fun member _ => _d_copy_member member user
  let content ← copy_string msg.content 4096
  let timestamp ← copy_string msg.timestamp 50
  let edited_timestamp ← copy_string msg.edited_timestamp 50
  let mentions ← copy_array msg.mentions fun mention _ => _d_copy_member mention none
  let mention_roles ← copy_array msg.mention_roles fun role _ => pure role
  let mention_channels ← copy_array msg.mention_channels fun channel _ => do
    let copy ← Mem.declared _d_copy_channel channel
    pure (.inl copy)
  let attachments ← copy_array msg.attachments fun a _ => _d_copy_attachment a
  let embeds ← copy_array msg.embeds fun e _ => _d_copy_embed e
  let reactions ← copy_array msg.reactions fun r _ => _d_copy_reaction r
  let nonce ← copy_string msg.nonce 200
  let activity ← _d_copy_message_activity msg.activity
  let application ← Mem.unless_null msg.application fun a _ => _d_copy_application a
  let message_reference ← Mem.unless_null msg.message_reference fun r _ =>
    _d_copy_message_reference r
  let referenced_message ← Mem.unless_null msg.referenced_message fun r h =>
    have : sizeOf r < sizeOf msg := Message.sizeOf_referenced h
    _d_copy_message r
  let interaction ← Mem.unless_null msg.interaction fun i h =>
    have : sizeOf i < sizeOf msg := Message.sizeOf_interaction h
    _d_copy_interaction i
  let thread ← Mem.unless_null msg.thread fun ch _ => _d_copy_channel ch
  let components ← copy_array msg.components fun c _ => _d_copy_component c
  let sticker_items ← copy_array msg.sticker_items fun s _ => _d_copy_sticker_item s
  let stickers ← copy_array msg.stickers fun s _ => _d_copy_sticker s
  pure { msg with
    address, user, member, content, timestamp, edited_timestamp, mentions, mention_roles
    mention_channels, attachments, embeds, reactions, nonce, activity, message_reference
    referenced_message, interaction, thread, components, sticker_items, stickers
    application := application.join }
termination_by sizeOf msg

/-- `_d_copy_interaction`, of an interaction that is not null. -/
def _d_copy_interaction (src : Interaction) : CMem Interaction := do
  Mem.visit .interaction ⟨.interaction, src.address⟩
  let address ← Mem.alloc .interaction
  let data ← Mem.unless_null src.data fun d _ => _d_copy_interaction_data d
  let user ← Mem.unless_null src.user fun user _ => _d_copy_user user
  let member ← Mem.unless_null src.member fun member _ => _d_copy_member member user
  let token ← copy_string src.token 100
  let message ← Mem.unless_null src.message fun m h =>
    have : sizeOf m < sizeOf src := Interaction.sizeOf_message h
    _d_copy_message m
  let app_permissions ← copy_string src.app_permissions 50
  let locale ← copy_string src.locale 10
  let guild_locale ← copy_string src.guild_locale 10
  pure { src with
    address, data, user, member, token, message, app_permissions, locale, guild_locale }
termination_by sizeOf src

end

mutual

/-- `discord_destroy_message`. The referenced message is left alone. -/
def discord_destroy_message (message : Message) : CMem Unit :=
  Mem.destroying .message message.address do
    destroy_author message.member message.user
    free_string message.content
    free_string message.timestamp
    free_string message.edited_timestamp
    destroy_array message.mentions fun mention _ => discord_destroy_member mention
    free_array message.mention_roles
    destroy_array message.mention_channels fun channel _ =>
      Mem.declared discord_destroy_channel channel
    destroy_array message.attachments fun a _ => discord_destroy_attachment a
    destroy_array message.embeds fun e _ => discord_destroy_embed e
    destroy_array message.reactions fun r _ => discord_destroy_reaction r
    free_string message.nonce
    discord_destroy_message_activity message.activity
    destroy_pointer message.application fun a _ => discord_destroy_application a
    destroy_pointer message.message_reference fun r _ => discord_destroy_message_reference r
    destroy_pointer message.interaction fun i h =>
      have : sizeOf i < sizeOf message := Message.sizeOf_interaction h
      discord_destroy_interaction i
    destroy_pointer message.thread fun ch _ => discord_destroy_channel ch
    destroy_array message.components fun c _ => discord_destroy_component c
    destroy_array message.sticker_items fun s _ => discord_destroy_message_sticker_item s
    destroy_array message.stickers fun s _ => discord_destroy_sticker s
termination_by sizeOf message

/-- `discord_destroy_interaction`. -/
def discord_destroy_interaction (interaction : Interaction) : CMem Unit :=
  Mem.destroying .interaction interaction.address do
    destroy_pointer interaction.data fun d _ => discord_destroy_interaction_data d
    destroy_author interaction.member interaction.user
    free_string interaction.token
    destroy_pointer interaction.message fun m h =>
      have : sizeOf m < sizeOf interaction := Interaction.sizeOf_message h
      discord_destroy_message m
    free_string interaction.app_permissions
    free_string interaction.locale
    free_string interaction.guild_locale
termination_by sizeOf interaction

end

end DiscoC
