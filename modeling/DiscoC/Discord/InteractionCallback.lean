import DiscoC.Discord.Command

/-! # Replies to interactions

  Model of `discord_send_interaction` of `discord/interaction.c`. The union
  `data` of a reply and the `type` that says how to read it are one inductive
  type, so that it is always read as it was written. Components are not
  written (`_d_component_to_json` does nothing).
-/

namespace DiscoC

/-! ### Data -/

/-- The types of `enum Discord_Interaction_Callback_Type` whose data is a
    message. -/
inductive MessageCallbackType where
  | CHANNEL_MESSAGE_WITH_SOURCE
  | DEFERRED_CHANNEL_MESSAGE_WITH_SOURCE
  | DEFERRED_UPDATE_MESSAGE
  | UPDATE_MESSAGE
  deriving DecidableEq, Repr

/-- The data of a reply that is a message. -/
structure CallbackMessage where
  tts : Bool
  content : Option String
  embeds : List Embed
  allowed_mentions : Option AllowedMentions
  flags : Int
  attachments : List Attachment

/-- `struct discord_interaction_callback` -/
inductive InteractionCallback where
  | message (type : MessageCallbackType) (data : CallbackMessage)
  | autocomplete (choices : List CommandOptionChoice)
  | modal (custom_id title : Option CStr) (components : List Component)
  /-- `PONG`, or a type without data -/
  | other (type : Int)

def MessageCallbackType.value : MessageCallbackType → Int
  | .CHANNEL_MESSAGE_WITH_SOURCE => 4
  | .DEFERRED_CHANNEL_MESSAGE_WITH_SOURCE => 5
  | .DEFERRED_UPDATE_MESSAGE => 6
  | .UPDATE_MESSAGE => 7

/-- `cb->type`. -/
def InteractionCallback.type : InteractionCallback → Int
  | .message type _ => type.value
  | .autocomplete _ => 8
  | .modal .. => 9
  | .other type => type

/-! ### Writing -/

/-- The message that stands for the data of a reply. -/
def CallbackMessage.to_message (data : CallbackMessage) : CreateMessage where
  tts := data.tts
  embed := none
  embeds := data.embeds
  allowed_mentions := data.allowed_mentions
  message_reference := none
  sticker_ids := []
  attachments := data.attachments
  flags := data.flags

/-- `recv->data->options[i]->type`. -/
def received_option_type (recv : Interaction) (i : Nat) : Option Int := do
  let data ← recv.data
  let option ← data.options.items[i]?
  some option.type

/-- The value of a choice, read as the type of an option says. -/
def autocomplete_value (value : ChoiceValue) (type : Int) : Option (Option CJson) :=
  if type = COMMAND_OPTION_INTEGER ∨ type = COMMAND_OPTION_NUMBER then
    some (some (.number value.read_number))
  else if type = COMMAND_OPTION_STRING then value.read_str.map cJSON_CreateString
  else some none

/-- The `i`-th choice. -/
def autocomplete_choice (recv : Interaction) (choice : CommandOptionChoice) (i : Nat) :
    Option CJson := do
  let type ← received_option_type recv i
  let value ← autocomplete_value choice.value type
  some (cJSON_object
    [("name", cJSON_CreateString choice.name),
      ("name_localizations", choice.name_localizations.map discord_fill_json_with_locales),
      ("value", value)])

/-- What is added to `data`. -/
def callback_data (cb : InteractionCallback) (recv : Interaction) :
    Option (List (String × Option CJson)) :=
  match cb with
  | .message _ data => _d_create_message_to_json [] data.content (some data.to_message)
  | .autocomplete choices => do
    let array ← choices.zipIdx.mapM fun (choice, i) => autocomplete_choice recv choice i
    some [("choices", array_item array)]
  | .modal custom_id title components =>
    some
      [("custom_id", cJSON_CreateString custom_id),
        ("title", cJSON_CreateString title),
        ("components", array_item (components.map fun _ => cJSON_object []))]
  | .other _ => some []

/-- The object that `discord_send_interaction` fills. -/
def interaction_callback_json (cb : InteractionCallback) (recv : Interaction) : Option CJson := do
  let data ← callback_data cb recv
  some (cJSON_object [("type", cJSON_CreateNumber cb.type), ("data", cJSON_object data)])

/-- The address of the reply to an interaction. -/
def interaction_url (id : UInt64) (token : String) : String :=
  "https://discord.com/api/v10/interactions/" ++ format_ju id ++ "/" ++ token ++ "/callback"

/-- `discord_send_interaction`, which passes no bot to `request`, and no
    attachments. The address is written into `80 + strnlen(recv->token, 500)`
    bytes. -/
def discord_send_interaction (cJSON_Print : CJson → String) (bot : BotClient)
    (cb : InteractionCallback) (recv : Interaction) : Option (List RequestNode) := do
  let json ← interaction_callback_json cb recv
  let token ← recv.token
  let uri ← sprintf (80 + min token.bytes.toList.length 500) (interaction_url recv.id token.bytes)
  request_queued cJSON_Print uri (some json) .REQUEST_POST bot.token none none []

end DiscoC
