import DiscoC.Discord.EmbedJson
import DiscoC.Discord.Message

/-! # Messages to be sent

  Model of `_d_create_message_to_json` of `discord/message.c`, with the parts
  it writes, and what its JSON says about the message.

  An object that is being filled is the list of what has been added to it.
  Identifiers are written into arrays of 20 bytes; one that does not fit
  makes the whole undefined (`none`).
-/

namespace DiscoC

/-! ### Data -/

/-- `struct discord_allowed_mentions`. The first three are used as flags. -/
structure AllowedMentions where
  parse_role_mentions : Int
  parse_user_mentions : Int
  parse_everyone_mentions : Int
  roles : List UInt64
  users : List UInt64
  replied_user : Bool

/-- `struct discord_create_message`, without the components, which are not
    written. -/
structure CreateMessage where
  tts : Bool
  embed : Option Embed
  embeds : List Embed
  allowed_mentions : Option AllowedMentions
  message_reference : Option MessageReference
  sticker_ids : List UInt64
  attachments : List Attachment
  flags : Int

/-- The embeds of a message: the single one, then those of the array. -/
def CreateMessage.all_embeds (m : CreateMessage) : List Embed := m.embed.toList ++ m.embeds

/-! ### Writing -/

/-- An identifier, written into `char tmp[20]`. -/
def id_json (id : UInt64) : Option CJson := (sprintf 20 (format_ju id)).map .string

/-- An array that is written only if it has items. -/
def array_item (items : List CJson) : Option CJson :=
  if items.isEmpty then none else some (.array items)

/-- `create_allowed_mentions`. -/
def create_allowed_mentions (m : AllowedMentions) : Option CJson := do
  let roles ← m.roles.mapM id_json
  let users ← m.users.mapM id_json
  let parse :=
    (if m.parse_role_mentions ≠ 0 then ["roles"] else []) ++
      (if m.parse_user_mentions ≠ 0 then ["users"] else []) ++
        if m.parse_everyone_mentions ≠ 0 then ["everyone"] else []
  some (cJSON_object
    [("parse", some (.array (parse.map .string))),
      ("roles", array_item roles),
      ("users", array_item users),
      ("replied_user", cJSON_CreateBool m.replied_user)])

/-- An identifier of a reference, which is written if it is not 0. -/
def reference_item (id : UInt64) : Option (Option CJson) :=
  if id ≠ 0 then (id_json id).map some else some none

/-- `create_message_reference`. -/
def create_message_reference (ref : MessageReference) : Option CJson := do
  let message_id ← reference_item ref.message_id
  let channel_id ← reference_item ref.channel_id
  let guild_id ← reference_item ref.guild_id
  some (cJSON_object
    [("message_id", message_id),
      ("channel_id", channel_id),
      ("guild_id", guild_id),
      ("fail_if_not_exists", cJSON_CreateBool ref.fail_if_not_exists)])

/-- An entry of `attachments`. -/
def attachment_json (attachment : Attachment) (i : Nat) : CJson :=
  cJSON_object
    [("id", some (cJSON_CreateNumber i)),
      ("description", cJSON_CreateString attachment.description),
      ("filename", cJSON_CreateString attachment.filename)]

/-- The content, unless it is null or empty. -/
def content_item (content : Option String) : Option CJson :=
  (content.filter fun s => s ≠ "").map .string

/-- The flags, unless they are 0. -/
def flags_item (flags : Int) : Option CJson :=
  if flags ≠ 0 then some (cJSON_CreateNumber flags) else none

/-- `_d_create_message_to_json`, which adds to `json`. -/
def _d_create_message_to_json (json : List (String × Option CJson)) (content : Option String)
    (message : Option CreateMessage) : Option (List (String × Option CJson)) :=
  let json := json ++ [("content", content_item content)]
  match message with
  | none => some json
  | some m => do
    let allowed_mentions ← m.allowed_mentions.mapM create_allowed_mentions
    let message_reference ← m.message_reference.mapM create_message_reference
    let sticker_ids ← m.sticker_ids.mapM id_json
    some (json ++
      [("embeds", array_item (m.all_embeds.map create_embed_json)),
        ("allowed_mentions", allowed_mentions),
        ("message_reference", message_reference),
        ("sticker_ids", array_item sticker_ids),
        ("attachments", array_item (m.attachments.zipIdx.map fun (a, i) => attachment_json a i)),
        ("flags", flags_item m.flags)])

/-! ### What a message says -/

/-- What a message says, without addresses. -/
structure MessageMeaning where
  tts : Bool
  /-- absent when empty -/
  content : Option String
  embeds : List Embed
  /-- roles, users and everyone to be parsed; the roles and users listed;
      the replied user -/
  allowed_mentions : Option ((Bool × Bool × Bool) × List UInt64 × List UInt64 × Bool)
  message_reference : Option MessageReference
  sticker_ids : List UInt64
  /-- id, description and filename -/
  attachments : List (Int × Option CStr × Option CStr)
  /-- absent when 0 -/
  flags : Option Int

def AllowedMentions.meaning (m : AllowedMentions) :
    (Bool × Bool × Bool) × List UInt64 × List UInt64 × Bool :=
  ((m.parse_role_mentions ≠ 0, m.parse_user_mentions ≠ 0, m.parse_everyone_mentions ≠ 0),
    m.roles, m.users, m.replied_user)

def MessageReference.plain (ref : MessageReference) : MessageReference := { ref with address := 0 }

/-- What `message` with the text `content` says. -/
def message_meaning (content : Option String) (message : CreateMessage) : MessageMeaning where
  tts := message.tts
  content := content.filter fun s => s ≠ ""
  embeds := message.all_embeds.map Embed.plain
  allowed_mentions := message.allowed_mentions.map AllowedMentions.meaning
  message_reference := message.message_reference.map MessageReference.plain
  sticker_ids := message.sticker_ids
  attachments := message.attachments.zipIdx.map fun (a, i) =>
    ((i : Int), a.description.map CStr.plain, a.filename.map CStr.plain)
  flags := if message.flags ≠ 0 then some message.flags else none

/-! ### What its JSON says -/

/-- The text under a key. -/
def read_text (data : CJson) (name : String) : Option CStr :=
  (cJSON_IsString (cJSON_GetObjectItem data name)).map fun s => ⟨0, s⟩

/-- The whole number under a key. -/
def read_int (data : CJson) (name : String) : Option Int :=
  (cJSON_IsNumber (cJSON_GetObjectItem data name)).map fun d => d.num

/-- The identifier that a text writes. -/
def read_ju (item : CJson) : UInt64 := ((cJSON_IsString item).map strtoull).getD 0

/-- The identifiers of an array. -/
def read_ids (data : CJson) (name : String) : List UInt64 :=
  (cJSON_ArrayItems (cJSON_GetObjectItem data name)).map read_ju

def read_embed_footer (data : CJson) : EmbedFooter ⊕ Embed := .inl
  { address := 0
    text := read_text data "text"
    icon_url := read_text data "icon_url"
    proxy_icon_url := read_text data "proxy_icon_url" }

def read_embed_media (data : CJson) : EmbedMedia where
  address := 0
  url := read_text data "url"
  proxy_url := read_text data "proxy_url"
  height := (read_int data "height").getD 0
  width := (read_int data "width").getD 0

def read_embed_provider (data : CJson) : EmbedProvider where
  address := 0
  name := read_text data "name"
  url := read_text data "url"

def read_embed_author (data : CJson) : EmbedAuthor where
  address := 0
  name := read_text data "name"
  url := read_text data "url"
  icon_url := read_text data "icon_url"
  proxy_icon_url := read_text data "proxy_icon_url"

def read_embed_field (data : CJson) : EmbedField where
  address := 0
  name := read_text data "name"
  value := read_text data "value"
  _inline := _d_get_bool_from_json data "inline" false

/-- What the JSON of an embed says, each field under its name. -/
def read_embed (data : CJson) : Embed where
  address := 0
  title := read_text data "title"
  type := read_text data "type"
  description := read_text data "description"
  url := read_text data "url"
  timestamp := read_text data "timestamp"
  color := (read_int data "color").getD 0
  footer := (cJSON_GetObjectItem data "footer").map read_embed_footer
  image := (cJSON_GetObjectItem data "image").map read_embed_media
  thumbnail := (cJSON_GetObjectItem data "thumbnail").map read_embed_media
  video := (cJSON_GetObjectItem data "video").map read_embed_media
  provider := (cJSON_GetObjectItem data "provider").map read_embed_provider
  author := (cJSON_GetObjectItem data "author").map read_embed_author
  fields := .block 0 ((cJSON_ArrayItems (cJSON_GetObjectItem data "fields")).map read_embed_field)

def read_allowed_mentions (data : CJson) :
    (Bool × Bool × Bool) × List UInt64 × List UInt64 × Bool :=
  let parse := (cJSON_ArrayItems (cJSON_GetObjectItem data "parse")).map CJson.valuestring
  ((some "roles" ∈ parse, some "users" ∈ parse, some "everyone" ∈ parse),
    read_ids data "roles", read_ids data "users", _d_get_bool_from_json data "replied_user" false)

def read_message_reference (data : CJson) : MessageReference where
  address := 0
  message_id := ((cJSON_GetObjectItem data "message_id").map read_ju).getD 0
  channel_id := ((cJSON_GetObjectItem data "channel_id").map read_ju).getD 0
  guild_id := ((cJSON_GetObjectItem data "guild_id").map read_ju).getD 0
  fail_if_not_exists := _d_get_bool_from_json data "fail_if_not_exists" false

def read_attachment (data : CJson) : Int × Option CStr × Option CStr :=
  ((read_int data "id").getD (-1), read_text data "description", read_text data "filename")

/-- What the JSON of a message says. -/
def read_message (json : CJson) : MessageMeaning where
  tts := _d_get_bool_from_json json "tts" false
  content := cJSON_IsString (cJSON_GetObjectItem json "content")
  embeds := (cJSON_ArrayItems (cJSON_GetObjectItem json "embeds")).map read_embed
  allowed_mentions := (cJSON_GetObjectItem json "allowed_mentions").map read_allowed_mentions
  message_reference := (cJSON_GetObjectItem json "message_reference").map read_message_reference
  sticker_ids := read_ids json "sticker_ids"
  attachments := (cJSON_ArrayItems (cJSON_GetObjectItem json "attachments")).map read_attachment
  flags := read_int json "flags"

/-- The JSON says what the message says. -/
def Faithful (content : Option String) (message : CreateMessage) : Prop :=
  (_d_create_message_to_json [] content (some message)).map
    (fun json => read_message (cJSON_object json)) = some (message_meaning content message)

end DiscoC
