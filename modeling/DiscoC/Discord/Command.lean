import DiscoC.Discord.CreateMessage
import DiscoC.Web.Request

/-! # Application commands

  Model of `discord/command.c`: the JSON of a command with its tree of
  options, and the functions that register, update and delete commands. Each
  of these returns what it puts on the pool; `none` stands for an access
  through the null pointer and for a text that does not fit into its array.
-/

namespace DiscoC

/-! ### Data -/

/-- `struct discord_language_locales`: the text under each name. -/
abbrev LanguageLocales := String → Option CStr

/-- The names of the locales, in the order in which they are written. -/
def locale_names : List String :=
  ["da", "de", "en_GB", "en_US", "es_ES", "fr", "hr", "it", "lt", "hu", "nl", "no", "pl", "pt_BR",
    "ro", "fi", "sv_SE", "vi", "tr", "cs", "el", "bg", "ru", "uk", "hi", "th", "zh_CN", "ja",
    "zh_TW", "ko"]

/-- The union `value` of a choice, as it was written. A text comes with the
    number that the bits of its address are. -/
inductive ChoiceValue where
  | str (s : Option CStr) (bits : Double)
  | number (d : Double)

/-- The value read through `number`. -/
def ChoiceValue.read_number : ChoiceValue → Double
  | .number d => d
  | .str none _ => 0
  | .str (some _) bits => bits

/-- The value read through `str`. A number is no pointer if one of its bits is
    set. -/
def ChoiceValue.read_str : ChoiceValue → Option (Option CStr)
  | .str s _ => some s
  | .number d => if d.is_null then some none else none

/-- `struct discord_application_command_option_choice` -/
structure CommandOptionChoice where
  name : Option CStr
  name_localizations : Option LanguageLocales
  value : ChoiceValue

/-- `struct discord_application_command_option` -/
structure CommandOption where
  type : Int
  name : Option CStr
  name_localizations : Option LanguageLocales
  description : Option CStr
  description_localizations : Option LanguageLocales
  required : Bool
  choices : List CommandOptionChoice
  options : List CommandOption
  channel_types : List Int
  min_value : Double
  max_value : Double
  min_length : Int
  max_length : Int
  autocomplete : Bool

/-- `struct discord_application_command`, without the fields that are not
    written. -/
structure ApplicationCommand where
  type : Int
  guild_id : UInt64
  name : Option CStr
  name_localizations : Option LanguageLocales
  description : Option CStr
  description_localizations : Option LanguageLocales
  options : List CommandOption
  default_member_permissions : Option CStr
  dm_permission : Bool
  version : UInt64

theorem CommandOption.sizeOf_option {o c : CommandOption} (h : c ∈ o.options) :
    sizeOf c < sizeOf o := by
  have hsize := List.sizeOf_lt_of_mem h
  cases o
  rw [CommandOption.mk.sizeOf_spec]
  simp only at hsize
  omega

/-! ### Writing -/

/-- `discord_fill_json_with_locales`, of a new object. -/
def discord_fill_json_with_locales (locales : LanguageLocales) : CJson :=
  cJSON_object (locale_names.map fun name => (name, cJSON_CreateString (locales name)))

/-- The value of a choice, which is written for numbers only. -/
def choice_value (choice : CommandOptionChoice) (type : Int) : Option CJson :=
  if type = COMMAND_OPTION_INTEGER ∨ type = COMMAND_OPTION_NUMBER then
    some (.number choice.value.read_number)
  else none

/-- `add_choice`. -/
def add_choice (choice : CommandOptionChoice) (type : Int) : CJson :=
  cJSON_object
    [("name", cJSON_CreateString choice.name),
      ("name_localizations", choice.name_localizations.map discord_fill_json_with_locales),
      ("value", choice_value choice type)]

/-- `ordered_options`: the required options first. -/
def ordered_options (options : List CommandOption) : List CommandOption :=
  options.filter (fun o => o.required) ++ options.filter fun o => !o.required

theorem mem_of_mem_ordered_options {options : List CommandOption} {o : CommandOption}
    (h : o ∈ ordered_options options) : o ∈ options := by
  rcases List.mem_append.mp h with h | h
  · exact List.mem_of_mem_filter h
  · exact List.mem_of_mem_filter h

/-- A number that is written for some types only. -/
def number_if (b : Prop) [Decidable b] (d : Double) : Option CJson :=
  if b then some (.number d) else none

/-- What `add_option` adds to the object of an option, with the items for the
    options below it. -/
def option_members (option : CommandOption) (options : List CJson) :
    List (String × Option CJson) :=
  let is_number := option.type = COMMAND_OPTION_INTEGER ∨ option.type = COMMAND_OPTION_NUMBER
  let is_string := option.type = COMMAND_OPTION_STRING
  [("name", cJSON_CreateString option.name),
    ("description", cJSON_CreateString option.description),
    ("name_localizations", option.name_localizations.map discord_fill_json_with_locales),
    ("description_localizations",
      option.description_localizations.map discord_fill_json_with_locales),
    ("required", cJSON_CreateBool option.required),
    ("choices", array_item (option.choices.map fun choice => add_choice choice option.type)),
    ("options", array_item options),
    ("channel_types", array_item (option.channel_types.map cJSON_CreateNumber)),
    ("min_value", number_if is_number option.min_value),
    ("max_value", number_if is_number option.max_value),
    ("min_length", number_if is_string (.of option.min_length)),
    ("max_length", number_if is_string (.of option.max_length)),
    ("autocomplete", cJSON_CreateBool option.autocomplete)]

/-- `add_option`. -/
def add_option (option : CommandOption) : CJson :=
  cJSON_object (option_members option ((ordered_options option.options).pmap (fun o h =>
    have : sizeOf o < sizeOf option :=
      CommandOption.sizeOf_option (mem_of_mem_ordered_options h)
    add_option o) fun _ h => h))
termination_by option

theorem add_option_eq (o : CommandOption) :
    add_option o =
      cJSON_object (option_members o ((ordered_options o.options).map add_option)) := by
  rw [add_option, List.pmap_eq_map]

/-- The version, written into `char version[20]` if it is not 0. -/
def version_item (version : UInt64) : Option (Option CJson) :=
  if version ≠ 0 then (sprintf 20 (format_ju version)).map fun s => some (.string s) else some none

/-- What `format_json` adds to the object of a command with a name before it
    writes the version. -/
def command_members (command : ApplicationCommand) : List (String × Option CJson) :=
  [("name", cJSON_CreateString command.name),
    ("type", number_if (command.type ≠ 0) (.of command.type)),
    ("description", cJSON_CreateString command.description),
    ("name_localizations", command.name_localizations.map discord_fill_json_with_locales),
    ("description_localizations",
      command.description_localizations.map discord_fill_json_with_locales),
    ("options", array_item ((ordered_options command.options).map add_option)),
    ("default_member_permissions", cJSON_CreateString command.default_member_permissions),
    ("dm_permission", cJSON_CreateBool command.dm_permission)]

/-- `format_json`: what it returns and what it adds to an empty object. -/
def format_json (command : ApplicationCommand) : Option (Int × List (String × Option CJson)) :=
  -- makes sure the name value is present
  if command.name.isNone then some (1, [])
  else do
    let version ← version_item command.version
    some (0, command_members command ++ [("version", version)])

/-! ### Requests -/

/-- The address of the commands of an application, or of those of a guild. -/
def commands_url (application_id : String) (guild_id : UInt64) : String :=
  if guild_id ≠ 0 then
    "https://discord.com/api/v10/applications/" ++ application_id ++ "/guilds/" ++
      format_ju guild_id ++ "/commands"
  else "https://discord.com/api/v10/applications/" ++ application_id ++ "/commands"

section requests

variable (cJSON_Print : CJson → String)

/-- `discord_command_register`. What `format_json` returns is ignored, and
    there is no bot. -/
def discord_command_register (command : ApplicationCommand) (token application_id : String) :
    Option (List RequestNode) := do
  let (_, json) ← format_json command
  let url ← sprintf 120 (commands_url application_id command.guild_id)
  request_queued cJSON_Print url (some (cJSON_object json)) .REQUEST_POST token none none []

/-- `discord_command_update`. -/
def discord_command_update (command : ApplicationCommand) (command_id : UInt64)
    (token application_id : String) : Option (List RequestNode) := do
  let (_, json) ← format_json command
  let url ← sprintf 120
    (commands_url application_id command.guild_id ++ "/" ++ format_ju command_id)
  request_queued cJSON_Print url (some (cJSON_object json)) .REQUEST_PATCH token none none []

/-- `discord_command_delete_global`. -/
def discord_command_delete_global (command_id : UInt64) (token application_id : String) :
    Option (List RequestNode) := do
  let url ← sprintf 120
    ("https://discord.com/api/v10/applications/" ++ application_id ++ "/commands/" ++
      format_ju command_id)
  request_queued cJSON_Print url none .REQUEST_DELETE token none none []

/-- `discord_command_delete_guild`. -/
def discord_command_delete_guild (guild_id command_id : UInt64) (token application_id : String) :
    Option (List RequestNode) := do
  let url ← sprintf 120
    ("https://discord.com/api/v10/applications/" ++ application_id ++ "/guilds/" ++
      format_ju guild_id ++ "/commands/" ++ format_ju command_id)
  request_queued cJSON_Print url none .REQUEST_DELETE token none none []

end requests

end DiscoC
