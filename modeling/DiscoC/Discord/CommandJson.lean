import DiscoC.Discord.Command
import DiscoC.Discord.CreateMessageJson

/-! # What the JSON of a command determines

  The JSON of an option says what the option says, at every depth, except for
  its type, which is never written, and the texts of its choices
  (`read_option_add`). So a command is determined by its JSON exactly when it
  has no options; its version has to fit into the array it is written to
  (`command_faithful_iff`).
-/

namespace DiscoC

/-! ### What a command says -/

/-- The texts of the locales, without addresses. -/
abbrev LocalesMeaning := List (Option CStr)

/-- What a choice says: its value is a text or a number, as the type of its
    option has it. -/
structure ChoiceMeaning where
  name : Option CStr
  name_localizations : Option LocalesMeaning
  value : Option (Option CStr ⊕ Double)

/-- What an option says, without the options below it. -/
structure OptionFields where
  type : Option Int
  name : Option CStr
  name_localizations : Option LocalesMeaning
  description : Option CStr
  description_localizations : Option LocalesMeaning
  required : Bool
  choices : List ChoiceMeaning
  channel_types : List Int
  /-- of numbers -/
  min_value : Option Double
  max_value : Option Double
  /-- of strings -/
  min_length : Option Double
  max_length : Option Double
  autocomplete : Bool

/-- What an option and the options below it say. -/
inductive OptionMeaning where
  | mk (fields : OptionFields) (options : List OptionMeaning)

/-- What a command says. -/
structure CommandMeaning where
  name : Option CStr
  type : Int
  description : Option CStr
  name_localizations : Option LocalesMeaning
  description_localizations : Option LocalesMeaning
  options : List OptionMeaning
  default_member_permissions : Option CStr
  dm_permission : Bool
  version : UInt64

def locales_meaning (locales : LanguageLocales) : LocalesMeaning :=
  locale_names.map fun name => (locales name).map CStr.plain

/-- The value of a choice, read as the type of its option has it. -/
def ChoiceValue.meaning (value : ChoiceValue) (type : Int) : Option (Option CStr ⊕ Double) :=
  if type = COMMAND_OPTION_STRING then value.read_str.map fun s => .inl (s.map CStr.plain)
  else if type = COMMAND_OPTION_INTEGER ∨ type = COMMAND_OPTION_NUMBER then
    some (.inr value.read_number)
  else none

def choice_meaning (type : Int) (choice : CommandOptionChoice) : ChoiceMeaning where
  name := choice.name.map CStr.plain
  name_localizations := choice.name_localizations.map locales_meaning
  value := choice.value.meaning type

/-- A limit that says something for some types only. -/
def limit_if (b : Prop) [Decidable b] (d : Double) : Option Double := if b then some d else none

/-- What an option says. Its options are said with the required ones
    first. -/
def option_meaning (o : CommandOption) : OptionMeaning :=
  .mk
    { type := some o.type
      name := o.name.map CStr.plain
      name_localizations := o.name_localizations.map locales_meaning
      description := o.description.map CStr.plain
      description_localizations := o.description_localizations.map locales_meaning
      required := o.required
      choices := o.choices.map (choice_meaning o.type)
      channel_types := o.channel_types
      min_value := limit_if (o.type = COMMAND_OPTION_INTEGER ∨ o.type = COMMAND_OPTION_NUMBER)
        o.min_value
      max_value := limit_if (o.type = COMMAND_OPTION_INTEGER ∨ o.type = COMMAND_OPTION_NUMBER)
        o.max_value
      min_length := limit_if (o.type = COMMAND_OPTION_STRING) (.of o.min_length)
      max_length := limit_if (o.type = COMMAND_OPTION_STRING) (.of o.max_length)
      autocomplete := o.autocomplete }
    ((ordered_options o.options).pmap (fun c h =>
      have : sizeOf c < sizeOf o := CommandOption.sizeOf_option (mem_of_mem_ordered_options h)
      option_meaning c) fun _ h => h)
termination_by o

def command_meaning (c : ApplicationCommand) : CommandMeaning where
  name := c.name.map CStr.plain
  type := c.type
  description := c.description.map CStr.plain
  name_localizations := c.name_localizations.map locales_meaning
  description_localizations := c.description_localizations.map locales_meaning
  options := (ordered_options c.options).map option_meaning
  default_member_permissions := c.default_member_permissions.map CStr.plain
  dm_permission := c.dm_permission
  version := c.version

/-! ### What its JSON says -/

def read_locales (data : CJson) : LocalesMeaning :=
  locale_names.map fun name => read_text data name

/-- The value of a choice, be it a text or a number. -/
def read_choice_value : Option CJson → Option (Option CStr ⊕ Double)
  | some (.string s) => some (.inl (some ⟨0, s⟩))
  | some (.number d) => some (.inr d)
  | _ => none

def read_choice (data : CJson) : ChoiceMeaning where
  name := read_text data "name"
  name_localizations := (cJSON_GetObjectItem data "name_localizations").map read_locales
  value := read_choice_value (cJSON_GetObjectItem data "value")

/-- The number under a key. -/
def read_number (data : CJson) (name : String) : Option Double :=
  (cJSON_GetObjectItem data name).bind CJson.valuedouble

/-- The whole number that an item of an array is. -/
def read_int_item (item : CJson) : Int :=
  ((cJSON_IsNumber item).map fun d => d.num).getD 0

/-- What the JSON of an option says, each field under its name. -/
def read_option (data : CJson) : OptionMeaning :=
  .mk
    { type := read_int data "type"
      name := read_text data "name"
      name_localizations := (cJSON_GetObjectItem data "name_localizations").map read_locales
      description := read_text data "description"
      description_localizations :=
        (cJSON_GetObjectItem data "description_localizations").map read_locales
      required := _d_get_bool_from_json data "required" false
      choices := (cJSON_ArrayItems (cJSON_GetObjectItem data "choices")).map read_choice
      channel_types :=
        (cJSON_ArrayItems (cJSON_GetObjectItem data "channel_types")).map read_int_item
      min_value := read_number data "min_value"
      max_value := read_number data "max_value"
      min_length := read_number data "min_length"
      max_length := read_number data "max_length"
      autocomplete := _d_get_bool_from_json data "autocomplete" false }
    ((cJSON_ArrayItems (cJSON_GetObjectItem data "options")).pmap (fun c h =>
      have : sizeOf c < sizeOf data := sizeOf_array_item h
      read_option c) fun _ h => h)
termination_by data

/-- What the JSON of a command says. -/
def read_command (json : CJson) : CommandMeaning where
  name := read_text json "name"
  type := (read_int json "type").getD 0
  description := read_text json "description"
  name_localizations := (cJSON_GetObjectItem json "name_localizations").map read_locales
  description_localizations :=
    (cJSON_GetObjectItem json "description_localizations").map read_locales
  options := (cJSON_ArrayItems (cJSON_GetObjectItem json "options")).map read_option
  default_member_permissions := read_text json "default_member_permissions"
  dm_permission := _d_get_bool_from_json json "dm_permission" false
  version := ((cJSON_GetObjectItem json "version").map read_ju).getD 0

/-- The command is written, and its JSON says what it says. -/
def CommandFaithful (c : ApplicationCommand) : Prop :=
  ∃ json, format_json c = some (0, json) ∧ read_command (cJSON_object json) = command_meaning c

/-! ### What is lost -/

/-- The value of a choice, if it is a number. -/
def written_value : Option CStr ⊕ Double → Option (Option CStr ⊕ Double)
  | .inl _ => none
  | .inr d => some (.inr d)

/-- A choice without a text as its value. -/
def ChoiceMeaning.written (choice : ChoiceMeaning) : ChoiceMeaning :=
  { choice with value := choice.value.bind written_value }

/-- An option without its type and the texts of its choices. -/
def OptionMeaning.written : OptionMeaning → OptionMeaning
  | .mk fields options =>
    .mk { fields with type := none, choices := fields.choices.map ChoiceMeaning.written }
      (options.pmap (fun c h =>
        have : sizeOf c < sizeOf options := List.sizeOf_lt_of_mem h
        c.written) fun _ h => h)
termination_by m => m
decreasing_by
  rw [OptionMeaning.mk.sizeOf_spec]
  omega

def OptionMeaning.fields : OptionMeaning → OptionFields
  | .mk fields _ => fields

theorem OptionMeaning.written_mk (fields : OptionFields) (options : List OptionMeaning) :
    (OptionMeaning.mk fields options).written =
      .mk { fields with type := none, choices := fields.choices.map ChoiceMeaning.written }
        (options.map OptionMeaning.written) := by
  rw [written, List.pmap_eq_map]

/-! ### Locales and choices -/

theorem read_text_object {members : List (String × Option CJson)} (hkeys : DistinctKeys members)
    {name : String} {s : Option CStr} (hm : (name, cJSON_CreateString s) ∈ members) :
    read_text (cJSON_object members) name = s.map CStr.plain :=
  read_text_of s (getObjectItem_object hkeys hm)

theorem read_locales_fill (locales : LanguageLocales) :
    read_locales (discord_fill_json_with_locales locales) = locales_meaning locales := by
  refine List.map_congr_left fun name hname => ?_
  refine read_text_object ?_ (List.mem_map_of_mem hname)
  refine .of_keys locale_names (by decide +kernel) ?_
  rw [List.map_map]
  exact List.map_id locale_names

theorem read_locales_of {data : CJson} {name : String} (locales : Option LanguageLocales)
    (h : cJSON_GetObjectItem data name = locales.map discord_fill_json_with_locales) :
    (cJSON_GetObjectItem data name).map read_locales = locales.map locales_meaning := by
  rw [h, Option.map_map]
  exact congrArg (fun f => locales.map f) (funext read_locales_fill)

/-- The value of a choice is written if it is a number. -/
theorem read_choice_value_of (choice : CommandOptionChoice) (type : Int) :
    read_choice_value (choice_value choice type) =
      (choice.value.meaning type).bind written_value := by
  unfold choice_value ChoiceValue.meaning
  by_cases hnumber : type = COMMAND_OPTION_INTEGER ∨ type = COMMAND_OPTION_NUMBER
  · have hstring : type ≠ COMMAND_OPTION_STRING := by
      rcases hnumber with rfl | rfl <;> decide
    rw [if_neg hstring, if_pos hnumber, if_pos hnumber]
    rfl
  · -- nothing is written, also where the value is a text
    rw [if_neg hnumber, if_neg hnumber]
    by_cases hstring : type = COMMAND_OPTION_STRING
    · rw [if_pos hstring]
      cases choice.value.read_str <;> rfl
    · rw [if_neg hstring]
      rfl

theorem read_choice_add (choice : CommandOptionChoice) (type : Int) :
    read_choice (add_choice choice type) = (choice_meaning type choice).written := by
  have hitem : ∀ {name value}, (name, value) ∈ _ →
      cJSON_GetObjectItem (some (add_choice choice type)) name = value :=
    getObjectItem_of_eq rfl (.of_keys ["name", "name_localizations", "value"] (by decide) rfl)
  have hv : cJSON_GetObjectItem (some (add_choice choice type)) "value" =
      choice_value choice type := hitem (by simp)
  rw [read_choice, read_text_of choice.name (hitem (by simp)),
    read_locales_of choice.name_localizations (hitem (by simp)), hv, read_choice_value_of]
  rfl

/-! ### Options -/

/-- The fields of an option, with the options below it apart. -/
theorem option_meaning_eq (o : CommandOption) :
    option_meaning o =
      .mk (option_meaning o).fields ((ordered_options o.options).map option_meaning) := by
  rw [option_meaning, List.pmap_eq_map]
  rfl

theorem valuedouble_number_if (b : Prop) [Decidable b] (d : Double) :
    (number_if b d).bind CJson.valuedouble = limit_if b d := by
  unfold number_if limit_if
  by_cases h : b
  · rw [if_pos h, if_pos h]
    rfl
  · rw [if_neg h, if_neg h]
    rfl

theorem read_number_of {data : CJson} {name : String} (b : Prop) [Decidable b] (d : Double)
    (h : cJSON_GetObjectItem data name = number_if b d) :
    read_number data name = limit_if b d := by
  rw [read_number, h, valuedouble_number_if]

theorem read_channel_types {data : CJson} (channel_types : List Int)
    (h : cJSON_GetObjectItem data "channel_types" =
      array_item (channel_types.map cJSON_CreateNumber)) :
    (cJSON_ArrayItems (cJSON_GetObjectItem data "channel_types")).map read_int_item =
      channel_types := by
  rw [h, arrayItems_array_item, List.map_map]
  exact (List.map_congr_left fun i _ => Rat.num_intCast i).trans (List.map_id channel_types)

/-- The keys of an option, in order. There is none for the type. -/
def option_keys : List String :=
  ["name", "description", "name_localizations", "description_localizations", "required", "choices",
    "options", "channel_types", "min_value", "max_value", "min_length", "max_length",
    "autocomplete"]

theorem option_keys_distinct : (option_keys.map CJson.fold_key).Nodup := by decide

/-- **What the JSON of an option says**: all that the option and the options
    below it say, but for the types and the texts of the choices. -/
theorem read_option_add (o : CommandOption) :
    read_option (add_option o) = (option_meaning o).written := by
  -- the options below are smaller trees
  have ih : ∀ c ∈ ordered_options o.options,
      read_option (add_option c) = (option_meaning c).written := by
    intro c hc
    have : sizeOf c < sizeOf o := CommandOption.sizeOf_option (mem_of_mem_ordered_options hc)
    exact read_option_add c
  have hobject := (add_option_eq o).symm
  generalize add_option o = item at hobject ⊢
  have hitem : ∀ {name value}, (name, value) ∈ _ → cJSON_GetObjectItem (some item) name = value :=
    getObjectItem_of_eq hobject (.of_keys option_keys option_keys_distinct rfl)
  have htype : read_int item "type" = none := by
    have hne : ∀ key ∈ option_keys, CJson.fold_key "type" ≠ CJson.fold_key key := by decide
    rw [read_int, ← hobject, getObjectItem_object_none fun m hm => hne m.1 (List.mem_map_of_mem hm)]
    rfl
  have hc : (cJSON_ArrayItems (cJSON_GetObjectItem item "choices")).map read_choice =
      o.choices.map fun c => (choice_meaning o.type c).written := by
    have hitems : cJSON_GetObjectItem item "choices" =
        array_item (o.choices.map fun choice => add_choice choice o.type) :=
      hitem (by simp [option_members])
    rw [hitems, arrayItems_array_item, List.map_map]
    exact List.map_congr_left fun c _ => read_choice_add c o.type
  have ho : (cJSON_ArrayItems (cJSON_GetObjectItem item "options")).map read_option =
      (ordered_options o.options).map fun c => (option_meaning c).written := by
    have hitems : cJSON_GetObjectItem item "options" =
        array_item ((ordered_options o.options).map add_option) :=
      hitem (by simp [option_members])
    rw [hitems, arrayItems_array_item, List.map_map]
    exact List.map_congr_left ih
  have hrequired : _d_get_bool_from_json item "required" false = o.required :=
    json_bool_of (hitem (by simp [option_members]))
  have hautocomplete : _d_get_bool_from_json item "autocomplete" false = o.autocomplete :=
    json_bool_of (hitem (by simp [option_members]))
  have hvalues : read_number item "min_value" = limit_if
        (o.type = COMMAND_OPTION_INTEGER ∨ o.type = COMMAND_OPTION_NUMBER) o.min_value ∧
      read_number item "max_value" = limit_if
        (o.type = COMMAND_OPTION_INTEGER ∨ o.type = COMMAND_OPTION_NUMBER) o.max_value :=
    ⟨read_number_of _ _ (hitem (by simp [option_members])),
      read_number_of _ _ (hitem (by simp [option_members]))⟩
  have hlengths : read_number item "min_length" =
        limit_if (o.type = COMMAND_OPTION_STRING) (.of o.min_length) ∧
      read_number item "max_length" =
        limit_if (o.type = COMMAND_OPTION_STRING) (.of o.max_length) :=
    ⟨read_number_of _ _ (hitem (by simp [option_members])),
      read_number_of _ _ (hitem (by simp [option_members]))⟩
  rw [read_option, option_meaning, List.pmap_eq_map, List.pmap_eq_map, OptionMeaning.written_mk,
    List.map_map, ho, htype, hc, hrequired, hautocomplete,
    read_text_of o.name (hitem (by simp [option_members])),
    read_text_of o.description (hitem (by simp [option_members])),
    read_locales_of o.name_localizations (hitem (by simp [option_members])),
    read_locales_of o.description_localizations (hitem (by simp [option_members])),
    read_channel_types o.channel_types (hitem (by simp [option_members])), hvalues.1, hvalues.2,
    hlengths.1, hlengths.2, List.map_map]
  rfl
termination_by sizeOf o

theorem option_meaning_type (o : CommandOption) :
    (option_meaning o).fields.type = some o.type := by
  rw [option_meaning]
  rfl

theorem option_meaning_choices (o : CommandOption) :
    (option_meaning o).fields.choices = o.choices.map (choice_meaning o.type) := by
  rw [option_meaning]
  rfl

/-- Every option says something that is lost. -/
theorem option_written_ne (o : CommandOption) : (option_meaning o).written ≠ option_meaning o := by
  intro h
  have htype := option_meaning_type o
  have hwritten : (option_meaning o).written.fields.type = none := by
    rw [option_meaning_eq, OptionMeaning.written_mk]
    rfl
  rw [h, htype] at hwritten
  cases hwritten

/-! ### Commands -/

/-- The version is written as an identifier is. -/
theorem version_item_eq (version : UInt64) : version_item version = reference_item version := by
  unfold version_item reference_item id_json
  rw [Option.map_map]
  rfl

theorem read_type_of {data : CJson} (type : Int)
    (h : cJSON_GetObjectItem data "type" = number_if (type ≠ 0) (.of type)) :
    (read_int data "type").getD 0 = type := by
  rw [read_int, h, cJSON_IsNumber, valuedouble_number_if]
  unfold limit_if
  split
  next => exact Rat.num_intCast type
  next htype => exact (Decidable.not_not.mp htype).symm

/-- The keys of a command, in order. -/
def command_keys : List String :=
  ["name", "type", "description", "name_localizations", "description_localizations", "options",
    "default_member_permissions", "dm_permission", "version"]

theorem command_keys_distinct : (command_keys.map CJson.fold_key).Nodup := by decide

/-- A command is written if it has a name and its version fits. -/
theorem format_json_eq_some {c : ApplicationCommand} {json : List (String × Option CJson)} :
    format_json c = some (0, json) ↔ c.name.isSome = true ∧ ∃ version,
      version_item c.version = some version ∧
        command_members c ++ [("version", version)] = json := by
  unfold format_json
  cases hname : c.name with
  | none =>
    -- without a name, the result is 1
    simp
  | some name => simp [Option.bind_eq_some_iff]

/-- **What the JSON of a command says**: all that the command says, and of
    each option what is written of it. -/
theorem read_command_format {c : ApplicationCommand} {json : List (String × Option CJson)}
    (h : format_json c = some (0, json)) :
    read_command (cJSON_object json) =
      { command_meaning c with
        options := (ordered_options c.options).map fun o => (option_meaning o).written } := by
  obtain ⟨-, version, hversion, hjson⟩ := format_json_eq_some.mp h
  -- every member is read back under its own key
  have hitem : ∀ {name value}, (name, value) ∈ _ →
      cJSON_GetObjectItem (cJSON_object json) name = value :=
    getObjectItem_of_eq (congrArg cJSON_object hjson)
      (.of_keys command_keys command_keys_distinct rfl)
  have ho : (cJSON_ArrayItems (cJSON_GetObjectItem (cJSON_object json) "options")).map
      read_option = (ordered_options c.options).map fun o => (option_meaning o).written := by
    have hitems : cJSON_GetObjectItem (cJSON_object json) "options" =
        array_item ((ordered_options c.options).map add_option) :=
      hitem (by simp [command_members])
    rw [hitems, arrayItems_array_item, List.map_map]
    exact List.map_congr_left fun o _ => read_option_add o
  have hdm : _d_get_bool_from_json (cJSON_object json) "dm_permission" false = c.dm_permission :=
    json_bool_of (hitem (by simp [command_members]))
  have hv : cJSON_GetObjectItem (cJSON_object json) "version" = version := hitem (by simp)
  rw [read_command, ho, hdm, hv, read_reference_item (version_item_eq c.version ▸ hversion),
    read_text_of c.name (hitem (by simp [command_members])),
    read_type_of c.type (hitem (by simp [command_members])),
    read_text_of c.description (hitem (by simp [command_members])),
    read_locales_of c.name_localizations (hitem (by simp [command_members])),
    read_locales_of c.description_localizations (hitem (by simp [command_members])),
    read_text_of c.default_member_permissions (hitem (by simp [command_members]))]
  rfl

theorem ordered_options_eq_nil {options : List CommandOption} :
    ordered_options options = [] ↔ options = [] := by
  unfold ordered_options
  constructor
  · intro h
    obtain ⟨hrequired, hother⟩ := List.append_eq_nil_iff.mp h
    rw [List.filter_eq_nil_iff] at hrequired hother
    refine List.eq_nil_iff_forall_not_mem.mpr fun o ho => ?_
    -- an option is required or not, and so it is in one of the two
    have h₁ := hrequired o ho
    have h₂ := hother o ho
    cases hr : o.required <;> simp [hr] at h₁ h₂
  · rintro rfl
    rfl

/-- A command that is faithful has no options. -/
theorem CommandFaithful.conditions {c : ApplicationCommand} (h : CommandFaithful c) :
    c.name.isSome = true ∧ c.options = [] ∧ IdFits c.version := by
  obtain ⟨json, hjson, hread⟩ := h
  obtain ⟨hname, version, hversion, -⟩ := format_json_eq_some.mp hjson
  refine ⟨hname, ?_, ?_⟩
  · rw [read_command_format hjson] at hread
    have hoptions := List.map_inj_left.mp (congrArg CommandMeaning.options hread)
    refine ordered_options_eq_nil.mp (List.eq_nil_iff_forall_not_mem.mpr fun o ho => ?_)
    exact option_written_ne o (hoptions o ho)
  · rw [version_item_eq] at hversion
    exact (reference_item_isSome_iff c.version).mp (Option.isSome_of_eq_some hversion)

/-- A command without options is faithful. -/
theorem command_faithful_of {c : ApplicationCommand} (hname : c.name.isSome = true)
    (hoptions : c.options = []) (hversion : IdFits c.version) : CommandFaithful c := by
  obtain ⟨version, hv⟩ := Option.isSome_iff_exists.mp
    ((reference_item_isSome_iff c.version).mpr hversion)
  rw [← version_item_eq] at hv
  have hjson := format_json_eq_some.mpr ⟨hname, version, hv, rfl⟩
  refine ⟨_, hjson, ?_⟩
  rw [read_command_format hjson, command_meaning, hoptions]
  rfl

/-- **Commands are determined by their JSON** exactly when they have no
    options, and a version of at most 19 digits; and no other command has
    the JSON of such a command. -/
theorem command_faithful_iff (c : ApplicationCommand) :
    (CommandFaithful c ↔ c.name.isSome = true ∧ c.options = [] ∧ IdFits c.version) ∧
      (CommandFaithful c → ∀ c', format_json c' = format_json c →
        command_meaning c' = command_meaning c) := by
  refine ⟨⟨CommandFaithful.conditions, fun h => command_faithful_of h.1 h.2.1 h.2.2⟩, ?_⟩
  intro hfaithful c' heq
  have hempty : (command_meaning c).options = [] := by
    rw [command_meaning, hfaithful.conditions.2.1]
    rfl
  obtain ⟨json, hjson, hread⟩ := hfaithful
  rw [hjson] at heq
  have hread' := read_command_format heq
  -- the JSON has no options, so the other command has none either
  have hnil : c'.options = [] := by
    have hoptions := congrArg CommandMeaning.options (hread'.symm.trans hread)
    rw [hempty] at hoptions
    exact ordered_options_eq_nil.mp (List.map_eq_nil_iff.mp hoptions)
  rw [← hread, hread', command_meaning, hnil]
  rfl

/-! ### Commands with one option -/

/-- A command with one option. -/
def option_command (o : CommandOption) : ApplicationCommand where
  type := 1
  guild_id := 0
  name := some ⟨0, "command"⟩
  name_localizations := none
  description := none
  description_localizations := none
  options := [o]
  default_member_permissions := none
  dm_permission := true
  version := 0

/-- An option without options below it. -/
def plain_option (type : Int) (choices : List CommandOptionChoice) : CommandOption where
  type
  name := some ⟨0, "option"⟩
  name_localizations := none
  description := none
  description_localizations := none
  required := true
  choices
  options := []
  channel_types := []
  min_value := 0
  max_value := 0
  min_length := 0
  max_length := 0
  autocomplete := false

/-- A choice with a text. The bits of its address are those of some number. -/
def text_choice (text : String) (bits : Double) : CommandOptionChoice where
  name := some ⟨0, "choice"⟩
  name_localizations := none
  value := .str (some ⟨0, text⟩) bits

theorem ordered_options_singleton (o : CommandOption) : ordered_options [o] = [o] := by
  unfold ordered_options
  cases hr : o.required <;> simp [hr]

theorem format_json_option_command (o : CommandOption) :
    format_json (option_command o) = some (0,
      [("name", some (.string "command")), ("type", some (.number (.of 1))), ("description", none),
        ("name_localizations", none), ("description_localizations", none),
        ("options", array_item [add_option o]), ("default_member_permissions", none),
        ("dm_permission", some (.bool true)), ("version", none)]) := by
  have hmembers : command_members (option_command o) =
      [("name", some (.string "command")), ("type", some (.number (.of 1))), ("description", none),
        ("name_localizations", none), ("description_localizations", none),
        ("options", array_item [add_option o]), ("default_member_permissions", none),
        ("dm_permission", some (.bool true))] := by
    unfold command_members
    show _ :: _ :: _ :: _ :: _ :: ("options", array_item ((ordered_options [o]).map add_option)) ::
      _ = _
    rw [ordered_options_singleton]
    rfl
  exact format_json_eq_some.mpr ⟨rfl, none, rfl, by rw [hmembers]; rfl⟩

/-- Of options that differ in what they say, the commands do. -/
theorem command_meaning_ne {o o' : CommandOption}
    (h : (option_meaning o).fields ≠ (option_meaning o').fields) :
    command_meaning (option_command o) ≠ command_meaning (option_command o') := by
  intro heq
  have hoptions : (ordered_options [o]).map option_meaning =
      (ordered_options [o']).map option_meaning := congrArg CommandMeaning.options heq
  rw [ordered_options_singleton, ordered_options_singleton] at hoptions
  exact h (congrArg OptionMeaning.fields (List.cons.inj hoptions).1)

theorem option_command_congr {o o' : CommandOption} (h : add_option o = add_option o') :
    format_json (option_command o) = format_json (option_command o') := by
  rw [format_json_option_command, format_json_option_command, h]

/-- An option of type BOOLEAN has the JSON of one of type USER, and the
    choice "a" that of the choice "b". -/
theorem types_and_texts_lost :
    ((∃ json, format_json (option_command (plain_option 5 [])) = some (0, json)) ∧
      command_meaning (option_command (plain_option 5 [])) ≠
        command_meaning (option_command (plain_option 6 [])) ∧
      format_json (option_command (plain_option 5 [])) =
        format_json (option_command (plain_option 6 []))) ∧
    ((∃ json,
        format_json (option_command (plain_option COMMAND_OPTION_STRING [text_choice "a" 1])) =
          some (0, json)) ∧
      command_meaning (option_command (plain_option COMMAND_OPTION_STRING [text_choice "a" 1])) ≠
        command_meaning (option_command (plain_option COMMAND_OPTION_STRING [text_choice "b" 2])) ∧
      format_json (option_command (plain_option COMMAND_OPTION_STRING [text_choice "a" 1])) =
        format_json (option_command (plain_option COMMAND_OPTION_STRING [text_choice "b" 2]))) := by
  refine ⟨⟨⟨_, format_json_option_command _⟩, command_meaning_ne fun h => ?_,
    option_command_congr ?_⟩, ⟨_, format_json_option_command _⟩,
    command_meaning_ne fun h => ?_, option_command_congr ?_⟩
  · -- the commands differ in the type
    have htype := congrArg OptionFields.type h
    rw [option_meaning_type, option_meaning_type] at htype
    exact absurd htype (by decide)
  · rw [add_option, add_option]
    rfl
  · -- the commands differ in the text of the choice
    have hchoices := congrArg OptionFields.choices h
    rw [option_meaning_choices, option_meaning_choices] at hchoices
    have hvalue := congrArg ChoiceMeaning.value (List.cons.inj hchoices).1
    have htexts : (⟨0, "a"⟩ : CStr) = ⟨0, "b"⟩ :=
      Option.some.inj (Sum.inl.inj (Option.some.inj hvalue))
    exact absurd (congrArg CStr.bytes htexts) (by decide)
  · rw [add_option, add_option]
    rfl

end DiscoC
