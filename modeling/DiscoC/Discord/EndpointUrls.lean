import DiscoC.Discord.ApiQueue

/-! # The URLs of the endpoints

  Seven functions format the URL of their endpoint from ids of up to 20
  digits into an array of 80, 100 or 120 bytes. Every URL fits, that of a
  guild command with no byte to spare, and no two tuples of ids share one
  (`endpoint_urls_fit_and_differ`).

  A URL is a base and the segments of a path. The ids are segments of their
  own, so they can be read off it.
-/

namespace DiscoC

/-! ### Texts of segments -/

theorem length_intercalate_slash (l : List String) :
    ("/".intercalate l).toList.length =
      (l.map fun s => s.toList.length).sum + (l.length - 1) := by
  have hslash : "/".toList.length = 1 := by decide
  induction l with
  | nil => rfl
  | cons s l ih =>
    cases l with
    | nil => simp
    | cons t l =>
      rw [String.intercalate_cons_cons, length_append, length_append, hslash, ih]
      simp only [List.map_cons, List.sum_cons, List.length_cons]
      omega

/-- Segments without a slash can be read off their text. -/
theorem eq_of_intercalate_slash {l l' : List String} (hl : l ≠ []) (hl' : l' ≠ [])
    (h : ∀ s ∈ l, '/' ∉ s.toList) (h' : ∀ s ∈ l', '/' ∉ s.toList)
    (heq : "/".intercalate l = "/".intercalate l') : l = l' := by
  have hsplit {m : List String} (hm : m ≠ []) (hslash : ∀ s ∈ m, '/' ∉ s.toList) :
      ("/".intercalate m).toList.splitOn '/' = m.map String.toList := by
    rw [String.toList_intercalate]
    refine List.splitOn_intercalate '/' ?_ (by simpa using hm)
    intro cs hcs
    obtain ⟨s, hs, rfl⟩ := List.mem_map.mp hcs
    exact hslash s hs
  -- the text, split at its slashes
  have hmap : l.map String.toList = l'.map String.toList := by
    rw [← hsplit hl h, heq, hsplit hl' h']
  exact List.map_injective_iff.mpr (fun _ _ => String.toList_inj.mp) hmap

/-! ### Endpoints -/

/-- The functions that format a URL from ids only. -/
inductive Endpoint where
  | channel_send_message | channel_edit_message | fetch_message
  | command_register | command_update | command_delete_global | command_delete_guild
  deriving DecidableEq, Repr

namespace Endpoint

/-- The ids an endpoint takes, in the order of its URL. The application id is
    a string in the source, the decimal form of an id. -/
abbrev Ids : Endpoint → Type
  | .channel_send_message => UInt64
  | .channel_edit_message | .fetch_message | .command_register | .command_delete_global =>
    UInt64 × UInt64
  | .command_update | .command_delete_guild => UInt64 × UInt64 × UInt64

/-- The array that the URL is formatted into. -/
def array_size : Endpoint → Nat
  | .channel_send_message => 80
  | .channel_edit_message | .fetch_message => 100
  | .command_register | .command_update | .command_delete_global | .command_delete_guild => 120

def url : (e : Endpoint) → e.Ids → String
  | .channel_send_message, channel_id => messages_url channel_id
  | .channel_edit_message, (channel_id, message_id) => message_url channel_id message_id
  | .fetch_message, (channel_id, message_id) => message_url channel_id message_id
  | .command_register, (application_id, guild_id) =>
    commands_url (format_ju application_id) guild_id
  | .command_update, (application_id, guild_id, command_id) =>
    commands_url (format_ju application_id) guild_id ++ "/" ++ format_ju command_id
  | .command_delete_global, (application_id, command_id) =>
    "https://discord.com/api/v10/applications/" ++ format_ju application_id ++ "/commands/" ++
      format_ju command_id
  | .command_delete_guild, (application_id, guild_id, command_id) =>
    "https://discord.com/api/v10/applications/" ++ format_ju application_id ++ "/guilds/" ++
      format_ju guild_id ++ "/commands/" ++ format_ju command_id

/-- The `sprintf` of the endpoint. -/
def written (e : Endpoint) (ids : e.Ids) : Option String := sprintf e.array_size (e.url ids)

/-! ### What the functions format -/

section functions

variable (cJSON_Print : CJson → String)

theorem channel_send_message_eq (bot : BotClient) (content : Option String) (channel_id : UInt64)
    (message : Option CreateMessage) (cb : Bool) :
    discord_channel_send_message cJSON_Print bot content channel_id message cb = (do
      let json ← _d_create_message_to_json [] content message
      let url ← written .channel_send_message channel_id
      let filenames ← copy_filenames (message_attachments message)
      request_queued cJSON_Print url (some (cJSON_object json)) .REQUEST_POST bot.token bot
        (if cb then some .DISCORD_MESSAGE_CALLBACK else none) filenames) := rfl

theorem channel_edit_message_eq (bot : BotClient) (content : Option String)
    (channel_id message_id : UInt64) (m : CreateMessage) :
    discord_channel_edit_message cJSON_Print bot content channel_id message_id (some m) = (do
      let json ← edit_message_to_json content (some m)
      let filenames ← copy_filenames m.attachments
      let uri ← written .channel_edit_message (channel_id, message_id)
      request_queued cJSON_Print uri (some (cJSON_object json)) .REQUEST_PATCH bot.token bot none
        filenames) := rfl

theorem fetch_message_eq (bot : BotClient) (channel_id message_id : UInt64) :
    discord_fetch_message cJSON_Print bot channel_id message_id true = (do
      let url ← written .fetch_message (channel_id, message_id)
      request_queued cJSON_Print url none .REQUEST_GET bot.token bot
        (some .DISCORD_MESSAGE_CALLBACK) []) := rfl

theorem command_register_eq (command : ApplicationCommand) (token : String)
    (application_id : UInt64) :
    discord_command_register cJSON_Print command token (format_ju application_id) = (do
      let (_, json) ← format_json command
      let url ← written .command_register (application_id, command.guild_id)
      request_queued cJSON_Print url (some (cJSON_object json)) .REQUEST_POST token none none
        []) := rfl

theorem command_update_eq (command : ApplicationCommand) (command_id : UInt64) (token : String)
    (application_id : UInt64) :
    discord_command_update cJSON_Print command command_id token (format_ju application_id) = (do
      let (_, json) ← format_json command
      let url ← written .command_update (application_id, command.guild_id, command_id)
      request_queued cJSON_Print url (some (cJSON_object json)) .REQUEST_PATCH token none none
        []) := rfl

theorem command_delete_global_eq (command_id : UInt64) (token : String) (application_id : UInt64) :
    discord_command_delete_global cJSON_Print command_id token (format_ju application_id) = (do
      let url ← written .command_delete_global (application_id, command_id)
      request_queued cJSON_Print url none .REQUEST_DELETE token none none []) := rfl

theorem command_delete_guild_eq (guild_id command_id : UInt64) (token : String)
    (application_id : UInt64) :
    discord_command_delete_guild cJSON_Print guild_id command_id token (format_ju application_id) =
      (do
        let url ← written .command_delete_guild (application_id, guild_id, command_id)
        request_queued cJSON_Print url none .REQUEST_DELETE token none none []) := rfl

end functions

/-! ### Paths -/

/-- What comes before the path of an endpoint. -/
def base : Endpoint → String
  | .channel_send_message | .channel_edit_message | .fetch_message =>
    "https://discord.com/api/v10/channels/"
  | .command_register | .command_update | .command_delete_global | .command_delete_guild =>
    "https://discord.com/api/v10/applications/"

/-- The commands of an application, or of one of its guilds. -/
def commands_path (application_id guild_id : UInt64) : List String :=
  if guild_id ≠ 0 then [format_ju application_id, "guilds", format_ju guild_id, "commands"]
  else [format_ju application_id, "commands"]

/-- The path of an endpoint. -/
def path : (e : Endpoint) → e.Ids → List String
  | .channel_send_message, channel_id => [format_ju channel_id, "messages"]
  | .channel_edit_message, (channel_id, message_id)
  | .fetch_message, (channel_id, message_id) =>
    [format_ju channel_id, "messages", format_ju message_id]
  | .command_register, (application_id, guild_id) => commands_path application_id guild_id
  | .command_update, (application_id, guild_id, command_id) =>
    commands_path application_id guild_id ++ [format_ju command_id]
  | .command_delete_global, (application_id, command_id) =>
    [format_ju application_id, "commands", format_ju command_id]
  | .command_delete_guild, (application_id, guild_id, command_id) =>
    [format_ju application_id, "guilds", format_ju guild_id, "commands", format_ju command_id]

theorem commands_url_eq (application_id guild_id : UInt64) :
    commands_url (format_ju application_id) guild_id =
      base .command_register ++ "/".intercalate (commands_path application_id guild_id) := by
  have hguilds : "/guilds/" = "/" ++ "guilds" ++ "/" := by decide
  have hcommands : "/commands" = "/" ++ "commands" := by decide
  unfold commands_url commands_path
  split
  · simp only [base, String.intercalate_cons_cons, String.intercalate_singleton, hguilds, hcommands,
      String.append_assoc, -String.reduceAppend]
  · simp only [base, String.intercalate_cons_cons, String.intercalate_singleton, hcommands,
      String.append_assoc, -String.reduceAppend]

theorem messages_url_eq (channel_id : UInt64) :
    messages_url channel_id =
      base .channel_send_message ++ "/".intercalate [format_ju channel_id, "messages"] := by
  have hmessages : "/messages" = "/" ++ "messages" := by decide
  unfold messages_url
  simp only [base, String.intercalate_cons_cons, String.intercalate_singleton, hmessages,
    String.append_assoc, -String.reduceAppend]

theorem message_url_eq (channel_id message_id : UInt64) :
    message_url channel_id message_id =
      base .fetch_message ++
        "/".intercalate [format_ju channel_id, "messages", format_ju message_id] := by
  unfold message_url
  simp only [messages_url_eq, base, String.intercalate_cons_cons, String.intercalate_singleton,
    String.append_assoc]

theorem url_eq (e : Endpoint) (ids : e.Ids) :
    e.url ids = e.base ++ "/".intercalate (e.path ids) := by
  have hguilds : "/guilds/" = "/" ++ "guilds" ++ "/" := by decide
  have hcommands : "/commands/" = "/" ++ "commands" ++ "/" := by decide
  cases e with
  | channel_send_message => exact messages_url_eq ids
  | channel_edit_message | fetch_message => exact message_url_eq ids.1 ids.2
  | command_register => exact commands_url_eq ids.1 ids.2
  | command_update =>
    have hne : commands_path ids.1 ids.2.1 ≠ [] := by
      unfold commands_path
      split <;> simp
    show commands_url _ _ ++ "/" ++ _ = _ ++ "/".intercalate (commands_path _ _ ++ [_])
    rw [commands_url_eq, String.intercalate_append_of_ne_nil hne (by simp),
      String.intercalate_singleton, String.append_assoc, String.append_assoc, String.append_assoc]
    rfl
  | command_delete_global | command_delete_guild =>
    unfold url base path
    simp only [String.intercalate_cons_cons, String.intercalate_singleton, hguilds,
      hcommands, String.append_assoc, -String.reduceAppend]

/-! ### Every URL fits -/

theorem length_commands_path_le (application_id guild_id : UInt64) :
    ("/".intercalate (commands_path application_id guild_id)).toList.length ≤ 57 := by
  have hguilds : "guilds".toList.length = 6 := by decide
  have hcommands : "commands".toList.length = 8 := by decide
  have happlication := length_format_ju_le application_id
  have hguild := length_format_ju_le guild_id
  rw [length_intercalate_slash]
  unfold commands_path
  split
  · simp only [List.map_cons, List.map_nil, List.sum_cons, List.sum_nil, List.length_cons,
      List.length_nil, hguilds, hcommands]
    omega
  · simp only [List.map_cons, List.map_nil, List.sum_cons, List.sum_nil, List.length_cons,
      List.length_nil, hcommands]
    omega

theorem length_url_lt (e : Endpoint) (ids : e.Ids) :
    (e.url ids).toList.length < e.array_size := by
  have hchannels : (base .fetch_message).toList.length = 37 := by decide +kernel
  have happlications : (base .command_register).toList.length = 41 := by decide +kernel
  have hslash : "/".toList.length = 1 := by decide
  have hguilds : "guilds".toList.length = 6 := by decide
  have hcommands : "commands".toList.length = 8 := by decide
  cases e with
  | channel_send_message =>
    have := length_messages_url_le ids
    show (messages_url ids).toList.length < 80
    omega
  | channel_edit_message | fetch_message =>
    have := length_message_url_le ids.1 ids.2
    show (message_url ids.1 ids.2).toList.length < 100
    omega
  | command_register =>
    have hpath := length_commands_path_le ids.1 ids.2
    show (commands_url (format_ju ids.1) ids.2).toList.length < 120
    rw [commands_url_eq, length_append, happlications]
    omega
  | command_update =>
    have hpath := length_commands_path_le ids.1 ids.2.1
    have hcommand := length_format_ju_le ids.2.2
    show (commands_url (format_ju ids.1) ids.2.1 ++ "/" ++ format_ju ids.2.2).toList.length < 120
    rw [commands_url_eq, length_append, length_append, length_append, happlications, hslash]
    omega
  | command_delete_global =>
    have happlication := length_format_ju_le ids.1
    have hcommand := length_format_ju_le ids.2
    rw [url_eq, length_append, length_intercalate_slash]
    show (base .command_register).toList.length + (([format_ju ids.1, "commands",
      format_ju ids.2].map fun s => s.toList.length).sum + 2) < 120
    simp only [List.map_cons, List.map_nil, List.sum_cons, List.sum_nil, happlications, hcommands]
    omega
  | command_delete_guild =>
    have happlication := length_format_ju_le ids.1
    have hguild := length_format_ju_le ids.2.1
    have hcommand := length_format_ju_le ids.2.2
    rw [url_eq, length_append, length_intercalate_slash]
    show (base .command_register).toList.length + (([format_ju ids.1, "guilds", format_ju ids.2.1,
      "commands", format_ju ids.2.2].map fun s => s.toList.length).sum + 4) < 120
    simp only [List.map_cons, List.map_nil, List.sum_cons, List.sum_nil, happlications, hguilds,
      hcommands]
    omega

/-! ### Different ids, different URLs -/

theorem path_ne_nil (e : Endpoint) (ids : e.Ids) : e.path ids ≠ [] := by
  have hcommands (application_id guild_id : UInt64) :
      commands_path application_id guild_id ≠ [] := by
    unfold commands_path
    split <;> simp
  cases e with
  | command_register => exact hcommands ids.1 ids.2
  | command_update => exact List.append_ne_nil_of_left_ne_nil (hcommands ids.1 ids.2.1) _
  | channel_send_message | channel_edit_message | fetch_message | command_delete_global
  | command_delete_guild => exact List.cons_ne_nil _ _

theorem slash_notMem_format_ju (n : UInt64) : '/' ∉ (format_ju n).toList := by
  rw [toList_format_ju]
  intro hmem
  exact absurd (Nat.isDigit_of_mem_toDigits (by decide) (by decide) hmem) (by decide)

theorem slash_notMem_path (e : Endpoint) (ids : e.Ids) : ∀ s ∈ e.path ids, '/' ∉ s.toList := by
  have hpath (application_id guild_id : UInt64) :
      ∀ s ∈ commands_path application_id guild_id, '/' ∉ s.toList := by
    unfold commands_path
    split <;> simp [slash_notMem_format_ju]
  cases e with
  | command_register => exact hpath ids.1 ids.2
  | command_update =>
    refine List.forall_mem_append.mpr ⟨hpath ids.1 ids.2.1, ?_⟩
    exact List.forall_mem_singleton.mpr (slash_notMem_format_ju ids.2.2)
  | channel_send_message | channel_edit_message | fetch_message | command_delete_global
  | command_delete_guild => simp [path, slash_notMem_format_ju]

theorem format_ju_inj {a b : UInt64} : format_ju a = format_ju b ↔ a = b :=
  (Function.LeftInverse.injective strtoull_format_ju).eq_iff

theorem commands_path_inj {application_id guild_id application_id' guild_id' : UInt64}
    (h : commands_path application_id guild_id = commands_path application_id' guild_id') :
    application_id = application_id' ∧ guild_id = guild_id' := by
  unfold commands_path at h
  by_cases hg : guild_id = 0
  · by_cases hg' : guild_id' = 0
    · simpa [hg, hg', format_ju_inj] using h
    · simp [hg, hg'] at h
  · by_cases hg' : guild_id' = 0
    · simp [hg, hg'] at h
    · simpa [hg, hg', format_ju_inj] using h

theorem path_injective (e : Endpoint) : Function.Injective e.path := by
  intro ids ids' h
  cases e with
  | channel_send_message => simpa [path, format_ju_inj] using h
  | command_register => exact Prod.ext_iff.mpr (commands_path_inj h)
  | command_update =>
    -- the id of the command is the last segment
    obtain ⟨hcommands, hlast⟩ := List.append_inj' h rfl
    obtain ⟨happlication, hguild⟩ := commands_path_inj hcommands
    have hcommand := format_ju_inj.mp (List.singleton_inj.mp hlast)
    exact Prod.ext happlication (Prod.ext hguild hcommand)
  | channel_edit_message | fetch_message | command_delete_global | command_delete_guild =>
    simpa [path, format_ju_inj, Prod.ext_iff] using h

theorem url_injective (e : Endpoint) : Function.Injective e.url := by
  intro ids ids' h
  rw [url_eq, url_eq] at h
  have htext : "/".intercalate (e.path ids) = "/".intercalate (e.path ids') := by
    have hlist := congrArg String.toList h
    rw [String.toList_append, String.toList_append] at hlist
    exact String.toList_inj.mp (List.append_cancel_left hlist)
  exact e.path_injective (eq_of_intercalate_slash (e.path_ne_nil ids) (e.path_ne_nil ids')
    (e.slash_notMem_path ids) (e.slash_notMem_path ids') htext)

end Endpoint

/-- **Endpoint URLs**: whatever the ids, the URL of an endpoint and the null
    fit into its array, and the URL tells the ids. -/
theorem endpoint_urls_fit_and_differ (e : Endpoint) :
    (∀ ids, e.written ids = some (e.url ids) ∧ (e.url ids).toList.length + 1 ≤ e.array_size) ∧
      ∀ ids ids', e.written ids = e.written ids' ↔ ids = ids' := by
  have hwritten (ids : e.Ids) : e.written ids = some (e.url ids) :=
    sprintf_eq_some (e.length_url_lt ids)
  constructor
  · exact fun ids => ⟨hwritten ids, e.length_url_lt ids⟩
  · intro ids ids'
    rw [hwritten, hwritten, Option.some_inj]
    exact e.url_injective.eq_iff

/-- With ids of 20 digits the array of a guild command is full. -/
example (id : UInt64) (hid : (format_ju id).toList.length = 20) :
    (Endpoint.url .command_delete_guild (id, id, id)).toList.length + 1 = 120 := by
  have hbase : Endpoint.base .command_delete_guild = "https://discord.com/api/v10/applications/" :=
    rfl
  rw [Endpoint.url_eq, length_append, length_intercalate_slash, hbase]
  simp [Endpoint.path, hid]

end DiscoC
