import DiscoC.Discord.CreateMessageJson
import DiscoC.Discord.MessageCommands
import DiscoC.Discord.InteractionCallback

/-! # Which calls reach the queue

  The functions that make a request, and what each is to put on the pool: one
  work item with its method, its address and its body. The functions for
  commands and replies never do, since they pass no bot to `request`; the
  others do under conditions on their arguments (`reachesQueue_iff`).
-/

namespace DiscoC

/-! ### Calls -/

/-- A call of a function that makes a request. -/
inductive ApiCall where
  | send_message (bot : BotClient) (content : Option String) (channel_id : UInt64)
      (message : Option CreateMessage) (cb : Bool)
  | edit_message (bot : BotClient) (content : Option String) (channel_id message_id : UInt64)
      (message : Option CreateMessage)
  | get_messages (bot : BotClient) (channel_id : UInt64) (limit : Int)
      (around before after : UInt64) (cb : Bool)
  | fetch_message (bot : BotClient) (channel_id message_id : UInt64) (cb : Bool)
  | command_register (command : ApplicationCommand) (token application_id : String)
  | command_update (command : ApplicationCommand) (command_id : UInt64)
      (token application_id : String)
  | command_delete_global (command_id : UInt64) (token application_id : String)
  | command_delete_guild (guild_id command_id : UInt64) (token application_id : String)
  | send_interaction (bot : BotClient) (cb : InteractionCallback) (recv : Interaction)

/-- The parameter that selects the messages to get. -/
def id_param (around before after : UInt64) : Option String :=
  if around ≠ 0 then some ("around=" ++ format_ju around)
  else if before ≠ 0 then some ("before=" ++ format_ju before)
  else if after ≠ 0 then some ("after=" ++ format_ju after)
  else none

/-- The parameter for their number. -/
def limit_param (limit : Int) (added_id : Bool) : String :=
  if limit ≠ 0 then (if added_id then "&limit=" else "limit=") ++ format_d limit else ""

/-- Every attachment has a filename. -/
def Filenames (attachments : List Attachment) : Prop := ∀ a ∈ attachments, a.filename.isSome

/-- The limit fits into `char lim[15]`, after `&limit=` or `limit=`. -/
def LimitFits (limit : Int) (added_id : Bool) : Prop :=
  if added_id then -999999 ≤ limit ∧ limit ≤ 9999999 else -9999999 ≤ limit ∧ limit ≤ 99999999

namespace ApiCall

def method : ApiCall → RequestType
  | .send_message .. | .command_register .. | .send_interaction .. => .REQUEST_POST
  | .edit_message .. | .command_update .. => .REQUEST_PATCH
  | .get_messages .. | .fetch_message .. => .REQUEST_GET
  | .command_delete_global .. | .command_delete_guild .. => .REQUEST_DELETE

def url : ApiCall → String
  | .send_message _ _ channel_id _ _ => messages_url channel_id
  | .edit_message _ _ channel_id message_id _ | .fetch_message _ channel_id message_id _ =>
    message_url channel_id message_id
  | .get_messages _ channel_id limit around before after _ =>
    let param := id_param around before after
    messages_url channel_id ++ "?" ++ param.getD "" ++ limit_param limit param.isSome
  | .command_register command _ application_id => commands_url application_id command.guild_id
  | .command_update command command_id _ application_id =>
    commands_url application_id command.guild_id ++ "/" ++ format_ju command_id
  | .command_delete_global command_id _ application_id =>
    commands_url application_id 0 ++ "/" ++ format_ju command_id
  | .command_delete_guild guild_id command_id _ application_id =>
    "https://discord.com/api/v10/applications/" ++ application_id ++ "/guilds/" ++
      format_ju guild_id ++ "/commands/" ++ format_ju command_id
  | .send_interaction _ _ recv =>
    interaction_url recv.id ((recv.token.map CStr.bytes).getD "")

/-- The body, if there is one, or `none` where it cannot be written. -/
def body : ApiCall → Option (Option CJson)
  | .send_message _ content _ message _ =>
    (_d_create_message_to_json [] content message).map fun json => some (cJSON_object json)
  | .edit_message _ content _ _ message =>
    (edit_message_to_json content message).map fun json => some (cJSON_object json)
  | .command_register command .. | .command_update command .. =>
    (format_json command).map fun r => some (cJSON_object r.2)
  | .send_interaction _ cb recv => (interaction_callback_json cb recv).map some
  | .get_messages .. | .fetch_message .. | .command_delete_global .. | .command_delete_guild .. =>
    some none

/-- A command without a name. -/
def nameless : ApiCall → Bool
  | .command_register command .. | .command_update command .. => command.name.isNone
  | _ => false

section run

variable (cJSON_Print : CJson → String)

/-- What a call puts on a pool. -/
def run : ApiCall → Option (List RequestNode)
  | .send_message bot content channel_id message cb =>
    discord_channel_send_message cJSON_Print bot content channel_id message cb
  | .edit_message bot content channel_id message_id message =>
    discord_channel_edit_message cJSON_Print bot content channel_id message_id message
  | .get_messages bot channel_id limit around before after _ =>
    discord_get_messages cJSON_Print bot channel_id limit around before after
  | .fetch_message bot channel_id message_id cb =>
    discord_fetch_message cJSON_Print bot channel_id message_id cb
  | .command_register command token application_id =>
    discord_command_register cJSON_Print command token application_id
  | .command_update command command_id token application_id =>
    discord_command_update cJSON_Print command command_id token application_id
  | .command_delete_global command_id token application_id =>
    discord_command_delete_global cJSON_Print command_id token application_id
  | .command_delete_guild guild_id command_id token application_id =>
    discord_command_delete_guild cJSON_Print guild_id command_id token application_id
  | .send_interaction bot cb recv => discord_send_interaction cJSON_Print bot cb recv

/-- A call is to put one work item on a pool, with its method, its address and
    its body; for a command without a name, none. -/
def ReachesQueue (call : ApiCall) : Prop :=
  if call.nameless then call.run cJSON_Print = some []
  else ∃ body node, call.body = some body ∧ call.run cJSON_Print = some [node] ∧
    node.request_type = call.method ∧ node.url = call.url ∧ node.json = body.map cJSON_Print

end run

/-- The arguments with which a call reaches the queue. -/
def Sendable : ApiCall → Prop
  | .send_message _ _ _ message _ => ∀ m, message = some m → m.Fits ∧ Filenames m.attachments
  | .edit_message _ _ _ _ message =>
    ∃ m, message = some m ∧ (∀ a ∈ m.allowed_mentions, a.Fits) ∧ Filenames m.attachments
  | .get_messages _ _ limit around before after _ =>
    LimitFits limit (around ≠ 0 ∨ before ≠ 0 ∨ after ≠ 0)
  | .fetch_message _ _ _ cb => cb = true
  | .command_register .. | .command_update .. | .command_delete_global ..
  | .command_delete_guild .. | .send_interaction .. => False

end ApiCall

/-! ### Texts that fit -/

theorem length_messages_url_le (channel_id : UInt64) :
    (messages_url channel_id).toList.length ≤ 66 := by
  have hbase : "https://discord.com/api/v10/channels/".toList.length = 37 := by decide +kernel
  have hend : "/messages".toList.length = 9 := by decide +kernel
  have hid := length_format_ju_le channel_id
  have hlen : (messages_url channel_id).toList.length = _ := length_append _ _
  rw [length_append, hbase, hend] at hlen
  omega

theorem length_message_url_le (channel_id message_id : UInt64) :
    (message_url channel_id message_id).toList.length ≤ 87 := by
  have hsep : "/".toList.length = 1 := by decide
  have hbase := length_messages_url_le channel_id
  have hid := length_format_ju_le message_id
  have hlen : (message_url channel_id message_id).toList.length = _ := length_append _ _
  rw [length_append, hsep] at hlen
  omega

theorem length_id_param_le {around before after : UInt64} {param : String}
    (h : id_param around before after = some param) : param.toList.length ≤ 27 := by
  have haround : "around=".toList.length = 7 := by decide
  have hbefore : "before=".toList.length = 7 := by decide
  have hafter : "after=".toList.length = 6 := by decide
  -- a key of at most 7 characters, and an id of at most 20
  have hid (key : String) (id : UInt64) (hkey : key.toList.length ≤ 7) :
      (key ++ format_ju id).toList.length ≤ 27 := by
    have := length_format_ju_le id
    rw [length_append]
    omega
  unfold id_param at h
  split at h
  · cases h
    exact hid _ _ haround.le
  · split at h
    · cases h
      exact hid _ _ hbefore.le
    · split at h
      · cases h
        exact hid _ _ (hafter.le.trans (by decide))
      · cases h

/-- The parameter always fits into `char id_field[35]`. -/
theorem id_field_eq (around before after : UInt64) :
    id_field around before after = some (id_param around before after) := by
  have hfits {param : String} (h : id_param around before after = some param) :
      (sprintf 35 param).map some = some (some param) := by
    have hlen := length_id_param_le h
    rw [sprintf_eq_some (by omega)]
    rfl
  unfold id_field id_param at *
  split
  · exact hfits (if_pos ‹_›)
  · split
    · exact hfits (by rw [if_neg ‹_›, if_pos ‹_›])
    · split
      · exact hfits (by rw [if_neg ‹_›, if_neg ‹_›, if_pos ‹_›])
      · rfl

theorem limit_isSome_iff (limit : Int) (added_id : Bool) :
    (sprintf 15 ((if added_id then "&limit=" else "limit=") ++ format_d limit)).isSome = true ↔
      LimitFits limit added_id := by
  have hfirst : "limit=".toList.length = 6 := by decide
  have hnext : "&limit=".toList.length = 7 := by decide
  rw [sprintf_isSome_iff, length_append, LimitFits]
  cases added_id with
  | true =>
    have hiff := length_format_d_le_iff (k := 6) (by decide) limit
    simp only [if_true, hnext]
    omega
  | false =>
    have hiff := length_format_d_le_iff (k := 7) (by decide) limit
    simp only [Bool.false_eq_true, if_false, hfirst]
    omega

/-- A text of fewer than `n` bytes is appended whole. -/
theorem strncat_eq_some {size n : Nat} {text src : String} (hn : src.toList.length ≤ n)
    (hsize : text.toList.length + src.toList.length < size) :
    strncat size text src n = some (text ++ src) := by
  rw [strncat, strndup_of_length_le hn]
  exact sprintf_eq_some (by rwa [length_append])

theorem url_of_request {cJSON_Print : CJson → String} {url : String} {content : Option CJson}
    {request_type : RequestType} {token : String} {rc : Option CallbackType} {files : List String}
    (h : url.toList.length ≤ 2050) :
    (request url (content.map cJSON_Print) request_type token rc files).url = url :=
  strndup_of_length_le h

/-! ### When a call reaches the queue -/

namespace ApiCall

variable {cJSON_Print : CJson → String} {call : ApiCall}

theorem reachesQueue_of {body : Option CJson} {rc : Option CallbackType} {token : String}
    {files : List String}
    (hrun : call.run cJSON_Print =
      some [request call.url (body.map cJSON_Print) call.method token rc files])
    (hname : call.nameless = false) (hbody : call.body = some body)
    (hurl : call.url.toList.length ≤ 2050) : call.ReachesQueue cJSON_Print := by
  unfold ReachesQueue
  rw [hname]
  exact ⟨body, _, hbody, hrun, rfl, url_of_request hurl, rfl⟩

/-- A call that goes through the null pointer reaches no queue. -/
theorem not_reachesQueue (h : call.run cJSON_Print = none) : ¬ call.ReachesQueue cJSON_Print := by
  unfold ReachesQueue
  rw [h]
  split
  · nofun
  · rintro ⟨body, node, -, hrun, -⟩
    cases hrun

theorem filenames_iff (attachments : List Attachment) :
    (copy_filenames attachments).isSome = true ↔ Filenames attachments :=
  mapM_isSome_iff.trans (forall₂_congr fun a _ => by rw [Option.isSome_map])

/-- What sending a message puts on the pool, if it can be written and its
    attachments have filenames. -/
theorem send_message_run (bot : BotClient) (content : Option String) (channel_id : UInt64)
    (message : Option CreateMessage) (cb : Bool) :
    (send_message bot content channel_id message cb).run cJSON_Print =
      (_d_create_message_to_json [] content message).bind fun json =>
        (copy_filenames (message_attachments message)).map fun files =>
          [request (messages_url channel_id) ((some (cJSON_object json)).map cJSON_Print)
            .REQUEST_POST bot.token (if cb then some .DISCORD_MESSAGE_CALLBACK else none)
              files] := by
  have hurl := length_messages_url_le channel_id
  have hsprintf : sprintf 80 (messages_url channel_id) = some _ := sprintf_eq_some (by omega)
  rw [run, discord_channel_send_message, hsprintf]
  cases _d_create_message_to_json [] content message with
  | none => rfl
  | some json => cases copy_filenames (message_attachments message) <;> rfl

theorem create_message_to_json_isSome_iff (content : Option String)
    (message : Option CreateMessage) :
    (_d_create_message_to_json [] content message).isSome = true ↔
      ∀ m, message = some m → m.Fits := by
  cases message with
  | none => simp [_d_create_message_to_json]
  | some m => simp [create_message_isSome_iff]

theorem message_filenames_iff (message : Option CreateMessage) :
    (copy_filenames (message_attachments message)).isSome = true ↔
      ∀ m, message = some m → Filenames m.attachments := by
  rw [filenames_iff]
  cases message with
  | none => simp [message_attachments, Filenames]
  | some m => simp [message_attachments]

theorem send_message_iff (bot : BotClient) (content : Option String) (channel_id : UInt64)
    (message : Option CreateMessage) (cb : Bool) :
    (send_message bot content channel_id message cb).ReachesQueue cJSON_Print ↔
      (send_message bot content channel_id message cb).Sendable := by
  have hrun := @send_message_run cJSON_Print bot content channel_id message cb
  rw [Sendable, forall₂_and, ← create_message_to_json_isSome_iff content, ← message_filenames_iff]
  -- the request is queued when both the body and the file names are there
  rcases bind_map_cases (_d_create_message_to_json [] content message)
    (copy_filenames (message_attachments message)) _ with
    ⟨hnone, hnot⟩ | ⟨json, files, hj, hf, hsome⟩
  · exact iff_of_false (not_reachesQueue (hrun.trans hnone)) hnot
  · have hbody : (send_message bot content channel_id message cb).body =
        some (some (cJSON_object json)) := by
      rw [body, hj]
      rfl
    have hlen : (messages_url channel_id).toList.length ≤ 2050 :=
      (length_messages_url_le channel_id).trans (by decide)
    refine iff_of_true (reachesQueue_of (hrun.trans hsome) rfl hbody hlen) ⟨?_, ?_⟩
    · rw [hj, Option.isSome_some]
    · rw [hf, Option.isSome_some]

theorem edit_message_to_json_isSome_iff (content : Option String) (m : CreateMessage) :
    (edit_message_to_json content (some m)).isSome = true ↔
      ∀ a ∈ m.allowed_mentions, a.Fits := by
  refine Iff.trans ?_ (option_mapM_isSome_iff.trans
    (forall₂_congr fun a _ => create_allowed_mentions_isSome_iff a))
  unfold edit_message_to_json
  cases h : m.allowed_mentions.mapM create_allowed_mentions <;> simp [h]

theorem edit_message_run (bot : BotClient) (content : Option String)
    (channel_id message_id : UInt64) (m : CreateMessage) :
    (edit_message bot content channel_id message_id (some m)).run cJSON_Print =
      (edit_message_to_json content (some m)).bind fun json =>
        (copy_filenames m.attachments).map fun files =>
          [request (message_url channel_id message_id)
            ((some (cJSON_object json)).map cJSON_Print) .REQUEST_PATCH bot.token none files] := by
  have hurl := length_message_url_le channel_id message_id
  have hsprintf : sprintf 100 (message_url channel_id message_id) = some _ :=
    sprintf_eq_some (by omega)
  rw [run, discord_channel_edit_message, hsprintf]
  cases edit_message_to_json content (some m) with
  | none => rfl
  | some json => cases hf : copy_filenames m.attachments <;> simp [hf, request_queued]

theorem edit_message_iff (bot : BotClient) (content : Option String)
    (channel_id message_id : UInt64) (message : Option CreateMessage) :
    (edit_message bot content channel_id message_id message).ReachesQueue cJSON_Print ↔
      (edit_message bot content channel_id message_id message).Sendable := by
  cases message with
  | none =>
    refine iff_of_false (not_reachesQueue rfl) ?_
    rintro ⟨m, hm, -⟩
    cases hm
  | some m =>
    have hrun := @edit_message_run cJSON_Print bot content channel_id message_id m
    have hsendable : (edit_message bot content channel_id message_id (some m)).Sendable ↔
        (edit_message_to_json content (some m)).isSome = true ∧
          (copy_filenames m.attachments).isSome = true := by
      rw [edit_message_to_json_isSome_iff, filenames_iff, Sendable]
      simp
    rw [hsendable]
    rcases bind_map_cases (edit_message_to_json content (some m)) (copy_filenames m.attachments) _
      with ⟨hnone, hnot⟩ | ⟨json, files, hj, hf, hsome⟩
    · exact iff_of_false (not_reachesQueue (hrun.trans hnone)) hnot
    · have hbody : (edit_message bot content channel_id message_id (some m)).body =
          some (some (cJSON_object json)) := by
        rw [body, hj]
        rfl
      have hlen : (message_url channel_id message_id).toList.length ≤ 2050 :=
        (length_message_url_le channel_id message_id).trans (by decide)
      refine iff_of_true (reachesQueue_of (hrun.trans hsome) rfl hbody hlen) ⟨?_, ?_⟩
      · rw [hj, Option.isSome_some]
      · rw [hf, Option.isSome_some]

theorem fetch_message_iff (bot : BotClient) (channel_id message_id : UInt64) (cb : Bool) :
    (fetch_message bot channel_id message_id cb).ReachesQueue cJSON_Print ↔
      (fetch_message bot channel_id message_id cb).Sendable := by
  have hurl := length_message_url_le channel_id message_id
  have hsprintf : sprintf 100 (message_url channel_id message_id) = some _ :=
    sprintf_eq_some (by omega)
  cases cb with
  | false =>
    -- without a callback nothing is sent
    refine iff_of_false ?_ (by simp [Sendable])
    rintro ⟨body, node, -, hrun, -⟩
    cases hrun
  | true =>
    have hrun : (fetch_message bot channel_id message_id true).run cJSON_Print =
        some [request (message_url channel_id message_id) ((none : Option CJson).map cJSON_Print)
          .REQUEST_GET bot.token (some .DISCORD_MESSAGE_CALLBACK) []] := by
      simp [run, discord_fetch_message, hsprintf, request_queued]
    have hlen : (message_url channel_id message_id).toList.length ≤ 2050 := by omega
    exact iff_of_true (reachesQueue_of hrun rfl rfl hlen) rfl

/-- The address up to the number of messages. -/
theorem append_id_field_eq (channel_id around before after : UInt64) :
    append_id_field (messages_url channel_id ++ "?") (id_param around before after) =
      some (messages_url channel_id ++ "?" ++ (id_param around before after).getD "") := by
  have hurl := length_messages_url_le channel_id
  have hmark : "?".toList.length = 1 := by decide
  have hbase := length_append (messages_url channel_id) "?"
  cases h : id_param around before after with
  | none =>
    rw [Option.getD_none, String.append_empty]
    rfl
  | some param =>
    have hparam := length_id_param_le h
    exact strncat_eq_some (by omega) (by omega)

theorem append_limit_eq {url : String} (hurl : url.toList.length ≤ 100) (added_id : Bool)
    (limit : Int) :
    append_limit url added_id limit =
      (sprintf 15 (limit_param limit added_id)).map fun lim => url ++ lim := by
  unfold append_limit limit_param
  split
  next =>
    cases hlim : sprintf 15 ((if added_id then "&limit=" else "limit=") ++ format_d limit) with
    | none => rfl
    | some lim =>
      -- what `sprintf` wrote to the buffer of 15 is shorter than it
      have hlen : lim.toList.length < 15 := by
        have hsome := sprintf_isSome_iff.mp (Option.isSome_of_eq_some hlim)
        rwa [← Option.some.inj ((sprintf_eq_some hsome).symm.trans hlim)]
      exact strncat_eq_some (by omega) (by omega)
  next =>
    rw [sprintf_eq_some (by decide), Option.map_some, String.append_empty]

theorem limit_param_isSome_iff (limit : Int) (added_id : Bool) :
    (sprintf 15 (limit_param limit added_id)).isSome = true ↔ LimitFits limit added_id := by
  unfold limit_param
  split
  next => exact limit_isSome_iff limit added_id
  next hlimit =>
    refine iff_of_true (by decide) ?_
    rw [Decidable.not_not.mp hlimit]
    cases added_id <;> simp [LimitFits]

theorem id_param_isSome (around before after : UInt64) :
    (id_param around before after).isSome = decide (around ≠ 0 ∨ before ≠ 0 ∨ after ≠ 0) := by
  unfold id_param
  by_cases ha : around = 0 <;> by_cases hb : before = 0 <;> by_cases hc : after = 0 <;>
    simp [ha, hb, hc]

theorem length_get_messages_url_le (channel_id around before after : UInt64) :
    (messages_url channel_id ++ "?" ++ (id_param around before after).getD "").toList.length ≤
      94 := by
  have hurl := length_messages_url_le channel_id
  have hmark : "?".toList.length = 1 := by decide
  have hparam : ((id_param around before after).getD "").toList.length ≤ 27 := by
    cases h : id_param around before after with
    | none => decide
    | some param => exact length_id_param_le h
  rw [length_append, length_append]
  omega

/-- Only the array of the limit is too small for some arguments. -/
theorem get_messages_url_eq (channel_id : UInt64) (limit : Int) (around before after : UInt64) :
    get_messages_url channel_id limit around before after =
      (sprintf 15 (limit_param limit (id_param around before after).isSome)).map fun lim =>
        messages_url channel_id ++ "?" ++ (id_param around before after).getD "" ++ lim := by
  have hbase := length_get_messages_url_le channel_id around before after
  have hmark := length_append (messages_url channel_id ++ "?")
    ((id_param around before after).getD "")
  have hsprintf : sprintf 200 (messages_url channel_id ++ "?") = some _ :=
    sprintf_eq_some (by omega)
  rw [get_messages_url, hsprintf, id_field_eq]
  simp only [Option.bind_eq_bind, Option.bind_some]
  rw [append_id_field_eq, Option.bind_some, append_limit_eq (by omega)]

theorem get_messages_iff (bot : BotClient) (channel_id : UInt64) (limit : Int)
    (around before after : UInt64) (cb : Bool) :
    (get_messages bot channel_id limit around before after cb).ReachesQueue cJSON_Print ↔
      (get_messages bot channel_id limit around before after cb).Sendable := by
  have hbase := length_get_messages_url_le channel_id around before after
  have hrun : (get_messages bot channel_id limit around before after cb).run cJSON_Print =
      (sprintf 15 (limit_param limit (id_param around before after).isSome)).map fun lim =>
        [request (messages_url channel_id ++ "?" ++ (id_param around before after).getD "" ++ lim)
          ((none : Option CJson).map cJSON_Print) .REQUEST_GET bot.token
          (some .DISCORD_MULTIPLE_MESSAGE_CALLBACK) []] := by
    rw [run, discord_get_messages_eq, get_messages_url_eq]
    cases sprintf 15 (limit_param limit (id_param around before after).isSome) <;> rfl
  have hfits := limit_param_isSome_iff limit (id_param around before after).isSome
  rw [Sendable, ← id_param_isSome, ← hfits]
  cases hlim : sprintf 15 (limit_param limit (id_param around before after).isSome) with
  | none =>
    rw [hlim] at hrun
    exact iff_of_false (not_reachesQueue hrun) (by simp)
  | some lim =>
    have hlen : (limit_param limit (id_param around before after).isSome).toList.length < 15 :=
      sprintf_isSome_iff.mp (Option.isSome_of_eq_some hlim)
    have heq := Option.some.inj (hlim.symm.trans (sprintf_eq_some hlen))
    rw [hlim, heq] at hrun
    refine iff_of_true (reachesQueue_of hrun rfl rfl ?_) rfl
    have htotal := length_append
      (messages_url channel_id ++ "?" ++ (id_param around before after).getD "")
      (limit_param limit (id_param around before after).isSome)
    show (messages_url channel_id ++ "?" ++ _ ++ limit_param limit _).toList.length ≤ 2050
    omega

/-! ### Calls without a bot -/

/-- The functions that pass their bot to `request`. -/
def passes_bot : ApiCall → Bool
  | .send_message .. | .edit_message .. | .get_messages .. | .fetch_message .. => true
  | _ => false

/-- Without a bot `request` goes through the null pointer, whatever comes
    before it. -/
theorem run_without_bot (h : call.passes_bot = false) : call.run cJSON_Print = none := by
  cases call with
  | command_register command token application_id =>
    simp [run, discord_command_register, request_queued]
  | command_update command command_id token application_id =>
    simp [run, discord_command_update, request_queued]
  | command_delete_global command_id token application_id =>
    simp [run, discord_command_delete_global, request_queued]
  | command_delete_guild guild_id command_id token application_id =>
    simp [run, discord_command_delete_guild, request_queued]
  | send_interaction bot cb recv => simp [run, discord_send_interaction, request_queued]
  | send_message | edit_message | get_messages | fetch_message => cases h

end ApiCall

/-- **Reaching the queue**: a call goes through no null pointer and puts
    exactly its work item on a pool when it is one of those that pass their
    bot, and its arguments are as they have to be. -/
theorem reachesQueue_iff (cJSON_Print : CJson → String) (call : ApiCall) :
    call.ReachesQueue cJSON_Print ↔ call.Sendable := by
  cases call with
  | send_message bot content channel_id message cb => exact ApiCall.send_message_iff ..
  | edit_message bot content channel_id message_id message => exact ApiCall.edit_message_iff ..
  | get_messages bot channel_id limit around before after cb => exact ApiCall.get_messages_iff ..
  | fetch_message bot channel_id message_id cb => exact ApiCall.fetch_message_iff ..
  | command_register | command_update | command_delete_global | command_delete_guild
  | send_interaction =>
    exact iff_of_false (ApiCall.not_reachesQueue (ApiCall.run_without_bot rfl)) not_false

/-- A command with a name and a description. -/
def hello_command : ApplicationCommand where
  type := 1
  guild_id := 0
  name := some ⟨1, "hello"⟩
  name_localizations := none
  description := some ⟨2, "Replies with Hello"⟩
  description_localizations := none
  options := []
  default_member_permissions := none
  dm_permission := false
  version := 0

/-- It is not registered. -/
theorem hello_not_registered : ¬ ∃ cJSON_Print : CJson → String,
    (ApiCall.command_register hello_command "token" "1").ReachesQueue cJSON_Print :=
  fun ⟨_, h⟩ => ApiCall.not_reachesQueue (ApiCall.run_without_bot rfl) h

end DiscoC
