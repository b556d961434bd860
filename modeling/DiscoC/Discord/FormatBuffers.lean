import DiscoC.Discord.AttachmentBodies

/-! # Texts in fixed arrays

  Tokens, filenames and numbers of the caller are formatted into arrays. Where
  a length is limited it is limited in one function, and the array has its
  size in another one:

  * `request` keeps 200 bytes of the token, `authorizationHeader` has 100;
  * 256 bytes of a filename are kept, `disposition` has 200;
  * the block for the address of a reply counts 500 bytes of the token, of
    which the decoder keeps 4097;
  * `lim` has 15 bytes for `&limit=` and an `int`.

  So each overruns its array for some arguments (`long_texts_overrun`), and
  for exactly those that `FormatSite.Fits` excludes (`no_overrun_iff`). The
  ids of `discord_get_messages` fit in any case.
-/

namespace DiscoC

/-! ### Formatting -/

/-- `d_curl_setup_discord_header`. -/
def d_curl_setup_discord_header (token : String) : Option (List String) := do
  let authorizationHeader ← sprintf 100 ("Authorization: Bot " ++ token)
  some
    [authorizationHeader, "Accept: application/json", "Content-Type: application/json",
      "User-Agent: DiscordBot (v0.0.1)"]

/-- The headers and the parts that `request_t_pool` sets up, where the slots
    of `attachments_l` are null. -/
def request_headers (n : RequestNode) : Option MultipartBody :=
  if n.files.length = 0 then
    (d_curl_setup_discord_header n.token).map fun headers => { headers, parts := [] }
  else multipart_body (fun _ => none) n

/-- The `uri` of `discord_send_interaction`. -/
def interaction_uri (id : UInt64) (token : String) : Option String :=
  sprintf (80 + min token.toList.length 500) (interaction_url id token)

theorem discord_send_interaction_eq (cJSON_Print : CJson → String) (bot : BotClient)
    (cb : InteractionCallback) (recv : Interaction) :
    discord_send_interaction cJSON_Print bot cb recv = (do
      let json ← interaction_callback_json cb recv
      let token ← recv.token
      let uri ← interaction_uri recv.id token.bytes
      request_queued cJSON_Print uri (some json) .REQUEST_POST bot.token none none []) := rfl

/-- What is formatted into arrays. -/
inductive FormatSite where
  /-- The headers of a request without files. -/
  | request (url : String) (content : Option String) (request_type : RequestType)
      (token : String) (rc : Option CallbackType)
  /-- The headers of a request and of its attachments, by their filenames. -/
  | upload (url json : String) (request_type : RequestType) (token : String)
      (rc : Option CallbackType) (filenames : List String)
  /-- The address of the reply to an interaction. -/
  | reply (id : UInt64) (token : String)
  /-- The address of the messages to get. -/
  | get_messages (channel_id : UInt64) (limit : Int) (around before after : UInt64)

namespace FormatSite

/-- Every text is written with its null inside its array. -/
def NoOverrun : FormatSite → Prop
  | .request url content request_type token rc =>
    (request_headers (DiscoC.request url content request_type token rc [])).isSome = true
  | .upload url json request_type token rc filenames =>
    (request_headers (DiscoC.request url (some json) request_type token rc
      (filenames.map fun filename => strndup filename 256))).isSome = true
  | .reply id token => (interaction_uri id token).isSome = true
  | .get_messages channel_id limit around before after =>
    (get_messages_url channel_id limit around before after).isSome = true

/-- The lengths and the numbers for which that is the case. -/
def Fits : FormatSite → Prop
  | .request _ _ _ token _ => TokenFits token
  | .upload _ _ _ token _ filenames => TokenFits token ∧
    ∀ (i : Nat) filename, filenames[i]? = some filename →
      i.repr.toList.length + filename.toList.length ≤ 140
  | .reply id token => (format_ju id).toList.length + token.toList.length ≤ 528
  | .get_messages _ limit around before after =>
    LimitFits limit (around ≠ 0 ∨ before ≠ 0 ∨ after ≠ 0)

/-! ### The headers of a request -/

theorem d_curl_setup_discord_header_isSome_iff (token : String) :
    (d_curl_setup_discord_header (strndup token 200)).isSome = true ↔ TokenFits token := by
  rw [← authorization_fits_iff, d_curl_setup_discord_header]
  cases sprintf 100 ("Authorization: Bot " ++ strndup token 200) <;> simp

/-- A filename is kept or cut off, its header fits or does not. -/
theorem filenames_fit_iff (filenames : List String) :
    FilesFit (fun _ => none) (filenames.map fun filename => strndup filename 256) ↔
      ∀ (i : Nat) filename, filenames[i]? = some filename →
        i.repr.toList.length + filename.toList.length ≤ 140 := by
  constructor
  · intro h i filename hi
    have hfile : (filenames.map fun filename => strndup filename 256)[i]? =
        some (strndup filename 256) := by
      rw [List.getElem?_map, hi, Option.map_some]
    have hfit := h (_, i) (List.mem_zipIdx_iff_getElem?.mpr hfile)
    exact (disposition_copy_fits_iff i filename).mp hfit.2
  · intro h p hp
    have hfile := List.mem_zipIdx_iff_getElem?.mp hp
    rw [List.getElem?_map] at hfile
    obtain ⟨filename, hi, hcopy⟩ := Option.map_eq_some_iff.mp hfile
    rw [← hcopy]
    exact ⟨rfl, (disposition_copy_fits_iff p.2 filename).mpr (h p.2 filename hi)⟩

theorem filesFit_nil (attachments_l : Nat → Option Nat) : FilesFit attachments_l [] :=
  fun _ hp => absurd hp List.not_mem_nil

/-- The headers of a request that has a body if it has files. -/
theorem request_headers_isSome_iff {n : RequestNode} {token : String}
    (htoken : n.token = strndup token 200) (hjson : n.files ≠ [] → n.json.isSome = true) :
    (request_headers n).isSome = true ↔ TokenFits token ∧ FilesFit (fun _ => none) n.files := by
  unfold request_headers
  split
  next hfiles =>
    have hnil : n.files = [] := List.length_eq_zero_iff.mp hfiles
    rw [Option.isSome_map, htoken, d_curl_setup_discord_header_isSome_iff, hnil]
    exact (and_iff_left (filesFit_nil _)).symm
  next hfiles =>
    have hne : n.files ≠ [] := fun hnil => hfiles (List.length_eq_zero_iff.mpr hnil)
    rw [multipart_body_isSome_iff, htoken, authorization_fits_iff]
    simp [hjson hne]

theorem request_iff (url : String) (content : Option String) (request_type : RequestType)
    (token : String) (rc : Option CallbackType) :
    (request url content request_type token rc).NoOverrun ↔
      (request url content request_type token rc).Fits := by
  rw [NoOverrun, Fits, request_headers_isSome_iff rfl (fun hne => absurd rfl hne)]
  exact and_iff_left (filesFit_nil _)

theorem upload_iff (url json : String) (request_type : RequestType) (token : String)
    (rc : Option CallbackType) (filenames : List String) :
    (upload url json request_type token rc filenames).NoOverrun ↔
      (upload url json request_type token rc filenames).Fits := by
  rw [NoOverrun, Fits, ← filenames_fit_iff]
  exact request_headers_isSome_iff rfl fun _ => rfl

/-! ### Addresses -/

theorem length_interaction_url (id : UInt64) (token : String) :
    (interaction_url id token).toList.length =
      51 + (format_ju id).toList.length + token.toList.length := by
  have hbase : "https://discord.com/api/v10/interactions/".toList.length = 41 := by decide +kernel
  have hslash : "/".toList.length = 1 := by decide
  have hend : "/callback".toList.length = 9 := by decide +kernel
  have hlen : (interaction_url id token).toList.length = _ := length_append _ _
  rw [length_append, length_append, length_append, hbase, hslash, hend] at hlen
  omega

theorem reply_iff (id : UInt64) (token : String) :
    (reply id token).NoOverrun ↔ (reply id token).Fits := by
  have hid := length_format_ju_le id
  rw [NoOverrun, Fits, interaction_uri, sprintf_isSome_iff, length_interaction_url]
  -- up to 500 bytes the block grows with the token, and has 29 to spare
  by_cases htoken : token.toList.length ≤ 500
  · rw [min_eq_left htoken]
    omega
  · rw [min_eq_right (by omega)]
    omega

theorem get_messages_iff (channel_id : UInt64) (limit : Int) (around before after : UInt64) :
    (get_messages channel_id limit around before after).NoOverrun ↔
      (get_messages channel_id limit around before after).Fits := by
  rw [NoOverrun, Fits, ApiCall.get_messages_url_eq, Option.isSome_map,
    ApiCall.limit_param_isSome_iff, ApiCall.id_param_isSome]

end FormatSite

/-- **No overrun**: a text stays inside its array exactly when the lengths and
    the numbers of the caller are small enough. -/
theorem no_overrun_iff (site : FormatSite) : site.NoOverrun ↔ site.Fits := by
  cases site with
  | request url content request_type token rc => exact FormatSite.request_iff ..
  | upload url json request_type token rc filenames => exact FormatSite.upload_iff ..
  | reply id token => exact FormatSite.reply_iff ..
  | get_messages channel_id limit around before after => exact FormatSite.get_messages_iff ..

/-- A text of `n` bytes. -/
def bytes_text (n : Nat) : String := .ofList (List.replicate n 'x')

/-- A token of 81 bytes, a filename of 140 and an interaction token of 528, each
    one byte too long for its array, and the least `int`. -/
theorem long_texts_overrun :
    ¬ (FormatSite.request "" none .REQUEST_GET (bytes_text 81) none).NoOverrun ∧
      ¬ (FormatSite.upload "" "" .REQUEST_POST "token" none [bytes_text 140]).NoOverrun ∧
      ¬ (FormatSite.reply 1 (bytes_text 528)).NoOverrun ∧
      ¬ (FormatSite.get_messages 1 (-2147483648) 0 0 0).NoOverrun := by
  have hlen (n : Nat) : (bytes_text n).toList.length = n := by simp [bytes_text]
  rw [FormatSite.request_iff, FormatSite.upload_iff, FormatSite.reply_iff,
    FormatSite.get_messages_iff]
  have htoken : ¬ TokenFits (bytes_text 81) := by
    rw [TokenFits, hlen]
    decide
  have hindex : (0 : Nat).repr.toList.length = 1 := by decide
  have hid : (format_ju 1).toList.length = 1 := by decide
  have hlimit : ¬ LimitFits (-2147483648) false := fun hfits => absurd hfits.1 (by decide)
  refine ⟨htoken, fun hfits => ?_, fun hfits => ?_, hlimit⟩
  · have hfile := hfits.2 0 (bytes_text 140) rfl
    rw [hlen, hindex] at hfile
    omega
  · have hreply : (format_ju 1).toList.length + (bytes_text 528).toList.length ≤ 528 := hfits
    rw [hlen, hid] at hreply
    omega

end DiscoC
