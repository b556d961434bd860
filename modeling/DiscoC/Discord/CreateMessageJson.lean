import DiscoC.Framework.Fallible
import DiscoC.Discord.CreateMessage

/-! # What the JSON of a message determines

  The JSON says what the message says, except for three things: `tts` is
  never written; the URL of a provider without a name is not; and an
  identifier of 20 digits does not fit into the array it is written to.
  Without them the message is determined by its JSON
  (`faithful_iff_determined`).
-/

namespace DiscoC

/-! ### Items that were written -/

theorem read_text_of {data : CJson} {name : String} (s : Option CStr)
    (h : cJSON_GetObjectItem data name = cJSON_CreateString s) :
    read_text data name = s.map CStr.plain := by
  rw [read_text, h, isString_createString, Option.map_map]
  rfl

theorem read_int_of {data : CJson} {name : String} (i : Int)
    (h : cJSON_GetObjectItem data name = cJSON_CreateNumber i) : read_int data name = some i := by
  rw [read_int, h]
  exact congrArg some (Rat.num_intCast i)

theorem arrayItems_array_item (items : List CJson) :
    cJSON_ArrayItems (array_item items) = items := by
  unfold array_item
  split
  · next h => exact (List.isEmpty_iff.mp h).symm
  · rfl

/-! ### Embeds -/

theorem read_embed_footer_add (f : EmbedFooter ⊕ Embed) :
    read_embed_footer (embed_add_footer (read_footer f)) = plain_footer f := by
  have hitem : ∀ {name item}, (name, item) ∈ _ →
      cJSON_GetObjectItem (embed_add_footer (read_footer f)) name = item :=
    getObjectItem_object (.of_keys ["text", "icon_url", "proxy_icon_url"] (by decide) rfl)
  generalize hf : read_footer f = footer at hitem ⊢
  rw [read_embed_footer, read_text_of footer.text (hitem (by simp)),
    read_text_of footer.icon_url (hitem (by simp)),
    read_text_of footer.proxy_icon_url (hitem (by simp)), plain_footer, hf]
  rfl

theorem read_embed_media_add (m : EmbedMedia) :
    read_embed_media (embed_add_media m) = m.plain := by
  have hitem : ∀ {name item}, (name, item) ∈ _ →
      cJSON_GetObjectItem (embed_add_media m) name = item :=
    getObjectItem_object (.of_keys ["url", "proxy_url", "height", "width"] (by decide) rfl)
  rw [read_embed_media, read_text_of m.url (hitem (by simp)),
    read_text_of m.proxy_url (hitem (by simp)), read_int_of m.height (hitem (by simp)),
    read_int_of m.width (hitem (by simp))]
  rfl

/-- Both tests are of the name, so that a URL alone is lost. -/
theorem read_embed_provider_add (p : EmbedProvider) :
    read_embed_provider (embed_add_provider p) =
      { p.plain with url := if p.name.isSome then p.url.map CStr.plain else none } := by
  have hitem : ∀ {name item}, (name, item) ∈ _ →
      cJSON_GetObjectItem (embed_add_provider p) name = item :=
    getObjectItem_object (.of_keys ["name", "url"] (by decide) rfl)
  have hname : read_text (embed_add_provider p) "name" = p.name.map CStr.plain :=
    read_text_of p.name (hitem (by simp))
  -- the url is written under the name only
  have hurl : read_text (embed_add_provider p) "url" =
      if p.name.isSome then p.url.map CStr.plain else none := by
    have hu : cJSON_GetObjectItem (embed_add_provider p) "url" =
        if p.name.isSome then cJSON_CreateString p.url else none := hitem (by simp)
    rw [read_text, hu]
    split
    · rw [isString_createString, Option.map_map]
      rfl
    · rfl
  rw [read_embed_provider, hname, hurl]
  rfl

theorem read_embed_author_add (a : EmbedAuthor) :
    read_embed_author (embed_add_author a) = a.plain := by
  have hitem : ∀ {name item}, (name, item) ∈ _ →
      cJSON_GetObjectItem (embed_add_author a) name = item :=
    getObjectItem_object (.of_keys ["name", "url", "icon_url", "proxy_icon_url"] (by decide) rfl)
  rw [read_embed_author, read_text_of a.name (hitem (by simp)),
    read_text_of a.url (hitem (by simp)), read_text_of a.icon_url (hitem (by simp)),
    read_text_of a.proxy_icon_url (hitem (by simp))]
  rfl

theorem read_embed_field_add (f : EmbedField) :
    read_embed_field (embed_add_field f) = f.plain := by
  have hitem : ∀ {name item}, (name, item) ∈ _ →
      cJSON_GetObjectItem (embed_add_field f) name = item :=
    getObjectItem_object (.of_keys ["name", "value", "inline"] (by decide) rfl)
  rw [read_embed_field, read_text_of f.name (hitem (by simp)),
    read_text_of f.value (hitem (by simp)), json_bool_of (b := f._inline) (hitem (by simp))]
  rfl

/-- No provider has a URL but no name. -/
def Embed.Named (e : Embed) : Prop := ∀ p ∈ e.provider, p.name = none → p.url = none

theorem read_provider_iff (p : EmbedProvider) :
    read_embed_provider (embed_add_provider p) = p.plain ↔ (p.name = none → p.url = none) := by
  rw [read_embed_provider_add]
  exact provider_plain_iff p

theorem read_fields (e : Embed) :
    (cJSON_ArrayItems (cJSON_GetObjectItem (create_embed_json e) "fields")).map read_embed_field =
      e.fields.items.map EmbedField.plain := by
  have hitem : cJSON_GetObjectItem (create_embed_json e) "fields" =
      cJSON_array e.fields embed_add_field := embed_item (by simp [embed_members])
  rw [hitem, arrayItems_array, List.map_map]
  exact List.map_congr_left fun f _ => read_embed_field_add f

/-- What the JSON of an embed says. -/
theorem read_embed_create_iff (e : Embed) :
    read_embed (create_embed_json e) = e.plain ↔ e.Named := by
  -- the provider is the one pointer that can lose something
  have hfooter := pointer_back_iff e "footer" e.footer (by simp [embed_members])
    fun f _ => iff_true_intro (read_embed_footer_add f)
  have himage := pointer_back_iff e "image" e.image (by simp [embed_members])
    fun m _ => iff_true_intro (read_embed_media_add m)
  have hthumbnail := pointer_back_iff e "thumbnail" e.thumbnail (by simp [embed_members])
    fun m _ => iff_true_intro (read_embed_media_add m)
  have hvideo := pointer_back_iff e "video" e.video (by simp [embed_members])
    fun m _ => iff_true_intro (read_embed_media_add m)
  have hprovider := pointer_back_iff e "provider" e.provider (by simp [embed_members])
    fun p _ => read_provider_iff p
  have hauthor := pointer_back_iff e "author" e.author (by simp [embed_members])
    fun a _ => iff_true_intro (read_embed_author_add a)
  have htext : ∀ name s, (name, cJSON_CreateString s) ∈ embed_members e →
      read_text (create_embed_json e) name = s.map CStr.plain :=
    fun name s hm => read_text_of s (embed_item hm)
  have hcolor : read_int (create_embed_json e) "color" = some e.color :=
    read_int_of e.color (embed_item (by simp [embed_members]))
  rw [read_embed, Embed.plain, Embed.mk.injEq, read_fields, hfooter, himage, hthumbnail, hvideo,
    hprovider, hauthor, hcolor, htext "title" e.title (by simp [embed_members]),
    htext "type" e.type (by simp [embed_members]),
    htext "description" e.description (by simp [embed_members]),
    htext "url" e.url (by simp [embed_members]),
    htext "timestamp" e.timestamp (by simp [embed_members])]
  simp [Embed.Named]

/-! ### Identifiers -/

/-- The identifier has at most 19 digits. -/
def IdFits (id : UInt64) : Prop := id.toNat < 10 ^ 19

theorem id_json_isSome_iff (id : UInt64) : (id_json id).isSome = true ↔ IdFits id := by
  rw [id_json, Option.isSome_map]
  exact sprintf_format_ju_isSome (by decide) id

/-- What is written is the number in decimal. -/
theorem id_json_eq_some {id : UInt64} {item : CJson} (h : id_json id = some item) :
    item = .string (format_ju id) := by
  obtain ⟨text, htext, rfl⟩ := Option.map_eq_some_iff.mp h
  unfold sprintf at htext
  split at htext
  · exact congrArg CJson.string (Option.some.inj htext).symm
  · cases htext

theorem read_ju_id_json {id : UInt64} {item : CJson} (h : id_json id = some item) :
    read_ju item = id := by
  rw [id_json_eq_some h]
  exact strtoull_format_ju id

theorem ids_isSome_iff (ids : List UInt64) :
    (ids.mapM id_json).isSome = true ↔ ∀ id ∈ ids, IdFits id :=
  mapM_isSome_iff.trans (forall₂_congr fun id _ => id_json_isSome_iff id)

theorem read_ids_of {data : CJson} {name : String} (ids : List UInt64) {items : List CJson}
    (h : cJSON_GetObjectItem data name = array_item items)
    (hitems : ids.mapM id_json = some items) : read_ids data name = ids := by
  rw [read_ids, h, arrayItems_array_item, map_of_mapM (g := id) (fun _ _ => read_ju_id_json) hitems,
    List.map_id]

/-! ### Mentions and references -/

def AllowedMentions.Fits (m : AllowedMentions) : Prop :=
  (∀ id ∈ m.roles, IdFits id) ∧ ∀ id ∈ m.users, IdFits id

theorem create_allowed_mentions_isSome_iff (m : AllowedMentions) :
    (create_allowed_mentions m).isSome = true ↔ m.Fits := by
  unfold AllowedMentions.Fits create_allowed_mentions
  rw [← ids_isSome_iff, ← ids_isSome_iff]
  cases m.roles.mapM id_json <;> cases m.users.mapM id_json <;> simp

/-- What is written of the mentions, and under which keys. -/
theorem allowed_mentions_members {m : AllowedMentions} {item : CJson}
    (h : create_allowed_mentions m = some item) :
    ∃ roles users, m.roles.mapM id_json = some roles ∧ m.users.mapM id_json = some users ∧
      cJSON_GetObjectItem item "roles" = array_item roles ∧
      cJSON_GetObjectItem item "users" = array_item users ∧
      cJSON_GetObjectItem item "replied_user" = cJSON_CreateBool m.replied_user ∧
      cJSON_GetObjectItem item "parse" = some (.array
        (((if m.parse_role_mentions ≠ 0 then ["roles"] else []) ++
          (if m.parse_user_mentions ≠ 0 then ["users"] else []) ++
            if m.parse_everyone_mentions ≠ 0 then ["everyone"] else []).map .string)) := by
  obtain ⟨roles, hroles, h⟩ := Option.bind_eq_some_iff.mp h
  obtain ⟨users, husers, h⟩ := Option.bind_eq_some_iff.mp h
  have hitem : ∀ {name value}, (name, value) ∈ _ → cJSON_GetObjectItem (some item) name = value :=
    getObjectItem_of_eq (Option.some.inj h)
      (.of_keys ["parse", "roles", "users", "replied_user"] (by decide) rfl)
  exact ⟨roles, users, hroles, husers, hitem (by simp), hitem (by simp), hitem (by simp),
    hitem (List.mem_cons_self ..)⟩

theorem read_allowed_mentions_create {m : AllowedMentions} {item : CJson}
    (h : create_allowed_mentions m = some item) : read_allowed_mentions item = m.meaning := by
  obtain ⟨roles, users, hroles, husers, hr, hu, hreplied, hparse⟩ := allowed_mentions_members h
  have hbool : _d_get_bool_from_json item "replied_user" false = m.replied_user :=
    json_bool_of hreplied
  rw [read_allowed_mentions, hbool, read_ids_of m.roles hr hroles, read_ids_of m.users hu husers,
    hparse]
  -- the texts in `parse` are those of the flags that are set
  simp only [cJSON_ArrayItems, AllowedMentions.meaning]
  by_cases hr : m.parse_role_mentions = 0 <;> by_cases hu : m.parse_user_mentions = 0 <;>
    by_cases he : m.parse_everyone_mentions = 0 <;>
      simp [hr, hu, he, CJson.children, CJson.valuestring]

def MessageReference.Fits (ref : MessageReference) : Prop :=
  IdFits ref.message_id ∧ IdFits ref.channel_id ∧ IdFits ref.guild_id

theorem reference_item_isSome_iff (id : UInt64) :
    (reference_item id).isSome = true ↔ IdFits id := by
  unfold reference_item
  split
  next => rw [Option.isSome_map, id_json_isSome_iff]
  next hid =>
    rw [Decidable.not_not.mp hid]
    exact iff_of_true rfl (by simp [IdFits])

/-- An identifier that was not written is 0. -/
theorem read_reference_item {id : UInt64} {item : Option CJson}
    (h : reference_item id = some item) : (item.map read_ju).getD 0 = id := by
  unfold reference_item at h
  split at h
  next =>
    obtain ⟨c, hc, rfl⟩ := Option.map_eq_some_iff.mp h
    exact read_ju_id_json hc
  next hid =>
    cases h
    exact (Decidable.not_not.mp hid).symm

theorem create_message_reference_isSome_iff (ref : MessageReference) :
    (create_message_reference ref).isSome = true ↔ ref.Fits := by
  unfold MessageReference.Fits create_message_reference
  rw [← reference_item_isSome_iff, ← reference_item_isSome_iff, ← reference_item_isSome_iff]
  cases reference_item ref.message_id <;> cases reference_item ref.channel_id <;>
    cases reference_item ref.guild_id <;> simp

/-- The members of a reference that is written. -/
theorem message_reference_members {ref : MessageReference} {item : CJson}
    (h : create_message_reference ref = some item) :
    reference_item ref.message_id = some (cJSON_GetObjectItem item "message_id") ∧
      reference_item ref.channel_id = some (cJSON_GetObjectItem item "channel_id") ∧
      reference_item ref.guild_id = some (cJSON_GetObjectItem item "guild_id") ∧
      _d_get_bool_from_json item "fail_if_not_exists" false = ref.fail_if_not_exists := by
  obtain ⟨message_id, hmessage, h⟩ := Option.bind_eq_some_iff.mp h
  obtain ⟨channel_id, hchannel, h⟩ := Option.bind_eq_some_iff.mp h
  obtain ⟨guild_id, hguild, h⟩ := Option.bind_eq_some_iff.mp h
  have hitem : ∀ {name value}, (name, value) ∈ _ → cJSON_GetObjectItem (some item) name = value :=
    getObjectItem_of_eq (Option.some.inj h)
      (.of_keys ["message_id", "channel_id", "guild_id", "fail_if_not_exists"] (by decide) rfl)
  have hids : cJSON_GetObjectItem item "message_id" = message_id ∧
      cJSON_GetObjectItem item "channel_id" = channel_id ∧
      cJSON_GetObjectItem item "guild_id" = guild_id :=
    ⟨hitem (by simp), hitem (by simp), hitem (by simp)⟩
  rw [hids.1, hids.2.1, hids.2.2]
  exact ⟨hmessage, hchannel, hguild, json_bool_of (hitem (by simp))⟩

theorem read_message_reference_create {ref : MessageReference} {item : CJson}
    (h : create_message_reference ref = some item) : read_message_reference item = ref.plain := by
  obtain ⟨hmessage, hchannel, hguild, hfail⟩ := message_reference_members h
  rw [read_message_reference, hfail, read_reference_item hmessage, read_reference_item hchannel,
    read_reference_item hguild]
  rfl

theorem read_attachment_json (a : Attachment) (i : Nat) :
    read_attachment (attachment_json a i) =
      ((i : Int), a.description.map CStr.plain, a.filename.map CStr.plain) := by
  have hitem : ∀ {name item}, (name, item) ∈ _ →
      cJSON_GetObjectItem (attachment_json a i) name = item :=
    getObjectItem_object (.of_keys ["id", "description", "filename"] (by decide) rfl)
  rw [read_attachment, read_int_of i (hitem (by simp)),
    read_text_of a.description (hitem (by simp)), read_text_of a.filename (hitem (by simp))]
  rfl

/-! ### The message -/

/-- Every identifier of the message has at most 19 digits. -/
structure CreateMessage.Fits (m : CreateMessage) : Prop where
  sticker_ids : ∀ id ∈ m.sticker_ids, IdFits id
  allowed_mentions : ∀ a ∈ m.allowed_mentions, a.Fits
  message_reference : ∀ ref ∈ m.message_reference, ref.Fits

theorem create_message_isSome_iff (content : Option String) (m : CreateMessage) :
    (_d_create_message_to_json [] content (some m)).isSome = true ↔ m.Fits := by
  have hstickers := ids_isSome_iff m.sticker_ids
  have hmentions := (option_mapM_isSome_iff (o := m.allowed_mentions)).trans
    (forall₂_congr fun a _ => create_allowed_mentions_isSome_iff a)
  have hreference := (option_mapM_isSome_iff (o := m.message_reference)).trans
    (forall₂_congr fun ref _ => create_message_reference_isSome_iff ref)
  -- the ids of these three are all that is printed to buffers of a fixed size
  constructor
  · intro h
    obtain ⟨json, h⟩ := Option.isSome_iff_exists.mp h
    obtain ⟨allowed_mentions, ham, h⟩ := Option.bind_eq_some_iff.mp h
    obtain ⟨message_reference, hmr, h⟩ := Option.bind_eq_some_iff.mp h
    obtain ⟨sticker_ids, hsi, -⟩ := Option.bind_eq_some_iff.mp h
    exact ⟨hstickers.mp (Option.isSome_of_eq_some hsi),
      hmentions.mp (Option.isSome_of_eq_some ham), hreference.mp (Option.isSome_of_eq_some hmr)⟩
  · intro h
    obtain ⟨sticker_ids, hsi⟩ := Option.isSome_iff_exists.mp (hstickers.mpr h.sticker_ids)
    obtain ⟨allowed_mentions, ham⟩ :=
      Option.isSome_iff_exists.mp (hmentions.mpr h.allowed_mentions)
    obtain ⟨message_reference, hmr⟩ :=
      Option.isSome_iff_exists.mp (hreference.mpr h.message_reference)
    rw [_d_create_message_to_json, ham, hmr, hsi]
    rfl

theorem isString_content_item (content : Option String) :
    cJSON_IsString (content_item content) = content.filter fun s => s ≠ "" := by
  unfold content_item
  cases content.filter fun s => s ≠ "" <;> rfl

theorem read_flags {data : CJson} (flags : Int)
    (h : cJSON_GetObjectItem data "flags" = flags_item flags) :
    read_int data "flags" = if flags ≠ 0 then some flags else none := by
  unfold flags_item at h
  split at h
  next hflags => rw [read_int_of flags h, if_pos hflags]
  next hflags =>
    rw [read_int, h, if_neg hflags]
    rfl

/-- `tts` under a key that is never written. -/
theorem read_tts {members : List (String × Option CJson)}
    (h : ∀ m ∈ members, CJson.fold_key "tts" ≠ CJson.fold_key m.1) :
    _d_get_bool_from_json (cJSON_object members) "tts" false = false := by
  rw [_d_get_bool_from_json, getObjectItem_object_none h]
  rfl

/-- The keys of a message, in order. -/
def message_keys : List String :=
  ["content", "embeds", "allowed_mentions", "message_reference", "sticker_ids", "attachments",
    "flags"]

theorem message_keys_distinct : (message_keys.map CJson.fold_key).Nodup := by decide

theorem read_attachments {data : CJson} (attachments : List Attachment)
    (h : cJSON_GetObjectItem data "attachments" =
      array_item (attachments.zipIdx.map fun (a, i) => attachment_json a i)) :
    (cJSON_ArrayItems (cJSON_GetObjectItem data "attachments")).map read_attachment =
      attachments.zipIdx.map fun (a, i) =>
        ((i : Int), a.description.map CStr.plain, a.filename.map CStr.plain) := by
  rw [h, arrayItems_array_item, List.map_map]
  exact List.map_congr_left fun (a, i) _ => read_attachment_json a i

/-- **What a JSON says**: all that the message says, but for `tts`, and of
    each embed what its own JSON says. -/
theorem read_message_create {content : Option String} {m : CreateMessage}
    {json : List (String × Option CJson)}
    (h : _d_create_message_to_json [] content (some m) = some json) :
    read_message (cJSON_object json) =
      { message_meaning content m with
        tts := false
        embeds := m.all_embeds.map fun e => read_embed (create_embed_json e) } := by
  obtain ⟨allowed_mentions, hmentions, h⟩ := Option.bind_eq_some_iff.mp h
  obtain ⟨message_reference, hreference, h⟩ := Option.bind_eq_some_iff.mp h
  obtain ⟨sticker_ids, hstickers, h⟩ := Option.bind_eq_some_iff.mp h
  have hjson := Option.some.inj h
  have hkeys : json.map Prod.fst = message_keys := by
    rw [← hjson]
    rfl
  -- no member is called "tts", so the default is read
  have htts : _d_get_bool_from_json (cJSON_object json) "tts" false = false := by
    refine read_tts fun m hm => ?_
    have hne : ∀ key ∈ message_keys, CJson.fold_key "tts" ≠ CJson.fold_key key := by decide
    exact hne m.1 (hkeys ▸ List.mem_map_of_mem hm)
  have hitem : ∀ {name item}, (name, item) ∈ _ →
      cJSON_GetObjectItem (cJSON_object json) name = item :=
    getObjectItem_of_eq (congrArg cJSON_object hjson)
      (.of_keys message_keys message_keys_distinct rfl)
  have hembeds : (cJSON_ArrayItems (cJSON_GetObjectItem (cJSON_object json) "embeds")).map
      read_embed = m.all_embeds.map fun e => read_embed (create_embed_json e) := by
    have he : cJSON_GetObjectItem (cJSON_object json) "embeds" =
        array_item (m.all_embeds.map create_embed_json) := hitem (by simp)
    rw [he, arrayItems_array_item, List.map_map]
    rfl
  have hcontent : cJSON_GetObjectItem (cJSON_object json) "content" = content_item content :=
    hitem (by simp)
  have hpointers :
      cJSON_GetObjectItem (cJSON_object json) "allowed_mentions" = allowed_mentions ∧
        cJSON_GetObjectItem (cJSON_object json) "message_reference" = message_reference :=
    ⟨hitem (by simp), hitem (by simp)⟩
  rw [read_message, htts, hembeds, read_attachments m.attachments (hitem (by simp)),
    read_flags m.flags (hitem (by simp)), read_ids_of m.sticker_ids (hitem (by simp)) hstickers,
    hcontent, isString_content_item, hpointers.1, hpointers.2,
    map_of_option_mapM (fun _ _ => read_allowed_mentions_create) hmentions,
    map_of_option_mapM (fun _ _ => read_message_reference_create) hreference]
  rfl

/-- What has to hold of a message to be determined by its JSON. -/
structure Determined (m : CreateMessage) : Prop where
  tts : m.tts = false
  embeds : ∀ e ∈ m.all_embeds, e.Named
  fits : m.Fits

theorem faithful_iff (content : Option String) (m : CreateMessage) :
    Faithful content m ↔ Determined m := by
  have hsome := create_message_isSome_iff content m
  -- a body that is written says everything but `tts` and unnamed providers
  have hsay : ∀ json, _d_create_message_to_json [] content (some m) = some json →
      (read_message (cJSON_object json) = message_meaning content m ↔
        m.tts = false ∧ ∀ e ∈ m.all_embeds, e.Named) := by
    intro json h
    rw [read_message_create h, message_meaning, MessageMeaning.mk.injEq, List.map_inj_left]
    simp only [read_embed_create_iff, eq_comm (a := false), and_true, true_and]
  unfold Faithful
  cases hjson : _d_create_message_to_json [] content (some m) with
  | none =>
    rw [hjson] at hsome
    exact iff_of_false nofun fun h => nomatch hsome.mpr h.fits
  | some json =>
    rw [hjson] at hsome
    rw [Option.map_some, Option.some.injEq, hsay json hjson]
    exact ⟨fun h => ⟨h.1, h.2, hsome.mp rfl⟩, fun h => ⟨h.tts, h.embeds⟩⟩

/-- **Faithful encoding**: the JSON says what the message says exactly when
    the message has no `tts`, no provider with a URL and no name, and no
    identifier of 20 digits; and two such messages with the same JSON say
    the same. -/
theorem faithful_iff_determined (content : Option String) (m : CreateMessage) :
    (Faithful content m ↔ Determined m) ∧
      (Determined m → ∀ content' m', Determined m' →
        _d_create_message_to_json [] content (some m) =
          _d_create_message_to_json [] content' (some m') →
        message_meaning content m = message_meaning content' m') := by
  refine ⟨faithful_iff content m, fun h content' m' h' heq => ?_⟩
  have hm : Faithful content m := (faithful_iff content m).mpr h
  have hm' : Faithful content' m' := (faithful_iff content' m').mpr h'
  unfold Faithful at hm hm'
  rw [heq, hm'] at hm
  exact (Option.some.inj hm).symm

/-- A message that is to be read aloud, and nothing else. -/
def tts_message : CreateMessage where
  tts := true
  embed := none
  embeds := []
  allowed_mentions := none
  message_reference := none
  sticker_ids := []
  attachments := []
  flags := 0

/-- `tts` is lost: the message has the JSON of one without it. -/
theorem tts_lost : ¬ Faithful (some "hi") tts_message ∧
    _d_create_message_to_json [] (some "hi") (some tts_message) =
      _d_create_message_to_json [] (some "hi") (some { tts_message with tts := false }) := by
  refine ⟨fun h => ?_, rfl⟩
  have hdetermined := (faithful_iff _ _).mp h
  cases hdetermined.tts

end DiscoC
