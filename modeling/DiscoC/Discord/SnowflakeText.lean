import DiscoC.Discord.CommandJson

/-! # Identifiers as texts

  The identifiers of a message and the version of a command are printed with
  `%ju` into arrays of 20 bytes and put into the JSON as texts, from which
  `_d_get_long_from_string_json` reads them. What is read is always what was
  printed; a number of 20 digits does not fit with its null.

  * `sprintf_ju_total_iff`: every `uint64_t` fits from 21 bytes on.
  * `snowflakes_round_trip_iff`: the identifiers are written and read back
    exactly when all of them have at most 19 digits.
-/

namespace DiscoC

/-! ### One identifier -/

/-- Every `uint64_t` can be printed when the array holds 20 digits and the
    null. -/
theorem sprintf_ju_total_iff {size : Nat} (hsize : 1 < size) :
    (∀ id, (sprintf size (format_ju id)).isSome = true) ↔ 21 ≤ size := by
  constructor
  · intro h
    -- the largest number has 20 digits
    have hmax := (sprintf_format_ju_isSome hsize (UInt64.ofNat (2 ^ 64 - 1))).mp (h _)
    have hnat : (UInt64.ofNat (2 ^ 64 - 1)).toNat = 2 ^ 64 - 1 := by decide
    rw [hnat] at hmax
    by_contra hlt
    have hpow : 10 ^ (size - 1) ≤ 10 ^ 19 := Nat.pow_le_pow_right (by decide) (by omega)
    have : 10 ^ 19 ≤ 2 ^ 64 - 1 := by decide
    omega
  · intro h id
    rw [sprintf_format_ju_isSome hsize]
    have hid : id.toNat < 2 ^ 64 := id.toNat_lt
    have hpow : 10 ^ 20 ≤ 10 ^ (size - 1) := Nat.pow_le_pow_right (by decide) (by omega)
    have : 2 ^ 64 ≤ 10 ^ 20 := by decide
    omega

/-- `item` is a text that `_d_get_long_from_string_json` reads as `id`,
    whatever member it stands under. -/
def ReadsAs (item : CJson) (id : UInt64) : Prop :=
  ∀ (data : CJson) (name : String) (default_ : UInt64),
    cJSON_GetObjectItem data name = some item →
      _d_get_long_from_string_json data name default_ = id

theorem reads_as_id_json {id : UInt64} {item : CJson} (h : id_json id = some item) :
    ReadsAs item id := by
  intro data name default_ hitem
  unfold _d_get_long_from_string_json
  rw [hitem, id_json_eq_some h]
  exact strtoull_format_ju id

/-- The member `name` of `data` is there if `id` is not 0, and it is read
    as `id`, with 0 for the default. -/
def HasId (data : CJson) (name : String) (id : UInt64) : Prop :=
  ((cJSON_GetObjectItem data name).isSome = true ↔ id ≠ 0) ∧
    _d_get_long_from_string_json data name 0 = id

theorem has_id_of {data : CJson} {name : String} {id : UInt64}
    (h : reference_item id = some (cJSON_GetObjectItem data name)) : HasId data name id := by
  unfold reference_item at h
  split at h
  next hid =>
    obtain ⟨c, hc, hitem⟩ := Option.map_eq_some_iff.mp h
    have hread := reads_as_id_json hc data name 0 hitem.symm
    exact ⟨by rw [← hitem]; exact iff_of_true rfl hid, hread⟩
  next hid =>
    -- a zero is not written, and the default is read
    have hitem := Option.some.inj h
    have hzero : id = 0 := Decidable.not_not.mp hid
    refine ⟨by rw [← hitem]; exact iff_of_false (by decide) hid, ?_⟩
    unfold _d_get_long_from_string_json
    rw [← hitem, hzero]
    rfl

/-! ### Lists of identifiers -/

/-- The texts listed under `name` are read as `ids`, in order. -/
def ListsIds (data : CJson) (name : String) (ids : List UInt64) : Prop :=
  List.Forall₂ ReadsAs (cJSON_ArrayItems (cJSON_GetObjectItem data name)) ids

theorem lists_ids_of {data : CJson} {name : String} {ids : List UInt64} {items : List CJson}
    (hitem : cJSON_GetObjectItem data name = array_item items)
    (h : ids.mapM id_json = some items) : ListsIds data name ids := by
  unfold ListsIds
  rw [hitem, arrayItems_array_item]
  exact forall₂_of_mapM (fun id item => reads_as_id_json) h

/-! ### The sites -/

/-- The roles and the users are printed and read back. -/
def MentionsRoundTrip (m : AllowedMentions) : Prop :=
  ∃ item, create_allowed_mentions m = some item ∧
    ListsIds item "roles" m.roles ∧ ListsIds item "users" m.users

theorem mentions_listed {m : AllowedMentions} {item : CJson}
    (h : create_allowed_mentions m = some item) :
    ListsIds item "roles" m.roles ∧ ListsIds item "users" m.users := by
  obtain ⟨roles, users, hroles, husers, hr, hu, -⟩ := allowed_mentions_members h
  exact ⟨lists_ids_of hr hroles, lists_ids_of hu husers⟩

theorem mentions_round_trip_iff (m : AllowedMentions) : MentionsRoundTrip m ↔ m.Fits := by
  rw [← create_allowed_mentions_isSome_iff]
  exact exists_eq_some_and_iff fun item => mentions_listed

/-- `decoded` has the identifiers of `ref`. -/
def SameIds (ref decoded : MessageReference) : Prop :=
  decoded.message_id = ref.message_id ∧ decoded.channel_id = ref.channel_id ∧
    decoded.guild_id = ref.guild_id

/-- The identifiers that are not 0 are printed, and
    `_d_json_to_message_reference` returns all three. -/
def ReferenceRoundTrips (ref : MessageReference) : Prop :=
  ∃ item, create_message_reference ref = some item ∧
    (HasId item "message_id" ref.message_id ∧ HasId item "channel_id" ref.channel_id ∧
      HasId item "guild_id" ref.guild_id) ∧
    ∀ n, ∃ decoded log, (_d_json_to_message_reference item).run n = some (decoded, log) ∧
      SameIds ref decoded

theorem reference_written {ref : MessageReference} {item : CJson}
    (h : create_message_reference ref = some item) :
    HasId item "message_id" ref.message_id ∧ HasId item "channel_id" ref.channel_id ∧
      HasId item "guild_id" ref.guild_id := by
  obtain ⟨hmessage, hchannel, hguild, -⟩ := message_reference_members h
  exact ⟨has_id_of hmessage, has_id_of hchannel, has_id_of hguild⟩

/-- What was written is read back. -/
theorem reference_read {ref : MessageReference} {item : CJson}
    (h : create_message_reference ref = some item) (n : Nat) :
    ∃ decoded log, (_d_json_to_message_reference item).run n = some (decoded, log) ∧
      SameIds ref decoded := by
  have hids := reference_written h
  unfold _d_json_to_message_reference
  rw [Mem.run_bind, Mem.run_alloc]
  exact ⟨_, _, rfl, hids.1.2, hids.2.1.2, hids.2.2.2⟩

theorem reference_round_trips_iff (ref : MessageReference) :
    ReferenceRoundTrips ref ↔ ref.Fits := by
  rw [← create_message_reference_isSome_iff]
  exact exists_eq_some_and_iff fun item h => ⟨reference_written h, reference_read h⟩

/-- The message is written, and so is what it says of stickers, mentions and
    the message it refers to. -/
def MessageRoundTrips (content : Option String) (m : CreateMessage) : Prop :=
  ∃ json, _d_create_message_to_json [] content (some m) = some json ∧
    ListsIds (cJSON_object json) "sticker_ids" m.sticker_ids ∧
    (∀ a ∈ m.allowed_mentions, MentionsRoundTrip a ∧
      cJSON_GetObjectItem (cJSON_object json) "allowed_mentions" = create_allowed_mentions a) ∧
    ∀ ref ∈ m.message_reference, ReferenceRoundTrips ref ∧
      cJSON_GetObjectItem (cJSON_object json) "message_reference" = create_message_reference ref

theorem message_round_trips_of {content : Option String} {m : CreateMessage}
    {json : List (String × Option CJson)}
    (hjson : _d_create_message_to_json [] content (some m) = some json) (hfits : m.Fits) :
    MessageRoundTrips content m := by
  obtain ⟨allowed_mentions, hmentions, h⟩ := Option.bind_eq_some_iff.mp hjson
  obtain ⟨message_reference, hreference, h⟩ := Option.bind_eq_some_iff.mp h
  obtain ⟨sticker_ids, hstickers, h⟩ := Option.bind_eq_some_iff.mp h
  have hitem : ∀ {name value}, (name, value) ∈ _ →
      cJSON_GetObjectItem (cJSON_object json) name = value :=
    getObjectItem_of_eq (congrArg cJSON_object (Option.some.inj h))
      (.of_keys message_keys message_keys_distinct rfl)
  refine ⟨json, hjson, lists_ids_of (hitem (by simp)) hstickers, ?_, ?_⟩
  · intro a ha
    have hwritten := write_of_option_mapM hmentions ha
    refine ⟨(mentions_round_trip_iff a).mpr (hfits.allowed_mentions a ha), ?_⟩
    rw [hwritten]
    exact hitem (by simp)
  · intro ref href
    have hwritten := write_of_option_mapM hreference href
    refine ⟨(reference_round_trips_iff ref).mpr (hfits.message_reference ref href), ?_⟩
    rw [hwritten]
    exact hitem (by simp)

theorem message_round_trips_iff (content : Option String) (m : CreateMessage) :
    MessageRoundTrips content m ↔ m.Fits := by
  have hwritten := create_message_isSome_iff content m
  constructor
  · intro h
    obtain ⟨json, hjson, -⟩ := h
    exact hwritten.mp (Option.isSome_of_eq_some hjson)
  · intro hfits
    obtain ⟨json, hjson⟩ := Option.isSome_iff_exists.mp (hwritten.mpr hfits)
    exact message_round_trips_of hjson hfits

/-- The version is printed unless it is 0, and is read back from the JSON of
    the command. -/
def VersionRoundTrips (c : ApplicationCommand) : Prop :=
  ∃ item, version_item c.version = some item ∧
    HasId (cJSON_object [("version", item)]) "version" c.version ∧
    ∀ json, format_json c = some (0, json) → HasId (cJSON_object json) "version" c.version

theorem version_written {c : ApplicationCommand} {json : List (String × Option CJson)}
    (h : format_json c = some (0, json)) : HasId (cJSON_object json) "version" c.version := by
  obtain ⟨-, version, hversion, hjson⟩ := format_json_eq_some.mp h
  have hmember : cJSON_GetObjectItem (cJSON_object json) "version" = version :=
    getObjectItem_of_eq (congrArg cJSON_object hjson)
      (.of_keys command_keys command_keys_distinct rfl) (by simp)
  rw [version_item_eq, ← hmember] at hversion
  exact has_id_of hversion

theorem version_round_trips_iff (c : ApplicationCommand) :
    VersionRoundTrips c ↔ IdFits c.version := by
  rw [← reference_item_isSome_iff c.version, ← version_item_eq]
  refine exists_eq_some_and_iff fun item hitem => ⟨?_, fun json hjson => version_written hjson⟩
  have hmember : cJSON_GetObjectItem (cJSON_object [("version", item)]) "version" = item :=
    getObjectItem_object (.of_keys ["version"] (by decide) rfl) (by simp)
  rw [version_item_eq, ← hmember] at hitem
  exact has_id_of hitem

/-- **Round trip.** The identifiers of a reference, of the mentions, of a
    whole message and the version of a command are printed within their
    arrays and read back exactly when each has at most 19 digits. -/
theorem snowflakes_round_trip_iff (ref : MessageReference) (mentions : AllowedMentions)
    (content : Option String) (message : CreateMessage) (command : ApplicationCommand) :
    (ReferenceRoundTrips ref ↔ ref.Fits) ∧ (MentionsRoundTrip mentions ↔ mentions.Fits) ∧
      (MessageRoundTrips content message ↔ message.Fits) ∧
      (VersionRoundTrips command ↔ IdFits command.version) :=
  ⟨reference_round_trips_iff ref, mentions_round_trip_iff mentions,
    message_round_trips_iff content message, version_round_trips_iff command⟩

/-- The first number of 20 digits overflows the array. -/
theorem long_snowflake_overflows :
    create_message_reference ⟨0, 10000000000000000000, 0, 0, false⟩ = none ∧
      ¬ ReferenceRoundTrips ⟨0, 10000000000000000000, 0, 0, false⟩ := by
  have hlong : ¬ MessageReference.Fits ⟨0, 10000000000000000000, 0, 0, false⟩ := by
    intro hfits
    exact absurd hfits.1 (by unfold IdFits; decide)
  have hnone := mt (create_message_reference_isSome_iff _).mp hlong
  exact ⟨Option.not_isSome_iff_eq_none.mp hnone, mt (reference_round_trips_iff _).mp hlong⟩

end DiscoC
