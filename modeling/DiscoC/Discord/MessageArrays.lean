import DiscoC.Discord.ArrayDecoding
import DiscoC.Discord.MessageOwnership

/-! # The arrays of a decoded message

  A message has nine arrays. Eight of them are decoded completely: as many
  items as the document has, and each of them decoded. The embeds are never
  decoded, although they are copied and destroyed. So all nine are complete
  exactly when the document has no embeds (`arrays_decoded_iff`).
-/

namespace DiscoC

open Mem

/-- The routine that the `mention_channels` are decoded by. -/
def decode_mention_channel (cur : CJson) : CMem (Channel ⊕ ChannelMention) := do
  let mention ← _d_json_to_channel_mention cur
  pure (.inr mention)

/-- The arrays of a message that are read from its document. -/
structure ReadArraysDecoded (data : CJson) (m : Message) : Prop where
  mentions : ArrayDecoded (cJSON_GetObjectItem data "mentions")
    (fun cur => _d_json_to_member cur none) m.mentions
  mention_roles : ArrayDecoded (cJSON_GetObjectItem data "mention_roles") read_id m.mention_roles
  mention_channels : ArrayDecoded (cJSON_GetObjectItem data "mention_channels")
    decode_mention_channel m.mention_channels
  attachments : ArrayDecoded (cJSON_GetObjectItem data "attachments") _d_json_to_attachment
    m.attachments
  reactions : ArrayDecoded (cJSON_GetObjectItem data "reactions") _d_json_to_reaction m.reactions
  components : ArrayDecoded (cJSON_GetObjectItem data "components") _d_json_to_component
    m.components
  sticker_items : ArrayDecoded (cJSON_GetObjectItem data "sticker_items") _d_json_to_sticker_item
    m.sticker_items
  stickers : ArrayDecoded (cJSON_GetObjectItem data "stickers") _d_json_to_sticker m.stickers

/-- All arrays of a message are as its document says. -/
structure ArraysDecoded (data : CJson) (m : Message) : Prop extends ReadArraysDecoded data m where
  embeds : ArrayDecoded (cJSON_GetObjectItem data "embeds") _d_json_to_embed m.embeds

/-! ### What is read -/

/-- Eight arrays are decoded completely, and there are no embeds. -/
theorem message_arrays (data : CJson) :
    (_d_json_to_message data).Ensures fun m => ReadArraysDecoded data m ∧ m.embeds = .null := by
  rw [_d_json_to_message]
  -- the author and the texts
  refine Ensures.skip fun address => Ensures.skip fun user => Ensures.skip fun member => ?_
  refine Ensures.skip fun content => Ensures.skip fun content => Ensures.skip fun timestamp => ?_
  refine (array_decoded _ fun cur => _d_json_to_member cur none).bind fun mentions hmentions => ?_
  refine (array_decoded _ read_id).bind fun mention_roles hmention_roles => ?_
  refine (array_decoded _ decode_mention_channel).bind fun mention_channels hchannels => ?_
  refine (array_decoded _ _d_json_to_attachment).bind fun attachments hattachments => ?_
  refine (array_decoded _ _d_json_to_reaction).bind fun reactions hreactions => ?_
  -- what the message points to
  refine Ensures.skip fun nonce => Ensures.skip fun activity => Ensures.skip fun application => ?_
  refine Ensures.skip fun reference => Ensures.skip fun referenced_message => ?_
  refine Ensures.skip fun interaction => ?_
  refine (array_decoded _ _d_json_to_component).bind fun components hcomponents => ?_
  refine (array_decoded _ _d_json_to_sticker_item).bind fun sticker_items hsticker_items => ?_
  refine (array_decoded _ _d_json_to_sticker).bind fun stickers hstickers => Ensures.pure ⟨?_, rfl⟩
  exact {
    mentions := hmentions
    mention_roles := hmention_roles
    mention_channels := hchannels
    attachments := hattachments
    reactions := hreactions
    components := hcomponents
    sticker_items := hsticker_items
    stickers := hstickers }

theorem no_embeds_decoded_iff (data : CJson) :
    ArrayDecoded (cJSON_GetObjectItem data "embeds") _d_json_to_embed .null ↔
      items data "embeds" = [] := by
  constructor
  · intro h
    exact cJSON_ArrayItems_of_size h.count.symm
  · intro h
    have hsize : cJSON_GetArraySize (cJSON_GetObjectItem data "embeds") = 0 := by
      rw [cJSON_GetArraySize_eq]
      exact List.length_eq_zero_iff.mpr h
    exact { count := hsize.symm, item := fun i c a _ ha => absurd ha (by simp [CArray.items]) }

/-- When a message is decoded, all its arrays are exactly if it has no
    embeds. -/
theorem message_embeds_missing (data : CJson) :
    (_d_json_to_message data).Ensures fun m => ArraysDecoded data m ↔ items data "embeds" = [] := by
  refine (message_arrays data).mono fun m h => ?_
  obtain ⟨hread, hembeds⟩ := h
  rw [← no_embeds_decoded_iff, ← hembeds]
  constructor
  · intro hall
    exact hall.embeds
  · intro h
    exact { toReadArraysDecoded := hread, embeds := h }

theorem message_returns (data : CJson) :
    (_d_json_to_message data).Returns
      (message_everywhere message_readable interaction_readable data) :=
  .of_spec (message_owns data)

/-- **The arrays of a message are decoded completely** exactly when it can be
    read at all and has no embeds. -/
theorem arrays_decoded_iff (data : CJson) :
    (_d_json_to_message data).Yields (ArraysDecoded data) ↔
      message_everywhere message_readable interaction_readable data ∧
        items data "embeds" = [] := by
  have hembeds := message_embeds_missing data
  constructor
  · intro h
    obtain ⟨m, log, hrun, hdecoded⟩ := (h 0).1 trivial
    refine ⟨?_, (hembeds 0 m log hrun).mp hdecoded⟩
    exact ((message_returns data).run_iff 0).mp (Option.isSome_of_eq_some hrun)
  · intro h
    obtain ⟨hreadable, hnone⟩ := h
    have hreturns := (message_returns data).congr (iff_true_intro hreadable)
    exact Yields.of_ensures hreturns (hembeds.mono fun m hm => hm.mpr hnone)

/-- A message with an embed. -/
def embed_message : CJson := .object [("embeds", .array [.object []])]

/-- Nothing else is in it. -/
theorem embed_message_readable :
    message_everywhere message_readable interaction_readable embed_message := by
  have hmember : author_item embed_message "member" = none := by rfl
  have hmentions : items embed_message "mentions" = [] := by rfl
  have hroles : items embed_message "mention_roles" = [] := by rfl
  have hreferenced : referenced_item embed_message = none := by rfl
  have hinteraction : cJSON_GetObjectItem embed_message "interaction" = none := by rfl
  rw [message_everywhere_iff, message_readable, hmember, hmentions, hroles, hreferenced,
    hinteraction]
  simp [author_readable]

/-- It is decoded, and without its embed. -/
theorem embed_message_incomplete :
    ¬ (_d_json_to_message embed_message).Yields (ArraysDecoded embed_message) ∧
      (_d_json_to_message embed_message).Yields fun m =>
        m.embeds.count = 0 ∧
          cJSON_GetArraySize (cJSON_GetObjectItem embed_message "embeds") = 1 := by
  have hreturns := (message_returns embed_message).congr (iff_true_intro embed_message_readable)
  have hsize : cJSON_GetArraySize (cJSON_GetObjectItem embed_message "embeds") = 1 := by rfl
  have hmissing : (_d_json_to_message embed_message).Yields fun m =>
      m.embeds.count = 0 ∧
        cJSON_GetArraySize (cJSON_GetObjectItem embed_message "embeds") = 1 := by
    refine (Yields.of_ensures hreturns (message_arrays embed_message)).mono fun m hm => ?_
    refine ⟨?_, hsize⟩
    rw [hm.2]
    rfl
  refine ⟨fun h => ?_, hmissing⟩
  obtain ⟨m, log, -, hdecoded, hcount, -⟩ := ((h.and hmissing) 0).1 trivial
  have heq := hdecoded.embeds.count
  omega

end DiscoC
