import DiscoC.Discord.ComponentCopying
import DiscoC.Discord.CreateMessage

/-! # Copies of messages and interactions

  When the copy of a message that a callback is given is structurally equal
  to the message. What stands in the way of it is a condition on single
  documents; it has to hold of each message and each interaction that is
  copied on the way (`message_preserved_iff`).

  Besides texts that are too long, these are a user of a member that is
  mentioned, which is not copied, channels that are mentioned, which are
  stored as another type than they are copied as, and an application, which
  is not copied at all.
-/

namespace DiscoC

open Mem

/-! ### Structural equality -/

def ChannelMention.plain (mention : ChannelMention) : ChannelMention :=
  { mention with
    address := 0
    name := mention.name.map CStr.plain }

def Application.plain (application : Application) : Application := { application with address := 0 }

/-- A message but for what nests, without addresses. -/
def MessageFields.plain (m : MessageFields) : MessageFields :=
  { m with
    address := 0
    user := m.user.map User.plain
    member := m.member.map Member.plain
    content := m.content.map CStr.plain
    timestamp := m.timestamp.map CStr.plain
    edited_timestamp := m.edited_timestamp.map CStr.plain
    mentions := m.mentions.plain Member.plain
    mention_roles := m.mention_roles.plain fun role => role
    mention_channels := m.mention_channels.plain (Sum.map Channel.plain ChannelMention.plain)
    attachments := m.attachments.plain Attachment.plain
    embeds := m.embeds.plain Embed.plain
    reactions := m.reactions.plain Unimplemented.plain
    nonce := m.nonce.map CStr.plain
    activity := Unimplemented.plain m.activity
    application := m.application.map Application.plain
    message_reference := m.message_reference.map MessageReference.plain
    thread := m.thread.map Channel.plain
    components := m.components.plain Component.plain
    sticker_items := m.sticker_items.plain Unimplemented.plain
    stickers := m.stickers.plain Unimplemented.plain }

/-- An interaction but for its message, without addresses. -/
def InteractionFields.plain (i : InteractionFields) : InteractionFields :=
  { i with
    address := 0
    data := i.data.map InteractionData.plain
    member := i.member.map Member.plain
    user := i.user.map User.plain
    token := i.token.map CStr.plain
    app_permissions := i.app_permissions.map CStr.plain
    locale := i.locale.map CStr.plain
    guild_locale := i.guild_locale.map CStr.plain }

/-- `Option.map`, where the image is only given for what is pointed to. -/
def plain_pointer {α β : Type} (p : Option α) (g : (a : α) → p = some a → β) : Option β :=
  p.pmap (fun a h => g a h) fun _ h => h

@[simp] theorem plain_pointer_eq {α β : Type} (p : Option α) (g : α → β) :
    (plain_pointer p fun a _ => g a) = p.map g :=
  Option.pmap_eq_map _ _ _ _

mutual

def Message.plain (m : Message) : Message :=
  { m.toMessageFields.plain with
    referenced_message := plain_pointer m.referenced_message fun r h =>
      have : sizeOf r < sizeOf m := Message.sizeOf_referenced h
      r.plain
    interaction := plain_pointer m.interaction fun i h =>
      have : sizeOf i < sizeOf m := Message.sizeOf_interaction h
      i.plain }
termination_by sizeOf m

def Interaction.plain (i : Interaction) : Interaction :=
  { i.toInteractionFields.plain with
    message := plain_pointer i.message fun m h =>
      have : sizeOf m < sizeOf i := Interaction.sizeOf_message h
      m.plain }
termination_by sizeOf i

end

theorem Message.plain_eq (m : Message) :
    m.plain = { m.toMessageFields.plain with
      referenced_message := m.referenced_message.map Message.plain
      interaction := m.interaction.map Interaction.plain } := by
  rw [plain, plain_pointer_eq, plain_pointer_eq]

theorem Interaction.plain_eq (i : Interaction) :
    i.plain = { i.toInteractionFields.plain with
      message := i.message.map Message.plain } := by
  rw [plain, plain_pointer_eq]

/-! ### Conditions on documents -/

/-- A member that is mentioned comes without a user of its own. -/
def mention_fits (data : CJson) : Prop :=
  cJSON_GetObjectItem data "user" = none ∧ member_fits data

/-- The texts of a message fit the bounds of `_d_copy_message`, and what it
    has is copied. -/
def message_fits (data : CJson) : Prop :=
  author_fits (author_item data "author") (author_item data "member") ∧
    text_fits data "content" 4096 ∧ text_fits data "timestamp" 50 ∧
    (∀ c ∈ items data "mentions", mention_fits c) ∧ items data "mention_channels" = [] ∧
    (∀ c ∈ items data "attachments", attachment_fits c) ∧ text_fits data "nonce" 200 ∧
    cJSON_GetObjectItem data "application" = none ∧
    ∀ c ∈ items data "components", component_fits c

/-- The texts of an interaction fit the bounds of `_d_copy_interaction`, and
    what it has is copied. -/
def interaction_fits (data : CJson) : Prop :=
  (∀ c, cJSON_GetObjectItem data "data" = some c → interaction_data_fits c) ∧
    author_fits (cJSON_GetObjectItem data "user") (cJSON_GetObjectItem data "member") ∧
    text_fits data "token" 100 ∧ text_fits data "app_permissions" 50 ∧
    text_fits data "locale" 10 ∧ text_fits data "guild_locale" 10

/-- The conditions in the order in which a copy comes upon them. -/
theorem message_copy_order (data : CJson) :
    (author_fits (author_item data "author") (author_item data "member") ∧
      text_fits data "content" 4096 ∧ text_fits data "timestamp" 50 ∧
      (∀ c ∈ items data "mentions", mention_fits c) ∧ items data "mention_channels" = [] ∧
      (∀ c ∈ items data "attachments", attachment_fits c) ∧ text_fits data "nonce" 200 ∧
      cJSON_GetObjectItem data "application" = none ∧
      (∀ c, referenced_item data = some c → message_everywhere message_fits interaction_fits c) ∧
      (∀ c, cJSON_GetObjectItem data "interaction" = some c →
        interaction_everywhere message_fits interaction_fits c) ∧
      ∀ c ∈ items data "components", component_fits c) ↔
    message_everywhere message_fits interaction_fits data := by
  rw [message_everywhere_iff, message_fits]
  constructor
  · intro h
    obtain ⟨hauthor, hcontent, htimestamp, hmentions, hchannels, hattachments, hnonce,
      happlication, hreferenced, hinteraction, hcomponents⟩ := h
    exact ⟨⟨hauthor, hcontent, htimestamp, hmentions, hchannels, hattachments, hnonce,
      happlication, hcomponents⟩, hreferenced, hinteraction⟩
  · intro h
    obtain ⟨⟨hauthor, hcontent, htimestamp, hmentions, hchannels, hattachments, hnonce,
      happlication, hcomponents⟩, hreferenced, hinteraction⟩ := h
    exact ⟨hauthor, hcontent, htimestamp, hmentions, hchannels, hattachments, hnonce,
      happlication, hreferenced, hinteraction, hcomponents⟩

theorem interaction_copy_order (data : CJson) :
    ((∀ c, cJSON_GetObjectItem data "data" = some c → interaction_data_fits c) ∧
      author_fits (cJSON_GetObjectItem data "user") (cJSON_GetObjectItem data "member") ∧
      text_fits data "token" 100 ∧
      (∀ c, cJSON_GetObjectItem data "message" = some c →
        message_everywhere message_fits interaction_fits c) ∧
      text_fits data "app_permissions" 50 ∧ text_fits data "locale" 10 ∧
      text_fits data "guild_locale" 10) ↔
    interaction_everywhere message_fits interaction_fits data := by
  rw [interaction_everywhere_iff, interaction_fits]
  constructor
  · intro h
    obtain ⟨hdata, hauthor, htoken, hmessage, hpermissions, hlocale, hguild_locale⟩ := h
    exact ⟨⟨hdata, hauthor, htoken, hpermissions, hlocale, hguild_locale⟩, hmessage⟩
  · intro h
    obtain ⟨⟨hdata, hauthor, htoken, hpermissions, hlocale, hguild_locale⟩, hmessage⟩ := h
    exact ⟨hdata, hauthor, htoken, hmessage, hpermissions, hlocale, hguild_locale⟩

/-! ### Parts of a message -/

/-- Content that is dropped is empty, so that its text fits. -/
theorem non_empty_ensures {data : CJson} {name : String} {content : Option CStr}
    (h : content.map CStr.plain = json_text data name) :
    (non_empty content).Ensures fun s =>
      (copy_string s 4096).Keeps (Option.map CStr.plain) (s.map CStr.plain)
        (text_fits data name 4096) := by
  cases content with
  | none => exact Ensures.pure (text_keeps h (by decide))
  | some s =>
    unfold non_empty
    dsimp only
    split
    next hempty =>
      -- an empty text is given back, and it would have fit
      refine Ensures.skip fun _ => Ensures.pure ((copy_string_keeps none 4096).congr ?_)
      have hfits := (copy_string_keeps (some s) 4096).unique (text_keeps h (by decide))
      refine iff_of_true (fun c hc => nomatch hc) (hfits.mp fun c hc => ?_)
      obtain rfl := Option.some.inj hc
      rw [String.isEmpty_iff.mp hempty]
      decide
    next => exact Ensures.pure (text_keeps h (by decide))

/-- The copy of an application is null. -/
theorem application_ensures (tmp : Option CJson) :
    (Mem.unless_null tmp fun c _ => _d_json_to_application c).Ensures fun a =>
      (Mem.unless_null a fun a _ => _d_copy_application a).Keeps
        (fun copy => copy.join.map Application.plain) (a.map Application.plain) (tmp = none) := by
  refine Ensures.unless_null (fun h => ?_) fun c h => (Ensures.any _).mono fun a _ => ?_
  · exact (Keeps.pure none).congr (iff_of_true rfl h)
  · refine (Keeps.never ?_).congr (iff_of_false not_false (h ▸ Option.some_ne_none c))
    have hnull : (_d_copy_application a).Ensures fun copy => copy = none :=
      Ensures.skip fun _ => Ensures.pure rfl
    refine hnull.bind fun copy hcopy => Ensures.pure ?_
    rw [hcopy]
    exact (Option.some_ne_none _).symm

theorem message_reference_ensures (data : CJson) :
    (_d_json_to_message_reference data).Ensures fun r =>
      (_d_copy_message_reference r).Keeps MessageReference.plain r.plain True := by
  refine Ensures.skip fun address => Ensures.pure ?_
  exact Keeps.copying fun address => (Keeps.pure _).congr (iff_of_true rfl trivial)

/-- A message that is referred to by its ids is always copied. -/
theorem message_reference_pointer_ensures (tmp : Option CJson) :
    (Mem.unless_null tmp fun c _ => _d_json_to_message_reference c).Ensures fun r =>
      (Mem.unless_null r fun r _ => _d_copy_message_reference r).Keeps
        (Option.map MessageReference.plain) (r.map MessageReference.plain) True := by
  refine (Ensures.pointer fun c _ => message_reference_ensures c).mono fun r hr => ?_
  refine (Keeps.unless_null₂ (E := fun _ => True) (fun _ _ h => h) hr).congr ?_
  exact iff_of_true (fun _ _ => trivial) trivial

/-- A member that is mentioned is copied without its user. -/
theorem mention_keeps {data : CJson} {member : Member} (h : MemberKept data none member) :
    (_d_copy_member member none).Keeps Member.plain member.plain (mention_fits data) := by
  refine (h.keeps none).congr (and_congr_left fun _ => ?_)
  rw [Option.map_none, eq_comm, Option.map_eq_none_iff, h.own rfl]

/-! ### Interactions -/

/-- A decoded interaction is copied exactly when all documents below it fit. -/
def InteractionKept (data : CJson) (i : Interaction) : Prop :=
  (_d_copy_interaction i).Keeps Interaction.plain i.plain
    (interaction_everywhere message_fits interaction_fits data)

/-- A decoded message is copied exactly when all documents below it fit. -/
def MessageKept (data : CJson) (m : Message) : Prop :=
  (_d_copy_message m).Keeps Message.plain m.plain
    (message_everywhere message_fits interaction_fits data)

/-- Decoding an interaction, given that its message is copied. -/
theorem interaction_ensures_of {data : CJson}
    (ih : ∀ c, cJSON_GetObjectItem data "message" = some c →
      (_d_json_to_message c).Ensures (MessageKept c)) :
    (_d_json_to_interaction data).Ensures (InteractionKept data) := by
  rw [_d_json_to_interaction]
  refine Ensures.skip fun address => ?_
  refine (Ensures.pointer fun c _ => interaction_data_ensures c).bind fun idata hdata => ?_
  refine author_ensures fun user member hauthor => ?_
  refine (text_ensures data "token").bind fun token htoken => ?_
  refine (Ensures.pointer ih).bind fun message hmessage => ?_
  refine (text_ensures data "app_permissions").bind fun app_permissions hpermissions => ?_
  refine (text_ensures data "locale").bind fun locale hlocale => ?_
  refine (text_ensures data "guild_locale").bind fun guild_locale hguild_locale => Ensures.pure ?_
  unfold InteractionKept
  rw [_d_copy_interaction]
  refine Keeps.copying fun address => Keeps.start ((?_ : Keeps _ _ _ _).congr
    (and_congr_right fun _ => interaction_copy_order data))
  refine (Keeps.unless_null₂ (fun _ _ h => h) hdata).bind fun _ => ?_
  refine author_keeps hauthor fun _ _ => ?_
  refine (text_keeps htoken (by decide)).bind fun _ => ?_
  -- the message holds whatever a message can hold
  refine (Keeps.unless_null₂ (fun _ _ h => h) hmessage).bind fun _ => ?_
  refine (text_keeps hpermissions (by decide)).bind fun _ => ?_
  refine (text_keeps hlocale (by decide)).bind fun _ => ?_
  refine (text_keeps hguild_locale (by decide)).last fun _ => Keeps.ret ?_
  simp only [Interaction.plain_eq, InteractionFields.plain, Interaction.mk.injEq,
    InteractionFields.mk.injEq, true_and]
  exact iff_of_eq (by ac_rfl)

/-! ### Messages -/

/-- Decoding a message, given that what nests in it is copied. -/
theorem message_ensures_of {data : CJson}
    (ih_referenced : ∀ c, referenced_item data = some c →
      (_d_json_to_message c).Ensures (MessageKept c))
    (ih_interaction : ∀ c, cJSON_GetObjectItem data "interaction" = some c →
      (_d_json_to_interaction c).Ensures (InteractionKept c)) :
    (_d_json_to_message data).Ensures (MessageKept data) := by
  rw [_d_json_to_message]
  refine Ensures.skip fun address => ?_
  refine author_ensures fun user member hauthor => ?_
  refine (text_ensures data "content").bind fun raw hraw => ?_
  refine (non_empty_ensures hraw).bind fun content hcontent => ?_
  refine (text_ensures data "timestamp").bind fun timestamp htimestamp => ?_
  refine (array_ensures fun c _ => member_ensures c none).bind fun mentions hmentions => ?_
  refine Ensures.skip fun mention_roles => ?_
  refine (array_ensures (R := fun _ p => ∃ b, p = Sum.inr b) fun c _ =>
    Ensures.skip fun b => Ensures.pure ⟨b, rfl⟩).bind fun mention_channels hchannels => ?_
  refine (array_ensures fun c _ => attachment_ensures c).bind fun attachments hattachments => ?_
  refine (unimplemented_array_ensures data _).bind fun reactions hreactions => ?_
  refine (text_ensures data "nonce").bind fun nonce hnonce => ?_
  refine unimplemented_field_ensures.bind fun activity hactivity => ?_
  refine (application_ensures _).bind fun application happlication => ?_
  refine (message_reference_pointer_ensures _).bind fun message_reference hreference => ?_
  -- the two places where messages nest
  refine (Ensures.pointer ih_referenced).bind fun referenced_message hreferenced => ?_
  refine (Ensures.pointer ih_interaction).bind fun interaction hinteraction => ?_
  refine (array_ensures fun c _ => component_ensures c).bind fun components hcomponents => ?_
  refine (unimplemented_array_ensures data _).bind fun sticker_items hsticker_items => ?_
  refine (unimplemented_array_ensures data _).bind fun stickers hstickers => Ensures.pure ?_
  unfold MessageKept
  rw [_d_copy_message]
  refine Keeps.copying fun address => Keeps.start ((?_ : Keeps _ _ _ _).congr
    (and_congr_right fun _ => message_copy_order data))
  refine author_keeps hauthor fun _ _ => ?_
  refine hcontent.bind fun _ => ?_
  refine (text_keeps htimestamp (by decide)).bind fun _ => ?_
  -- neither edited messages nor embeds nor threads are decoded
  refine Keeps.value (a := none) ?_
  refine (copy_array_keeps hmentions fun _ _ h => mention_keeps h).bind fun _ => ?_
  refine (copy_ids_keeps mention_roles : Keeps _ (CArray.plain fun role => role)
    (mention_roles.plain fun role => role) True).bind_all fun _ => ?_
  refine (declared_array_keeps (Sum.map Channel.plain ChannelMention.plain) hchannels).bind
    fun _ => ?_
  refine (copy_array_keeps hattachments fun _ _ h => h).bind fun _ => ?_
  refine Keeps.value (a := CArray.null) ?_
  refine hreactions.bind_all fun _ => ?_
  refine (text_keeps hnonce (by decide)).bind fun _ => ?_
  refine (copy_unimplemented_keeps hactivity).bind_all fun _ => ?_
  refine happlication.bind fun _ => ?_
  refine hreference.bind_all fun _ => ?_
  refine (Keeps.unless_null₂ (fun _ _ h => h) hreferenced).bind fun _ => ?_
  refine (Keeps.unless_null₂ (fun _ _ h => h) hinteraction).bind fun _ => ?_
  refine Keeps.value (a := none) ?_
  rw [← and_true (∀ c ∈ items data "components", component_fits c)]
  refine (copy_array_keeps hcomponents fun _ _ h => h).bind fun _ => ?_
  refine hsticker_items.bind_all fun _ => ?_
  refine hstickers.last fun _ => Keeps.ret ?_
  simp only [Message.plain_eq, MessageFields.plain, Message.mk.injEq, MessageFields.mk.injEq,
    true_and]
  exact iff_of_eq (by ac_rfl)

mutual

/-- Decoding a message. -/
theorem message_ensures (data : CJson) : (_d_json_to_message data).Ensures (MessageKept data) := by
  apply message_ensures_of
  · intro c hc
    have : sizeOf c < sizeOf data := sizeOf_referenced_item hc
    exact message_ensures c
  · intro c hc
    have : sizeOf c < sizeOf data := sizeOf_item hc
    exact interaction_ensures c
termination_by sizeOf data

/-- Decoding an interaction. -/
theorem interaction_ensures (data : CJson) :
    (_d_json_to_interaction data).Ensures (InteractionKept data) := by
  apply interaction_ensures_of
  intro c hc
  have : sizeOf c < sizeOf data := sizeOf_item hc
  exact message_ensures c
termination_by sizeOf data

end

/-! ### Every message -/

/-- A message is decoded, and any copy of it later is structurally equal to
    it. -/
def MessagePreserved (data : CJson) : Prop :=
  ∀ n, ∃ m log, (_d_json_to_message data).run n = some (m, log) ∧
    ∀ k, ∃ c log', (_d_copy_message m).run k = some (c, log') ∧ c.plain = m.plain

/-- A message that is preserved can be read and fits. -/
theorem MessagePreserved.fits {data : CJson} (hall : MessagePreserved data) :
    message_everywhere message_readable interaction_readable data ∧
      message_everywhere message_fits interaction_fits data := by
  obtain ⟨m, log, hrun, hcopies⟩ := hall 0
  refine ⟨?_, (message_ensures data 0 m log hrun 0).mp (hcopies 0)⟩
  -- a document that cannot be read has no message
  by_contra hread
  rw [((message_owns data) 0).2 hread] at hrun
  cases hrun

/-- **Copies of messages**: a copy is structurally equal to the message
    exactly when all messages and interactions in the document can be read
    and fit. -/
theorem message_preserved_iff (data : CJson) :
    MessagePreserved data ↔
      message_everywhere message_readable interaction_readable data ∧
        message_everywhere message_fits interaction_fits data := by
  constructor
  · exact MessagePreserved.fits
  · intro h n
    obtain ⟨hread, hfits⟩ := h
    obtain ⟨m, log, hrun, -⟩ := ((message_owns data) n).1 hread
    exact ⟨m, log, hrun, fun k => (message_ensures data n m log hrun k).mpr hfits⟩

/-- A message that mentions a member with a user. -/
def mention_message : CJson :=
  .object [("id", .string "1"),
    ("mentions", .array [.object [("user", .object [("id", .string "2")])]])]

/-- The member in the copy has no user. -/
theorem mention_message_detached :
    (∃ m log, (_d_json_to_message mention_message).run 0 = some (m, log) ∧
      m.mentions.items.map (fun member => member.user.isSome) = [true] ∧
      ∃ c log', (_d_copy_message m).run (allocs log).length = some (c, log') ∧
        c.mentions.items.map (fun member => member.user.isSome) = [false]) ∧
      ¬ MessagePreserved mention_message := by
  refine ⟨?_, fun h => ?_⟩
  · rw [_d_json_to_message]
    refine ⟨_, _, rfl, rfl, ?_⟩
    rw [_d_copy_message]
    exact ⟨_, _, rfl, rfl⟩
  · obtain ⟨-, -, -, hmentions, -⟩ := ((message_everywhere_iff _ _ _).mp h.fits.2).1
    cases (hmentions _ (List.mem_singleton_self _)).1

end DiscoC
