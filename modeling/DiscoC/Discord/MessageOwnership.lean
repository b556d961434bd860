import DiscoC.Discord.ComponentOwnership

/-! # Ownership of messages and interactions

  When a decoded message or interaction can be destroyed and copied. What
  stands in the way of it is a condition on single documents; it has to hold
  of each message and each interaction that is decoded on the way.
-/

namespace DiscoC

/-! ### Conditions on documents -/

/-- The items of an array field. -/
abbrev items (data : CJson) (name : String) : List CJson :=
  cJSON_ArrayItems (cJSON_GetObjectItem data name)

/-- The ids of a message are given as strings. -/
def message_readable (data : CJson) : Prop :=
  author_readable (author_item data "member") ∧ (∀ c ∈ items data "mentions", roles_readable c) ∧
    ∀ c ∈ items data "mention_roles", is_id c

/-- A message is destroyed without a loss: it mentions no channels, refers to
    no other message, and its components come without structures. -/
def message_freed (data : CJson) : Prop :=
  items data "mention_channels" = [] ∧ referenced_item data = none ∧
    ∀ c ∈ items data "components", component_freed c

/-- All structures of a message are copied: it mentions no channels, and
    neither its author nor the members it mentions have users of their own. -/
def message_copied (data : CJson) : Prop :=
  author_copied (author_item data "author") (author_item data "member") ∧
    (∀ c ∈ items data "mentions", cJSON_GetObjectItem c "user" = none) ∧
    items data "mention_channels" = []

/-- The data of an interaction is destroyed without a loss. -/
def interaction_data_freed (data : CJson) : Prop :=
  items data "values" = [] ∧ ∀ c ∈ items data "components", component_freed c

/-- All structures of the data of an interaction are copied. -/
def interaction_data_copied (data : CJson) : Prop :=
  (∀ c ∈ items data "options", option_copied c) ∧ items data "values" = []

def interaction_readable (data : CJson) : Prop :=
  author_readable (cJSON_GetObjectItem data "member")

def interaction_freed (data : CJson) : Prop :=
  ∀ c, cJSON_GetObjectItem data "data" = some c → interaction_data_freed c

def interaction_copied (data : CJson) : Prop :=
  (∀ c, cJSON_GetObjectItem data "data" = some c → interaction_data_copied c) ∧
    author_copied (cJSON_GetObjectItem data "user") (cJSON_GetObjectItem data "member")

mutual

/-- `pm` holds of a message and of all messages below it, and `pi` of all
    interactions below it. -/
def message_everywhere (pm pi : CJson → Prop) (data : CJson) : Prop :=
  pm data ∧
    (∀ c, (h : referenced_item data = some c) →
      have : sizeOf c < sizeOf data := sizeOf_referenced_item h
      message_everywhere pm pi c) ∧
    ∀ c, (h : cJSON_GetObjectItem data "interaction" = some c) →
      have : sizeOf c < sizeOf data := sizeOf_item h
      interaction_everywhere pm pi c
termination_by data

/-- `pi` holds of an interaction and of all interactions below it, and `pm`
    of all messages below it. -/
def interaction_everywhere (pm pi : CJson → Prop) (data : CJson) : Prop :=
  pi data ∧ ∀ c, (h : cJSON_GetObjectItem data "message" = some c) →
    have : sizeOf c < sizeOf data := sizeOf_item h
    message_everywhere pm pi c
termination_by data

end

theorem message_everywhere_iff (pm pi : CJson → Prop) (data : CJson) :
    message_everywhere pm pi data ↔ pm data ∧
      (∀ c, referenced_item data = some c → message_everywhere pm pi c) ∧
      ∀ c, cJSON_GetObjectItem data "interaction" = some c → interaction_everywhere pm pi c := by
  rw [message_everywhere]

theorem interaction_everywhere_iff (pm pi : CJson → Prop) (data : CJson) :
    interaction_everywhere pm pi data ↔ pi data ∧
      ∀ c, cJSON_GetObjectItem data "message" = some c → message_everywhere pm pi c := by
  rw [interaction_everywhere]

/-! ### Interaction data -/

/-- Decoded data of an interaction. -/
structure DataOwn (data : CJson) (d : InteractionData) (own : List (Block StructType)) :
    Prop where
  freed : Destroys (discord_destroy_interaction_data d) own (interaction_data_freed data)
  copied : Copies (_d_copy_interaction_data d) own (interaction_data_copied data)

/-- The parts that the data of an interaction is made of. -/
structure DataParts (data : CJson) (d : InteractionData) where
  options : List (Block StructType)
  values : List (Block StructType)
  components : List (Block StructType)
  options_own : ArrayOwn OptionOwn (cJSON_GetObjectItem data "options") d.options options
  values_own : ArrayOwn (fun _ p _ => StoredAs InteractionDataOption p)
    (cJSON_GetObjectItem data "values") d.values values
  components_own : ArrayOwn ComponentOwn (cJSON_GetObjectItem data "components") d.components
    components

namespace DataParts

variable {data : CJson} {d : InteractionData}

def blocks (p : DataParts data d) : List (Block StructType) :=
  ⟨.interaction_data, d.address⟩ :: (string_blocks d.name ++ (p.options ++
    (string_blocks d.custom_id ++ (p.values ++ p.components))))

theorem disposes (p : DataParts data d) :
    Destroys (discord_destroy_interaction_data d) p.blocks (interaction_data_freed data) := by
  have h : Destroys (discord_destroy_interaction_data d) p.blocks
      ((∀ c ∈ items data "values", False) ∧ ∀ c ∈ items data "components", component_freed c) := by
    apply Disposes.destroying rfl
    apply (free_string_disposes _).seq
    intro _
    apply (destroy_array_disposes_all p.options_own fun c o own h => h.freed).seq
    intro _
    apply (free_string_disposes _).seq
    intro _
    apply (destroy_array_disposes p.values_own fun c v own h => h.disposes _ own).bind
    intro _
    exact destroy_array_disposes p.components_own fun c o own h => h.freed
  apply h.congr
  rw [forall_not_mem_iff, interaction_data_freed]

theorem traverses (p : DataParts data d) :
    Copies (_d_copy_interaction_data d) p.blocks (interaction_data_copied data) := by
  have h : Copies (_d_copy_interaction_data d) (⟨.interaction_data, d.address⟩ ::
      (p.options ++ (p.values ++ (p.components ++
        (string_blocks d.name ++ string_blocks d.custom_id)))))
      ((∀ c ∈ items data "options", option_copied c) ∧ ∀ c ∈ items data "values", False) := by
    apply (Traverses.visit _ rfl).seq
    intro _
    apply (Traverses.alloc _).skip
    intro _
    apply (copy_string_skips _ _).skip
    intro _
    apply (copy_array_traverses p.options_own fun c o own h => h.copied).bind
    intro _
    apply (copy_string_skips _ _).skip
    intro _
    rw [← and_true (∀ c ∈ items data "values", False)]
    -- the values are stored as another type than they are copied as
    apply (copy_array_traverses p.values_own fun c v own h => (h.traverses _ own).ret _).bind
    intro _
    apply (copy_array_traverses_all p.components_own fun c o own h => h.copied).seq
    intro _
    exact Traverses.pure_plain _ (by simp)
  apply (h.perm _).congr
  · rw [forall_not_mem_iff, interaction_data_copied]
  · rw [List.perm_iff_count]
    intro b
    simp only [blocks, List.count_append, List.count_cons]
    omega

theorem owns {base : List (Block StructType)} (p : DataParts data d) (h : p.blocks.Perm base) :
    Owns base (pure d) True (DataOwn data) :=
  Owns.pure h ⟨p.disposes, p.traverses⟩

end DataParts

theorem interaction_data_owns (data : CJson) :
    Owns [] (_d_json_to_interaction_data data) True (DataOwn data) := by
  unfold _d_json_to_interaction_data
  apply (Owns.alloc _).seq
  rintro address _ rfl
  apply (get_string_owns _ _).seq
  rintro name _ rfl
  apply (array_owns_total fun c _ => option_owns c).seq
  intro options own_options hoptions
  apply (get_string_owns _ _).seq
  rintro custom_id _ rfl
  apply (array_owns_total fun c _ => stored_owns (select_option_owns c)).seq
  intro values own_values hvalues
  apply (array_owns_total fun c _ => component_owns c).seq
  intro components own_components hcomponents
  refine DataParts.owns
    ⟨own_options, own_values, own_components, hoptions, hvalues, hcomponents⟩ ?_
  simp [DataParts.blocks]

/-! ### Interactions -/

/-- A decoded message can be destroyed and copied when all documents below it
    allow it. -/
structure MessageOwn (data : CJson) (m : Message) (own : List (Block StructType)) : Prop where
  freed : Destroys (discord_destroy_message m) own
    (message_everywhere message_freed interaction_freed data)
  copied : Copies (_d_copy_message m) own
    (message_everywhere message_copied interaction_copied data)
  nonempty : own ≠ []

/-- A decoded interaction can be destroyed and copied when all documents
    below it allow it. -/
structure InteractionOwn (data : CJson) (i : Interaction) (own : List (Block StructType)) :
    Prop where
  freed : Destroys (discord_destroy_interaction i) own
    (interaction_everywhere message_freed interaction_freed data)
  copied : Copies (_d_copy_interaction i) own
    (interaction_everywhere message_copied interaction_copied data)

/-- The parts that an interaction is made of. -/
structure InteractionParts (data : CJson) (i : Interaction) where
  idata : List (Block StructType)
  author : List (Block StructType)
  message : List (Block StructType)
  data_own : PointerOwn DataOwn (cJSON_GetObjectItem data "data") i.data idata
  author_own : AuthorOwn (cJSON_GetObjectItem data "user") (cJSON_GetObjectItem data "member")
    i.user i.member author
  message_own : PointerOwn MessageOwn (cJSON_GetObjectItem data "message") i.message message

namespace InteractionParts

variable {data : CJson} {i : Interaction}

def blocks (p : InteractionParts data i) : List (Block StructType) :=
  ⟨.interaction, i.address⟩ :: (p.idata ++ (p.author ++ (string_blocks i.token ++ (p.message ++
    (string_blocks i.app_permissions ++ (string_blocks i.locale ++
      string_blocks i.guild_locale))))))

theorem disposes (p : InteractionParts data i) :
    Destroys (discord_destroy_interaction i) p.blocks
      (interaction_everywhere message_freed interaction_freed data) := by
  rw [interaction_everywhere_iff, discord_destroy_interaction]
  apply Disposes.destroying rfl
  apply (destroy_pointer_disposes p.data_own fun c d own h => h.freed).bind
  intro _
  apply (author_disposes p.author_own).seq
  intro _
  apply (free_string_disposes _).seq
  intro _
  rw [← and_true (∀ c, cJSON_GetObjectItem _ "message" = some c → _)]
  -- the message holds whatever a message can hold
  apply (destroy_pointer_disposes p.message_own fun c m own h => h.freed).bind
  intro _
  iterate 2
    apply (free_string_disposes _).seq
    intro _
  exact free_string_disposes _

theorem traverses (p : InteractionParts data i) :
    Copies (_d_copy_interaction i) p.blocks
      (interaction_everywhere message_copied interaction_copied data) := by
  have h : Copies (_d_copy_interaction i) (⟨.interaction, i.address⟩ ::
      (p.idata ++ (p.author ++ (p.message ++ (string_blocks i.token ++
        (string_blocks i.app_permissions ++ (string_blocks i.locale ++
          string_blocks i.guild_locale)))))))
      ((∀ c, cJSON_GetObjectItem data "data" = some c → interaction_data_copied c) ∧
        author_copied (cJSON_GetObjectItem data "user") (cJSON_GetObjectItem data "member") ∧
        (∀ c, cJSON_GetObjectItem data "message" = some c →
          message_everywhere message_copied interaction_copied c) ∧ True) := by
    rw [_d_copy_interaction]
    apply (Traverses.visit _ rfl).seq
    intro _
    apply (Traverses.alloc _).skip
    intro _
    apply (copy_pointer_traverses p.data_own fun c d own h => h.copied).bind
    intro _
    apply author_traverses p.author_own
    intro _ _
    apply (copy_string_skips _ _).skip
    intro _
    apply (copy_pointer_traverses p.message_own fun c m own h => h.copied).bind
    intro _
    iterate 3
      apply (copy_string_skips _ _).skip
      intro _
    exact Traverses.pure_plain _ (by simp)
  apply (h.perm _).congr
  · rw [interaction_everywhere_iff, interaction_copied, and_true, and_assoc]
  · rw [List.perm_iff_count]
    intro b
    simp only [blocks, List.count_append, List.count_cons]
    omega

theorem owns {base : List (Block StructType)} (p : InteractionParts data i)
    (h : p.blocks.Perm base) : Owns base (pure i) True (InteractionOwn data) :=
  Owns.pure h ⟨p.disposes, p.traverses⟩

end InteractionParts

/-- Decoding an interaction, given that its message is decoded. -/
theorem interaction_owns_of {data : CJson}
    (ih : ∀ c, cJSON_GetObjectItem data "message" = some c →
      Owns [] (_d_json_to_message c) (message_everywhere message_readable interaction_readable c)
        (MessageOwn c)) :
    Owns [] (_d_json_to_interaction data)
      (interaction_everywhere message_readable interaction_readable data)
      (InteractionOwn data) := by
  rw [interaction_everywhere_iff, _d_json_to_interaction]
  apply (Owns.alloc _).seq
  rintro address _ rfl
  apply (pointer_owns_total fun c _ => interaction_data_owns c).seq
  intro idata own_data hdata
  apply author_owns
  intro user member own_author hauthor
  apply (get_string_owns _ _).seq
  rintro token _ rfl
  apply (pointer_owns fun c hc => ih c hc).bind_total
  intro message own_message hmessage
  apply (get_string_owns _ _).seq
  rintro app_permissions _ rfl
  apply (get_string_owns _ _).seq
  rintro locale _ rfl
  apply (get_string_owns _ _).seq
  rintro guild_locale _ rfl
  refine InteractionParts.owns
    ⟨own_data, own_author, own_message, hdata, hauthor, hmessage⟩ ?_
  simp [InteractionParts.blocks]

/-! ### Messages -/

/-- The parts that a message is made of. -/
structure MessageParts (data : CJson) (m : Message) where
  author : List (Block StructType)
  mentions : List (Block StructType)
  mention_channels : List (Block StructType)
  attachments : List (Block StructType)
  application : List (Block StructType)
  message_reference : List (Block StructType)
  referenced_message : List (Block StructType)
  interaction : List (Block StructType)
  components : List (Block StructType)
  author_own : AuthorOwn (author_item data "author") (author_item data "member") m.user m.member
    author
  edited_timestamp : m.edited_timestamp = none
  mentions_own : ArrayOwn (fun c => MemberOwn c none) (cJSON_GetObjectItem data "mentions")
    m.mentions mentions
  mention_channels_own : ArrayOwn (fun _ p _ => StoredAs Channel p)
    (cJSON_GetObjectItem data "mention_channels") m.mention_channels mention_channels
  attachments_own : ArrayOwn (fun _ a own => own = a.blocks)
    (cJSON_GetObjectItem data "attachments") m.attachments attachments
  embeds : m.embeds = .null
  application_own : PointerOwn (fun _ a own => own = [⟨.application, a.address⟩])
    (cJSON_GetObjectItem data "application") m.application application
  message_reference_own : PointerOwn (fun _ r own => own = [⟨.message_reference, r.address⟩])
    (cJSON_GetObjectItem data "message_reference") m.message_reference message_reference
  referenced_message_own : PointerOwn MessageOwn (referenced_item data) m.referenced_message
    referenced_message
  interaction_own : PointerOwn InteractionOwn (cJSON_GetObjectItem data "interaction")
    m.interaction interaction
  thread : m.thread = none
  components_own : ArrayOwn ComponentOwn (cJSON_GetObjectItem data "components") m.components
    components

namespace MessageParts

variable {data : CJson} {m : Message}

/-- The blocks of a message but for those of the referenced message. -/
def own_blocks (p : MessageParts data m) : List (Block StructType) :=
  ⟨.message, m.address⟩ :: (p.author ++ (string_blocks m.content ++ (string_blocks m.timestamp ++
    (p.mentions ++ (m.mention_roles.blocks ++ (p.mention_channels ++ (p.attachments ++
      (m.reactions.blocks ++ (string_blocks m.nonce ++ (p.application ++
        (p.message_reference ++ (p.interaction ++ (p.components ++ (m.sticker_items.blocks ++
          m.stickers.blocks))))))))))))))

def blocks (p : MessageParts data m) : List (Block StructType) :=
  p.own_blocks ++ p.referenced_message

/-- Destroying a message but for the referenced message. -/
theorem own_disposes (p : MessageParts data m) :
    Destroys (discord_destroy_message m) p.own_blocks
      ((∀ c ∈ items data "mention_channels", False) ∧
        (∀ c, cJSON_GetObjectItem data "interaction" = some c →
          interaction_everywhere message_freed interaction_freed c) ∧
        (∀ c ∈ items data "components", component_freed c) ∧ True) := by
  rw [discord_destroy_message]
  apply Disposes.destroying rfl
  apply (author_disposes p.author_own).seq
  intro _
  apply (free_string_disposes _).seq
  intro _
  apply (free_string_disposes _).seq
  intro _
  apply Disposes.skip (by rw [p.edited_timestamp]; exact Disposes.pure ())
  intro _
  apply (destroy_array_disposes_all p.mentions_own fun c m own h =>
    h.blocks ▸ member_disposes m).seq
  intro _
  apply (free_array_disposes _).seq
  intro _
  -- a mentioned channel is stored as another type, so any makes it fail
  apply (destroy_array_disposes p.mention_channels_own fun c ch own h => h.disposes _ own).bind
  intro _
  apply (destroy_array_disposes_all p.attachments_own fun c a own h =>
    h ▸ attachment_disposes a).seq
  intro _
  -- the embeds have never been decoded
  apply (destroy_null_array_disposes p.embeds).skip
  intro _
  apply (destroy_plain_array_disposes (fun _ => Disposes.pure ()) _).seq
  intro _
  apply (free_string_disposes _).seq
  intro _
  apply Disposes.skip (Disposes.pure ())
  intro _
  apply (destroy_pointer_disposes_all p.application_own fun c a own h =>
    h ▸ application_disposes a).seq
  intro _
  apply (destroy_pointer_disposes_all p.message_reference_own fun c r own h =>
    h ▸ message_reference_disposes r).seq
  intro _
  apply (destroy_pointer_disposes p.interaction_own fun c i own h => h.freed).bind
  intro _
  apply (destroy_null_pointer_disposes p.thread).skip
  intro _
  -- the components have a condition of their own
  apply (destroy_array_disposes p.components_own fun c comp own h => h.freed).bind
  intro _
  apply (destroy_plain_array_disposes (fun _ => Disposes.pure ()) _).seq
  intro _
  exact destroy_plain_array_disposes (fun _ => Disposes.pure ()) _

/-- There is a referenced message when there are blocks of one. -/
theorem referenced_eq_nil_iff (p : MessageParts data m) :
    p.referenced_message = [] ↔ referenced_item data = none := by
  have hown := p.referenced_message_own
  generalize referenced_item data = tmp at hown ⊢
  generalize p.referenced_message = own at hown ⊢
  generalize m.referenced_message = r at hown
  cases hown with
  | null => exact iff_of_true rfl rfl
  | pointer h => exact iff_of_false h.nonempty (Option.some_ne_none _)

theorem disposes (p : MessageParts data m) :
    Destroys (discord_destroy_message m) p.blocks
      (message_everywhere message_freed interaction_freed data) := by
  apply p.own_disposes.leak.congr
  rw [message_everywhere_iff, message_freed, forall_not_mem_iff,
    p.referenced_eq_nil_iff, and_true]
  constructor
  · rintro ⟨⟨hchannels, hinteraction, hcomponents⟩, hreferenced⟩
    refine ⟨⟨hchannels, hreferenced, hcomponents⟩, fun c hc => ?_, hinteraction⟩
    rw [hreferenced] at hc
    cases hc
  · rintro ⟨⟨hchannels, hreferenced, hcomponents⟩, -, hinteraction⟩
    exact ⟨⟨hchannels, hinteraction, hcomponents⟩, hreferenced⟩

theorem traverses (p : MessageParts data m) :
    Copies (_d_copy_message m) p.blocks
      (message_everywhere message_copied interaction_copied data) := by
  have h : Copies (_d_copy_message m) (⟨.message, m.address⟩ :: (p.author ++ (p.mentions ++
      (p.mention_channels ++ (p.attachments ++ (p.application ++ (p.message_reference ++
        (p.referenced_message ++ (p.interaction ++ (p.components ++ (string_blocks m.content ++
          (string_blocks m.timestamp ++ (m.mention_roles.blocks ++ (m.reactions.blocks ++
            (string_blocks m.nonce ++ (m.sticker_items.blocks ++ m.stickers.blocks))))))))))))))))
      (author_copied (author_item data "author") (author_item data "member") ∧
        (∀ c ∈ items data "mentions", cJSON_GetObjectItem c "user" = none) ∧
        (∀ c ∈ items data "mention_channels", False) ∧
        (∀ c, referenced_item data = some c →
          message_everywhere message_copied interaction_copied c) ∧
        (∀ c, cJSON_GetObjectItem data "interaction" = some c →
          interaction_everywhere message_copied interaction_copied c) ∧ True) := by
    rw [_d_copy_message]
    -- field by field, in the order of the copier
    apply (Traverses.visit _ rfl).seq
    intro _
    apply (Traverses.alloc _).skip
    intro _
    apply author_traverses p.author_own
    intro _ _
    iterate 3
      apply (copy_string_skips _ _).skip
      intro _
    apply (copy_array_traverses p.mentions_own fun c m own h => member_traverses h).bind
    intro _
    apply (copy_array_skips (fun _ => Traverses.pure _) _).skip
    intro _
    apply (copy_array_traverses p.mention_channels_own fun c ch own h =>
      (h.traverses _ own).ret _).bind
    intro _
    apply (copy_array_traverses_all p.attachments_own fun c a own h =>
      h ▸ attachment_traverses a).seq
    intro _
    apply (copy_null_array_skips p.embeds).skip
    intro _
    apply (copy_array_skips (fun _ => Traverses.pure _) _).skip
    intro _
    apply (copy_string_skips _ _).skip
    intro _
    apply Traverses.skip (Traverses.pure _)
    intro _
    apply (copy_pointer_traverses_all p.application_own fun c a own h =>
      h ▸ application_traverses a).seq
    intro _
    apply (copy_pointer_traverses_all p.message_reference_own fun c r own h =>
      h ▸ message_reference_traverses r).seq
    intro _
    apply (copy_pointer_traverses p.referenced_message_own fun c r own h => h.copied).bind
    intro _
    apply (copy_pointer_traverses p.interaction_own fun c i own h => h.copied).bind
    intro _
    apply (copy_null_pointer_skips p.thread).skip
    intro _
    apply (copy_array_traverses_all p.components_own fun c comp own h => h.copied).seq
    intro _
    iterate 2
      apply (copy_array_skips (fun _ => Traverses.pure _) _).skip
      intro _
    exact Traverses.pure_plain _ (by simp)
  apply (h.perm _).congr
  · rw [message_everywhere_iff, message_copied, forall_not_mem_iff, and_true]
    simp only [and_assoc]
  · -- these are the blocks of the message, in another order
    rw [List.perm_iff_count]
    intro b
    simp only [blocks, own_blocks, List.count_append, List.count_cons]
    omega

theorem owns {base : List (Block StructType)} (p : MessageParts data m)
    (h : p.blocks.Perm base) : Owns base (pure m) True (MessageOwn data) :=
  Owns.pure h ⟨p.disposes, p.traverses, List.cons_ne_nil _ _⟩

end MessageParts

/-- Empty content is freed at once. -/
theorem non_empty_owns (content : Option CStr) :
    Owns (string_blocks content) (non_empty content) True fun c own => own = string_blocks c := by
  cases content with
  | none => exact Owns.pure (.refl _) rfl
  | some s =>
    by_cases hempty : s.bytes.isEmpty
    · have h : Owns (string_blocks (some s)) (Mem.free ⟨.chars, s.address⟩ >>= fun _ => pure none)
          (True ∧ True) fun c own => own = string_blocks c :=
        (Owns.free _).pass fun _ own hown => Owns.pure (.refl _) hown
      simp only [non_empty, hempty, if_true]
      exact h.congr (and_true True).to_iff
    · simp only [non_empty, hempty]
      exact Owns.pure (.refl _) rfl

/-- Decoding a message, given that the message it refers to and its
    interaction are decoded. -/
theorem message_owns_of {data : CJson}
    (ih_referenced : ∀ c, referenced_item data = some c →
      Owns [] (_d_json_to_message c) (message_everywhere message_readable interaction_readable c)
        (MessageOwn c))
    (ih_interaction : ∀ c, cJSON_GetObjectItem data "interaction" = some c →
      Owns [] (_d_json_to_interaction c)
        (interaction_everywhere message_readable interaction_readable c) (InteractionOwn c)) :
    Owns [] (_d_json_to_message data)
      (message_everywhere message_readable interaction_readable data) (MessageOwn data) := by
  have h : Owns [] (_d_json_to_message data)
      (author_readable (author_item data "member") ∧
        (∀ c ∈ items data "mentions", roles_readable c) ∧
        (∀ c ∈ items data "mention_roles", is_id c) ∧
        (∀ c, referenced_item data = some c →
          message_everywhere message_readable interaction_readable c) ∧
        ∀ c, cJSON_GetObjectItem data "interaction" = some c →
          interaction_everywhere message_readable interaction_readable c) (MessageOwn data) := by
    rw [_d_json_to_message]
    apply (Owns.alloc _).seq
    rintro address _ rfl
    apply author_owns
    intro user member own_author hauthor
    apply (get_string_owns _ _).seq
    rintro raw _ rfl
    apply (non_empty_owns raw).frame_seq
    rintro content _ rfl
    apply (get_string_owns _ _).seq
    rintro timestamp _ rfl
    apply (array_owns fun c _ => member_owns c none).bind
    intro mentions own_mentions hmentions
    -- an id that is no string is a null pointer to `strtoull`
    apply (array_owns fun c _ => read_id_owns c).bind
    intro mention_roles own_roles hroles
    rw [hroles.plain]
    apply (array_owns_total fun c _ => stored_owns (channel_mention_owns c)).seq
    intro mention_channels own_channels hchannels
    apply (array_owns_total fun c _ => attachment_owns c).seq
    intro attachments own_attachments hattachments
    apply (unimplemented_array_owns _ _).seq
    rintro reactions _ rfl
    apply (get_string_owns _ _).seq
    rintro nonce _ rfl
    apply (unimplemented_field_owns _).seq
    rintro activity _ ⟨rfl, rfl⟩
    apply (pointer_owns_total fun c _ => application_owns c).seq
    intro application own_application happlication
    apply (pointer_owns_total fun c _ => message_reference_owns c).seq
    intro message_reference own_reference hreference
    -- the two places where messages nest
    apply (pointer_owns fun c hc => ih_referenced c hc).bind
    intro referenced_message own_referenced hreferenced
    apply (pointer_owns fun c hc => ih_interaction c hc).bind_total
    intro interaction own_interaction hinteraction
    apply (array_owns_total fun c _ => component_owns c).seq
    intro components own_components hcomponents
    apply (unimplemented_array_owns _ _).seq
    rintro sticker_items _ rfl
    apply (unimplemented_array_owns _ _).seq
    rintro stickers _ rfl
    refine MessageParts.owns {
      author := own_author, mentions := own_mentions, mention_channels := own_channels
      attachments := own_attachments, application := own_application
      message_reference := own_reference, referenced_message := own_referenced
      interaction := own_interaction, components := own_components
      author_own := hauthor, edited_timestamp := rfl, mentions_own := hmentions
      mention_channels_own := hchannels, attachments_own := hattachments, embeds := rfl
      application_own := happlication, message_reference_own := hreference
      referenced_message_own := hreferenced, interaction_own := hinteraction, thread := rfl
      components_own := hcomponents } ?_
    rw [List.perm_iff_count]
    intro b
    simp only [MessageParts.blocks, MessageParts.own_blocks, List.count_append, List.count_cons,
      List.count_nil]
    omega
  apply h.congr
  rw [message_everywhere_iff, message_readable]
  simp only [and_assoc]

mutual

/-- Decoding a message. -/
theorem message_owns (data : CJson) :
    Owns [] (_d_json_to_message data)
      (message_everywhere message_readable interaction_readable data) (MessageOwn data) := by
  apply message_owns_of
  · intro c hc
    have : sizeOf c < sizeOf data := sizeOf_referenced_item hc
    exact message_owns c
  · intro c hc
    have : sizeOf c < sizeOf data := sizeOf_item hc
    exact interaction_owns c
termination_by sizeOf data

/-- Decoding an interaction. -/
theorem interaction_owns (data : CJson) :
    Owns [] (_d_json_to_interaction data)
      (interaction_everywhere message_readable interaction_readable data)
      (InteractionOwn data) := by
  apply interaction_owns_of
  intro c hc
  have : sizeOf c < sizeOf data := sizeOf_item hc
  exact message_owns c
termination_by sizeOf data

end

end DiscoC
