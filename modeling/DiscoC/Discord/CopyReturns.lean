import DiscoC.Discord.CopyAgain
import DiscoC.Discord.MessageCopying

/-! # Which messages can be copied

  Not every message that has been decoded can be copied. Channels that are
  mentioned and the values of an interaction are copied as another type than
  they are decoded as, and the value of an option is copied as a string, also
  if it is a number. Where the document has nothing of it, the copier returns
  (`message_copy_returns`); the copy need not be equal.
-/

namespace DiscoC

open Mem

/-! ### Conditions on documents -/

/-- A message is copied without undefined behaviour: it mentions no channels. -/
def message_copyable (data : CJson) : Prop := items data "mention_channels" = []

/-- An interaction is copied without undefined behaviour: the values of its
    options are no numbers other than 0, and nothing has been selected. -/
def interaction_copyable (data : CJson) : Prop :=
  ∀ c, cJSON_GetObjectItem data "data" = some c → interaction_data_copied c

/-! ### Arrays -/

/-- An array is copied when each of its items is. -/
theorem copy_array_returns_of {α β : Type} {array : CArray α} {copy : α → CMem β}
    {js : List CJson} {R : CJson → α → Prop} {E : CJson → Prop}
    (hR : List.Forall₂ R js array.items) (hcopy : ∀ c a, R c a → (copy a).Returns (E c)) :
    (copy_array array fun a _ => copy a).Returns (∀ c ∈ js, E c) := by
  cases array with
  | null =>
    obtain rfl : js = [] := List.forall₂_nil_right_iff.mp hR
    exact (Returns.pure _).congr (by simp)
  | block address items =>
    refine (Returns.alloc _).seq fun _ => ?_
    exact (Returns.each₂ hcopy hR).bind_total fun _ => Returns.pure _

/-- An array that was decoded as another type is copied if it is empty. -/
theorem declared_array_returns {α β γ : Type} {array : CArray (α ⊕ β)} {copy : α → CMem γ}
    {js : List CJson} (hR : List.Forall₂ (fun _ p => ∃ b, p = Sum.inr b) js array.items) :
    (copy_array array fun p _ => do
      let c ← Mem.declared copy p
      pure (Sum.inl c : γ ⊕ β)).Returns (js = []) := by
  refine (copy_array_returns_of (E := fun _ => False) hR fun _ p hp => ?_).congr
    forall_not_mem_iff
  obtain ⟨b, rfl⟩ := hp
  exact Returns.undefined.bind_total fun _ => Returns.pure _

/-- A pointer to what is always copied. -/
theorem pointer_returns {α β : Type} {p : Option α} {copy : α → CMem β}
    (h : ∀ a, (copy a).Returns True) : (Mem.unless_null p fun a _ => copy a).Returns True :=
  (Returns.unless_null fun a _ => h a).congr (iff_of_true (fun _ _ => trivial) trivial)

/-! ### Options and data of interactions -/

/-- The bits of a value are those of a string or of the null pointer. -/
def OptionValue.is_pointer : OptionValue → Prop
  | .string_ _ | .unset => True
  | .int_ i => i = 0
  | .double_ d => d.is_null = true

theorem read_string_returns (value : OptionValue) :
    value.read_string.Returns value.is_pointer := by
  have hif : ∀ (p : Prop) [Decidable p],
      (if p then pure none else Mem.undefined : CMem (Option CStr)).Returns p := by
    intro p _
    by_cases hp : p
    · rw [if_pos hp]
      exact (Returns.pure _).congr (iff_of_true trivial hp)
    · rw [if_neg hp]
      exact Returns.undefined.congr (iff_of_false not_false hp)
  cases value with
  | string_ s => exact Returns.pure s
  | int_ i => exact hif (i = 0)
  | double_ d => exact hif (d.is_null = true)
  | unset => exact Returns.pure none

theorem copy_option_value_returns {o : InteractionDataOption}
    (h : o.value_type = VALUE_STRING) : (copy_option_value o).Returns o.value.is_pointer := by
  unfold copy_option_value
  rw [if_pos h]
  refine (read_string_returns o.value).bind_total fun s => ?_
  exact (copy_string_returns s 120).seq fun _ => Returns.pure _

/-- A value is decoded as its type says. -/
theorem option_value_pointer (data : CJson) (type : Int) :
    (option_value data type).Ensures fun value =>
      (value.is_pointer ↔ value_copied data type) := by
  unfold option_value value_copied
  split
  next htype =>
    refine Ensures.skip fun s => Ensures.pure (iff_of_true trivial ?_)
    subst htype
    simp [COMMAND_OPTION_STRING, COMMAND_OPTION_INTEGER, COMMAND_OPTION_NUMBER]
  next =>
  split
  next htype =>
    refine Ensures.pure ?_
    subst htype
    simp [OptionValue.is_pointer, COMMAND_OPTION_INTEGER, COMMAND_OPTION_NUMBER]
  next hinteger =>
  split
  next htype =>
    refine Ensures.pure ?_
    subst htype
    simp [OptionValue.is_pointer, COMMAND_OPTION_INTEGER, COMMAND_OPTION_NUMBER]
  next hnumber =>
    refine Ensures.pure (iff_of_true trivial ?_)
    exact ⟨fun h => absurd h hinteger, fun h => absurd h hnumber⟩

/-- An option is copied when its value and those below it allow it. -/
theorem option_copy_returns (data : CJson) :
    (_d_json_to_interaction_data_option data).Ensures fun o =>
      (_d_copy_interaction_data_option o).Returns (option_copied data) := by
  -- an option may have options of its own
  have ih : ∀ c ∈ cJSON_ArrayItems (cJSON_GetObjectItem data "options"),
      (_d_json_to_interaction_data_option c).Ensures fun o =>
        (_d_copy_interaction_data_option o).Returns (option_copied c) := by
    intro c hc
    have : sizeOf c < sizeOf data := sizeOf_array_item hc
    exact option_copy_returns c
  rw [_d_json_to_interaction_data_option]
  refine Ensures.skip fun address => Ensures.skip fun name => ?_
  refine (option_value_pointer data _).bind fun value hvalue => ?_
  refine (array_ensures ih).bind fun options hoptions => Ensures.pure ?_
  rw [_d_copy_interaction_data_option, option_copied_iff, ← hvalue]
  refine (Returns.visit _ _).seq fun _ => (Returns.alloc _).seq fun _ => ?_
  refine (copy_string_returns _ _).seq fun _ => ?_
  refine (copy_option_value_returns rfl).bind fun _ => ?_
  exact (copy_array_returns_of hoptions fun _ _ h => h).bind_total fun _ => Returns.pure _
termination_by sizeOf data

/-- The data of an interaction is copied when its options allow it and
    nothing has been selected. -/
theorem interaction_data_copy_returns (data : CJson) :
    (_d_json_to_interaction_data data).Ensures fun d =>
      (_d_copy_interaction_data d).Returns (interaction_data_copied data) := by
  unfold _d_json_to_interaction_data
  refine Ensures.skip fun address => Ensures.skip fun name => ?_
  refine (array_ensures fun c _ => option_copy_returns c).bind fun options hoptions => ?_
  refine Ensures.skip fun custom_id => ?_
  refine (array_ensures (R := fun _ p => ∃ b, p = Sum.inr b) fun c _ =>
    Ensures.skip fun b => Ensures.pure ⟨b, rfl⟩).bind fun values hvalues => ?_
  refine Ensures.skip fun components => Ensures.pure ?_
  unfold _d_copy_interaction_data interaction_data_copied
  refine (Returns.visit _ _).seq fun _ => (Returns.alloc _).seq fun _ => ?_
  refine (copy_string_returns _ _).seq fun _ => ?_
  refine (copy_array_returns_of hoptions fun _ _ h => h).bind fun _ => ?_
  refine (copy_string_returns _ _).seq fun _ => ?_
  refine (declared_array_returns hvalues).bind_total fun _ => ?_
  exact (copy_array_returns fun c _ => copy_component_returns c).seq fun _ => Returns.pure _

/-! ### Messages and interactions -/

/-- A decoded message is copied when all documents below it allow it. -/
def MessageCopies (data : CJson) (m : Message) : Prop :=
  (_d_copy_message m).Returns (message_everywhere message_copyable interaction_copyable data)

/-- A decoded interaction is copied when all documents below it allow it. -/
def InteractionCopies (data : CJson) (i : Interaction) : Prop :=
  (_d_copy_interaction i).Returns
    (interaction_everywhere message_copyable interaction_copyable data)

/-- Copying an interaction, given when its message is copied. -/
theorem interaction_copy_returns_of {data : CJson}
    (ih : ∀ c, cJSON_GetObjectItem data "message" = some c →
      (_d_json_to_message c).Ensures (MessageCopies c)) :
    (_d_json_to_interaction data).Ensures (InteractionCopies data) := by
  rw [_d_json_to_interaction]
  refine Ensures.skip fun address => ?_
  refine (Ensures.pointer fun c _ => interaction_data_copy_returns c).bind fun idata hdata => ?_
  refine Ensures.skip fun user => Ensures.skip fun member => Ensures.skip fun token => ?_
  refine (Ensures.pointer ih).bind fun message hmessage => ?_
  iterate 3 refine Ensures.skip fun _ => ?_
  refine Ensures.pure ?_
  unfold InteractionCopies
  rw [_d_copy_interaction, interaction_everywhere_iff]
  refine (Returns.visit _ _).seq fun _ => (Returns.alloc _).seq fun _ => ?_
  refine (Returns.unless_null₂ (fun _ _ h => h) hdata).bind fun _ => ?_
  refine (pointer_returns fun u => returns_of_copies (user_traverses u)).seq fun _ => ?_
  refine (pointer_returns fun m => returns_of_copies (member_own_traverses m _)).seq fun _ => ?_
  refine (copy_string_returns _ _).seq fun _ => ?_
  refine (Returns.unless_null₂ (fun _ _ h => h) hmessage).bind_total fun _ => ?_
  iterate 3 refine (copy_string_returns _ _).seq fun _ => ?_
  exact Returns.pure _

/-- Copying a message, given when what nests in it is copied. -/
theorem message_copy_returns_of {data : CJson}
    (ih_referenced : ∀ c, referenced_item data = some c →
      (_d_json_to_message c).Ensures (MessageCopies c))
    (ih_interaction : ∀ c, cJSON_GetObjectItem data "interaction" = some c →
      (_d_json_to_interaction c).Ensures (InteractionCopies c)) :
    (_d_json_to_message data).Ensures (MessageCopies data) := by
  rw [_d_json_to_message]
  iterate 8 refine Ensures.skip fun _ => ?_
  refine (array_ensures (R := fun _ p => ∃ b, p = Sum.inr b) fun c _ =>
    Ensures.skip fun b => Ensures.pure ⟨b, rfl⟩).bind fun mention_channels hchannels => ?_
  iterate 6 refine Ensures.skip fun _ => ?_
  -- the two places where messages nest
  refine (Ensures.pointer ih_referenced).bind fun referenced_message hreferenced => ?_
  refine (Ensures.pointer ih_interaction).bind fun interaction hinteraction => ?_
  iterate 3 refine Ensures.skip fun _ => ?_
  refine Ensures.pure ?_
  unfold MessageCopies
  rw [_d_copy_message, message_everywhere_iff]
  refine (Returns.visit _ _).seq fun _ => (Returns.alloc _).seq fun _ => ?_
  refine (pointer_returns fun u => returns_of_copies (user_traverses u)).seq fun _ => ?_
  refine (pointer_returns fun m => returns_of_copies (member_own_traverses m _)).seq fun _ => ?_
  iterate 3 refine (copy_string_returns _ _).seq fun _ => ?_
  refine (copy_array_returns fun m _ => returns_of_copies (member_own_traverses m _)).seq
    fun _ => ?_
  refine (copy_array_returns fun role _ => Returns.pure role).seq fun _ => ?_
  refine (declared_array_returns hchannels).bind fun _ => ?_
  refine (copy_array_returns fun a _ => returns_of_copies (attachment_traverses a)).seq
    fun _ => ?_
  -- neither embeds nor a thread are decoded
  refine (Returns.pure CArray.null).seq fun _ => ?_
  refine (copy_array_returns fun r _ => Returns.pure none).seq fun _ => ?_
  refine (copy_string_returns _ _).seq fun _ => Returns.seq (Returns.pure _) fun _ => ?_
  refine (pointer_returns fun a => returns_of_copies (application_traverses a)).seq fun _ => ?_
  refine (pointer_returns fun r => returns_of_copies (message_reference_traverses r)).seq
    fun _ => ?_
  refine (Returns.unless_null₂ (fun _ _ h => h) hreferenced).bind fun _ => ?_
  refine (Returns.unless_null₂ (fun _ _ h => h) hinteraction).bind_total fun _ => ?_
  refine (Returns.pure none).seq fun _ => ?_
  refine (copy_array_returns fun c _ => copy_component_returns c).seq fun _ => ?_
  iterate 2 refine (copy_array_returns fun s _ => Returns.pure none).seq fun _ => ?_
  exact Returns.pure _

mutual

/-- **A decoded message can be copied** exactly when the documents of all
    messages and interactions in it allow it. -/
theorem message_copy_returns (data : CJson) :
    (_d_json_to_message data).Ensures (MessageCopies data) := by
  apply message_copy_returns_of
  · intro c hc
    have : sizeOf c < sizeOf data := sizeOf_referenced_item hc
    exact message_copy_returns c
  · intro c hc
    have : sizeOf c < sizeOf data := sizeOf_item hc
    exact interaction_copy_returns c
termination_by sizeOf data

theorem interaction_copy_returns (data : CJson) :
    (_d_json_to_interaction data).Ensures (InteractionCopies data) := by
  apply interaction_copy_returns_of
  intro c hc
  have : sizeOf c < sizeOf data := sizeOf_item hc
  exact message_copy_returns c
termination_by sizeOf data

end

end DiscoC
