import DiscoC.Discord.EmbedOwnership
import DiscoC.Discord.MessageOwnership

/-! # What decoded documents can be given up and copied

  For messages, interactions and embeds: the documents for which the
  destroyer frees exactly what the decoder has allocated, and both the
  destroyer and the copier take each structure to the routine of its type.
-/

namespace DiscoC

variable {α : Type}

/-- What is decoded from `data` can be given up and copied. -/
def OwnershipLaw (decode : CJson → CMem α) (destroy : α → CMem Unit) (copy : α → CMem α)
    (data : CJson) : Prop :=
  DestroyLaw StructType.has_routine (decode data) destroy ∧
    CopyLaw StructType.has_routine (decode data) copy

/-! ### Messages and interactions -/

/-- A message can be decoded, and then given up and copied. -/
def message_sound (data : CJson) : Prop :=
  message_readable data ∧ message_freed data ∧ message_copied data

/-- An interaction can be decoded, and then given up and copied. -/
def interaction_sound (data : CJson) : Prop :=
  interaction_readable data ∧ interaction_freed data ∧ interaction_copied data

mutual

theorem message_everywhere_and (pm pm' pi pi' : CJson → Prop) (data : CJson) :
    message_everywhere (fun c => pm c ∧ pm' c) (fun c => pi c ∧ pi' c) data ↔
      message_everywhere pm pi data ∧ message_everywhere pm' pi' data := by
  have ih_referenced : ∀ c, referenced_item data = some c → _ := fun c hc =>
    have : sizeOf c < sizeOf data := sizeOf_referenced_item hc
    message_everywhere_and pm pm' pi pi' c
  have ih_interaction : ∀ c, cJSON_GetObjectItem data "interaction" = some c → _ := fun c hc =>
    have : sizeOf c < sizeOf data := sizeOf_item hc
    interaction_everywhere_and pm pm' pi pi' c
  -- both sides hold here and in the two nested places
  rw [message_everywhere_iff, message_everywhere_iff pm, message_everywhere_iff pm']
  constructor
  · rintro ⟨⟨h, h'⟩, hr, hi⟩
    exact ⟨⟨h, fun c hc => ((ih_referenced c hc).mp (hr c hc)).1,
        fun c hc => ((ih_interaction c hc).mp (hi c hc)).1⟩,
      h', fun c hc => ((ih_referenced c hc).mp (hr c hc)).2,
        fun c hc => ((ih_interaction c hc).mp (hi c hc)).2⟩
  · rintro ⟨⟨h, hr, hi⟩, h', hr', hi'⟩
    exact ⟨⟨h, h'⟩, fun c hc => (ih_referenced c hc).mpr ⟨hr c hc, hr' c hc⟩,
      fun c hc => (ih_interaction c hc).mpr ⟨hi c hc, hi' c hc⟩⟩
termination_by sizeOf data

theorem interaction_everywhere_and (pm pm' pi pi' : CJson → Prop) (data : CJson) :
    interaction_everywhere (fun c => pm c ∧ pm' c) (fun c => pi c ∧ pi' c) data ↔
      interaction_everywhere pm pi data ∧ interaction_everywhere pm' pi' data := by
  have ih : ∀ c, cJSON_GetObjectItem data "message" = some c → _ := fun c hc =>
    have : sizeOf c < sizeOf data := sizeOf_item hc
    message_everywhere_and pm pm' pi pi' c
  rw [interaction_everywhere_iff, interaction_everywhere_iff pm, interaction_everywhere_iff pm']
  constructor
  · rintro ⟨⟨h, h'⟩, hm⟩
    exact ⟨⟨h, fun c hc => ((ih c hc).mp (hm c hc)).1⟩, h',
      fun c hc => ((ih c hc).mp (hm c hc)).2⟩
  · rintro ⟨⟨h, hm⟩, h', hm'⟩
    exact ⟨⟨h, h'⟩, fun c hc => (ih c hc).mpr ⟨hm c hc, hm' c hc⟩⟩
termination_by sizeOf data

end

/-- When a decoded message can be destroyed. -/
theorem message_destroyLaw_iff (data : CJson) :
    DestroyLaw StructType.has_routine (_d_json_to_message data) discord_destroy_message ↔
      message_everywhere message_readable interaction_readable data ∧
        message_everywhere message_freed interaction_freed data :=
  destroyLaw_iff ((message_owns data).mono fun _ _ h => h.freed)

/-- When a decoded message can be copied. -/
theorem message_copyLaw_iff (data : CJson) :
    CopyLaw StructType.has_routine (_d_json_to_message data) _d_copy_message ↔
      message_everywhere message_readable interaction_readable data ∧
        message_everywhere message_copied interaction_copied data :=
  copyLaw_iff ((message_owns data).mono fun _ _ h => h.copied)

theorem message_ownershipLaw_iff (data : CJson) :
    OwnershipLaw _d_json_to_message discord_destroy_message _d_copy_message data ↔
      message_everywhere message_sound interaction_sound data := by
  unfold message_sound interaction_sound
  rw [OwnershipLaw, message_destroyLaw_iff, message_copyLaw_iff, message_everywhere_and,
    message_everywhere_and]
  constructor
  · rintro ⟨⟨hread, hfree⟩, -, hcopy⟩
    exact ⟨hread, hfree, hcopy⟩
  · rintro ⟨hread, hfree, hcopy⟩
    exact ⟨⟨hread, hfree⟩, hread, hcopy⟩

/-- When a decoded interaction can be destroyed. -/
theorem interaction_destroyLaw_iff (data : CJson) :
    DestroyLaw StructType.has_routine (_d_json_to_interaction data) discord_destroy_interaction ↔
      interaction_everywhere message_readable interaction_readable data ∧
        interaction_everywhere message_freed interaction_freed data :=
  destroyLaw_iff ((interaction_owns data).mono fun _ _ h => h.freed)

/-- When a decoded interaction can be copied. -/
theorem interaction_copyLaw_iff (data : CJson) :
    CopyLaw StructType.has_routine (_d_json_to_interaction data) _d_copy_interaction ↔
      interaction_everywhere message_readable interaction_readable data ∧
        interaction_everywhere message_copied interaction_copied data :=
  copyLaw_iff ((interaction_owns data).mono fun _ _ h => h.copied)

theorem interaction_ownershipLaw_iff (data : CJson) :
    OwnershipLaw _d_json_to_interaction discord_destroy_interaction _d_copy_interaction data ↔
      interaction_everywhere message_sound interaction_sound data := by
  unfold message_sound interaction_sound
  rw [OwnershipLaw, interaction_destroyLaw_iff, interaction_copyLaw_iff,
    interaction_everywhere_and, interaction_everywhere_and]
  constructor
  · rintro ⟨⟨hread, hfree⟩, -, hcopy⟩
    exact ⟨hread, hfree, hcopy⟩
  · rintro ⟨hread, hfree, hcopy⟩
    exact ⟨⟨hread, hfree⟩, hread, hcopy⟩

/-! ### Embeds -/

/-- An embed can be given up and copied: it has neither a timestamp nor a
    footer. -/
def embed_sound (data : CJson) : Prop :=
  cJSON_IsString (cJSON_GetObjectItem data "timestamp") = none ∧
    cJSON_GetObjectItem data "footer" = none

/-- An embed with a timestamp is not given up: its title is freed twice, or
    the timestamp is lost. -/
theorem not_destroyLaw_of_timestamp {data : CJson}
    (h : cJSON_IsString (cJSON_GetObjectItem data "timestamp") ≠ none) :
    ¬ DestroyLaw StructType.has_routine (_d_json_to_embed data) discord_destroy_embed := by
  intro hlaw
  obtain ⟨e, log, hrun, hdestroy⟩ := hlaw 0
  obtain ⟨-, own, hlive, hnodup, p, hown⟩ := (embed_owns data).exists_of_run hrun
  obtain ⟨log', hrun', hfree, -, -⟩ := hdestroy 0
  obtain ⟨ts, hts⟩ := Option.ne_none_iff_exists'.mp fun hnone => h (p.timestamp.mp hnone)
  have hblocks := hown.trans (p.blocks_with_perm _)
  rw [hts] at hblocks
  rcases p.disposes 0 with ⟨hnone, -⟩ | ⟨_, log'', lost, hrun'', hperm, -, -⟩
  · rw [hnone] at hrun'
    cases hrun'
  rw [hrun'] at hrun''
  cases hrun''
  -- The block of the timestamp is freed as the law has it, and that of the
  -- title in its place as the destroyer has it.
  have hswap : (string_blocks (some ts) ++ p.blocks_with [] ++ lost).Perm
      (EmbedParts.freed e ++ p.blocks_with []) :=
    (((hfree.trans (hlive.trans hblocks)).symm.append_right lost).trans hperm).trans
      (p.blocks_with_perm _)
  have hlen := hswap.length_eq
  simp only [EmbedParts.freed, hts, Option.isSome_some, if_true, List.length_append] at hlen hswap
  cases htitle : e.title with
  | none =>
    simp only [htitle, string_blocks, List.length_nil, List.length_singleton] at hlen
    omega
  | some t =>
    simp only [htitle, string_blocks, List.length_singleton] at hlen hswap
    have hlost : lost = [] := List.length_eq_zero_iff.mp (by omega)
    rw [hlost, List.append_nil, List.perm_append_right_iff] at hswap
    have heq := List.perm_singleton.mp hswap
    rw [List.singleton_inj] at heq
    have hnotin := (List.nodup_cons.mp (hblocks.nodup_iff.mp hnodup)).1
    rw [heq] at hnotin
    exact hnotin (p.mem_blocks_of_title htitle)

theorem embed_ownershipLaw_iff (data : CJson) :
    OwnershipLaw _d_json_to_embed discord_destroy_embed _d_copy_embed data ↔
      embed_sound data := by
  have hcopy : CopyLaw StructType.has_routine (_d_json_to_embed data) _d_copy_embed ↔
      True ∧ cJSON_GetObjectItem data "footer" = none :=
    copyLaw_iff ((embed_owns data).mono fun e own ⟨p, hown⟩ => p.traverses.perm hown.symm)
  by_cases htimestamp : cJSON_IsString (cJSON_GetObjectItem data "timestamp") = none
  · have hdestroy : DestroyLaw StructType.has_routine (_d_json_to_embed data)
        discord_destroy_embed ↔ True ∧ cJSON_GetObjectItem data "footer" = none := by
      apply destroyLaw_iff
      apply (embed_owns data).mono
      intro e own ⟨p, hown⟩
      apply p.disposes.perm
      -- Without a timestamp, nothing is freed in its place.
      have hnone := p.timestamp.mpr htimestamp
      rw [EmbedParts.freed, hnone]
      rw [EmbedParts.blocks, hnone] at hown
      exact hown.symm
    rw [OwnershipLaw, hdestroy, hcopy, embed_sound]
    simp [htimestamp]
  · rw [OwnershipLaw, embed_sound]
    exact iff_of_false (fun h => not_destroyLaw_of_timestamp htimestamp h.1)
      fun h => htimestamp h.1

/-! ### The result -/

/-- Messages, interactions and embeds can be given up and copied if and only
    if each document below them is sound. -/
theorem decoded_sound_iff (data : CJson) :
    (OwnershipLaw _d_json_to_message discord_destroy_message _d_copy_message data ↔
      message_everywhere message_sound interaction_sound data) ∧
    (OwnershipLaw _d_json_to_interaction discord_destroy_interaction _d_copy_interaction data ↔
      interaction_everywhere message_sound interaction_sound data) ∧
    (OwnershipLaw _d_json_to_embed discord_destroy_embed _d_copy_embed data ↔
      embed_sound data) :=
  ⟨message_ownershipLaw_iff data, interaction_ownershipLaw_iff data, embed_ownershipLaw_iff data⟩

/-- A reply, with the message it refers to. -/
def reply : CJson :=
  .object [("id", .string "2"), ("referenced_message", .object [("id", .string "1")])]

/-- Of a reply, the message it refers to is lost. -/
theorem reply_unsound :
    ¬ OwnershipLaw _d_json_to_message discord_destroy_message _d_copy_message reply := by
  rw [message_ownershipLaw_iff, message_everywhere_iff]
  rintro ⟨⟨-, ⟨-, hreferenced, -⟩, -⟩, -⟩
  exact absurd hreferenced (by decide)

end DiscoC
