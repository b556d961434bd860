import DiscoC.Discord.EmbedOwnership
import DiscoC.Discord.MessageOwnership
import DiscoC.Framework.Yields

/-! # Copying again

  The copiers are not defined on every structure: a channel that is mentioned
  is copied by the wrong routine, and the value of an option may be a number
  where a string is copied. That depends on the structure only, not on where
  its copy will be: what has been copied once can be copied again.
-/

namespace DiscoC

open Mem

/-! ### Parts -/

section parts
variable {α β : Type}

/-- A copy that goes through everything is defined. -/
theorem returns_of_copies {x : CMem α} {own : List (Block StructType)} (h : Copies x own True) :
    x.Returns True := by
  intro n
  rcases h n with hnone | hsome
  · exact absurd trivial hnone.2
  · obtain ⟨a, log, missed, hrun, -⟩ := hsome
    exact ⟨fun _ => ⟨a, log, hrun, trivial⟩, fun hn => absurd trivial hn⟩

theorem alike_of_copies {x y : CMem α} {own own' : List (Block StructType)}
    (hx : Copies x own True) (hy : Copies y own' True) : x.Alike y :=
  Alike.of_returns (returns_of_copies hx) (returns_of_copies hy)

theorem copy_string_returns (s : Option CStr) (n : Nat) : (copy_string s n).Returns True :=
  returns_of_copies (copy_string_skips s n)

theorem copy_array_returns {array : CArray α} {copy : (a : α) → a ∈ array.items → CMem β}
    (h : ∀ a ha, (copy a ha).Returns True) : (copy_array array copy).Returns True := by
  cases array with
  | null => exact Returns.pure _
  | block address items =>
    refine (Returns.alloc _).seq fun _ => ?_
    exact (Returns.each h).seq fun _ => Returns.pure _

theorem visit_alike (type : StructType) (b : Block StructType) :
    (Mem.visit type b).Alike (Mem.visit type b) :=
  Alike.of_returns (Returns.visit type b) (Returns.visit type b)

theorem alloc_alike (type : StructType) : (Mem.alloc type).Alike (Mem.alloc type) :=
  Alike.of_returns (Returns.alloc type) (Returns.alloc type)

theorem copy_string_alike (s s' : Option CStr) {n : Nat} :
    (copy_string s n).Alike (copy_string s' n) :=
  alike_of_copies (copy_string_skips s n) (copy_string_skips s' n)

theorem unimplemented_alike (p : Unimplemented) :
    (copy_unimplemented p).Alike (copy_unimplemented p) := Alike.pure _ _

theorem copy_array_alike {array : CArray α} {copy : (a : α) → a ∈ array.items → CMem β}
    (h : ∀ a ha, (copy a ha).Alike (copy a ha)) :
    (copy_array array copy).Alike (copy_array array copy) := by
  cases array with
  | null => exact Alike.pure _ _
  | block address items =>
    exact (alloc_alike .array).bind fun _ _ => (Alike.each h).bind fun _ _ => Alike.pure _ _

/-- A pointer to another type than the declared one is copied nowhere. -/
theorem declared_alike {γ : Type} {f : α → CMem γ} (h : ∀ a, (f a).Alike (f a)) (p : α ⊕ β) :
    (Mem.declared f p).Alike (Mem.declared f p) := by
  cases p with
  | inl a => exact h a
  | inr b => exact fun _ _ => rfl

end parts

/-- The user of the copy of a member does not matter. -/
theorem copy_member_alike (m : Member) (user user' : Option User) :
    (_d_copy_member m user).Alike (_d_copy_member m user') :=
  alike_of_copies (member_own_traverses m user) (member_own_traverses m user')

theorem copy_user_alike (user : User) : (_d_copy_user user).Alike (_d_copy_user user) :=
  alike_of_copies (user_traverses user) (user_traverses user)

/-- Every channel can be copied. -/
theorem copy_channel_returns (ch : Channel) : (_d_copy_channel ch).Returns True := by
  unfold _d_copy_channel
  refine (Returns.visit _ _).seq fun _ => (Returns.alloc _).seq fun _ => ?_
  refine (copy_array_returns fun o _ => Returns.pure _).seq fun _ => ?_
  refine (copy_string_returns _ _).seq fun _ => (copy_string_returns _ _).seq fun _ => ?_
  refine (copy_array_returns fun user _ => returns_of_copies (user_traverses user)).seq fun _ => ?_
  iterate 3 refine (copy_string_returns _ _).seq fun _ => ?_
  iterate 2 refine Returns.seq (Returns.pure _) fun _ => ?_
  exact (copy_string_returns _ _).seq fun _ => Returns.pure _

theorem copy_channel_alike (ch : Channel) : (_d_copy_channel ch).Alike (_d_copy_channel ch) :=
  Alike.of_returns (copy_channel_returns ch) (copy_channel_returns ch)

theorem copy_embed_alike (e : Embed) : (_d_copy_embed e).Alike (_d_copy_embed e) := by
  have hfooter : ∀ f, (_d_copy_embed_footer f).Alike (_d_copy_embed_footer f) := by
    intro f
    refine (visit_alike _ _).bind fun _ _ => (alloc_alike _).bind fun _ _ => ?_
    iterate 3 refine (copy_string_alike _ _).bind fun _ _ => ?_
    exact Alike.pure _ _
  have hmedia : ∀ m, (_d_copy_embed_media m).Alike (_d_copy_embed_media m) := fun m =>
    alike_of_copies (embed_media_traverses m) (embed_media_traverses m)
  unfold _d_copy_embed
  refine (visit_alike _ _).bind fun _ _ => (alloc_alike _).bind fun _ _ => ?_
  iterate 5 refine (copy_string_alike _ _).bind fun _ _ => ?_
  -- the footer may be an embed instead
  refine (Alike.unless_null fun footer _ => declared_alike hfooter footer).bind fun _ _ => ?_
  iterate 3 refine (Alike.unless_null fun m _ => hmedia m).bind fun _ _ => ?_
  refine (Alike.unless_null fun p _ => alike_of_copies (embed_provider_traverses p)
    (embed_provider_traverses p)).bind fun _ _ => ?_
  refine (Alike.unless_null fun a _ => alike_of_copies (embed_author_traverses a)
    (embed_author_traverses a)).bind fun _ _ => ?_
  refine (copy_array_alike fun f _ => alike_of_copies (embed_field_traverses f)
    (embed_field_traverses f)).bind fun _ _ => Alike.pure _ _

/-! ### Components and options -/

theorem copy_select_menu_returns (m : SelectMenu) : (copy_select_menu m).Returns True := by
  refine (Returns.alloc _).seq fun _ => (copy_string_returns _ _).seq fun _ => ?_
  refine (copy_array_returns fun o _ => returns_of_copies (select_option_traverses o)).seq
    fun _ => ?_
  exact (copy_string_returns _ _).seq fun _ => Returns.pure _

mutual

/-- Every component can be copied. -/
theorem copy_component_returns (c : Component) : (_d_copy_component c).Returns True := by
  cases c with
  | mk address comp =>
    rw [_d_copy_component]
    refine (Returns.visit _ _).seq fun _ => (Returns.alloc _).seq fun _ => ?_
    exact (copy_comp_returns comp).seq fun _ => Returns.pure _
termination_by sizeOf c

theorem copy_comp_returns (comp : Comp) : (copy_comp comp).Returns True := by
  cases comp with
  | action_row row components =>
    rw [copy_comp]
    refine (Returns.alloc _).seq fun _ => ?_
    refine (copy_array_returns fun c h => ?_).seq fun _ => Returns.pure _
    have : sizeOf c < sizeOf components := CArray.sizeOf_item h
    exact copy_component_returns c
  | button button =>
    rw [copy_comp]
    exact (returns_of_copies (button_traverses button)).seq fun _ => Returns.pure _
  | select_menu m =>
    rw [copy_comp]
    exact (copy_select_menu_returns m).seq fun _ => Returns.pure _
  | text_input t =>
    rw [copy_comp]
    exact (returns_of_copies (text_input_traverses t)).seq fun _ => Returns.pure _
  | unknown type =>
    rw [copy_comp]
    exact Returns.pure _
termination_by sizeOf comp
decreasing_by
  rw [Comp.action_row.sizeOf_spec]
  omega

end

theorem copy_component_alike (c : Component) :
    (_d_copy_component c).Alike (_d_copy_component c) :=
  Alike.of_returns (copy_component_returns c) (copy_component_returns c)

/-- Whether the value of an option is a string depends on the option. -/
theorem copy_option_value_alike (o : InteractionDataOption) :
    (copy_option_value o).Alike (copy_option_value o) := by
  have hread : o.value.read_string.Alike o.value.read_string := by
    intro n k
    unfold OptionValue.read_string
    split
    · rfl
    · split <;> rfl
    · split <;> rfl
    · rfl
  unfold copy_option_value
  split
  · exact hread.bind fun s s' => (copy_string_alike s s').bind fun _ _ => Alike.pure _ _
  · exact Alike.pure _ _

theorem copy_option_alike (o : InteractionDataOption) :
    (_d_copy_interaction_data_option o).Alike (_d_copy_interaction_data_option o) := by
  rw [_d_copy_interaction_data_option]
  refine (visit_alike _ _).bind fun _ _ => (alloc_alike _).bind fun _ _ => ?_
  refine (copy_string_alike _ _).bind fun _ _ => (copy_option_value_alike o).bind fun _ _ => ?_
  refine (copy_array_alike fun c h => ?_).bind fun _ _ => Alike.pure _ _
  have : sizeOf c < sizeOf o := InteractionDataOption.sizeOf_item h
  exact copy_option_alike c
termination_by o

theorem copy_interaction_data_alike (d : InteractionData) :
    (_d_copy_interaction_data d).Alike (_d_copy_interaction_data d) := by
  refine (visit_alike _ _).bind fun _ _ => (alloc_alike _).bind fun _ _ => ?_
  refine (copy_string_alike _ _).bind fun _ _ => ?_
  refine (copy_array_alike fun o _ => copy_option_alike o).bind fun _ _ => ?_
  refine (copy_string_alike _ _).bind fun _ _ => ?_
  refine (copy_array_alike fun value _ => (declared_alike copy_option_alike value).bind
    fun _ _ => Alike.pure _ _).bind fun _ _ => ?_
  exact (copy_array_alike fun c _ => copy_component_alike c).bind fun _ _ => Alike.pure _ _

/-! ### Messages -/

mutual

/-- **A message is copied again** if it has been copied. -/
theorem copy_message_alike (m : Message) : (_d_copy_message m).Alike (_d_copy_message m) := by
  rw [_d_copy_message]
  refine (visit_alike _ _).bind fun _ _ => (alloc_alike _).bind fun _ _ => ?_
  refine (Alike.unless_null fun user _ => copy_user_alike user).bind fun _ _ => ?_
  refine (Alike.unless_null fun member _ => copy_member_alike member _ _).bind fun _ _ => ?_
  iterate 3 refine (copy_string_alike _ _).bind fun _ _ => ?_
  refine (copy_array_alike fun mention _ => copy_member_alike mention _ _).bind fun _ _ => ?_
  refine (copy_array_alike fun role _ => Alike.pure role role).bind fun _ _ => ?_
  refine (copy_array_alike fun ch _ => (declared_alike copy_channel_alike ch).bind
    fun _ _ => Alike.pure _ _).bind fun _ _ => ?_
  refine (copy_array_alike fun a _ => alike_of_copies (attachment_traverses a)
    (attachment_traverses a)).bind fun _ _ => ?_
  refine (copy_array_alike fun e _ => copy_embed_alike e).bind fun _ _ => ?_
  refine (copy_array_alike fun r _ => unimplemented_alike r).bind fun _ _ => ?_
  refine (copy_string_alike _ _).bind fun _ _ => (unimplemented_alike _).bind fun _ _ => ?_
  refine (Alike.unless_null fun a _ => alike_of_copies (application_traverses a)
    (application_traverses a)).bind fun _ _ => ?_
  refine (Alike.unless_null fun r _ => alike_of_copies (message_reference_traverses r)
    (message_reference_traverses r)).bind fun _ _ => ?_
  refine (Alike.unless_null fun r h => ?_).bind fun _ _ => ?_
  · have : sizeOf r < sizeOf m := Message.sizeOf_referenced h
    exact copy_message_alike r
  refine (Alike.unless_null fun i h => ?_).bind fun _ _ => ?_
  · have : sizeOf i < sizeOf m := Message.sizeOf_interaction h
    exact copy_interaction_alike i
  refine (Alike.unless_null fun ch _ => copy_channel_alike ch).bind fun _ _ => ?_
  refine (copy_array_alike fun c _ => copy_component_alike c).bind fun _ _ => ?_
  refine (copy_array_alike fun s _ => unimplemented_alike s).bind fun _ _ => ?_
  exact (copy_array_alike fun s _ => unimplemented_alike s).bind fun _ _ => Alike.pure _ _
termination_by sizeOf m

theorem copy_interaction_alike (i : Interaction) :
    (_d_copy_interaction i).Alike (_d_copy_interaction i) := by
  rw [_d_copy_interaction]
  refine (visit_alike _ _).bind fun _ _ => (alloc_alike _).bind fun _ _ => ?_
  refine (Alike.unless_null fun d _ => copy_interaction_data_alike d).bind fun _ _ => ?_
  refine (Alike.unless_null fun user _ => copy_user_alike user).bind fun _ _ => ?_
  refine (Alike.unless_null fun member _ => copy_member_alike member _ _).bind fun _ _ => ?_
  refine (copy_string_alike _ _).bind fun _ _ => ?_
  refine (Alike.unless_null fun m h => ?_).bind fun _ _ => ?_
  · have : sizeOf m < sizeOf i := Interaction.sizeOf_message h
    exact copy_message_alike m
  iterate 3 refine (copy_string_alike _ _).bind fun _ _ => ?_
  exact Alike.pure _ _
termination_by sizeOf i

end

end DiscoC
