import DiscoC.Discord.Message
import DiscoC.Framework.Separation

/-! # Copies have blocks of their own

  What is freed when a copy is destroyed was allocated when it was copied.
  The exception is the copy of a channel, which keeps the icon of the channel
  (`Channel.Lends`).
-/

namespace DiscoC

open Mem

variable {base : Block StructType → Prop}

/-! ### Strings, arrays and pointers -/

theorem copy_string_brings (s : Option CStr) (n : Nat) :
    Brings base (copy_string s n) fun c => Frees (free_string c) := by
  have hnew : ∀ s : CStr,
      Brings base (new_string s.bytes n) fun c b => b = ⟨.chars, c.address⟩ := by
    intro s
    exact (Brings.alloc _).bind fun address => Brings.pure fun b hb => .inr hb
  refine (Brings.unless_null fun s _ => hnew s).weaken fun c b hb => ?_
  cases c with
  | none => exact absurd hb Frees.not_pure
  | some c => exact ⟨c, rfl, hb.eq_of_free⟩

section
variable {α β : Type} {p : β → Block StructType → Prop} {destroy : β → CMem Unit}

/-- The block of an array, and what its items have. -/
theorem copy_array_brings {array : CArray α} {copy : (a : α) → a ∈ array.items → CMem β}
    (h : ∀ a ha, Brings base (copy a ha) p) :
    Brings base (copy_array array copy) fun copies b =>
      Frees (free_array copies) b ∨ ∃ c ∈ copies.items, p c b := by
  cases array with
  | null =>
    refine Brings.pure fun b hb => ?_
    rcases hb with hfree | hitem
    · exact absurd hfree Frees.not_pure
    · obtain ⟨c, hc, -⟩ := hitem
      cases hc
  | block address items =>
    refine (Brings.alloc _).bind fun address => ?_
    refine ((Brings.each h).mono fun b hb => .inl hb).bind fun copies => ?_
    refine Brings.pure fun b hb => ?_
    rcases hb with hfree | hitem
    · exact .inl (.inr hfree.eq_of_free)
    · exact .inr hitem

/-- An array that is destroyed with its items. -/
theorem copy_items_brings {array : CArray α} {copy : (a : α) → a ∈ array.items → CMem β}
    (h : ∀ a ha, Brings base (copy a ha) fun c => Frees (destroy c)) :
    Brings base (copy_array array copy) fun copies =>
      Frees (destroy_array copies fun c _ => destroy c) := by
  refine (copy_array_brings h).weaken fun copies b hb => ?_
  rcases hb.seq with hitems | hfree
  · obtain ⟨c, hc, hitem⟩ := hitems.each
    exact .inr ⟨c, hc, hitem⟩
  · exact .inl hfree

/-- An array that is freed without its items. -/
theorem copy_values_brings {array : CArray α} :
    Brings base (copy_array array fun a _ => pure a) fun copies => Frees (free_array copies) :=
  (copy_array_brings (p := fun _ _ => False) fun _ _ => Brings.pure fun _ hb => hb.elim).weaken
    fun _ _ hb => .inl hb

theorem copy_pointer_brings {o : Option α} {copy : (a : α) → o = some a → CMem β}
    (h : ∀ a ha, Brings base (copy a ha) fun c => Frees (destroy c)) :
    Brings base (Mem.unless_null o copy) fun c =>
      Frees (destroy_pointer c fun c _ => destroy c) := by
  refine (Brings.unless_null h).weaken fun c b hb => ?_
  rcases hb.seq with hpointer | hret
  · obtain ⟨a, ha, hb⟩ := hpointer.unless_null
    exact ⟨a, ha, hb⟩
  · exact absurd hret Frees.not_pure

end

/-- Structures that are not implemented are neither copied nor destroyed. -/
theorem copy_unimplemented_array_brings {array : CArray Unimplemented} :
    Brings base (copy_array array fun p _ => copy_unimplemented p) fun copies =>
      Frees (destroy_array copies fun p _ => destroy_unimplemented p) :=
  copy_items_brings fun _ _ => Brings.pure fun _ hb => absurd hb Frees.not_pure

theorem copy_unimplemented_brings (p : Unimplemented) :
    Brings base (copy_unimplemented p) fun c =>
      Frees (destroy_pointer c fun b _ => Mem.free b) := by
  refine Brings.pure fun b hb => ?_
  rcases hb.seq with hpointer | hret
  · obtain ⟨a, ha, -⟩ := hpointer.unless_null
    cases ha
  · exact absurd hret Frees.not_pure

/-! ### Records -/

theorem copy_user_brings (user : User) :
    Brings base (_d_copy_user user) fun c => Frees (discord_destroy_user c) := by
  refine Brings.skip fun _ => (Brings.alloc _).bind fun address => ?_
  refine (copy_string_brings _ _).bind fun username => ?_
  refine (copy_string_brings _ _).bind fun discriminator => ?_
  refine (copy_string_brings _ _).bind fun avatar => ?_
  refine (copy_string_brings _ _).bind fun banner => ?_
  refine (copy_string_brings _ _).bind fun locale => ?_
  refine (copy_string_brings _ _).bind fun email => Brings.pure fun b hb => ?_
  dsimp only [discord_destroy_user] at hb
  rcases hb.destroying with hb | hb
  · simp [hb]
  iterate 5
    rcases hb.seq with hfirst | hb
    · simp [hfirst]
  simp [hb]

/-- A member is copied with a user that is at hand. -/
theorem copy_member_brings (m : Member) {user : Option User}
    (huser : ∀ b, Frees (destroy_pointer user fun user _ => discord_destroy_user user) b → base b) :
    Brings base (_d_copy_member m user) fun c => Frees (discord_destroy_member c) := by
  refine Brings.skip fun _ => (Brings.alloc _).bind fun address => ?_
  refine (copy_string_brings _ _).bind fun nick => ?_
  refine (copy_string_brings _ _).bind fun avatar => ?_
  refine copy_values_brings.bind fun roles => ?_
  refine (copy_string_brings _ _).bind fun joined_at => ?_
  refine (copy_string_brings _ _).bind fun premium_since => ?_
  refine (copy_string_brings _ _).bind fun permissions => ?_
  refine (copy_string_brings _ _).bind fun communication => Brings.pure fun b hb => ?_
  dsimp only [discord_destroy_member] at hb
  rcases hb.destroying with hb | hb
  · simp [hb]
  iterate 7
    rcases hb.seq with hfirst | hb
    · simp [hfirst]
  have hhand := huser b hb
  simp [hhand]

theorem copy_attachment_brings (a : Attachment) :
    Brings base (_d_copy_attachment a) fun c => Frees (discord_destroy_attachment c) := by
  refine Brings.skip fun _ => (Brings.alloc _).bind fun address => ?_
  refine (copy_string_brings _ _).bind fun filename => ?_
  refine (copy_string_brings _ _).bind fun description => ?_
  refine (copy_string_brings _ _).bind fun content_type => ?_
  refine (copy_string_brings _ _).bind fun url => ?_
  refine (copy_string_brings _ _).bind fun proxy_url => Brings.pure fun b hb => ?_
  dsimp only [discord_destroy_attachment] at hb
  rcases hb.destroying with hb | hb
  · simp [hb]
  iterate 4
    rcases hb.seq with hfirst | hb
    · simp [hfirst]
  simp [hb]

/-- The icon of a channel, which its copies keep. -/
def Channel.Lends (ch : Channel) (b : Block StructType) : Prop := Frees (free_string ch.icon) b

/-- A copy of a channel has its icon from the channel. -/
theorem copy_channel_brings {ch : Channel} (hicon : ∀ b, ch.Lends b → base b) :
    Brings base (_d_copy_channel ch) fun c => Frees (discord_destroy_channel c) := by
  refine Brings.skip fun _ => (Brings.alloc _).bind fun address => ?_
  refine copy_unimplemented_array_brings.bind fun overwrites => ?_
  refine (copy_string_brings _ _).bind fun name => ?_
  refine (copy_string_brings _ _).bind fun topic => ?_
  refine (copy_items_brings fun user _ => copy_user_brings user).bind fun recipients => ?_
  refine (copy_string_brings _ _).bind fun icon => ?_
  refine (copy_string_brings _ _).bind fun last_pin => ?_
  refine (copy_string_brings _ _).bind fun rtc_region => ?_
  refine (copy_unimplemented_brings _).bind fun thread_metadata => ?_
  refine (copy_unimplemented_brings _).bind fun member => ?_
  refine (copy_string_brings _ _).bind fun permissions => Brings.pure fun b hb => ?_
  dsimp only [discord_destroy_channel, discord_destroy_overwrite] at hb
  rcases hb.destroying with hb | hb
  · simp [hb]
  rcases hb.seq with hname | hb
  · simp [hname]
  rcases hb.seq with htopic | hb
  · -- the copy of the icon, or else of the topic
    split at htopic
    · simp [htopic]
    · simp [htopic]
  rcases hb.seq with hicon' | hb
  · have hlent := hicon b hicon'
    simp [hlent]
  iterate 6
    rcases hb.seq with hfirst | hb
    · simp [hfirst]
  simp [hb]

/-! ### Embeds and components -/

theorem copy_embed_footer_brings (f : EmbedFooter) :
    Brings base (_d_copy_embed_footer f) fun c => Frees (discord_destroy_embed_footer c) := by
  refine Brings.skip fun _ => (Brings.alloc _).bind fun address => ?_
  refine (copy_string_brings _ _).bind fun text => ?_
  refine (copy_string_brings _ _).bind fun icon_url => ?_
  refine (copy_string_brings _ _).bind fun proxy_icon_url => Brings.pure fun b hb => ?_
  dsimp only [discord_destroy_embed_footer] at hb
  rcases hb.destroying with hb | hb
  · simp [hb]
  iterate 2
    rcases hb.seq with hfirst | hb
    · simp [hfirst]
  simp [hb]

theorem copy_embed_media_brings (m : EmbedMedia) :
    Brings base (_d_copy_embed_media m) fun c => Frees (discord_destroy_embed_media c) := by
  refine Brings.skip fun _ => (Brings.alloc _).bind fun address => ?_
  refine (copy_string_brings _ _).bind fun url => ?_
  refine (copy_string_brings _ _).bind fun proxy_url => Brings.pure fun b hb => ?_
  dsimp only [discord_destroy_embed_media] at hb
  rcases hb.destroying with hb | hb
  · simp [hb]
  rcases hb.seq with hurl | hb
  · simp [hurl]
  · simp [hb]

theorem copy_embed_provider_brings (p : EmbedProvider) :
    Brings base (_d_copy_embed_provider p) fun c => Frees (discord_destroy_embed_provider c) := by
  refine Brings.skip fun _ => (Brings.alloc _).bind fun address => ?_
  refine (copy_string_brings _ _).bind fun name => ?_
  refine (copy_string_brings _ _).bind fun url => Brings.pure fun b hb => ?_
  dsimp only [discord_destroy_embed_provider] at hb
  rcases hb.destroying with hb | hb
  · simp [hb]
  rcases hb.seq with hname | hb
  · simp [hname]
  · simp [hb]

theorem copy_embed_author_brings (a : EmbedAuthor) :
    Brings base (_d_copy_embed_author a) fun c => Frees (discord_destroy_embed_author c) := by
  refine Brings.skip fun _ => (Brings.alloc _).bind fun address => ?_
  refine (copy_string_brings _ _).bind fun name => ?_
  refine (copy_string_brings _ _).bind fun url => ?_
  refine (copy_string_brings _ _).bind fun icon_url => ?_
  refine (copy_string_brings _ _).bind fun proxy_icon_url => Brings.pure fun b hb => ?_
  dsimp only [discord_destroy_embed_author] at hb
  rcases hb.destroying with hb | hb
  · simp [hb]
  iterate 3
    rcases hb.seq with hfirst | hb
    · simp [hfirst]
  simp [hb]

theorem copy_embed_field_brings (f : EmbedField) :
    Brings base (_d_copy_embed_field f) fun c => Frees (discord_destroy_embed_field c) := by
  refine Brings.skip fun _ => (Brings.alloc _).bind fun address => ?_
  refine (copy_string_brings _ _).bind fun name => ?_
  refine (copy_string_brings _ _).bind fun value => Brings.pure fun b hb => ?_
  dsimp only [discord_destroy_embed_field] at hb
  rcases hb.destroying with hb | hb
  · simp [hb]
  rcases hb.seq with hname | hb
  · simp [hname]
  · simp [hb]

/-- The footer of a copy is a footer, whatever it was copied from. -/
theorem copy_declared_brings {α β γ : Type} {f : α → CMem γ} {p : γ → Block StructType → Prop}
    (h : ∀ a, Brings base (f a) p) (q : α ⊕ β) : Brings base (Mem.declared f q) p := by
  cases q with
  | inl a => exact h a
  | inr b => exact Brings.undefined

theorem copy_embed_brings (e : Embed) :
    Brings base (_d_copy_embed e) fun c => Frees (discord_destroy_embed c) := by
  refine Brings.skip fun _ => (Brings.alloc _).bind fun address => ?_
  refine (copy_string_brings _ _).bind fun title => ?_
  refine (copy_string_brings _ _).bind fun type => ?_
  refine (copy_string_brings _ _).bind fun description => ?_
  refine (copy_string_brings _ _).bind fun url => ?_
  refine (copy_string_brings _ _).bind fun timestamp => ?_
  refine (copy_pointer_brings fun footer _ =>
    copy_declared_brings copy_embed_footer_brings footer).bind fun footer => ?_
  refine (copy_pointer_brings fun m _ => copy_embed_media_brings m).bind fun image => ?_
  refine (copy_pointer_brings fun m _ => copy_embed_media_brings m).bind fun thumbnail => ?_
  refine (copy_pointer_brings fun m _ => copy_embed_media_brings m).bind fun video => ?_
  refine (copy_pointer_brings fun p _ => copy_embed_provider_brings p).bind fun provider => ?_
  refine (copy_pointer_brings fun a _ => copy_embed_author_brings a).bind fun author => ?_
  refine (copy_items_brings fun f _ => copy_embed_field_brings f).bind fun fields => ?_
  refine Brings.pure fun b hb => ?_
  dsimp only [discord_destroy_embed] at hb
  rcases hb.destroying with hb | hb
  · simp [hb]
  iterate 4
    rcases hb.seq with hfirst | hb
    · simp [hfirst]
  rcases hb.seq with htimestamp | hb
  · -- it is the title that is freed in its place
    dsimp only [free_timestamp] at htimestamp
    split at htimestamp
    · simp [htimestamp]
    · exact absurd htimestamp Frees.not_pure
  rcases hb.seq with hfooter | hb
  · have hcopy : Frees (destroy_pointer footer fun f _ => discord_destroy_embed_footer f) b := by
      cases footer with
      | none => exact hfooter
      | some f => exact hfooter
    simp [hcopy]
  iterate 5
    rcases hb.seq with hfirst | hb
    · simp [hfirst]
  simp [hb]

theorem copy_select_option_brings (o : SelectOption) :
    Brings base (_d_copy_select_option o) fun c => Frees (discord_destroy_select_option c) := by
  refine Brings.skip fun _ => (Brings.alloc _).bind fun address => ?_
  refine (copy_string_brings _ _).bind fun label => ?_
  refine (copy_string_brings _ _).bind fun value => ?_
  refine (copy_string_brings _ _).bind fun description => Brings.skip fun emoji => ?_
  refine Brings.pure fun b hb => ?_
  dsimp only [discord_destroy_select_option] at hb
  rcases hb.destroying with hb | hb
  · simp [hb]
  iterate 3
    rcases hb.seq with hfirst | hb
    · simp [hfirst]
  exact absurd hb Frees.not_pure

theorem copy_button_brings (button : Button) :
    Brings base (copy_button button) fun c => Frees (destroy_button c) := by
  refine Brings.skip fun address => (copy_string_brings _ _).bind fun label => ?_
  refine Brings.skip fun emoji => (copy_string_brings _ _).bind fun custom_id => ?_
  refine (copy_string_brings _ _).bind fun url => Brings.pure fun b hb => ?_
  dsimp only [destroy_button] at hb
  rcases hb.seq with hlabel | hb
  · simp [hlabel]
  rcases hb.seq with hemoji | hb
  · exact absurd hemoji Frees.not_pure
  rcases hb.seq with hcustom_id | hb
  · simp [hcustom_id]
  · simp [hb]

theorem copy_select_menu_brings (m : SelectMenu) :
    Brings base (copy_select_menu m) fun c => Frees (destroy_select_menu c) := by
  refine Brings.skip fun address => (copy_string_brings _ _).bind fun custom_id => ?_
  refine (copy_items_brings fun o _ => copy_select_option_brings o).bind fun options => ?_
  refine (copy_string_brings _ _).bind fun placeholder => Brings.pure fun b hb => ?_
  dsimp only [destroy_select_menu] at hb
  rcases hb.seq with hcustom_id | hb
  · simp [hcustom_id]
  rcases hb.seq with hoptions | hb
  · simp [hoptions]
  · simp [hb]

theorem copy_text_input_brings (t : TextInput) :
    Brings base (copy_text_input t) fun c => Frees (destroy_text_input c) := by
  refine Brings.skip fun address => (copy_string_brings _ _).bind fun custom_id => ?_
  refine (copy_string_brings _ _).bind fun label => ?_
  refine (copy_string_brings _ _).bind fun value => ?_
  refine (copy_string_brings _ _).bind fun placeholder => Brings.pure fun b hb => ?_
  dsimp only [destroy_text_input] at hb
  iterate 3
    rcases hb.seq with hfirst | hb
    · simp [hfirst]
  simp [hb]

mutual

theorem copy_component_brings (c : Component) :
    Brings base (_d_copy_component c) fun c => Frees (discord_destroy_component c) := by
  cases c with
  | mk address comp =>
    rw [_d_copy_component]
    refine Brings.skip fun _ => (Brings.alloc _).bind fun address => ?_
    refine ((copy_comp_brings comp).mono fun _ hb => .inl hb).bind fun copy => ?_
    refine Brings.pure fun b hb => ?_
    rw [discord_destroy_component] at hb
    rcases hb.destroying with hb | hb
    · simp [hb]
    · simp [hb]
termination_by sizeOf c

theorem copy_comp_brings (comp : Comp) :
    Brings base (copy_comp comp) fun c => Frees (destroy_comp c) := by
  cases comp with
  | action_row row components =>
    rw [copy_comp]
    have hitems : ∀ c ∈ components.items,
        Brings base (_d_copy_component c) fun c => Frees (discord_destroy_component c) := by
      intro c h
      have : sizeOf c < sizeOf components := CArray.sizeOf_item h
      exact copy_component_brings c
    refine Brings.skip fun row => ?_
    refine (copy_items_brings hitems).bind fun copies => Brings.pure fun b hb => ?_
    rw [destroy_comp] at hb
    exact .inr hb
  | button button =>
    rw [copy_comp]
    refine (copy_button_brings button).bind fun copy => Brings.pure fun b hb => ?_
    rw [destroy_comp] at hb
    exact .inr hb
  | select_menu m =>
    rw [copy_comp]
    refine (copy_select_menu_brings m).bind fun copy => Brings.pure fun b hb => ?_
    rw [destroy_comp] at hb
    exact .inr hb
  | text_input t =>
    rw [copy_comp]
    refine (copy_text_input_brings t).bind fun copy => Brings.pure fun b hb => ?_
    rw [destroy_comp] at hb
    exact .inr hb
  | unknown type =>
    rw [copy_comp]
    refine Brings.pure fun b hb => ?_
    rw [destroy_comp] at hb
    exact absurd hb Frees.not_pure
termination_by sizeOf comp
decreasing_by
  rw [Comp.action_row.sizeOf_spec]
  omega

end

/-! ### Options and data of interactions -/

/-- What is freed for the value of an option, if the type says so. -/
def OptionValue.Frees (value : OptionValue) : Block StructType → Prop :=
  Mem.Frees (do let s ← value.read_string; free_string s)

/-- A value that is not copied as a string stays where it is. -/
theorem copy_option_value_brings {o : InteractionDataOption}
    (hvalue : ∀ b, o.value_type ≠ VALUE_STRING → o.value.Frees b → base b) :
    Brings base (copy_option_value o) OptionValue.Frees := by
  unfold copy_option_value
  split
  · -- the string is read to be copied, and so it is the one that is freed
    have hcopy : ∀ s : Option CStr, (∀ b, s = none → ¬ o.value.Frees b) →
        Brings base (copy_string s 120 >>= fun copy =>
          pure (if copy.isSome then .string_ copy else o.value)) OptionValue.Frees := by
      intro s hnone
      refine (copy_string_brings s 120).bind_result fun copy hresult => Brings.pure fun b hb => ?_
      cases s with
      | none =>
        obtain ⟨n, log, hrun⟩ := hresult
        cases hrun
        exact absurd hb (hnone b rfl)
      | some s =>
        obtain ⟨n, log, hrun⟩ := hresult
        cases hrun
        exact .inr hb
    cases hread : o.value with
    | string_ s =>
      rw [hread] at hcopy
      show Brings base (pure s >>= _) _
      rw [Mem.pure_bind]
      refine hcopy s fun b hs => ?_
      rw [hs]
      exact Frees.not_pure
    | int_ i =>
      rw [hread] at hcopy
      show Brings base ((if i = 0 then pure none else Mem.undefined) >>= _) _
      by_cases hi : i = 0
      · rw [if_pos hi, Mem.pure_bind]
        refine hcopy none fun b _ => ?_
        rw [hi]
        exact Frees.not_pure
      · rw [if_neg hi]
        intro n a log hrun
        cases hrun
    | double_ d =>
      rw [hread] at hcopy
      show Brings base ((if d.is_null then pure none else Mem.undefined) >>= _) _
      by_cases hd : d.is_null = true
      · rw [if_pos hd, Mem.pure_bind]
        refine hcopy none fun b _ => ?_
        show ¬ Mem.Frees ((if d.is_null then pure none else Mem.undefined) >>= _) b
        rw [if_pos hd]
        exact Frees.not_pure
      · rw [if_neg hd]
        intro n a log hrun
        cases hrun
    | unset =>
      rw [hread] at hcopy
      show Brings base (pure none >>= _) _
      rw [Mem.pure_bind]
      exact hcopy none fun b _ => Frees.not_pure
  · next htype => exact Brings.pure fun b hb => hvalue b htype hb

/-- What the copy of an option has from the option: values that are not
    copied, as those of options that are nested. -/
inductive InteractionDataOption.Lends : InteractionDataOption → Block StructType → Prop
  | value {o : InteractionDataOption} {b : Block StructType} (htype : o.value_type ≠ VALUE_STRING)
      (h : o.value.Frees b) : Lends o b
  | option {o c : InteractionDataOption} {b : Block StructType} (hc : c ∈ o.options.items)
      (h : Lends c b) : Lends o b

theorem copy_option_brings (o : InteractionDataOption) (hlends : ∀ b, o.Lends b → base b) :
    Brings base (_d_copy_interaction_data_option o) fun c =>
      Frees (discord_destroy_interaction_data_option c) := by
  have hoptions : ∀ c ∈ o.options.items, Brings base (_d_copy_interaction_data_option c) fun c =>
      Frees (discord_destroy_interaction_data_option c) := by
    intro c hc
    have : sizeOf c < sizeOf o := InteractionDataOption.sizeOf_item hc
    exact copy_option_brings c fun b hb => hlends b (.option hc hb)
  have hvalue : ∀ b, o.value_type ≠ VALUE_STRING → o.value.Frees b → base b :=
    fun b htype hb => hlends b (.value htype hb)
  rw [_d_copy_interaction_data_option]
  refine Brings.skip fun _ => (Brings.alloc _).bind fun address => ?_
  refine (copy_string_brings _ _).bind fun name => ?_
  refine ((copy_option_value_brings hvalue).mono fun _ hb => .inl (.inl hb)).bind fun value => ?_
  refine ((copy_items_brings hoptions).mono fun _ hb => .inl (.inl (.inl hb))).bind
    fun options => ?_
  refine Brings.pure fun b hb => ?_
  rw [discord_destroy_interaction_data_option] at hb
  rcases hb.destroying with hb | hb
  · simp [hb]
  rcases hb.seq with hname | hb
  · simp [hname]
  rcases hb.seq with hvalue | hb
  · -- the value is only looked at if the option is a string
    unfold free_option_value at hvalue
    split at hvalue
    · exact .inl (.inr hvalue)
    · exact absurd hvalue Frees.not_pure
  · exact .inr hb
termination_by sizeOf o

/-- What the copy of the data of an interaction has from it. -/
def InteractionData.Lends (d : InteractionData) (b : Block StructType) : Prop :=
  (∃ o ∈ d.options.items, o.Lends b) ∨ ∃ o, .inl o ∈ d.values.items ∧ o.Lends b

theorem copy_interaction_data_brings {d : InteractionData} (hlends : ∀ b, d.Lends b → base b) :
    Brings base (_d_copy_interaction_data d) fun c =>
      Frees (discord_destroy_interaction_data c) := by
  have hoptions : ∀ o ∈ d.options.items, Brings base (_d_copy_interaction_data_option o) fun c =>
      Frees (discord_destroy_interaction_data_option c) :=
    fun o ho => copy_option_brings o fun b hb => hlends b (.inl ⟨o, ho, hb⟩)
  have hvalues : ∀ value ∈ d.values.items, Brings base
      (do let copy ← Mem.declared _d_copy_interaction_data_option value
          pure (.inl copy : InteractionDataOption ⊕ SelectOption)) fun c =>
        Frees (Mem.declared discord_destroy_interaction_data_option c) := by
    intro value hvalue
    cases value with
    | inl o =>
      refine (copy_option_brings o fun b hb => hlends b (.inr ⟨o, hvalue, hb⟩)).bind fun copy => ?_
      exact Brings.pure fun b hb => .inr hb
    | inr o => exact fun n a log hrun => nomatch hrun
  refine Brings.skip fun _ => (Brings.alloc _).bind fun address => ?_
  refine (copy_string_brings _ _).bind fun name => ?_
  refine ((copy_items_brings hoptions).mono fun _ hb => .inl (.inl hb)).bind fun options => ?_
  refine (copy_string_brings _ _).bind fun custom_id => ?_
  refine ((copy_items_brings hvalues).mono fun _ hb => .inl (.inl (.inl (.inl hb)))).bind
    fun values => ?_
  refine (copy_items_brings fun c _ => copy_component_brings c).bind fun components => ?_
  refine Brings.pure fun b hb => ?_
  dsimp only [discord_destroy_interaction_data] at hb
  rcases hb.destroying with hb | hb
  · simp [hb]
  iterate 4
    rcases hb.seq with hfirst | hb
    · simp [hfirst]
  simp [hb]

/-! ### Messages and interactions -/

/-- A user and a member that shares it. -/
theorem copy_author_brings {m : Option Member} {user : Option User}
    (huser : ∀ b, Frees (destroy_pointer user fun user _ => discord_destroy_user user) b → base b) :
    Brings base (Mem.unless_null m fun member _ => _d_copy_member member user) fun copy =>
      Frees (destroy_author copy user) := by
  have hmember : ∀ member, m = some member → Brings base (_d_copy_member member user) fun c =>
      Frees (discord_destroy_member c) := fun member _ => copy_member_brings member huser
  cases m with
  | none => exact Brings.pure huser
  | some member =>
    refine (hmember member rfl).bind fun copy => Brings.pure fun b hb => ?_
    exact .inr hb

/-- A mentioned member is copied without a user. -/
theorem copy_mention_brings (m : Member) :
    Brings base (_d_copy_member m none) fun c => Frees (discord_destroy_member c) :=
  copy_member_brings m fun _ hb => by
    rcases hb.seq with hpointer | hret
    · obtain ⟨user, huser, -⟩ := hpointer.unless_null
      cases huser
    · exact absurd hret Frees.not_pure

theorem copy_message_reference_brings (r : MessageReference) :
    Brings base (_d_copy_message_reference r) fun c =>
      Frees (discord_destroy_message_reference c) := by
  refine Brings.skip fun _ => (Brings.alloc _).bind fun address => Brings.pure fun b hb => ?_
  dsimp only [discord_destroy_message_reference] at hb
  rcases hb.destroying with hb | hb
  · exact .inr hb
  · exact absurd hb Frees.not_pure

/-- There is no copy of an application. -/
theorem copy_application_brings (o : Option Application) :
    Brings base (Mem.unless_null o fun a _ => _d_copy_application a) fun c =>
      Frees (destroy_pointer c.join fun a _ => discord_destroy_application a) := by
  have hnull : ∀ b, ¬ Frees (destroy_pointer none fun a _ => discord_destroy_application a) b := by
    intro b hb
    rcases hb.seq with hpointer | hret
    · exact Frees.not_pure hpointer
    · exact Frees.not_pure hret
  cases o with
  | none => exact Brings.pure fun b hb => absurd hb (hnull b)
  | some a =>
    have hcopy : Brings base (_d_copy_application a) fun c =>
        Frees (destroy_pointer c fun a _ => discord_destroy_application a) :=
      Brings.skip fun _ => Brings.pure fun b hb => absurd hb (hnull b)
    exact hcopy.bind fun c => Brings.pure fun b hb => .inr hb

mutual

/-- What the copy of a message has from the message: icons of channels, and
    values of options that are not copied. -/
inductive Message.Lends : Message → Block StructType → Prop
  | thread {m : Message} {ch : Channel} {b : Block StructType} (hch : m.thread = some ch)
      (h : ch.Lends b) : Message.Lends m b
  | mention_channel {m : Message} {ch : Channel} {b : Block StructType}
      (hch : .inl ch ∈ m.mention_channels.items) (h : ch.Lends b) : Message.Lends m b
  | interaction {m : Message} {i : Interaction} {b : Block StructType}
      (hi : m.interaction = some i) (h : Interaction.Lends i b) : Message.Lends m b

/-- What the copy of an interaction has from it. -/
inductive Interaction.Lends : Interaction → Block StructType → Prop
  | data {i : Interaction} {d : InteractionData} {b : Block StructType} (hd : i.data = some d)
      (h : d.Lends b) : Interaction.Lends i b
  | message {i : Interaction} {m : Message} {b : Block StructType} (hm : i.message = some m)
      (h : Message.Lends m b) : Interaction.Lends i b

end

mutual

theorem copy_message_brings (m : Message) (hlends : ∀ b, m.Lends b → base b) :
    Brings base (_d_copy_message m) fun c => Frees (discord_destroy_message c) := by
  have hchannels : ∀ channel ∈ m.mention_channels.items, Brings base
      (do let copy ← Mem.declared _d_copy_channel channel
          pure (.inl copy : Channel ⊕ ChannelMention)) fun c =>
        Frees (Mem.declared discord_destroy_channel c) := by
    intro channel hchannel
    cases channel with
    | inl ch =>
      refine (copy_channel_brings fun b hb => hlends b (.mention_channel hchannel hb)).bind
        fun copy => ?_
      exact Brings.pure fun b hb => .inr hb
    | inr mention => exact fun n a log hrun => nomatch hrun
  have hinteraction : ∀ i, m.interaction = some i → Brings base (_d_copy_interaction i) fun c =>
      Frees (discord_destroy_interaction c) := by
    intro i hi
    have : sizeOf i < sizeOf m := Message.sizeOf_interaction hi
    exact copy_interaction_brings i fun b hb => hlends b (.interaction hi hb)
  have hthread : ∀ ch, m.thread = some ch → Brings base (_d_copy_channel ch) fun c =>
      Frees (discord_destroy_channel c) :=
    fun ch hch => copy_channel_brings fun b hb => hlends b (.thread hch hb)
  rw [_d_copy_message]
  refine Brings.skip fun _ => (Brings.alloc _).bind fun address => ?_
  refine (copy_pointer_brings fun user _ => copy_user_brings user).bind fun user => ?_
  refine (copy_author_brings fun b hb => .inr hb).bind fun member => ?_
  refine (copy_string_brings _ _).bind fun content => ?_
  refine (copy_string_brings _ _).bind fun timestamp => ?_
  refine (copy_string_brings _ _).bind fun edited_timestamp => ?_
  refine (copy_items_brings fun mention _ => copy_mention_brings mention).bind fun mentions => ?_
  refine copy_values_brings.bind fun mention_roles => ?_
  refine ((copy_items_brings hchannels).mono fun b hb => by simp [hb]).bind
    fun mention_channels => ?_
  refine (copy_items_brings fun a _ => copy_attachment_brings a).bind fun attachments => ?_
  refine (copy_items_brings fun e _ => copy_embed_brings e).bind fun embeds => ?_
  refine copy_unimplemented_array_brings.bind fun reactions => ?_
  refine (copy_string_brings _ _).bind fun nonce => ?_
  refine Brings.skip fun activity => (copy_application_brings _).bind fun application => ?_
  refine (copy_pointer_brings fun r _ => copy_message_reference_brings r).bind
    fun message_reference => ?_
  refine Brings.skip fun referenced_message => ?_
  refine ((copy_pointer_brings hinteraction).mono fun b hb => by simp [hb]).bind
    fun interaction => ?_
  refine ((copy_pointer_brings hthread).mono fun b hb => by simp [hb]).bind fun thread => ?_
  refine (copy_items_brings fun c _ => copy_component_brings c).bind fun components => ?_
  refine copy_unimplemented_array_brings.bind fun sticker_items => ?_
  refine copy_unimplemented_array_brings.bind fun stickers => Brings.pure fun b hb => ?_
  rw [discord_destroy_message] at hb
  dsimp only [discord_destroy_reaction, discord_destroy_message_sticker_item,
    discord_destroy_sticker] at hb
  rcases hb.destroying with hb | hb
  · simp [hb]
  iterate 11
    rcases hb.seq with hfirst | hb
    · simp [hfirst]
  -- the activity is not implemented, and its destroyer does nothing
  rcases hb.seq with hactivity | hb
  · exact absurd hactivity Frees.not_pure
  iterate 6
    rcases hb.seq with hfirst | hb
    · simp [hfirst]
  simp [hb]
termination_by sizeOf m

theorem copy_interaction_brings (i : Interaction) (hlends : ∀ b, i.Lends b → base b) :
    Brings base (_d_copy_interaction i) fun c => Frees (discord_destroy_interaction c) := by
  have hdata : ∀ d, i.data = some d → Brings base (_d_copy_interaction_data d) fun c =>
      Frees (discord_destroy_interaction_data c) :=
    fun d hd => copy_interaction_data_brings fun b hb => hlends b (.data hd hb)
  have hmessage : ∀ m, i.message = some m → Brings base (_d_copy_message m) fun c =>
      Frees (discord_destroy_message c) := by
    intro m hm
    have : sizeOf m < sizeOf i := Interaction.sizeOf_message hm
    exact copy_message_brings m fun b hb => hlends b (.message hm hb)
  rw [_d_copy_interaction]
  refine Brings.skip fun _ => (Brings.alloc _).bind fun address => ?_
  refine ((copy_pointer_brings hdata).mono fun _ hb => .inl hb).bind fun data => ?_
  refine (copy_pointer_brings fun user _ => copy_user_brings user).bind fun user => ?_
  refine (copy_author_brings fun b hb => .inr hb).bind fun member => ?_
  refine (copy_string_brings _ _).bind fun token => ?_
  refine ((copy_pointer_brings hmessage).mono fun b hb => by simp [hb]).bind fun message => ?_
  refine (copy_string_brings _ _).bind fun app_permissions => ?_
  refine (copy_string_brings _ _).bind fun locale => ?_
  refine (copy_string_brings _ _).bind fun guild_locale => Brings.pure fun b hb => ?_
  rw [discord_destroy_interaction] at hb
  dsimp only at hb
  rcases hb.destroying with hb | hb
  · simp [hb]
  iterate 6
    rcases hb.seq with hfirst | hb
    · simp [hfirst]
  simp [hb]
termination_by sizeOf i

end

end DiscoC
