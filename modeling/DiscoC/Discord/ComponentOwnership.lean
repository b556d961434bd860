import DiscoC.Discord.RecordOwnership

/-! # Ownership of components and of interaction options

  The two structures that nest without end on their own. The structure that
  `comp` of a component points to is lost when the component is destroyed.
  The value of an option is copied as a string, which is undefined for a
  number other than 0.
-/

namespace DiscoC

/-! ### Buttons, menus and inputs -/

def Button.blocks (b : Button) : List (Block StructType) :=
  string_blocks b.label ++ (string_blocks b.custom_id ++ string_blocks b.url)

theorem button_disposes (b : Button) : Destroys (destroy_button b) b.blocks True := by
  apply (free_string_disposes _).seq
  intro _
  apply Disposes.skip (Disposes.pure _)
  intro _
  exact (free_string_disposes _).seq fun _ => free_string_disposes _

theorem button_traverses (b : Button) :
    Copies (copy_button b) (⟨.button, b.address⟩ :: b.blocks) True := by
  apply (Traverses.alloc _).skip
  intro _
  apply (copy_string_skips _ _).skip
  intro _
  apply Traverses.skip (Traverses.pure _)
  intro _
  iterate 2
    apply (copy_string_skips _ _).skip
    intro _
  apply Traverses.pure_plain
  rw [structs_cons_of_plain rfl]
  simp [Button.blocks]

theorem button_owns (data : CJson) :
    Owns [] (button_from_json data) True fun b own =>
      Destroys (destroy_button b) own False ∧ Copies (copy_button b) own True := by
  unfold button_from_json
  apply (Owns.alloc _).seq
  rintro address _ rfl
  apply (get_string_owns _ _).seq
  rintro label _ rfl
  apply (unimplemented_field_owns _).seq
  rintro emoji _ ⟨rfl, rfl⟩
  iterate 2
    apply (get_string_owns _ _).seq
    rintro s _ rfl
  refine Owns.pure ?_ ⟨disposes_lost (button_disposes _) _ not_false, button_traverses _⟩
  simp [Button.blocks]

/-- The options of a menu, as they are decoded. -/
abbrev SelectOptionsOwn (tmp : Option CJson) (options : CArray SelectOption)
    (own : List (Block StructType)) : Prop :=
  ArrayOwn (fun _ option own => own = option.blocks) tmp options own

theorem select_menu_disposes {tmp : Option CJson} {m : SelectMenu}
    {own : List (Block StructType)} (hown : SelectOptionsOwn tmp m.options own) :
    Destroys (destroy_select_menu m)
      (string_blocks m.custom_id ++ (own ++ string_blocks m.placeholder)) True := by
  apply (free_string_disposes _).seq
  intro _
  apply (destroy_array_disposes_all hown fun c o own h => h ▸ select_option_disposes o).seq
  intro _
  exact free_string_disposes _

theorem select_menu_traverses {tmp : Option CJson} {m : SelectMenu}
    {own : List (Block StructType)} (hown : SelectOptionsOwn tmp m.options own) :
    Copies (copy_select_menu m) (own ++ (⟨.select_menu, m.address⟩ ::
      (string_blocks m.custom_id ++ string_blocks m.placeholder))) True := by
  apply (Traverses.alloc _).skip
  intro _
  apply (copy_string_skips _ _).skip
  intro _
  apply (copy_array_traverses_all hown fun c o own h => h ▸ select_option_traverses o).seq
  intro _
  apply (copy_string_skips _ _).skip
  intro _
  apply Traverses.pure_plain
  rw [structs_cons_of_plain rfl]
  simp

theorem select_menu_owns (data : CJson) :
    Owns [] (select_menu_from_json data) True fun m own =>
      Destroys (destroy_select_menu m) own False ∧ Copies (copy_select_menu m) own True := by
  unfold select_menu_from_json
  apply (Owns.alloc _).seq
  rintro address _ rfl
  apply (get_string_owns _ _).seq
  rintro custom_id _ rfl
  apply (array_owns_total fun c _ => select_option_owns c).seq
  intro options own hown
  apply (get_string_owns _ _).seq
  rintro placeholder _ rfl
  refine Owns.pure (.refl _) ⟨?_, ?_⟩
  -- the strings and the options are freed, the block of the menu is not
  · apply (disposes_lost (select_menu_disposes hown) ⟨.select_menu, address⟩ not_false).perm
    simp
  · apply (select_menu_traverses hown).perm
    rw [List.perm_iff_count]
    intro b
    simp only [List.count_append, List.count_cons, List.count_nil]
    omega

def TextInput.blocks (t : TextInput) : List (Block StructType) :=
  string_blocks t.custom_id ++ (string_blocks t.label ++ (string_blocks t.value ++
    string_blocks t.placeholder))

theorem text_input_disposes (t : TextInput) : Destroys (destroy_text_input t) t.blocks True := by
  iterate 3
    apply (free_string_disposes _).seq
    intro _
  exact free_string_disposes _

theorem text_input_traverses (t : TextInput) :
    Copies (copy_text_input t) (⟨.text_input, t.address⟩ :: t.blocks) True := by
  apply (Traverses.alloc _).skip
  intro _
  iterate 4
    apply (copy_string_skips _ _).skip
    intro _
  apply Traverses.pure_plain
  rw [structs_cons_of_plain rfl]
  simp [TextInput.blocks]

theorem text_input_owns (data : CJson) :
    Owns [] (text_input_from_json data) True fun t own =>
      Destroys (destroy_text_input t) own False ∧ Copies (copy_text_input t) own True := by
  unfold text_input_from_json
  apply (Owns.alloc _).seq
  rintro address _ rfl
  iterate 4
    apply (get_string_owns _ _).seq
    rintro s _ rfl
  refine Owns.pure ?_ ⟨disposes_lost (text_input_disposes _) _ not_false, text_input_traverses _⟩
  simp [TextInput.blocks]

/-! ### Components -/

/-- The type of a component is none that comes with a structure. -/
def no_structure (type : Int) : Prop :=
  type ≠ COMPONENT_ACTION_ROW ∧ type ≠ COMPONENT_BUTTON ∧ type ≠ COMPONENT_SELECT_MENU ∧
    type ≠ COMPONENT_TEXT_INPUT

/-- The component is destroyed without a loss. -/
def component_freed (data : CJson) : Prop := no_structure (_d_get_int_from_json data "type" 0)

/-- A decoded component can be copied, and can be destroyed if it comes
    without a structure. -/
structure ComponentOwn (data : CJson) (c : Component) (own : List (Block StructType)) : Prop where
  freed : Destroys (discord_destroy_component c) own (component_freed data)
  copied : Copies (_d_copy_component c) own True

/-- The same for the union of a component. -/
structure CompOwn (type : Int) (comp : Comp) (own : List (Block StructType)) : Prop where
  freed : Destroys (destroy_comp comp) own (no_structure type)
  copied : Copies (copy_comp comp) own True

/-- A decoded structure becomes the union of a component. -/
theorem comp_owns {α : Type} {decode : CMem α} {destroy : α → CMem Unit} {copy : α → CMem α}
    {mk : α → Comp} {type : Int}
    (h : Owns [] decode True fun a own => Destroys (destroy a) own False ∧ Copies (copy a) own True)
    (hdestroy : ∀ a, destroy_comp (mk a) = destroy a)
    (hcopy : ∀ a, copy_comp (mk a) = copy a >>= fun a => pure (mk a))
    (htype : ¬ no_structure type) :
    Owns [] (decode >>= fun a => pure (mk a)) True (CompOwn type) := by
  apply h.seq
  intro a own ⟨hdisposes, htraverses⟩
  refine Owns.pure (.refl _) ⟨?_, ?_⟩
  · rw [hdestroy]
    exact hdisposes.congr (iff_of_false not_false htype)
  · rw [hcopy]
    exact htraverses.ret _

theorem comp_from_json_owns {data : CJson} (type : Int)
    (ih : ∀ c ∈ cJSON_ArrayItems (cJSON_GetObjectItem data "components"),
      Owns [] (_d_json_to_component c) True (ComponentOwn c)) :
    Owns [] (comp_from_json data type) True (CompOwn type) := by
  unfold comp_from_json
  -- one case for each type; only the last one is destroyed as a whole
  split
  next htype =>
    apply (Owns.alloc _).seq
    rintro row _ rfl
    apply (array_owns_total ih).seq
    intro components own hown
    refine Owns.pure (.refl _) ⟨?_, ?_⟩
    · -- The components are destroyed as far as they can be, and the row is lost.
      rw [destroy_comp]
      apply disposes_lost (destroy_array_disposes hown fun c a own h => h.freed)
      exact fun h => h.1 htype
    · rw [copy_comp]
      refine Traverses.perm ?_ List.perm_append_comm
      apply (Traverses.alloc _).skip
      intro _
      apply (copy_array_traverses_all hown fun c a own h => h.copied).seq
      intro _
      exact Traverses.pure_plain _ (structs_cons_of_plain rfl)
  next =>
  split
  next htype =>
    apply comp_owns (button_owns data) (fun _ => destroy_comp.eq_2 _) (fun _ => copy_comp.eq_2 _)
    exact fun h => h.2.1 htype
  next =>
  split
  next htype =>
    apply comp_owns (select_menu_owns data) (fun _ => destroy_comp.eq_3 _)
      (fun _ => copy_comp.eq_3 _)
    exact fun h => h.2.2.1 htype
  next =>
  split
  next htype =>
    apply comp_owns (text_input_owns data) (fun _ => destroy_comp.eq_4 _)
      (fun _ => copy_comp.eq_4 _)
    exact fun h => h.2.2.2 htype
  next h₁ h₂ h₃ h₄ =>
    refine Owns.pure (.refl _) ⟨?_, ?_⟩
    · rw [destroy_comp]
      exact (Disposes.pure ()).congr (iff_of_true trivial ⟨h₁, h₂, h₃, h₄⟩)
    · rw [copy_comp]
      exact Traverses.pure _

/-- Decoding a component. -/
theorem component_owns (data : CJson) :
    Owns [] (_d_json_to_component data) True (ComponentOwn data) := by
  -- a row holds components again, each a smaller tree
  have ih : ∀ c ∈ cJSON_ArrayItems (cJSON_GetObjectItem data "components"),
      Owns [] (_d_json_to_component c) True (ComponentOwn c) := by
    intro c hc
    have : sizeOf c < sizeOf data := sizeOf_array_item hc
    exact component_owns c
  rw [_d_json_to_component]
  apply (Owns.alloc _).seq
  rintro address _ rfl
  apply (comp_from_json_owns _ ih).seq
  intro comp own hown
  refine Owns.pure (.refl _) ⟨?_, ?_⟩
  · rw [discord_destroy_component]
    exact Disposes.destroying rfl hown.freed
  · rw [_d_copy_component]
    apply (Traverses.visit _ rfl).seq
    intro _
    apply (Traverses.alloc _).skip
    intro _
    exact hown.copied.ret _
termination_by sizeOf data

/-! ### Options of an interaction -/

/-- The value of an option is no number other than 0, and not `-0.0`. -/
def value_copied (data : CJson) (type : Int) : Prop :=
  (type = COMMAND_OPTION_INTEGER → _d_get_int_from_json data "value" 0 = 0) ∧
    (type = COMMAND_OPTION_NUMBER → (_d_get_double_from_string_json data "value" 0).is_null = true)

/-- The value of an option and of all options below it is no number other
    than 0, and not `-0.0`. -/
def option_copied (data : CJson) : Prop :=
  value_copied data (_d_get_int_from_json data "type" 0) ∧
    ∀ c, (h : c ∈ cJSON_ArrayItems (cJSON_GetObjectItem data "options")) →
      have : sizeOf c < sizeOf data := sizeOf_array_item h
      option_copied c
termination_by data

theorem option_copied_iff (data : CJson) :
    option_copied data ↔ value_copied data (_d_get_int_from_json data "type" 0) ∧
      ∀ c ∈ cJSON_ArrayItems (cJSON_GetObjectItem data "options"), option_copied c := by
  rw [option_copied]

/-- A decoded option can be destroyed, and can be copied if its values allow
    it. -/
structure OptionOwn (data : CJson) (o : InteractionDataOption)
    (own : List (Block StructType)) : Prop where
  freed : Destroys (discord_destroy_interaction_data_option o) own True
  copied : Copies (_d_copy_interaction_data_option o) own (option_copied data)

/-- The same for the value of an option. -/
def ValueOwn (data : CJson) (type : Int) (value : OptionValue)
    (own : List (Block StructType)) : Prop :=
  ∀ o : InteractionDataOption, o.type = type → o.value_type = VALUE_STRING → o.value = value →
    Destroys (free_option_value o) own True ∧
      Copies (copy_option_value o) own (value_copied data type)

/-- A value without a string is not freed. -/
theorem number_owns {data : CJson} {type : Int} {value : OptionValue}
    (htype : type ≠ COMMAND_OPTION_STRING)
    (hcopy : Copies value.read_string [] (value_copied data type)) :
    Owns [] (pure value : CMem OptionValue) True (ValueOwn data type) := by
  refine Owns.pure (.refl _) fun o ho hvalue_type hvalue => ⟨?_, ?_⟩
  · rw [free_option_value, if_neg (by rwa [ho])]
    exact Disposes.pure ()
  · rw [copy_option_value, if_pos hvalue_type, hvalue]
    refine (hcopy.bind fun s => (copy_string_skips s 120).ret _).congr ?_
    rw [and_true]

theorem read_number_traverses (p : Prop) [Decidable p] :
    Copies (if p then pure none else Mem.undefined : CMem (Option CStr)) [] p := by
  by_cases hp : p
  · rw [if_pos hp]
    exact (Traverses.pure none).congr (iff_of_true trivial hp)
  · rw [if_neg hp]
    exact (Traverses.undefined []).congr (iff_of_false not_false hp)

theorem option_value_owns (data : CJson) (type : Int) :
    Owns [] (option_value data type) True (ValueOwn data type) := by
  unfold option_value
  split
  next htype =>
    apply (get_string_owns _ _).seq
    rintro s _ rfl
    refine Owns.pure (.refl _) fun o ho hvalue_type hvalue => ⟨?_, ?_⟩
    · rw [free_option_value, if_pos (by rwa [ho]), hvalue, OptionValue.read_string, Mem.pure_bind]
      exact free_string_disposes s
    · rw [copy_option_value, if_pos hvalue_type, hvalue, OptionValue.read_string, Mem.pure_bind]
      refine ((copy_string_skips s 120).skip fun _ => Traverses.pure_plain _ (by simp)).congr ?_
      refine iff_of_true trivial ⟨fun h => ?_, fun h => ?_⟩ <;> rw [htype] at h <;> cases h
  next hstring =>
  split
  next htype =>
    apply number_owns hstring
    -- a number other than 0 is read as the address of a string
    have hcopied : value_copied data type ↔ _d_get_int_from_json data "value" 0 = 0 := by
      refine ⟨fun h => h.1 htype, fun h => ⟨fun _ => h, fun hnumber => ?_⟩⟩
      rw [htype] at hnumber
      cases hnumber
    rw [OptionValue.read_string, hcopied]
    exact read_number_traverses _
  next hinteger =>
  split
  next htype =>
    apply number_owns hstring
    have hcopied : value_copied data type ↔
        (_d_get_double_from_string_json data "value" 0).is_null = true :=
      ⟨fun h => h.2 htype, fun h => ⟨fun hint => absurd hint hinteger, fun _ => h⟩⟩
    rw [OptionValue.read_string, hcopied]
    exact read_number_traverses _
  next hnumber =>
    apply number_owns hstring
    exact (Traverses.pure none).congr ⟨fun _ => ⟨fun h => absurd h hinteger,
      fun h => absurd h hnumber⟩, fun _ => trivial⟩

/-- Decoding an option of an interaction. -/
theorem option_owns (data : CJson) :
    Owns [] (_d_json_to_interaction_data_option data) True (OptionOwn data) := by
  -- an option may have options of its own
  have ih : ∀ c ∈ cJSON_ArrayItems (cJSON_GetObjectItem data "options"),
      Owns [] (_d_json_to_interaction_data_option c) True (OptionOwn c) := by
    intro c hc
    have : sizeOf c < sizeOf data := sizeOf_array_item hc
    exact option_owns c
  rw [_d_json_to_interaction_data_option]
  apply (Owns.alloc _).seq
  rintro address _ rfl
  apply (get_string_owns _ _).seq
  rintro name _ rfl
  apply (option_value_owns _ _).seq
  intro value own_value hvalue
  apply (array_owns_total ih).seq
  intro options own hown
  obtain ⟨hfree, hcopy⟩ := hvalue {
    address, name, value, options
    type := _d_get_int_from_json data "type" 0
    value_type := VALUE_STRING
    focused := _d_get_bool_from_json data "focused" false } rfl rfl rfl
  refine Owns.pure (.refl _) ⟨?_, ?_⟩
  · rw [discord_destroy_interaction_data_option]
    refine Disposes.perm (Disposes.destroying rfl ((free_string_disposes _).seq fun _ =>
      hfree.seq fun _ => destroy_array_disposes_all hown fun c o own h => h.freed)) ?_
    simp
  · rw [_d_copy_interaction_data_option, option_copied_iff]
    have hplain : structs StructType.has_routine (string_blocks name) = [] := structs_string name
    refine (Traverses.perm ((Traverses.visit _ rfl).seq fun _ => (Traverses.alloc _).skip fun _ =>
      (copy_string_skips _ _).skip fun _ => hcopy.bind fun _ =>
        (copy_array_traverses hown fun c o own h => h.copied).bind fun _ =>
          Traverses.pure_plain _ hplain) ?_).congr ?_
    · rw [List.perm_iff_count]
      intro b
      simp only [List.count_append, List.count_cons, List.count_nil]
      omega
    · rw [and_true]
termination_by sizeOf data

end DiscoC
