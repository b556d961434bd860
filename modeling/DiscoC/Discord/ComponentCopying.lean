import DiscoC.Discord.ChannelCopying

/-! # Copies of components and of interaction data

  When a copy of a component, of an option or of the data of an interaction
  is structurally equal to what was decoded. Their texts have to fit. The
  value of an option is copied as a string, whatever it is, and the values of
  an interaction are stored as another type than they are copied as.
-/

namespace DiscoC

open Mem

/-! ### Nested structures without their addresses -/

/-- `CArray.plain`, where the image is only given for the items. -/
def CArray.plain_mem {α β : Type} :
    (array : CArray α) → ((a : α) → a ∈ array.items → β) → CArray β
  | .null, _ => .null
  | .block _ items, g => .block 0 (items.pmap g fun _ h => h)

@[simp] theorem CArray.plain_mem_eq {α β : Type} (array : CArray α) (g : α → β) :
    (array.plain_mem fun a _ => g a) = array.plain g := by
  cases array with
  | null => rfl
  | block address items => exact congrArg (CArray.block 0) (List.pmap_eq_map _)

def SelectOption.plain (option : SelectOption) : SelectOption :=
  { option with
    address := 0
    label := option.label.map CStr.plain
    value := option.value.map CStr.plain
    description := option.description.map CStr.plain
    emoji := Unimplemented.plain option.emoji }

def Button.plain (button : Button) : Button :=
  { button with
    address := 0
    label := button.label.map CStr.plain
    emoji := Unimplemented.plain button.emoji
    custom_id := button.custom_id.map CStr.plain
    url := button.url.map CStr.plain }

def SelectMenu.plain (select_menu : SelectMenu) : SelectMenu :=
  { select_menu with
    address := 0
    custom_id := select_menu.custom_id.map CStr.plain
    options := select_menu.options.plain SelectOption.plain
    placeholder := select_menu.placeholder.map CStr.plain }

def TextInput.plain (text_input : TextInput) : TextInput :=
  { text_input with
    address := 0
    custom_id := text_input.custom_id.map CStr.plain
    label := text_input.label.map CStr.plain
    value := text_input.value.map CStr.plain
    placeholder := text_input.placeholder.map CStr.plain }

mutual

def Component.plain : Component → Component
  | .mk _ comp => .mk 0 comp.plain
termination_by c => sizeOf c

def Comp.plain : Comp → Comp
  | .action_row _ components =>
    .action_row 0 (components.plain_mem fun c h =>
      have : sizeOf c < sizeOf components := CArray.sizeOf_item h
      c.plain)
  | .button button => .button button.plain
  | .select_menu select_menu => .select_menu select_menu.plain
  | .text_input text_input => .text_input text_input.plain
  | .unknown type => .unknown type
termination_by comp => sizeOf comp
decreasing_by
  rw [Comp.action_row.sizeOf_spec]
  omega

end

theorem Comp.plain_action_row (address : Nat) (components : CArray Component) :
    (Comp.action_row address components).plain =
      .action_row 0 (components.plain Component.plain) := by
  rw [Comp.plain, CArray.plain_mem_eq]

/-! ### The conditions -/

def select_option_fits (data : CJson) : Prop :=
  text_fits data "label" 101 ∧ text_fits data "value" 101 ∧ text_fits data "description" 101

def button_fits (data : CJson) : Prop :=
  text_fits data "label" 101 ∧ text_fits data "custom_id" 101 ∧ text_fits data "url" 2050

def select_menu_fits (data : CJson) : Prop :=
  text_fits data "custom_id" 101 ∧
    (∀ c ∈ cJSON_ArrayItems (cJSON_GetObjectItem data "options"), select_option_fits c) ∧
    text_fits data "placeholder" 151

def text_input_fits (data : CJson) : Prop :=
  text_fits data "custom_id" 101 ∧ text_fits data "label" 50 ∧ text_fits data "value" 4001 ∧
    text_fits data "placeholder" 101

/-- The texts of a component and of all components below it fit. -/
def component_fits (data : CJson) : Prop :=
  (_d_get_int_from_json data "type" 0 = COMPONENT_ACTION_ROW →
    ∀ c, (h : c ∈ cJSON_ArrayItems (cJSON_GetObjectItem data "components")) →
      have : sizeOf c < sizeOf data := sizeOf_array_item h
      component_fits c) ∧
  (_d_get_int_from_json data "type" 0 = COMPONENT_BUTTON → button_fits data) ∧
  (_d_get_int_from_json data "type" 0 = COMPONENT_SELECT_MENU → select_menu_fits data) ∧
  (_d_get_int_from_json data "type" 0 = COMPONENT_TEXT_INPUT → text_input_fits data)
termination_by data

/-! ### Structures of a component -/

theorem select_option_ensures (data : CJson) :
    (_d_json_to_select_option data).Ensures fun o =>
      (_d_copy_select_option o).Keeps SelectOption.plain o.plain (select_option_fits data) := by
  unfold _d_json_to_select_option
  refine Ensures.skip fun address => ?_
  refine (text_ensures data "label").bind fun label hlabel => ?_
  refine (text_ensures data "value").bind fun value hvalue => ?_
  refine (text_ensures data "description").bind fun description hdescription => ?_
  refine unimplemented_field_ensures.bind fun emoji hemoji => Ensures.pure ?_
  refine Keeps.copying fun address => Keeps.start ?_
  refine (text_keeps hlabel (by decide)).bind fun _ => ?_
  refine (text_keeps hvalue (by decide)).bind fun _ => ?_
  refine (text_keeps hdescription (by decide)).last fun _ => ?_
  rw [← and_true (_ ∧ _)]
  refine (copy_unimplemented_keeps hemoji).last fun _ => Keeps.ret ?_
  simp [SelectOption.plain, and_assoc]

theorem button_ensures (data : CJson) :
    (button_from_json data).Ensures fun b =>
      (copy_button b).Keeps Button.plain b.plain (button_fits data) := by
  unfold button_from_json
  refine Ensures.skip fun address => ?_
  refine (text_ensures data "label").bind fun label hlabel => ?_
  refine unimplemented_field_ensures.bind fun emoji hemoji => ?_
  refine (text_ensures data "custom_id").bind fun custom_id hcustom_id => ?_
  refine (text_ensures data "url").bind fun url hurl => Ensures.pure ?_
  refine Keeps.skip (Returns.alloc _) fun address => Keeps.start ?_
  refine (text_keeps hlabel (by decide)).bind fun _ => ?_
  refine (copy_unimplemented_keeps hemoji).bind_all fun _ => ?_
  refine (text_keeps hcustom_id (by decide)).bind fun _ => ?_
  refine (text_keeps hurl (by decide)).last fun _ => Keeps.ret ?_
  simp [Button.plain, and_assoc]

theorem select_menu_ensures (data : CJson) :
    (select_menu_from_json data).Ensures fun m =>
      (copy_select_menu m).Keeps SelectMenu.plain m.plain (select_menu_fits data) := by
  unfold select_menu_from_json
  refine Ensures.skip fun address => ?_
  refine (text_ensures data "custom_id").bind fun custom_id hcustom_id => ?_
  refine (array_ensures fun c _ => select_option_ensures c).bind fun options hoptions => ?_
  refine (text_ensures data "placeholder").bind fun placeholder hplaceholder => Ensures.pure ?_
  refine Keeps.skip (Returns.alloc _) fun address => Keeps.start ?_
  refine (text_keeps hcustom_id (by decide)).bind fun _ => ?_
  refine (copy_array_keeps hoptions fun _ _ h => h).bind fun _ => ?_
  refine (text_keeps hplaceholder (by decide)).last fun _ => Keeps.ret ?_
  simp [SelectMenu.plain, and_assoc]

theorem text_input_ensures (data : CJson) :
    (text_input_from_json data).Ensures fun t =>
      (copy_text_input t).Keeps TextInput.plain t.plain (text_input_fits data) := by
  unfold text_input_from_json
  refine Ensures.skip fun address => ?_
  refine (text_ensures data "custom_id").bind fun custom_id hcustom_id => ?_
  refine (text_ensures data "label").bind fun label hlabel => ?_
  refine (text_ensures data "value").bind fun value hvalue => ?_
  refine (text_ensures data "placeholder").bind fun placeholder hplaceholder => Ensures.pure ?_
  refine Keeps.skip (Returns.alloc _) fun address => Keeps.start ?_
  refine (text_keeps hcustom_id (by decide)).bind fun _ => ?_
  refine (text_keeps hlabel (by decide)).bind fun _ => ?_
  refine (text_keeps hvalue (by decide)).bind fun _ => ?_
  refine (text_keeps hplaceholder (by decide)).last fun _ => Keeps.ret ?_
  simp [TextInput.plain, and_assoc]

/-! ### Components -/

theorem component_fits_iff (data : CJson) :
    component_fits data ↔
      (_d_get_int_from_json data "type" 0 = COMPONENT_ACTION_ROW →
        ∀ c ∈ cJSON_ArrayItems (cJSON_GetObjectItem data "components"), component_fits c) ∧
      (_d_get_int_from_json data "type" 0 = COMPONENT_BUTTON → button_fits data) ∧
      (_d_get_int_from_json data "type" 0 = COMPONENT_SELECT_MENU → select_menu_fits data) ∧
      (_d_get_int_from_json data "type" 0 = COMPONENT_TEXT_INPUT → text_input_fits data) := by
  rw [component_fits]

/-- A decoded component is copied exactly when its document fits. -/
def ComponentKept (data : CJson) (c : Component) : Prop :=
  (_d_copy_component c).Keeps Component.plain c.plain (component_fits data)

/-- The union of a component is copied exactly when `E` holds. -/
def CompKept (E : Prop) (comp : Comp) : Prop := (copy_comp comp).Keeps Comp.plain comp.plain E

/-- A decoded structure becomes the union of a component. -/
theorem comp_ensures {α : Type} {decode : CMem α} {copy : α → CMem α} {plain : α → α}
    {mk : α → Comp} {E E' : Prop} (h : decode.Ensures fun a => (copy a).Keeps plain (plain a) E')
    (hE : E' ↔ E) (hcopy : ∀ a, copy_comp (mk a) = copy a >>= fun a => pure (mk a))
    (hplain : ∀ a, (mk a).plain = mk (plain a)) (hinj : Function.Injective mk) :
    (decode >>= fun a => pure (mk a)).Ensures (CompKept E) := by
  refine h.bind fun a ha => Ensures.pure ?_
  unfold CompKept
  rw [hcopy, hplain]
  refine (ha.map fun b => ?_).congr hE
  rw [hplain]
  exact hinj.eq_iff

theorem comp_from_json_ensures {data : CJson}
    (ih : ∀ c ∈ cJSON_ArrayItems (cJSON_GetObjectItem data "components"),
      (_d_json_to_component c).Ensures (ComponentKept c)) :
    (comp_from_json data (_d_get_int_from_json data "type" 0)).Ensures
      (CompKept (component_fits data)) := by
  rw [component_fits_iff]
  generalize _d_get_int_from_json data "type" 0 = type
  unfold comp_from_json
  split
  next htype =>
    -- the items of a row are components again
    refine Ensures.skip fun row => (array_ensures ih).bind fun components h => Ensures.pure ?_
    unfold CompKept
    rw [copy_comp, Comp.plain_action_row]
    refine Keeps.skip (Returns.alloc _) fun row' => ?_
    refine ((copy_array_keeps h fun _ _ hc => hc).map fun copies => ?_).congr ?_
    · rw [Comp.plain_action_row, Comp.action_row.injEq, and_iff_right rfl]
    · subst htype
      simp [COMPONENT_ACTION_ROW, COMPONENT_BUTTON, COMPONENT_SELECT_MENU, COMPONENT_TEXT_INPUT]
  next hrow =>
  split
  next htype =>
    refine comp_ensures (button_ensures data) ?_ (fun _ => copy_comp.eq_2 _)
      (fun _ => Comp.plain.eq_2 _) fun _ _ h => by injection h
    subst htype
    simp [COMPONENT_ACTION_ROW, COMPONENT_BUTTON, COMPONENT_SELECT_MENU, COMPONENT_TEXT_INPUT]
  next hbutton =>
  split
  next htype =>
    refine comp_ensures (select_menu_ensures data) ?_ (fun _ => copy_comp.eq_3 _)
      (fun _ => Comp.plain.eq_3 _) fun _ _ h => by injection h
    subst htype
    simp [COMPONENT_ACTION_ROW, COMPONENT_BUTTON, COMPONENT_SELECT_MENU, COMPONENT_TEXT_INPUT]
  next hmenu =>
  split
  next htype =>
    refine comp_ensures (text_input_ensures data) ?_ (fun _ => copy_comp.eq_4 _)
      (fun _ => Comp.plain.eq_4 _) fun _ _ h => by injection h
    subst htype
    simp [COMPONENT_ACTION_ROW, COMPONENT_BUTTON, COMPONENT_SELECT_MENU, COMPONENT_TEXT_INPUT]
  next hinput =>
    -- of another type: there is nothing to copy
    refine Ensures.pure ?_
    unfold CompKept
    rw [copy_comp]
    refine (Keeps.pure _).congr (iff_of_true rfl ?_)
    exact ⟨fun h => absurd h hrow, fun h => absurd h hbutton, fun h => absurd h hmenu,
      fun h => absurd h hinput⟩

/-- Decoding a component. -/
theorem component_ensures (data : CJson) :
    (_d_json_to_component data).Ensures (ComponentKept data) := by
  -- a row holds components again, each a smaller tree
  have ih : ∀ c ∈ cJSON_ArrayItems (cJSON_GetObjectItem data "components"),
      (_d_json_to_component c).Ensures (ComponentKept c) := by
    intro c hc
    have : sizeOf c < sizeOf data := sizeOf_array_item hc
    exact component_ensures c
  rw [_d_json_to_component]
  refine Ensures.skip fun address => (comp_from_json_ensures ih).bind fun comp h => Ensures.pure ?_
  unfold ComponentKept
  rw [_d_copy_component, Component.plain]
  refine Keeps.copying fun address' => ?_
  refine Keeps.map h fun copy => ?_
  rw [Component.plain, Component.mk.injEq, and_iff_right rfl]
termination_by sizeOf data

/-! ### Options of an interaction -/

def OptionValue.plain : OptionValue → OptionValue
  | .string_ s => .string_ (s.map CStr.plain)
  | value => value

def InteractionDataOption.plain (o : InteractionDataOption) : InteractionDataOption :=
  { o with
    address := 0
    name := o.name.map CStr.plain
    value := o.value.plain
    options := o.options.plain_mem fun c h =>
      have : sizeOf c < sizeOf o := InteractionDataOption.sizeOf_item h
      c.plain }
termination_by o

theorem InteractionDataOption.plain_eq (o : InteractionDataOption) :
    o.plain = { o with
      address := 0
      name := o.name.map CStr.plain
      value := o.value.plain
      options := o.options.plain InteractionDataOption.plain } := by
  rw [plain, CArray.plain_mem_eq]

/-- A string value fits, and a number is 0. -/
def value_fits (data : CJson) (type : Int) : Prop :=
  (type = COMMAND_OPTION_STRING → text_fits data "value" 120) ∧ value_copied data type

/-- The texts and values of an option and of all options below it fit. -/
def option_fits (data : CJson) : Prop :=
  text_fits data "name" 50 ∧ value_fits data (_d_get_int_from_json data "type" 0) ∧
    ∀ c, (h : c ∈ cJSON_ArrayItems (cJSON_GetObjectItem data "options")) →
      have : sizeOf c < sizeOf data := sizeOf_array_item h
      option_fits c
termination_by data

theorem option_fits_iff (data : CJson) :
    option_fits data ↔
      text_fits data "name" 50 ∧ value_fits data (_d_get_int_from_json data "type" 0) ∧
        ∀ c ∈ cJSON_ArrayItems (cJSON_GetObjectItem data "options"), option_fits c := by
  rw [option_fits]

/-- A value that was decoded as of the type `type`. -/
def ValueKept (data : CJson) (type : Int) (value : OptionValue) : Prop :=
  ∀ o : InteractionDataOption, o.value_type = VALUE_STRING → o.value = value →
    (copy_option_value o).Keeps OptionValue.plain value.plain (value_fits data type)

/-- A number is copied when it can be read as the null pointer. -/
theorem number_kept {data : CJson} {type : Int} {value : OptionValue} {p : Prop} [Decidable p]
    (hread : value.read_string = if p then pure none else Mem.undefined)
    (hfits : p ↔ value_fits data type) :
    ValueKept data type value := by
  intro o ho hvalue
  rw [copy_option_value, if_pos ho, hvalue, hread, ← hfits]
  by_cases hp : p
  · rw [if_pos hp]
    refine Keeps.value (Keeps.value (a := none) ((Keeps.pure _).congr ?_))
    exact iff_of_true rfl hp
  · rw [if_neg hp]
    exact Keeps.undefined_bind.congr (iff_of_false not_false hp)

/-- A string has a copy, and the null pointer has none. -/
theorem copy_string_isSome (s : Option CStr) (n : Nat) :
    (copy_string s n).Ensures fun copy => copy.isSome = s.isSome := by
  refine Ensures.unless_null (fun h => ?_) fun c h => (Ensures.any _).mono fun copy _ => ?_
  · rw [h]
  · rw [h]
    rfl

theorem option_value_ensures (data : CJson) (type : Int) :
    (option_value data type).Ensures (ValueKept data type) := by
  unfold option_value
  split
  next htype =>
    refine (text_ensures data "value").bind fun s hs => Ensures.pure fun o ho hvalue => ?_
    rw [copy_option_value, if_pos ho, hvalue, OptionValue.read_string]
    refine Keeps.value (((text_keeps hs (by decide)).map_of (copy_string_isSome s 120) ?_).congr ?_)
    · intro copy hcopy
      -- no string is copied as no string
      cases s with
      | none =>
        obtain rfl : copy = none := by simpa using hcopy
        exact iff_of_true rfl rfl
      | some _ =>
        have hsome : copy.isSome = true := hcopy
        rw [if_pos hsome, OptionValue.plain, OptionValue.plain, OptionValue.string_.injEq]
    · subst htype
      simp [value_fits, value_copied, COMMAND_OPTION_STRING, COMMAND_OPTION_INTEGER,
        COMMAND_OPTION_NUMBER]
  next hstring =>
  split
  next htype =>
    -- a number is read as a pointer, so it has to be 0
    refine Ensures.pure (number_kept rfl ?_)
    subst htype
    simp [value_fits, value_copied, COMMAND_OPTION_STRING, COMMAND_OPTION_INTEGER,
      COMMAND_OPTION_NUMBER]
  next hinteger =>
  split
  next htype =>
    refine Ensures.pure (number_kept rfl ?_)
    subst htype
    simp [value_fits, value_copied, COMMAND_OPTION_STRING, COMMAND_OPTION_INTEGER,
      COMMAND_OPTION_NUMBER]
  next hnumber =>
    refine Ensures.pure (number_kept (p := True) (if_pos trivial).symm ?_)
    exact iff_of_true trivial ⟨fun h => absurd h hstring, fun h => absurd h hinteger,
      fun h => absurd h hnumber⟩

/-- A decoded option is copied exactly when its document fits. -/
def OptionKept (data : CJson) (o : InteractionDataOption) : Prop :=
  (_d_copy_interaction_data_option o).Keeps InteractionDataOption.plain o.plain (option_fits data)

/-- Decoding an option of an interaction. -/
theorem option_ensures (data : CJson) :
    (_d_json_to_interaction_data_option data).Ensures (OptionKept data) := by
  -- an option may have options of its own
  have ih : ∀ c ∈ cJSON_ArrayItems (cJSON_GetObjectItem data "options"),
      (_d_json_to_interaction_data_option c).Ensures (OptionKept c) := by
    intro c hc
    have : sizeOf c < sizeOf data := sizeOf_array_item hc
    exact option_ensures c
  rw [_d_json_to_interaction_data_option]
  refine Ensures.skip fun address => ?_
  refine (text_ensures data "name").bind fun name hname => ?_
  refine (option_value_ensures data _).bind fun value hvalue => ?_
  refine (array_ensures ih).bind fun options hoptions => Ensures.pure ?_
  unfold OptionKept
  rw [_d_copy_interaction_data_option, option_fits_iff]
  refine Keeps.copying fun address => Keeps.start ?_
  refine (text_keeps hname (by decide)).bind fun _ => ?_
  refine (hvalue _ rfl rfl).bind fun _ => ?_
  refine (copy_array_keeps hoptions fun _ _ h => h).last fun _ => Keeps.ret ?_
  simp [InteractionDataOption.plain_eq, and_assoc]
termination_by sizeOf data

/-! ### Data of an interaction -/

/-- The `values` keep the type they are stored as. -/
def InteractionData.plain (d : InteractionData) : InteractionData :=
  { d with
    address := 0
    name := d.name.map CStr.plain
    options := d.options.plain InteractionDataOption.plain
    custom_id := d.custom_id.map CStr.plain
    values := d.values.plain (Sum.map InteractionDataOption.plain SelectOption.plain)
    components := d.components.plain Component.plain }

/-- The texts of the data fit, and it has no values. -/
def interaction_data_fits (data : CJson) : Prop :=
  text_fits data "name" 100 ∧ (∀ c ∈ items data "options", option_fits c) ∧
    text_fits data "custom_id" 50 ∧ items data "values" = [] ∧
    ∀ c ∈ items data "components", component_fits c

/-- What was decoded as another type cannot be copied. -/
theorem declared_array_keeps {α β : Type} (g : α ⊕ β → α ⊕ β) {array : CArray (α ⊕ β)}
    {copy : α → CMem α} {js : List CJson}
    (hR : List.Forall₂ (fun _ p => ∃ b, p = Sum.inr b) js array.items) :
    (copy_array array fun p _ => do
      let c ← Mem.declared copy p
      pure (Sum.inl c)).Keeps (CArray.plain g) (array.plain g) (js = []) := by
  refine (copy_array_keeps (E := fun _ => False) hR fun _ p hp => ?_).congr forall_not_mem_iff
  obtain ⟨b, rfl⟩ := hp
  exact Keeps.undefined_bind

theorem interaction_data_ensures (data : CJson) :
    (_d_json_to_interaction_data data).Ensures fun d =>
      (_d_copy_interaction_data d).Keeps InteractionData.plain d.plain
        (interaction_data_fits data) := by
  unfold _d_json_to_interaction_data
  refine Ensures.skip fun address => ?_
  refine (text_ensures data "name").bind fun name hname => ?_
  refine (array_ensures fun c _ => option_ensures c).bind fun options hoptions => ?_
  refine (text_ensures data "custom_id").bind fun custom_id hcustom_id => ?_
  -- the values are decoded as one type, and declared as another
  refine (array_ensures (R := fun _ p => ∃ b, p = Sum.inr b) fun c _ =>
    Ensures.skip fun b => Ensures.pure ⟨b, rfl⟩).bind fun values hvalues => ?_
  refine (array_ensures fun c _ => component_ensures c).bind fun components hcomponents =>
    Ensures.pure ?_
  refine Keeps.copying fun address => Keeps.start ?_
  refine (text_keeps hname (by decide)).bind fun _ => ?_
  refine (copy_array_keeps hoptions fun _ _ h => h).bind fun _ => ?_
  refine (text_keeps hcustom_id (by decide)).bind fun _ => ?_
  refine (declared_array_keeps (Sum.map InteractionDataOption.plain SelectOption.plain)
    hvalues).bind fun _ => ?_
  refine (copy_array_keeps hcomponents fun _ _ h => h).last fun _ => Keeps.ret ?_
  simp [InteractionData.plain, and_assoc]

end DiscoC
