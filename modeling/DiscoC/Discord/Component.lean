import DiscoC.Discord.Disco

/-! # Message components

  Model of `discord/component.c`. The union `comp` of a component and the
  `type` that says how to read it are one inductive type, so that it is
  always read as it was written.
-/

namespace DiscoC

/-! ### Data -/

/-- `struct discord_button` -/
structure Button where
  address : Nat
  style : Int
  label : Option CStr
  emoji : Unimplemented
  custom_id : Option CStr
  url : Option CStr
  disabled : Bool

/-- `struct discord_select_option` -/
structure SelectOption where
  address : Nat
  label : Option CStr
  value : Option CStr
  description : Option CStr
  emoji : Unimplemented
  /-- `default` -/
  _default : Bool

/-- `struct discord_select_menu` -/
structure SelectMenu where
  address : Nat
  custom_id : Option CStr
  options : CArray SelectOption
  placeholder : Option CStr
  min_values : Int
  max_values : Int
  disabled : Bool

/-- `struct discord_text_input` -/
structure TextInput where
  address : Nat
  custom_id : Option CStr
  style : Int
  label : Option CStr
  min_length : Int
  max_length : Int
  required : Bool
  value : Option CStr
  placeholder : Option CStr

mutual

/-- `struct discord_component` -/
inductive Component where
  | mk (address : Nat) (comp : Comp)

/-- `type` and `comp` of a component. -/
inductive Comp where
  /-- the address of the `struct discord_action_row` and its components -/
  | action_row (address : Nat) (components : CArray Component)
  | button (button : Button)
  | select_menu (select_menu : SelectMenu)
  | text_input (text_input : TextInput)
  /-- no structure, for a `type` that is none of the above -/
  | unknown (type : Int)

end

/-- `enum Discord_Component_Type` -/
def COMPONENT_ACTION_ROW : Int := 1
def COMPONENT_BUTTON : Int := 2
def COMPONENT_SELECT_MENU : Int := 3
def COMPONENT_TEXT_INPUT : Int := 4

/-! ### Select options -/

/-- `_d_json_to_select_option`. -/
def _d_json_to_select_option (data : CJson) : CMem SelectOption := do
  let address ← Mem.alloc .select_option
  let label ← _d_get_string_from_json data "label"
  let value ← _d_get_string_from_json data "value"
  let description ← _d_get_string_from_json data "description"
  let emoji ← unimplemented_field (cJSON_GetObjectItem data "emoji") _d_json_to_emoji
  pure {
    address, label, value, description, emoji
    _default := _d_get_bool_from_json data "default" false }

/-- `_d_copy_select_option`, of an option that is not null. -/
def _d_copy_select_option (src : SelectOption) : CMem SelectOption := do
  Mem.visit .select_option ⟨.select_option, src.address⟩
  let address ← Mem.alloc .select_option
  let label ← copy_string src.label 101
  let value ← copy_string src.value 101
  let description ← copy_string src.description 101
  let emoji ← _d_copy_emoji src.emoji
  pure { address, label, value, description, emoji, _default := src._default }

/-- `discord_destroy_select_option`. -/
def discord_destroy_select_option (option : SelectOption) : CMem Unit :=
  Mem.destroying .select_option option.address do
    free_string option.label
    free_string option.value
    free_string option.description
    discord_destroy_emoji option.emoji

/-! ### Buttons, menus and inputs

  The branches of `_d_json_to_component`, `_d_copy_component` and
  `discord_destroy_component` that do not go into other components.
-/

def button_from_json (data : CJson) : CMem Button := do
  let address ← Mem.alloc .button
  let label ← _d_get_string_from_json data "label"
  let emoji ← unimplemented_field (cJSON_GetObjectItem data "emoji") _d_json_to_emoji
  let custom_id ← _d_get_string_from_json data "custom_id"
  let url ← _d_get_string_from_json data "url"
  pure {
    address, label, emoji, custom_id, url
    style := _d_get_int_from_json data "style" 1
    disabled := _d_get_bool_from_json data "disabled" false }

def copy_button (src : Button) : CMem Button := do
  let address ← Mem.alloc .button
  let label ← copy_string src.label 101
  let emoji ← _d_copy_emoji src.emoji
  let custom_id ← copy_string src.custom_id 101
  let url ← copy_string src.url 2050
  pure { src with address, label, emoji, custom_id, url }

def destroy_button (button : Button) : CMem Unit := do
  free_string button.label
  discord_destroy_emoji button.emoji
  free_string button.custom_id
  free_string button.url

def select_menu_from_json (data : CJson) : CMem SelectMenu := do
  let address ← Mem.alloc .select_menu
  let custom_id ← _d_get_string_from_json data "custom_id"
  let options ← _d_get_array_from_json data "options" fun cur _ => _d_json_to_select_option cur
  let placeholder ← _d_get_string_from_json data "placeholder"
  pure {
    address, custom_id, options, placeholder
    min_values := _d_get_int_from_json data "min_values" 1
    max_values := _d_get_int_from_json data "max_values" 1
    disabled := _d_get_bool_from_json data "disabled" false }

def copy_select_menu (src : SelectMenu) : CMem SelectMenu := do
  let address ← Mem.alloc .select_menu
  let custom_id ← copy_string src.custom_id 101
  let options ← copy_array src.options fun option _ => _d_copy_select_option option
  let placeholder ← copy_string src.placeholder 151
  pure { src with address, custom_id, options, placeholder }

def destroy_select_menu (select_menu : SelectMenu) : CMem Unit := do
  free_string select_menu.custom_id
  destroy_array select_menu.options fun option _ => discord_destroy_select_option option
  free_string select_menu.placeholder

def text_input_from_json (data : CJson) : CMem TextInput := do
  let address ← Mem.alloc .text_input
  let custom_id ← _d_get_string_from_json data "custom_id"
  let label ← _d_get_string_from_json data "label"
  let value ← _d_get_string_from_json data "value"
  let placeholder ← _d_get_string_from_json data "placeholder"
  pure {
    address, custom_id, label, value, placeholder
    style := _d_get_int_from_json data "style" 1
    min_length := _d_get_int_from_json data "min_length" 0
    max_length := _d_get_int_from_json data "max_length" 1
    required := _d_get_bool_from_json data "required" false }

def copy_text_input (src : TextInput) : CMem TextInput := do
  let address ← Mem.alloc .text_input
  -- `memcpy` is given the arm of the menu, the same pointer of the union
  let custom_id ← copy_string src.custom_id 101
  let label ← copy_string src.label 50
  let value ← copy_string src.value 4001
  let placeholder ← copy_string src.placeholder 101
  pure { src with address, custom_id, label, value, placeholder }

def destroy_text_input (text_input : TextInput) : CMem Unit := do
  free_string text_input.custom_id
  free_string text_input.label
  free_string text_input.value
  free_string text_input.placeholder

/-! ### Components -/

mutual

/-- `_d_json_to_component`. -/
def _d_json_to_component (data : CJson) : CMem Component := do
  let address ← Mem.alloc .component
  let comp ← comp_from_json data (_d_get_int_from_json data "type" 0)
  pure (.mk address comp)
termination_by (sizeOf data, 1)

/-- The branch of `_d_json_to_component` for a type. -/
def comp_from_json (data : CJson) (type : Int) : CMem Comp :=
  if type = COMPONENT_ACTION_ROW then do
    let row ← Mem.alloc .action_row
    let components ← _d_get_array_from_json data "components" fun cur h =>
      have : sizeOf cur < sizeOf data := sizeOf_array_item h
      _d_json_to_component cur
    pure (.action_row row components)
  else if type = COMPONENT_BUTTON then do
    let button ← button_from_json data
    pure (.button button)
  else if type = COMPONENT_SELECT_MENU then do
    let select_menu ← select_menu_from_json data
    pure (.select_menu select_menu)
  else if type = COMPONENT_TEXT_INPUT then do
    let text_input ← text_input_from_json data
    pure (.text_input text_input)
  else
    pure (.unknown type)
termination_by (sizeOf data, 0)

end

mutual

/-- `_d_copy_component`, of a component that is not null. -/
def _d_copy_component : Component → CMem Component
  | .mk src_address src => do
    Mem.visit .component ⟨.component, src_address⟩
    let address ← Mem.alloc .component
    let copy ← copy_comp src
    pure (.mk address copy)
termination_by c => sizeOf c

/-- The branch of `_d_copy_component` for a type. -/
def copy_comp : Comp → CMem Comp
  | .action_row _ components => do
    let row ← Mem.alloc .action_row
    let copies ← copy_array components fun c h =>
      have : sizeOf c < sizeOf components := CArray.sizeOf_item h
      _d_copy_component c
    pure (.action_row row copies)
  | .button button => do
    let copy ← copy_button button
    pure (.button copy)
  | .select_menu select_menu => do
    let copy ← copy_select_menu select_menu
    pure (.select_menu copy)
  | .text_input text_input => do
    let copy ← copy_text_input text_input
    pure (.text_input copy)
  | .unknown type => pure (.unknown type)
termination_by comp => sizeOf comp
decreasing_by
  rw [Comp.action_row.sizeOf_spec]
  omega

end

mutual

/-- `discord_destroy_component`. The structure that `comp` points to is not
    freed. -/
def discord_destroy_component : Component → CMem Unit
  | .mk address comp => Mem.destroying .component address (destroy_comp comp)
termination_by c => sizeOf c

/-- The branch of `discord_destroy_component` for a type. -/
def destroy_comp : Comp → CMem Unit
  | .action_row _ components =>
    destroy_array components fun c h =>
      have : sizeOf c < sizeOf components := CArray.sizeOf_item h
      discord_destroy_component c
  | .button button => destroy_button button
  | .select_menu select_menu => destroy_select_menu select_menu
  | .text_input text_input => destroy_text_input text_input
  | .unknown _ => pure ()
termination_by comp => sizeOf comp
decreasing_by
  rw [Comp.action_row.sizeOf_spec]
  omega

end

end DiscoC
