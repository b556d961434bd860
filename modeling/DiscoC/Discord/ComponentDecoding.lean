import DiscoC.Discord.ArrayDecoding
import DiscoC.Discord.ComponentCopying

/-! # Decoded components

  A decoded tree of components has the shape of its document: a row has as
  many components as its array and a menu as many options, each decoded from
  the item at the same index (`ComponentDecoded`). If all texts fit, a copy of
  the tree is structurally equal to it (`component_tree_faithful`).
-/

namespace DiscoC

open Mem

/-! ### The shape of a tree -/

/-- A component as its document says, with all components below it. -/
inductive ComponentDecoded : CJson → Component → Prop where
  | action_row {data : CJson} {address row : Nat} {components : CArray Component}
    (htype : _d_get_int_from_json data "type" 0 = COMPONENT_ACTION_ROW)
    (hdecoded : ArrayDecoded (cJSON_GetObjectItem data "components") _d_json_to_component
      components)
    (hbelow : ∀ (i : Nat) c a,
      (cJSON_ArrayItems (cJSON_GetObjectItem data "components"))[i]? = some c →
        components.items[i]? = some a → ComponentDecoded c a) :
    ComponentDecoded data (.mk address (.action_row row components))
  | button {data : CJson} {address : Nat} {button : Button}
    (htype : _d_get_int_from_json data "type" 0 = COMPONENT_BUTTON)
    (hdecoded : (button_from_json data).Result button) :
    ComponentDecoded data (.mk address (.button button))
  | select_menu {data : CJson} {address : Nat} {select_menu : SelectMenu}
    (htype : _d_get_int_from_json data "type" 0 = COMPONENT_SELECT_MENU)
    (hdecoded : (select_menu_from_json data).Result select_menu)
    (hoptions : ArrayDecoded (cJSON_GetObjectItem data "options") _d_json_to_select_option
      select_menu.options) :
    ComponentDecoded data (.mk address (.select_menu select_menu))
  | text_input {data : CJson} {address : Nat} {text_input : TextInput}
    (htype : _d_get_int_from_json data "type" 0 = COMPONENT_TEXT_INPUT)
    (hdecoded : (text_input_from_json data).Result text_input) :
    ComponentDecoded data (.mk address (.text_input text_input))
  | unknown {data : CJson} {address : Nat} {type : Int}
    (htype : _d_get_int_from_json data "type" 0 = type) (hrow : type ≠ COMPONENT_ACTION_ROW)
    (hbutton : type ≠ COMPONENT_BUTTON) (hmenu : type ≠ COMPONENT_SELECT_MENU)
    (hinput : type ≠ COMPONENT_TEXT_INPUT) :
    ComponentDecoded data (.mk address (.unknown type))

/-- The structure of a component, whatever its address. -/
def CompDecoded (data : CJson) (comp : Comp) : Prop :=
  ∀ address, ComponentDecoded data (.mk address comp)

/-! ### Decoding -/

theorem select_menu_options_decoded (data : CJson) :
    (select_menu_from_json data).Ensures fun select_menu =>
      ArrayDecoded (cJSON_GetObjectItem data "options") _d_json_to_select_option
        select_menu.options := by
  unfold select_menu_from_json
  refine Ensures.skip fun address => Ensures.skip fun custom_id => ?_
  refine (array_decoded _ _).bind fun options hoptions => ?_
  exact Ensures.skip fun placeholder => Ensures.pure hoptions

/-- The items of a row, with the trees they are. -/
theorem row_decoded {data : CJson}
    (ih : ∀ c ∈ cJSON_ArrayItems (cJSON_GetObjectItem data "components"),
      (_d_json_to_component c).Ensures (ComponentDecoded c)) :
    (_d_get_array_from_json data "components" fun cur _ => _d_json_to_component cur).Ensures
      fun components =>
        ArrayDecoded (cJSON_GetObjectItem data "components") _d_json_to_component components ∧
        ∀ (i : Nat) c a,
          (cJSON_ArrayItems (cJSON_GetObjectItem data "components"))[i]? = some c →
            components.items[i]? = some a → ComponentDecoded c a := by
  refine (array_decoded _ _).and ((array_ensures ih).mono fun components h => ?_)
  intro i c a hc ha
  exact getElem?_of_forall₂ h hc ha

theorem comp_decoded {data : CJson}
    (ih : ∀ c ∈ cJSON_ArrayItems (cJSON_GetObjectItem data "components"),
      (_d_json_to_component c).Ensures (ComponentDecoded c)) :
    (comp_from_json data (_d_get_int_from_json data "type" 0)).Ensures (CompDecoded data) := by
  unfold comp_from_json
  -- one case for each type, in the order of the source
  split
  next htype =>
    refine Ensures.skip fun row => (row_decoded ih).bind fun components h => Ensures.pure ?_
    exact fun address => .action_row htype h.1 h.2
  next hrow =>
  split
  next htype =>
    refine (Ensures.result _).bind fun button h => Ensures.pure ?_
    exact fun address => .button htype h
  next hbutton =>
  split
  next htype =>
    refine ((Ensures.result _).and (select_menu_options_decoded data)).bind fun select_menu h =>
      Ensures.pure ?_
    exact fun address => .select_menu htype h.1 h.2
  next hmenu =>
  split
  next htype =>
    refine (Ensures.result _).bind fun text_input h => Ensures.pure ?_
    exact fun address => .text_input htype h
  next hinput => exact Ensures.pure fun address => .unknown rfl hrow hbutton hmenu hinput

theorem component_decoded (data : CJson) :
    (_d_json_to_component data).Ensures (ComponentDecoded data) := by
  -- a row holds components again, each a smaller tree
  have ih : ∀ c ∈ cJSON_ArrayItems (cJSON_GetObjectItem data "components"),
      (_d_json_to_component c).Ensures (ComponentDecoded c) := by
    intro c hc
    have : sizeOf c < sizeOf data := sizeOf_array_item hc
    exact component_decoded c
  rw [_d_json_to_component]
  exact Ensures.skip fun address => (comp_decoded ih).bind fun comp h => Ensures.pure (h address)
termination_by sizeOf data

/-! ### Decoding and copying -/

/-- A tree that is faithful to its document, as are the copies of it. -/
structure ComponentFaithful (data : CJson) (c : Component) : Prop where
  decoded : ComponentDecoded data c
  copied : component_fits data →
    (_d_copy_component c).Yields fun copy => copy.plain = c.plain

/-- **Component trees are decoded and copied faithfully**: every document is
    decoded, all the way down, and copied as well if its texts fit. -/
theorem component_tree_faithful (data : CJson) :
    (_d_json_to_component data).Yields (ComponentFaithful data) := by
  refine Yields.of_ensures (.of_spec (component_owns data)) ?_
  refine ((component_decoded data).and (component_ensures data)).mono fun c h => ?_
  obtain ⟨hdecoded, hkept⟩ := h
  exact { decoded := hdecoded, copied := hkept.yields_iff.mpr }

end DiscoC
