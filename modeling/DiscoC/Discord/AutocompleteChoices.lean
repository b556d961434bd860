import DiscoC.Discord.CommandJson
import DiscoC.Discord.InteractionCallback

/-! # Choices of an autocompletion

  A reply to an autocompletion offers choices for the option that the user is
  typing, the focused one. The value of a choice is a union, to be read as the
  type of that option says. The code reads the value of the `i`-th choice as
  the type of the `i`-th received option says, of which there may not even
  be one.

  So the choices are written as they should be exactly when there are as many
  options as choices, and all of these are read as the focused one
  (`autocomplete_answered_iff`).
-/

namespace DiscoC

/-! ### Arms -/

/-- A member of the union `value` of a choice. -/
inductive ChoiceArm where
  | str
  | number
  deriving DecidableEq

/-- The arm a choice for an option of this type is read through. -/
def choice_arm (type : Int) : Option ChoiceArm :=
  if type = COMMAND_OPTION_INTEGER ∨ type = COMMAND_OPTION_NUMBER then some .number
  else if type = COMMAND_OPTION_STRING then some .str
  else none

/-- The item for a value that is read through an arm. -/
def ChoiceValue.read_arm (value : ChoiceValue) : ChoiceArm → Option (Option CJson)
  | .str => value.read_str.map cJSON_CreateString
  | .number => some (some (.number value.read_number))

/-- The value of a choice is read through the arm of a type, if it has one. -/
theorem autocomplete_value_of_arm {type : Int} {arm : ChoiceArm} (h : choice_arm type = some arm)
    (value : ChoiceValue) : autocomplete_value value type = value.read_arm arm := by
  unfold choice_arm at h
  unfold autocomplete_value
  split at h
  next hnumber =>
    rw [if_pos hnumber, ← Option.some.inj h]
    rfl
  next hnumber =>
  split at h
  next hstring =>
    rw [if_neg hnumber, if_pos hstring, ← Option.some.inj h]
    rfl
  next => cases h

/-- The arm that the `i`-th choice is read through. -/
def received_arm (recv : Interaction) (i : Nat) : Option ChoiceArm := do
  let type ← received_option_type recv i
  choice_arm type

/-- The arm of the option that is focused. -/
def focused_arm (recv : Interaction) : Option ChoiceArm := do
  let data ← recv.data
  let option ← data.options.items.find? fun o => o.focused
  choice_arm option.type

/-! ### Replies -/

/-- The choices in the JSON of a reply. -/
def reply_choices (json : CJson) : List CJson :=
  cJSON_ArrayItems (cJSON_GetObjectItem (cJSON_GetObjectItem (some json) "data") "choices")

/-- The `i`-th choice is written as `item`: with its name, and with its value
    as it is read through the arm of the focused option. The option that is
    looked at for this is there. -/
structure ChoiceAnswered (recv : Interaction) (i : Nat) (choice : CommandOptionChoice)
    (item : CJson) : Prop where
  name : read_text item "name" = choice.name.map CStr.plain
  value : ∃ arm, focused_arm recv = some arm ∧ received_arm recv i = some arm ∧
    choice.value.read_arm arm = some (cJSON_GetObjectItem item "value")
  in_bounds : ∃ data, recv.data = some data ∧ i < data.options.count

/-- The reply has one item for each choice, in order. -/
def AutocompleteAnswered (choices : List CommandOptionChoice) (recv : Interaction) : Prop :=
  ∃ json, interaction_callback_json (.autocomplete choices) recv = some json ∧
    (reply_choices json).length = choices.length ∧
    ∀ (i : Nat) choice item, choices[i]? = some choice → (reply_choices json)[i]? = some item →
      ChoiceAnswered recv i choice item

/-- There is an option for each choice, and it is of the kind of the focused
    one. The values of the choices are of that kind. -/
def ChoicesAgree (choices : List CommandOptionChoice) (recv : Interaction) : Prop :=
  ∃ data arm, recv.data = some data ∧ focused_arm recv = some arm ∧
    choices.length ≤ data.options.count ∧
    (∀ o ∈ data.options.items.take choices.length, choice_arm o.type = some arm) ∧
    ∀ choice ∈ choices, (choice.value.read_arm arm).isSome = true

/-! ### What is written -/

theorem received_arm_iff {recv : Interaction} {i : Nat} {arm : ChoiceArm} :
    received_arm recv i = some arm ↔ ∃ data o, recv.data = some data ∧
      data.options.items[i]? = some o ∧ choice_arm o.type = some arm := by
  simp only [received_arm, received_option_type, Option.bind_eq_bind, Option.bind_eq_some_iff,
    Option.some.injEq]
  constructor
  · intro h
    obtain ⟨type, ⟨data, hdata, o, ho, rfl⟩, harm⟩ := h
    exact ⟨data, o, hdata, ho, harm⟩
  · intro h
    obtain ⟨data, o, hdata, ho, harm⟩ := h
    exact ⟨o.type, ⟨data, hdata, o, ho, rfl⟩, harm⟩

/-- A choice is written when its value can be read. -/
theorem autocomplete_choice_isSome {recv : Interaction} {i : Nat} {arm : ChoiceArm}
    {choice : CommandOptionChoice} (harm : received_arm recv i = some arm)
    (hvalue : (choice.value.read_arm arm).isSome = true) :
    (autocomplete_choice recv choice i).isSome = true := by
  obtain ⟨data, o, hdata, ho, harm⟩ := received_arm_iff.mp harm
  obtain ⟨value, hvalue⟩ := Option.isSome_iff_exists.mp hvalue
  rw [← autocomplete_value_of_arm harm] at hvalue
  simp [autocomplete_choice, received_option_type, hdata, ho, hvalue]

/-- It is written with its name and its value. -/
theorem choice_answered {recv : Interaction} {i : Nat} {arm : ChoiceArm}
    {choice : CommandOptionChoice} {item : CJson} (hfocused : focused_arm recv = some arm)
    (hreceived : received_arm recv i = some arm)
    (h : autocomplete_choice recv choice i = some item) : ChoiceAnswered recv i choice item := by
  obtain ⟨data, o, hdata, ho, harm⟩ := received_arm_iff.mp hreceived
  obtain ⟨type, htype, h⟩ := Option.bind_eq_some_iff.mp h
  obtain ⟨value, hvalue, h⟩ := Option.bind_eq_some_iff.mp h
  have hitem : ∀ {name value}, (name, value) ∈ _ → cJSON_GetObjectItem (some item) name = value :=
    getObjectItem_of_eq (Option.some.inj h)
      (.of_keys ["name", "name_localizations", "value"] (by decide) rfl)
  -- the type that was read is that of the received option
  have heq : o.type = type := by simpa [received_option_type, hdata, ho] using htype
  rw [← heq, autocomplete_value_of_arm harm] at hvalue
  exact {
    name := read_text_of choice.name (hitem (by simp))
    value := ⟨arm, hfocused, hreceived, hvalue.trans (congrArg some (hitem (by simp)).symm)⟩
    in_bounds := ⟨data, hdata, (List.getElem?_eq_some_iff.mp ho).1⟩ }

/-- A reply is written when all its choices are. -/
theorem autocomplete_json_isSome_iff {choices : List CommandOptionChoice} {recv : Interaction} :
    (interaction_callback_json (.autocomplete choices) recv).isSome = true ↔
      ∀ (i : Nat) choice, choices[i]? = some choice →
        (autocomplete_choice recv choice i).isSome = true := by
  rw [← @zipIdx_mapM_isSome_iff _ _ (autocomplete_choice recv)]
  show ((((choices.zipIdx.mapM fun p => autocomplete_choice recv p.1 p.2).bind _).bind _).isSome =
    true) ↔ _
  cases choices.zipIdx.mapM fun p => autocomplete_choice recv p.1 p.2 <;> rfl

/-- The choices of a reply that is written. -/
theorem reply_choices_of {choices : List CommandOptionChoice} {recv : Interaction} {json : CJson}
    (h : interaction_callback_json (.autocomplete choices) recv = some json) :
    (choices.zipIdx.mapM fun p => autocomplete_choice recv p.1 p.2) =
      some (reply_choices json) := by
  obtain ⟨fields, hfields, h⟩ := Option.bind_eq_some_iff.mp h
  obtain ⟨array, harray, hdata⟩ := Option.bind_eq_some_iff.mp hfields
  have hjson := Option.some.inj h
  have hd : cJSON_GetObjectItem (some json) "data" = some (cJSON_object fields) :=
    getObjectItem_of_eq hjson (.of_keys ["type", "data"] (by decide) rfl) (by simp)
  have hc : cJSON_GetObjectItem (some (cJSON_object fields)) "choices" = array_item array :=
    getObjectItem_of_eq (congrArg cJSON_object (Option.some.inj hdata))
      (.of_keys ["choices"] (by decide) rfl) (by simp)
  rw [reply_choices, hd, hc, arrayItems_array_item]
  exact harray

/-! ### When the choices are answered -/

/-- If they are, each has an option of the kind of the focused one. -/
theorem agree_of_answered {choices : List CommandOptionChoice} {recv : Interaction}
    (h : AutocompleteAnswered choices recv) (hne : choices ≠ []) : ChoicesAgree choices recv := by
  obtain ⟨json, hjson, hlength, hall⟩ := h
  have hanswered : ∀ i, i < choices.length → ∃ choice item, choices[i]? = some choice ∧
      ChoiceAnswered recv i choice item := by
    intro i hi
    have hitem : i < (reply_choices json).length := hlength ▸ hi
    exact ⟨choices[i], (reply_choices json)[i], List.getElem?_eq_getElem hi,
      hall i _ _ (List.getElem?_eq_getElem hi) (List.getElem?_eq_getElem hitem)⟩
  -- the last choice has an option, so that all others have
  have hpos : 0 < choices.length := List.length_pos_iff.mpr hne
  obtain ⟨_, _, -, hlast⟩ := hanswered (choices.length - 1) (by omega)
  obtain ⟨arm, hfocused, -⟩ := hlast.value
  obtain ⟨data, hdata, hbound⟩ := hlast.in_bounds
  have harms : ∀ i choice item, ChoiceAnswered recv i choice item →
      received_arm recv i = some arm ∧ (choice.value.read_arm arm).isSome = true := by
    intro i choice item hanswer
    obtain ⟨arm', hfocused', hreceived, hvalue⟩ := hanswer.value
    obtain rfl : arm = arm' := Option.some.inj (hfocused.symm.trans hfocused')
    exact ⟨hreceived, Option.isSome_of_eq_some hvalue⟩
  refine ⟨data, arm, hdata, hfocused, by omega, fun o ho => ?_, fun choice hchoice => ?_⟩
  · obtain ⟨i, hi⟩ := List.mem_iff_getElem?.mp ho
    rw [List.getElem?_take] at hi
    split at hi
    next hlt =>
      obtain ⟨choice, item, -, hanswer⟩ := hanswered i hlt
      obtain ⟨data', o', hdata', ho', harm⟩ := received_arm_iff.mp (harms i choice item hanswer).1
      obtain rfl : data = data' := Option.some.inj (hdata.symm.trans hdata')
      obtain rfl : o = o' := Option.some.inj (hi.symm.trans ho')
      exact harm
    next => cases hi
  · obtain ⟨i, hi⟩ := List.mem_iff_getElem?.mp hchoice
    obtain ⟨choice', item, hi', hanswer⟩ := hanswered i (List.getElem?_eq_some_iff.mp hi).1
    obtain rfl : choice = choice' := Option.some.inj (hi.symm.trans hi')
    exact (harms i choice item hanswer).2

theorem answered_of_agree {choices : List CommandOptionChoice} {recv : Interaction}
    (h : ChoicesAgree choices recv) : AutocompleteAnswered choices recv := by
  obtain ⟨data, arm, hdata, hfocused, hlength, hoptions, hvalues⟩ := h
  -- the option at the index of a choice is there, and of the focused kind
  have hreceived : ∀ (i : Nat) choice, choices[i]? = some choice →
      received_arm recv i = some arm := by
    intro i choice hi
    have hlt : i < choices.length := (List.getElem?_eq_some_iff.mp hi).1
    have hoption : i < data.options.items.length := hlt.trans_le hlength
    have hmem : data.options.items[i] ∈ data.options.items.take choices.length := by
      rw [List.mem_take_iff_getElem]
      exact ⟨i, by omega, rfl⟩
    exact received_arm_iff.mpr ⟨data, data.options.items[i], hdata,
      List.getElem?_eq_getElem hoption, hoptions _ hmem⟩
  have hwritten : (interaction_callback_json (.autocomplete choices) recv).isSome = true := by
    rw [autocomplete_json_isSome_iff]
    intro i choice hi
    exact autocomplete_choice_isSome (hreceived i choice hi)
      (hvalues choice (List.mem_of_getElem? hi))
  obtain ⟨json, hjson⟩ := Option.isSome_iff_exists.mp hwritten
  have hitems := reply_choices_of hjson
  refine ⟨json, hjson, length_of_zipIdx_mapM hitems, fun i choice item hi hitem => ?_⟩
  rw [getElem?_of_zipIdx_mapM hitems hi] at hitem
  exact choice_answered hfocused (hreceived i choice hi) hitem

/-- A reply without choices is answered. -/
theorem no_choices_answered (recv : Interaction) : AutocompleteAnswered [] recv := by
  obtain ⟨json, hjson⟩ : ∃ json, interaction_callback_json (.autocomplete []) recv = some json :=
    ⟨_, rfl⟩
  refine ⟨json, hjson, length_of_zipIdx_mapM (reply_choices_of hjson), fun i choice item hi => ?_⟩
  cases hi

/-- **The choices of an autocompletion are written as they should be**
    exactly when there are none or they agree with the options. -/
theorem autocomplete_answered_iff (choices : List CommandOptionChoice) (recv : Interaction) :
    AutocompleteAnswered choices recv ↔ choices = [] ∨ ChoicesAgree choices recv := by
  constructor
  · intro h
    by_cases hne : choices = []
    · exact .inl hne
    · exact .inr (agree_of_answered h hne)
  · intro h
    rcases h with rfl | h
    · exact no_choices_answered recv
    · exact answered_of_agree h

/-! ### A choice too many -/

def typed_option (type : Int) (focused : Bool) : InteractionDataOption where
  address := 0
  name := none
  type := type
  value_type := VALUE_STRING
  value := .unset
  options := .null
  focused := focused

/-- An interaction with these options. -/
def received_options (options : List InteractionDataOption) : Interaction where
  address := 0
  id := 1
  application_id := 0
  type := 4
  data := some {
    address := 0
    id := 0
    name := none
    type := 1
    options := .block 0 options
    guild_id := 0
    target_id := 0
    custom_id := none
    component_type := 0
    values := .null
    components := .null }
  guild_id := 0
  channel_id := 0
  member := none
  user := none
  token := none
  version := 0
  app_permissions := none
  locale := none
  guild_locale := none
  message := none

/-- Of two choices for the one option of an interaction, the second is
    written with the type of an option that is not there. Nor is a choice
    answered if the first option is of another kind than the focused one. -/
theorem two_choices_unanswered :
    ¬ AutocompleteAnswered [text_choice "a" 1, text_choice "b" 2]
      (received_options [typed_option COMMAND_OPTION_STRING true]) ∧
    received_option_type (received_options [typed_option COMMAND_OPTION_STRING true]) 1 = none ∧
    ¬ AutocompleteAnswered [text_choice "a" 1]
      (received_options [typed_option COMMAND_OPTION_INTEGER false,
        typed_option COMMAND_OPTION_STRING true]) := by
  refine ⟨fun h => ?_, rfl, fun h => ?_⟩
  · obtain ⟨data, arm, hdata, -, hlength, -⟩ := agree_of_answered h (by simp)
    cases hdata
    exact absurd hlength (by decide)
  · obtain ⟨data, arm, hdata, hfocused, -, hoptions, -⟩ := agree_of_answered h (by simp)
    cases hdata
    -- the focused option is a string, the first one a number
    obtain rfl : ChoiceArm.str = arm := Option.some.inj hfocused
    have hnumber := hoptions (typed_option COMMAND_OPTION_INTEGER false) (by simp [CArray.items])
    exact absurd hnumber (by decide)

end DiscoC
