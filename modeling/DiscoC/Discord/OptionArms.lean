import DiscoC.Discord.ComponentCopying
import DiscoC.Discord.MessageOwnership

/-! # The arms of option values

  The value of an option of an interaction is a union. The decoder writes
  the arm that the `type` of the option names. The destroyer goes by the
  `type` as well, but the copier goes by the `value_type`, which nobody ever
  writes: it is always `VALUE_STRING`, and the copier always reads a string.

  So a tree of options is handled through the arms that were written exactly
  when all its options are strings (`option_tree_sound_iff`).
-/

namespace DiscoC

open Mem

/-! ### Arms -/

/-- A member of the union `value`. -/
inductive ValueArm where
  | string_
  | int_
  | double_
  deriving DecidableEq

/-- The arm that was written, if one was. -/
def OptionValue.stored : OptionValue → Option ValueArm
  | .string_ _ => some .string_
  | .int_ _ => some .int_
  | .double_ _ => some .double_
  | .unset => none

/-- The arm that `_d_json_to_interaction_data_option` writes for a type. -/
def stored_arm (type : Int) : Option ValueArm :=
  if type = COMMAND_OPTION_STRING then some .string_
  else if type = COMMAND_OPTION_INTEGER then some .int_
  else if type = COMMAND_OPTION_NUMBER then some .double_
  else none

/-- The arm that `_d_copy_interaction_data_option` reads of an option. -/
def copy_arm (o : InteractionDataOption) : Option ValueArm :=
  if o.value_type = VALUE_STRING then some .string_ else none

/-- The arm that `discord_destroy_interaction_data_option` reads. -/
def destroy_arm (o : InteractionDataOption) : Option ValueArm :=
  if o.type = COMMAND_OPTION_STRING then some .string_ else none

/-- The copier takes the value over unless it reads an arm. -/
theorem copy_option_value_arm (o : InteractionDataOption) :
    copy_option_value o =
      match copy_arm o with
      | some _ => do
        let s ← o.value.read_string
        let copy ← copy_string s 120
        pure (if copy.isSome then .string_ copy else o.value)
      | none => pure o.value := by
  unfold copy_option_value copy_arm
  by_cases h : o.value_type = VALUE_STRING
  · rw [if_pos h, if_pos h]
  · rw [if_neg h, if_neg h]

/-- The destroyer does nothing with the value unless it reads an arm. -/
theorem free_option_value_arm (o : InteractionDataOption) :
    free_option_value o =
      match destroy_arm o with
      | some _ => do
        let s ← o.value.read_string
        free_string s
      | none => pure () := by
  unfold free_option_value destroy_arm
  by_cases h : o.type = COMMAND_OPTION_STRING
  · rw [if_pos h, if_pos h]
  · rw [if_neg h, if_neg h]

/-- The value may be read through an arm: it was written through it or, where
    `zero_ok`, it is as `calloc` left it. -/
def OptionValue.Readable (zero_ok : Bool) (value : OptionValue) (arm : ValueArm) : Prop :=
  value.stored = some arm ∨ zero_ok = true ∧ value.stored = none

/-! ### Trees -/

/-- An option is another one or below it. -/
inductive OptionBelow : InteractionDataOption → InteractionDataOption → Prop where
  | refl (o : InteractionDataOption) : OptionBelow o o
  | item {d c o : InteractionDataOption} (hc : c ∈ o.options.items) (hd : OptionBelow d c) :
    OptionBelow d o

/-- The document of an option is that of another one or below it. -/
inductive OptionDataBelow : CJson → CJson → Prop where
  | refl (data : CJson) : OptionDataBelow data data
  | item {d c data : CJson} (hc : c ∈ items data "options") (hd : OptionDataBelow d c) :
    OptionDataBelow d data

theorem forall_option_below_iff {p : InteractionDataOption → Prop} {o : InteractionDataOption} :
    (∀ d, OptionBelow d o → p d) ↔ p o ∧ ∀ c ∈ o.options.items, ∀ d, OptionBelow d c → p d := by
  constructor
  · intro h
    exact ⟨h o (.refl o), fun c hc d hd => h d (.item hc hd)⟩
  · intro h d hd
    cases hd with
    | refl => exact h.1
    | item hc hd => exact h.2 _ hc d hd

theorem forall_option_data_below_iff {p : CJson → Prop} {data : CJson} :
    (∀ d, OptionDataBelow d data → p d) ↔
      p data ∧ ∀ c ∈ items data "options", ∀ d, OptionDataBelow d c → p d := by
  constructor
  · intro h
    exact ⟨h data (.refl data), fun c hc d hd => h d (.item hc hd)⟩
  · intro h d hd
    cases hd with
    | refl => exact h.1
    | item hc hd => exact h.2 _ hc d hd

/-! ### What should hold of a decoded tree -/

/-- The `type` of the option of a document. -/
def data_option_type (data : CJson) : Int := _d_get_int_from_json data "type" 0

/-- The names have at most 49 bytes, and the string values at most 119. -/
def OptionTextsShort (data : CJson) : Prop :=
  ∀ c, OptionDataBelow c data → text_fits c "name" 49 ∧
    (data_option_type c = COMMAND_OPTION_STRING → text_fits c "value" 119)

/-- A decoded tree is sound: each value is read through the arm it was
    written through, and short texts are copied with all that is around
    them. -/
structure OptionTreeSound (zero_ok : Bool) (data : CJson) (o : InteractionDataOption) : Prop where
  reads : ∀ d, OptionBelow d o → ∀ arm, copy_arm d = some arm ∨ destroy_arm d = some arm →
    d.value.Readable zero_ok arm
  copied : OptionTextsShort data →
    (_d_copy_interaction_data_option o).Yields fun copy => copy.plain = o.plain

/-- The types whose value is read as it was written. -/
def ArmAgrees (zero_ok : Bool) (type : Int) : Prop :=
  type = COMMAND_OPTION_STRING ∨
    zero_ok = true ∧ type ≠ COMMAND_OPTION_INTEGER ∧ type ≠ COMMAND_OPTION_NUMBER

/-! ### Reads -/

/-- What two lists say of their items is the same when it is item by item. -/
theorem forall_mem_iff_of_forall₂ {α β : Type} {p : α → Prop} {q : β → Prop} {as : List α}
    {bs : List β} (h : List.Forall₂ (fun a b => q b ↔ p a) as bs) :
    (∀ b ∈ bs, q b) ↔ ∀ a ∈ as, p a := by
  induction h with
  | nil => exact iff_of_true (List.forall_mem_nil q) (List.forall_mem_nil p)
  | cons hab _ ih => rw [List.forall_mem_cons, List.forall_mem_cons, hab, ih]

theorem option_value_stores (data : CJson) (type : Int) :
    (option_value data type).Ensures fun value => value.stored = stored_arm type := by
  unfold option_value stored_arm
  by_cases hstring : type = COMMAND_OPTION_STRING
  · rw [if_pos hstring, if_pos hstring]
    exact Ensures.skip fun s => Ensures.pure rfl
  rw [if_neg hstring, if_neg hstring]
  by_cases hinteger : type = COMMAND_OPTION_INTEGER
  · rw [if_pos hinteger, if_pos hinteger]
    exact Ensures.pure rfl
  rw [if_neg hinteger, if_neg hinteger]
  by_cases hnumber : type = COMMAND_OPTION_NUMBER
  · rw [if_pos hnumber, if_pos hnumber]
    exact Ensures.pure rfl
  · rw [if_neg hnumber, if_neg hnumber]
    exact Ensures.pure rfl

/-- A value is a string to its readers exactly when its type agrees. -/
theorem readable_string_iff {zero_ok : Bool} {type : Int} {value : OptionValue}
    (h : value.stored = stored_arm type) :
    value.Readable zero_ok .string_ ↔ ArmAgrees zero_ok type := by
  unfold OptionValue.Readable ArmAgrees
  rw [h]
  unfold stored_arm
  by_cases hstring : type = COMMAND_OPTION_STRING
  · simp [hstring]
  by_cases hinteger : type = COMMAND_OPTION_INTEGER
  · simp [hinteger, COMMAND_OPTION_STRING, COMMAND_OPTION_INTEGER]
  by_cases hnumber : type = COMMAND_OPTION_NUMBER
  · simp [hnumber, COMMAND_OPTION_STRING, COMMAND_OPTION_INTEGER, COMMAND_OPTION_NUMBER]
  · simp [hstring, hinteger, hnumber]

/-- The readers of an option that was decoded agree on a string. -/
theorem option_reads_iff {zero_ok : Bool} {o : InteractionDataOption}
    (htype : o.value_type = VALUE_STRING) (hvalue : o.value.stored = stored_arm o.type) :
    (∀ arm, copy_arm o = some arm ∨ destroy_arm o = some arm → o.value.Readable zero_ok arm) ↔
      ArmAgrees zero_ok o.type := by
  rw [← readable_string_iff hvalue]
  have hcopy : copy_arm o = some .string_ := if_pos htype
  constructor
  · intro h
    exact h .string_ (.inl hcopy)
  · intro h arm harm
    rcases harm with harm | harm
    · rw [hcopy] at harm
      rwa [← Option.some.inj harm]
    · -- the destroyer reads a string or nothing
      unfold destroy_arm at harm
      split at harm
      · rwa [← Option.some.inj harm]
      · cases harm

/-- The reads of a decoded tree. -/
def TreeReads (zero_ok : Bool) (data : CJson) (o : InteractionDataOption) : Prop :=
  (∀ d, OptionBelow d o → ∀ arm, copy_arm d = some arm ∨ destroy_arm d = some arm →
      d.value.Readable zero_ok arm) ↔
    ∀ c, OptionDataBelow c data → ArmAgrees zero_ok (data_option_type c)

theorem option_tree_reads (zero_ok : Bool) (data : CJson) :
    (_d_json_to_interaction_data_option data).Ensures (TreeReads zero_ok data) := by
  -- the options of an option are smaller documents
  have ih : ∀ c ∈ cJSON_ArrayItems (cJSON_GetObjectItem data "options"),
      (_d_json_to_interaction_data_option c).Ensures (TreeReads zero_ok c) := by
    intro c hc
    have : sizeOf c < sizeOf data := sizeOf_array_item hc
    exact option_tree_reads zero_ok c
  rw [_d_json_to_interaction_data_option]
  refine Ensures.skip fun address => Ensures.skip fun name => ?_
  refine (option_value_stores data _).bind fun value hvalue => ?_
  refine (array_ensures ih).bind fun options hoptions => Ensures.pure ?_
  unfold TreeReads
  rw [forall_option_below_iff, forall_option_data_below_iff, option_reads_iff rfl hvalue]
  refine and_congr Iff.rfl ?_
  exact forall_mem_iff_of_forall₂ hoptions
termination_by sizeOf data

/-! ### Copies -/

/-- The documents of all options of a tree fit on their own. -/
theorem option_fits_iff_below (data : CJson) :
    option_fits data ↔
      ∀ c, OptionDataBelow c data → text_fits c "name" 50 ∧ value_fits c (data_option_type c) := by
  have ih : ∀ c ∈ items data "options", option_fits c ↔
      ∀ d, OptionDataBelow d c → text_fits d "name" 50 ∧ value_fits d (data_option_type d) := by
    intro c hc
    have : sizeOf c < sizeOf data := sizeOf_array_item hc
    exact option_fits_iff_below c
  rw [option_fits_iff, forall_option_data_below_iff, ← and_assoc]
  exact and_congr Iff.rfl (forall₂_congr ih)
termination_by sizeOf data

/-- A tree with short texts is copied when the arms agree. -/
theorem option_fits_of_short {zero_ok : Bool} {data : CJson}
    (harms : ∀ c, OptionDataBelow c data → ArmAgrees zero_ok (data_option_type c))
    (hshort : OptionTextsShort data) : option_fits data := by
  rw [option_fits_iff_below]
  intro c hc
  obtain ⟨hname, hvalue⟩ := hshort c hc
  have hnumber : value_copied c (data_option_type c) := by
    -- no option of the tree is a number
    rcases harms c hc with hstring | ⟨-, hinteger, hdouble⟩
    · rw [hstring]
      exact ⟨fun h => absurd h (by decide), fun h => absurd h (by decide)⟩
    · exact ⟨fun h => absurd h hinteger, fun h => absurd h hdouble⟩
  refine ⟨fun s hs => (hname s hs).trans (by decide), fun htype s hs => ?_, hnumber⟩
  exact (hvalue htype s hs).trans (by decide)

/-- **Options are handled through the arms they were written through**
    exactly when every option of the tree is a string or, if zeros may be
    read through any arm, none is a number. -/
theorem option_tree_sound_iff (zero_ok : Bool) (data : CJson) :
    (_d_json_to_interaction_data_option data).Yields (OptionTreeSound zero_ok data) ↔
      ∀ c, OptionDataBelow c data → ArmAgrees zero_ok (data_option_type c) := by
  have hreturns : (_d_json_to_interaction_data_option data).Returns True :=
    .of_spec (option_owns data)
  have hreads := Yields.of_ensures hreturns (option_tree_reads zero_ok data)
  have hkept := Yields.of_ensures hreturns (option_ensures data)
  constructor
  · intro h
    -- the reads of one sound tree speak for the document
    obtain ⟨o, log, -, hsound, htree⟩ := ((h.and hreads) 0).1 trivial
    exact htree.mp hsound.reads
  · intro harms
    refine (hreads.and hkept).mono fun o ho => ?_
    obtain ⟨htree, hcopy⟩ := ho
    exact {
      reads := htree.mpr harms
      copied := fun hshort => hcopy.yields_iff.mpr (option_fits_of_short harms hshort) }

/-- An option of type INTEGER, with the value 5. -/
def integer_option : CJson := .object [("type", .number 4), ("value", .number 5)]

/-- An integer other than 0 is no string to copy. -/
theorem copy_integer_undefined {o : InteractionDataOption} {i : Int}
    (htype : o.value_type = VALUE_STRING) (hvalue : o.value = .int_ i) (hi : i ≠ 0) (n : Nat) :
    (_d_copy_interaction_data_option o).run n = none := by
  have hcopy : ∀ m, (copy_option_value o).run m = none := by
    intro m
    rw [copy_option_value, if_pos htype, hvalue, OptionValue.read_string, if_neg hi]
    rfl
  rw [_d_copy_interaction_data_option]
  simp only [run_bind, hcopy, Option.bind_none, Option.map_none, Option.bind_fun_none]

theorem integer_option_decoded :
    (_d_json_to_interaction_data_option integer_option).Yields fun o =>
      o.value_type = VALUE_STRING ∧ o.value = .int_ 5 := by
  have htype : _d_get_int_from_json integer_option "type" 0 = 4 := by decide +kernel
  have hvalue : _d_get_int_from_json integer_option "value" 0 = 5 := by decide +kernel
  have hoption :
      (option_value integer_option (_d_get_int_from_json integer_option "type" 0)).Ensures
        fun value => value = .int_ 5 := by
    rw [htype, option_value, if_neg (by decide), if_pos (by decide), hvalue]
    exact Ensures.pure rfl
  refine Yields.of_ensures (.of_spec (option_owns integer_option)) ?_
  rw [_d_json_to_interaction_data_option]
  refine Ensures.skip fun address => Ensures.skip fun name => ?_
  exact hoption.bind fun value hvalue => Ensures.skip fun options => Ensures.pure ⟨rfl, hvalue⟩

/-- It is not handled through the arm it was written through, and cannot be
    copied. -/
theorem integer_option_unsound :
    ¬ (_d_json_to_interaction_data_option integer_option).Yields
      (OptionTreeSound true integer_option) ∧
    (_d_json_to_interaction_data_option integer_option).Yields fun o =>
      o.value.stored = some .int_ ∧ copy_arm o = some .string_ ∧
        ∀ n, (_d_copy_interaction_data_option o).run n = none := by
  have hdecoded := integer_option_decoded
  constructor
  · intro h
    obtain ⟨o, log, -, hsound, htype, hvalue⟩ := ((h.and hdecoded) 0).1 trivial
    have hread := hsound.reads o (.refl o) .string_ (.inl (if_pos htype))
    rw [hvalue] at hread
    rcases hread with hread | ⟨-, hread⟩
    · cases hread
    · cases hread
  · refine hdecoded.mono fun o ho => ?_
    obtain ⟨htype, hvalue⟩ := ho
    refine ⟨?_, if_pos htype, copy_integer_undefined htype hvalue (by decide)⟩
    rw [hvalue]
    rfl

end DiscoC
