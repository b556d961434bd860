import DiscoC.External.CJson
import DiscoC.External.CString
import DiscoC.Framework.Ownership

/-! # Fields of JSON documents

  Model of the helpers of `discord/disco.c` that the decoders share, and of
  what every decoder, copier and destroyer does with strings and arrays.

  A routine is a `Mem` program: it allocates, goes through structures and
  frees. A structure holds its own address, so that its type says what its
  block was allocated as. The null pointer is `none`.
-/

namespace DiscoC

/-! ### Data -/

/-- What a block is allocated as. -/
inductive StructType where
  /-- the bytes of a string -/
  | chars
  /-- an array, of pointers or of numbers -/
  | array
  | user
  | member
  | attachment
  | channel_mention
  | channel
  | message_reference
  | application
  | select_option
  | component
  /-- the structures `comp` of a component points to -/
  | action_row
  | button
  | select_menu
  | text_input
  | interaction_data_option
  | interaction_data
  | interaction
  | message
  | embed_footer
  | embed_media
  | embed_provider
  | embed_author
  | embed_field
  | embed
  deriving DecidableEq, Repr

/-- The types that have a `discord_destroy_*` and a `_d_copy_*` of their own.
    The structures below a component are handled by those of the component. -/
def StructType.has_routine : StructType → Bool
  | .chars | .array | .action_row | .button | .select_menu | .text_input => false
  | _ => true

/-- A routine of the library. -/
abbrev CMem := Mem StructType

/-- A string and the block it is in. -/
structure CStr where
  address : Nat
  bytes : String

/-- An array with its count. The array is null when the count is 0. -/
inductive CArray (α : Type) where
  | null
  | block (address : Nat) (items : List α)

variable {α β : Type}

def CArray.items : CArray α → List α
  | .null => []
  | .block _ items => items

def CArray.count (array : CArray α) : Nat := array.items.length

theorem CArray.sizeOf_item [SizeOf α] {array : CArray α} {a : α} (h : a ∈ array.items) :
    sizeOf a < sizeOf array := by
  cases array with
  | null => cases h
  | block address items =>
    have hsize : sizeOf a < sizeOf items := List.sizeOf_lt_of_mem h
    rw [CArray.block.sizeOf_spec]
    omega

/-- The block of the array itself. -/
def CArray.blocks : CArray α → List (Block StructType)
  | .null => []
  | .block address _ => [⟨.array, address⟩]

/-- The block of a string, if there is one. -/
def string_blocks : Option CStr → List (Block StructType)
  | none => []
  | some s => [⟨.chars, s.address⟩]

/-! ### Fields -/

/-- `strndup`, with the block it allocates. -/
def new_string (s : String) (n : Nat) : CMem CStr := do
  let address ← Mem.alloc .chars
  pure { address, bytes := strndup s n }

/-- `_d_get_string_from_json`: 4096 bytes and the null. -/
def _d_get_string_from_json (data : CJson) (name : String) : CMem (Option CStr) :=
  Mem.unless_null (cJSON_IsString (cJSON_GetObjectItem data name)) fun s _ => new_string s 4097

/-- `_d_get_bool_from_json`. -/
def _d_get_bool_from_json (data : CJson) (name : String) (default_ : Bool) : Bool :=
  (cJSON_IsBool (cJSON_GetObjectItem data name)).getD default_

/-- `_d_get_int_from_json`. -/
def _d_get_int_from_json (data : CJson) (name : String) (default_ : Int) : Int :=
  ((cJSON_IsNumber (cJSON_GetObjectItem data name)).map CJson.int_of).getD default_

/-- `_d_get_long_from_string_json`. -/
def _d_get_long_from_string_json (data : CJson) (name : String) (default_ : UInt64) : UInt64 :=
  let tmp := cJSON_GetObjectItem data name
  match tmp.bind CJson.valuedouble with
  | some d => d.uint64_t
  | none =>
    match cJSON_IsString tmp with
    | some s => strtoull s
    | none => default_

/-- `_d_get_double_from_string_json`. -/
def _d_get_double_from_string_json (data : CJson) (name : String) (default_ : Double) :
    Double :=
  ((cJSON_GetObjectItem data name).bind CJson.valuedouble).getD default_

/-- The array for the items of `tmp`, each stored as `func` decodes it. -/
def array_from_items (tmp : Option CJson)
    (func : (cur : CJson) → cur ∈ cJSON_ArrayItems tmp → CMem α) : CMem (CArray α) :=
  if cJSON_GetArraySize tmp = 0 then
    pure .null
  else do
    let address ← Mem.alloc .array
    let items ← Mem.each (cJSON_ArrayItems tmp) func
    pure (.block address items)

/-- `_d_get_array_from_json`. -/
def _d_get_array_from_json (data : CJson) (name : String)
    (func : (cur : CJson) → cur ∈ cJSON_ArrayItems (cJSON_GetObjectItem data name) → CMem α) :
    CMem (CArray α) :=
  array_from_items (cJSON_GetObjectItem data name) func

/-- `strtoull(cur->valuestring, NULL, 10)`, where the string may be null. -/
def read_id (cur : CJson) : CMem UInt64 :=
  match cur.valuestring with
  | some s => pure (strtoull s)
  | none => Mem.undefined

/-! ### Copying and freeing -/

/-- `if (src->s) c->s = strndup(src->s, n)`. -/
def copy_string (s : Option CStr) (n : Nat) : CMem (Option CStr) :=
  Mem.unless_null s fun s _ => new_string s.bytes n

/-- `if (s) free(s)`. -/
def free_string : Option CStr → CMem Unit
  | none => pure ()
  | some s => Mem.free ⟨.chars, s.address⟩

/-- A new array with a copy of each item. -/
def copy_array : (array : CArray α) → ((a : α) → a ∈ array.items → CMem β) → CMem (CArray β)
  | .null, _ => pure .null
  | .block _ items, copy => do
    let address ← Mem.alloc .array
    let copies ← Mem.each items copy
    pure (.block address copies)

/-- `if (array) free(array)`. -/
def free_array : CArray α → CMem Unit
  | .null => pure ()
  | .block address _ => Mem.free ⟨.array, address⟩

/-- Each item is destroyed, and then the array freed. -/
def destroy_array (array : CArray α) (destroy : (a : α) → a ∈ array.items → CMem Unit) :
    CMem Unit := do
  let _ ← Mem.each array.items destroy
  free_array array

/-- `if (p) destroy(p)`. -/
def destroy_pointer (p : Option α) (destroy : (a : α) → p = some a → CMem Unit) : CMem Unit := do
  let _ ← Mem.unless_null p destroy
  pure ()

/-! ### Structures that are not implemented

  Their decoders and copiers return the null pointer, and their destroyers do
  nothing. A pointer to one is kept as a block.
-/

/-- A pointer to a structure that is not implemented. -/
abbrev Unimplemented := Option (Block StructType)

def json_to_unimplemented (_ : CJson) : CMem Unimplemented := pure none

/-- `if (tmp) field = decode(tmp)`. -/
def unimplemented_field (tmp : Option CJson) (decode : CJson → CMem Unimplemented) :
    CMem Unimplemented :=
  match tmp with
  | some tmp => decode tmp
  | none => pure none

def copy_unimplemented (_ : Unimplemented) : CMem Unimplemented := pure none

def destroy_unimplemented (_ : Unimplemented) : CMem Unit := pure ()

def _d_json_to_emoji := json_to_unimplemented
def _d_copy_emoji := copy_unimplemented
def discord_destroy_emoji := destroy_unimplemented

def _d_json_to_reaction := json_to_unimplemented
def _d_copy_reaction := copy_unimplemented
def discord_destroy_reaction := destroy_unimplemented

def _d_json_to_sticker := json_to_unimplemented
def _d_copy_sticker := copy_unimplemented
def discord_destroy_sticker := destroy_unimplemented

def _d_json_to_sticker_item := json_to_unimplemented
def _d_copy_sticker_item := copy_unimplemented
def discord_destroy_message_sticker_item := destroy_unimplemented

def _d_json_to_message_activity := json_to_unimplemented
def _d_copy_message_activity := copy_unimplemented
def discord_destroy_message_activity := destroy_unimplemented

def _d_json_to_overwrite := json_to_unimplemented
def _d_copy_overwrite := copy_unimplemented
def discord_destroy_overwrite := destroy_unimplemented

def _d_json_to_thread_metadata := json_to_unimplemented
def _d_copy_thread_metadata := copy_unimplemented

def _d_json_to_thread_member := json_to_unimplemented
def _d_copy_thread_member := copy_unimplemented

end DiscoC
