import Mathlib.Data.Rat.Defs

/-! # JSON documents

  The documents the client receives, and the accessors of the cJSON library
  on them as their documentation describes them. The null pointer is
  `none`: an accessor of a missing item finds nothing.

  A string is the sequence of its bytes, one character for each.
-/

namespace DiscoC

/-! ### Doubles -/

/-- The whole part of a number. -/
def whole_part (q : Rat) : Int := q.num.tdiv q.den

/-- A double that a document can hold, with its value; an infinite one has a
    value that is too large for a finite one. Zero has a sign, and
    `(uint64_t)` of a double is any number where C does not say what it is. -/
structure Double where
  value : Rat
  negative_zero : Bool
  uint64_t : UInt64
  value_of_negative_zero : negative_zero = true → value = 0
  uint64_t_eq : 0 ≤ whole_part value → whole_part value < UInt64.size →
    (uint64_t.toNat : Int) = whole_part value

namespace Double

/-- A double by its value, other than `-0.0`. -/
def of (value : Rat) : Double where
  value
  negative_zero := false
  uint64_t := UInt64.ofNat (whole_part value).toNat
  value_of_negative_zero := by simp
  uint64_t_eq := by
    intro hlo hhi
    have hsize : UInt64.size = 18446744073709551616 := rfl
    rw [UInt64.toNat_ofNat']
    omega

instance : Coe Rat Double := ⟨Double.of⟩

instance {n : Nat} : OfNat Double n := ⟨Double.of n⟩

/-- No bit of the double is set, so that it is a null pointer to who reads it
    as a pointer. -/
def is_null (d : Double) : Bool :=
  d.value == 0 && !d.negative_zero

/-- `-0.0`. -/
def minus_zero : Double where
  value := 0
  negative_zero := true
  uint64_t := 0
  value_of_negative_zero := by simp
  uint64_t_eq := by
    intro _ _
    rfl

example : minus_zero.is_null = false := rfl

end Double

/-! ### Documents -/

/-- A parsed document. -/
inductive CJson where
  | null
  | bool (b : Bool)
  | number (valuedouble : Double)
  | string (valuestring : String)
  | array (items : List CJson)
  | object (members : List (String × CJson))

namespace CJson

/-- The items below an item, in order. -/
def children : CJson → List CJson
  | .array items => items
  | .object members => members.map Prod.snd
  | _ => []

/-- `(int)` of a number, which is saturated. -/
def int_of (d : Rat) : Int :=
  max (-2147483648) (min 2147483647 (whole_part d))

/-- The field `valueint`. -/
def valueint : CJson → Int
  | .number d => int_of d.value
  | .bool true => 1
  | _ => 0

/-- The field `valuedouble` of a number. -/
def valuedouble : CJson → Option Double
  | .number d => some d
  | _ => none

/-- The field `valuestring`, which is null but for strings. -/
def valuestring : CJson → Option String
  | .string s => some s
  | _ => none

/-- Keys that differ in the case of letters only. -/
def same_key (a b : String) : Bool :=
  a.toList.map Char.toLower == b.toList.map Char.toLower

/-- The first member whose key meets `p`. -/
def member (p : String → Bool) : CJson → Option CJson
  | .object members => (members.find? fun m => p m.1).map Prod.snd
  | _ => none

end CJson

/-- `cJSON_GetObjectItem`. -/
def cJSON_GetObjectItem (object : Option CJson) (name : String) : Option CJson :=
  object.bind (CJson.member fun key => CJson.same_key name key)

/-- `cJSON_GetObjectItemCaseSensitive`. -/
def cJSON_GetObjectItemCaseSensitive (object : Option CJson) (name : String) : Option CJson :=
  object.bind (CJson.member fun key => name == key)

/-- `cJSON_GetArraySize`. -/
def cJSON_GetArraySize (array : Option CJson) : Nat :=
  (array.map fun item => item.children.length).getD 0

/-- The items `cJSON_ArrayForEach` goes through. -/
def cJSON_ArrayItems (array : Option CJson) : List CJson :=
  (array.map CJson.children).getD []

/-- There are no items in an array of size 0. -/
theorem cJSON_ArrayItems_of_size {tmp : Option CJson} (h : cJSON_GetArraySize tmp = 0) :
    cJSON_ArrayItems tmp = [] := by
  cases tmp with
  | none => rfl
  | some item => exact List.length_eq_zero_iff.mp h

/-- `cJSON_IsNumber`, with the value of the number. -/
def cJSON_IsNumber (item : Option CJson) : Option Rat :=
  (item.bind CJson.valuedouble).map Double.value

/-- `cJSON_IsString`, with the string. -/
def cJSON_IsString : Option CJson → Option String
  | some (.string s) => some s
  | _ => none

/-- `cJSON_IsNull`. -/
def cJSON_IsNull : Option CJson → Bool
  | some .null => true
  | _ => false

/-- `cJSON_IsBool`, with the value. -/
def cJSON_IsBool : Option CJson → Option Bool
  | some (.bool b) => some b
  | _ => none

/-- `cJSON_IsObject`. -/
def cJSON_IsObject : Option CJson → Bool
  | some (.object _) => true
  | _ => false

/-- `cJSON_IsArray`. -/
def cJSON_IsArray : Option CJson → Bool
  | some (.array _) => true
  | _ => false

/-! ### Sizes -/

theorem CJson.sizeOf_children {c data : CJson} (h : c ∈ data.children) :
    sizeOf c < sizeOf data := by
  cases data with
  | array items =>
    have hsize : sizeOf c < sizeOf items := List.sizeOf_lt_of_mem h
    rw [CJson.array.sizeOf_spec]
    omega
  | object members =>
    obtain ⟨⟨key, c'⟩, hmem, rfl⟩ := List.mem_map.mp h
    have hsize := List.sizeOf_lt_of_mem hmem
    rw [Prod.mk.sizeOf_spec] at hsize
    show sizeOf c' < _
    rw [CJson.object.sizeOf_spec]
    omega
  | _ => cases h

theorem CJson.member_mem {p : String → Bool} {data c : CJson} (h : data.member p = some c) :
    c ∈ data.children := by
  cases data with
  | object members =>
    obtain ⟨m, hm, rfl⟩ := Option.map_eq_some_iff.mp h
    exact List.mem_map.mpr ⟨m, List.mem_of_find?_eq_some hm, rfl⟩
  | _ => cases h

/-- A field of an object is smaller than the object. -/
theorem sizeOf_item {data c : CJson} {name : String}
    (h : cJSON_GetObjectItem (some data) name = some c) : sizeOf c < sizeOf data :=
  CJson.sizeOf_children (CJson.member_mem h)

/-- An item below a field of an object is smaller than the object. -/
theorem sizeOf_array_item {data c : CJson} {name : String}
    (h : c ∈ cJSON_ArrayItems (cJSON_GetObjectItem (some data) name)) :
    sizeOf c < sizeOf data := by
  cases hitem : cJSON_GetObjectItem (some data) name with
  | none =>
    rw [hitem] at h
    cases h
  | some array =>
    rw [hitem] at h
    exact (CJson.sizeOf_children h).trans (sizeOf_item hitem)

end DiscoC
