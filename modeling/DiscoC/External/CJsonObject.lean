import Mathlib.Data.Rat.Lemmas
import DiscoC.External.CJson

/-! # Building JSON documents

  The documents the library sends are objects that it fills member by
  member. An item that could not be created is null, and adding it adds
  nothing. What is read under a key is what was added under it, as long as
  no two keys differ in the case of letters only.
-/

namespace DiscoC

/-- `cJSON_CreateObject` and one `cJSON_AddItemToObject` for each member. -/
def cJSON_object (members : List (String × Option CJson)) : CJson :=
  .object (members.filterMap fun m => m.2.map (m.1, ·))

/-- `cJSON_CreateNumber` of an `int`. -/
def cJSON_CreateNumber (num : Int) : CJson := .number (.of num)

/-- A key as `cJSON_GetObjectItem` compares it. -/
def CJson.fold_key (key : String) : List Char := key.toList.map Char.toLower

/-- No two keys differ in the case of letters only. -/
def DistinctKeys (members : List (String × Option CJson)) : Prop :=
  (members.map fun m => CJson.fold_key m.1).Nodup

theorem DistinctKeys.of_keys {members : List (String × Option CJson)} (keys : List String)
    (hkeys : (keys.map CJson.fold_key).Nodup) (h : members.map Prod.fst = keys) :
    DistinctKeys members := by
  rw [← h, List.map_map] at hkeys
  exact hkeys

theorem CJson.same_key_iff {a b : String} :
    CJson.same_key a b = true ↔ CJson.fold_key a = CJson.fold_key b :=
  beq_iff_eq

theorem CJson.same_key_eq_false {a b : String} (h : CJson.fold_key a ≠ CJson.fold_key b) :
    CJson.same_key a b = false :=
  Bool.eq_false_iff.mpr fun hsame => h (CJson.same_key_iff.mp hsame)

/-- A member that is passed by. -/
theorem getObjectItem_object_cons {name key : String} {value : Option CJson}
    {members : List (String × Option CJson)}
    (h : value = none ∨ CJson.fold_key name ≠ CJson.fold_key key) :
    cJSON_GetObjectItem (some (cJSON_object ((key, value) :: members))) name =
      cJSON_GetObjectItem (some (cJSON_object members)) name := by
  cases value with
  | none => rfl
  | some c =>
    have hkey : CJson.same_key name key = false := CJson.same_key_eq_false (h.resolve_left nofun)
    simp [cJSON_GetObjectItem, cJSON_object, CJson.member, hkey]

/-- Nothing is found under a key that no member has. -/
theorem getObjectItem_object_none {members : List (String × Option CJson)} {name : String}
    (h : ∀ m ∈ members, CJson.fold_key name ≠ CJson.fold_key m.1) :
    cJSON_GetObjectItem (some (cJSON_object members)) name = none := by
  induction members with
  | nil => rfl
  | cons m members ih =>
    obtain ⟨hm, htail⟩ := List.forall_mem_cons.mp h
    rw [getObjectItem_object_cons (.inr hm)]
    exact ih htail

/-- **Reading back**: under each key is the item that was added under it. -/
theorem getObjectItem_object {members : List (String × Option CJson)}
    (hkeys : DistinctKeys members) {name : String} {item : Option CJson}
    (hm : (name, item) ∈ members) :
    cJSON_GetObjectItem (some (cJSON_object members)) name = item := by
  induction members with
  | nil => cases hm
  | cons m members ih =>
    obtain ⟨key, value⟩ := m
    obtain ⟨hkey, htail⟩ := List.nodup_cons.mp hkeys
    rcases List.mem_cons.mp hm with heq | hm
    · obtain ⟨rfl, rfl⟩ := Prod.mk.inj heq
      cases item with
      | none =>
        rw [getObjectItem_object_cons (.inl rfl)]
        -- a member without a value is not added, and no other one has its key
        exact getObjectItem_object_none fun m hm heq => hkey (List.mem_map.mpr ⟨m, hm, heq.symm⟩)
      | some c =>
        have hself : CJson.same_key name name = true := CJson.same_key_iff.mpr rfl
        simp [cJSON_GetObjectItem, cJSON_object, CJson.member, hself]
    · rw [getObjectItem_object_cons]
      · exact ih htail hm
      · exact .inr fun heq => hkey (List.mem_map.mpr ⟨(name, item), hm, heq⟩)

/-- Reading back from an object that is known to be filled so. -/
theorem getObjectItem_of_eq {members : List (String × Option CJson)} {object : CJson}
    (h : cJSON_object members = object) (hkeys : DistinctKeys members) {name : String}
    {item : Option CJson} (hm : (name, item) ∈ members) :
    cJSON_GetObjectItem (some object) name = item := by
  rw [← h]
  exact getObjectItem_object hkeys hm

/-- An `int` is read as it was written. -/
theorem int_of_intCast {i : Int} (hlow : -2147483648 ≤ i) (hhigh : i ≤ 2147483647) :
    CJson.int_of (i : Rat) = i := by
  rw [CJson.int_of, whole_part, Rat.num_intCast, Rat.den_intCast, Nat.cast_one, Int.tdiv_one]
  omega

end DiscoC
