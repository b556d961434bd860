import DiscoC.Framework.Slots
import DiscoC.Discord.RecordCopying

/-! # Arrays of decoded items

  How `_d_get_array_from_json`, and the two loops of `_d_json_to_message`
  that do the same by hand, fill an array: the number of slots is the size
  that cJSON gives, and each item that cJSON goes through is stored at the
  next index. The slots are exactly enough and are all written, so that the
  array is the list of the decoded items (`array_by_index_eq`).
-/

namespace DiscoC

open Mem

variable {α : Type}

/-! ### Index by index -/

/-- `array[i++] = func(cur)`, for each item. -/
def store_items (func : CJson → CMem α) : List CJson → Slots α × Nat → CMem (Slots α × Nat)
  | [], block => pure block
  | cur :: items, (slots, i) => do
    let a ← func cur
    match slots.store i a with
    | some slots => store_items func items (slots, i + 1)
    | none => Mem.undefined

/-- The array for the items of `tmp`, with the slots that are later gone
    through: as many as its size. -/
def array_by_index (tmp : Option CJson) (func : CJson → CMem α) : CMem (CArray α) :=
  if cJSON_GetArraySize tmp = 0 then
    pure .null
  else do
    let address ← Mem.alloc .array
    let block ← store_items func (cJSON_ArrayItems tmp)
      (Slots.malloc (cJSON_GetArraySize tmp), 0)
    match block.1.load (cJSON_GetArraySize tmp) with
    | some items => pure (.block address items)
    | none => Mem.undefined

theorem cJSON_GetArraySize_eq (tmp : Option CJson) :
    cJSON_GetArraySize tmp = (cJSON_ArrayItems tmp).length := by
  cases tmp <;> rfl

/-- The items go behind those that are there, if there is room. -/
theorem store_items_written (func : CJson → CMem α) {items : List CJson} {as : List α} {k : Nat}
    (h : items.length ≤ k) :
    store_items func items (Slots.written as k, as.length) =
      Mem.each items (fun cur _ => func cur) >>= fun bs =>
        pure (Slots.written (as ++ bs) (k - items.length), (as ++ bs).length) := by
  induction items generalizing as k with
  | nil =>
    rw [store_items, Mem.each, Mem.pure_bind, List.append_nil]
    rfl
  | cons cur items ih =>
    rw [List.length_cons] at h
    obtain ⟨k, rfl⟩ : ∃ k', k = k' + 1 := ⟨k - 1, by omega⟩
    rw [store_items, Mem.each, Mem.bind_assoc]
    congr 1
    funext a
    -- one slot is written, and the cursor is behind it again
    have hcursor : as.length + 1 = (as ++ [a]).length := by simp
    have hroom : k + 1 - (items.length + 1) = k - items.length := by omega
    rw [Slots.store_written]
    show store_items func items (Slots.written (as ++ [a]) k, as.length + 1) = _
    rw [hcursor, ih (by omega), Mem.bind_assoc]
    congr 1
    funext bs
    rw [Mem.pure_bind, List.length_cons, hroom, List.append_assoc]
    rfl

/-- **An array is filled exactly**: no index is outside it, and no slot of it
    is left unwritten. -/
theorem array_by_index_eq (tmp : Option CJson) (func : CJson → CMem α) :
    array_by_index tmp func = array_from_items tmp fun cur _ => func cur := by
  unfold array_by_index array_from_items
  rw [cJSON_GetArraySize_eq]
  by_cases hsize : (cJSON_ArrayItems tmp).length = 0
  · rw [if_pos hsize, if_pos hsize]
  rw [if_neg hsize, if_neg hsize]
  congr 1
  funext address
  rw [← Slots.written_nil]
  show (store_items func _ (Slots.written [] _, ([] : List α).length) >>= _) = _
  rw [store_items_written func (Nat.le_refl _), Mem.bind_assoc]
  ext n : 2
  rw [run_bind, run_bind]
  cases hrun : (Mem.each (cJSON_ArrayItems tmp) fun cur _ => func cur).run n with
  | none => rfl
  | some r =>
    obtain ⟨as, log⟩ := r
    -- as many have been stored as there are slots
    have hpairs :=
      Ensures.each (R := fun _ _ => True) (fun c _ => Ensures.any (func c)) n as log hrun
    have hlength : (cJSON_ArrayItems tmp).length = as.length := hpairs.length_eq
    rw [Option.bind_some, Option.bind_some, Mem.pure_bind, List.nil_append, Nat.sub_self, hlength,
      Slots.load_written]

/-! ### What an array holds -/

/-- The array has as many items as the document has, and each is what
    `decode` makes of the item at the same index. -/
structure ArrayDecoded (tmp : Option CJson) (decode : CJson → CMem α) (array : CArray α) :
    Prop where
  count : array.count = cJSON_GetArraySize tmp
  item : ∀ (i : Nat) c a, (cJSON_ArrayItems tmp)[i]? = some c → array.items[i]? = some a →
    (decode c).Result a

/-- Lists related item by item are related at each index. -/
theorem getElem?_of_forall₂ {α β : Type} {R : α → β → Prop} {as : List α} {bs : List β}
    (h : List.Forall₂ R as bs) {i : Nat} {a : α} {b : β} (ha : as[i]? = some a)
    (hb : bs[i]? = some b) : R a b := by
  obtain ⟨hi, rfl⟩ := List.getElem?_eq_some_iff.mp ha
  obtain ⟨hj, rfl⟩ := List.getElem?_eq_some_iff.mp hb
  exact h.get hi hj

theorem array_decoded (tmp : Option CJson) (decode : CJson → CMem α) :
    (array_from_items tmp fun cur _ => decode cur).Ensures (ArrayDecoded tmp decode) := by
  refine (array_ensures fun c _ => Ensures.result (decode c)).mono fun array h => ?_
  refine ⟨?_, fun i c a hc ha => getElem?_of_forall₂ h hc ha⟩
  rw [CArray.count, cJSON_GetArraySize_eq, h.length_eq]

end DiscoC
