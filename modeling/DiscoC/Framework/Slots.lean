import DiscoC.Framework.Fallible

/-! # Blocks that are written bit by bit

  A block as it comes from an allocation has slots, and none of them has been
  written. A slot is written at an index, which has to be in the block, and a
  slot that has not been written may not be read. Each operation fails where
  the program would be undefined.

  A block that is filled from the front has some items `xs` and then other
  slots; the lemmas say what an operation with a cursor behind the items does.
  Where the other slots are new, the block is `written xs k`.
-/

namespace DiscoC

variable {α β : Type}

/-- The slots of a block. -/
abbrev Slots (α : Type) := List (Option α)

namespace Slots

/-! ### Operations -/

/-- A new block of `n` slots. -/
def malloc (n : Nat) : Slots α := List.replicate n none

/-- A block of `n` slots, with what was in the old one. -/
def realloc (slots : Slots α) (n : Nat) : Slots α :=
  slots.take n ++ malloc (n - slots.length)

/-- `block[i] = a`. -/
def store (slots : Slots α) (i : Nat) (a : α) : Option (Slots α) :=
  if i < slots.length then some (slots.set i (some a)) else none

/-- `memcpy(block + i, xs, n)`, of all `xs`. -/
def copy (slots : Slots α) (i : Nat) (xs : List α) : Option (Slots α) :=
  if i + xs.length ≤ slots.length then
    some (slots.take i ++ (xs.map some ++ slots.drop (i + xs.length)))
  else
    none

/-- The first `n` slots, which all have to be written. -/
def load (slots : Slots α) (n : Nat) : Option (List α) :=
  if n ≤ slots.length then (slots.take n).mapM fun slot => slot else none

/-- The items up to one that meets `stop`, which has to be there. -/
def read_until (stop : α → Bool) : Slots α → Option (List α)
  | [] => none
  | none :: _ => none
  | some a :: slots => if stop a then some [] else (read_until stop slots).map (a :: ·)

@[simp] theorem length_malloc (n : Nat) : (malloc n : Slots α).length = n := List.length_replicate

@[simp] theorem length_realloc (slots : Slots α) (n : Nat) : (slots.realloc n).length = n := by
  rw [realloc, List.length_append, List.length_take, length_malloc]
  omega

/-! ### Blocks filled from the front -/

/-- The items `xs`, and other slots behind them. -/
def filled (xs : List α) (rest : Slots α) : Slots α := xs.map some ++ rest

section filled

variable (xs : List α) (rest : Slots α)

@[simp] theorem length_filled : (filled xs rest).length = xs.length + rest.length := by
  rw [filled, List.length_append, List.length_map]

theorem take_filled : (filled xs rest).take xs.length = xs.map some := by
  have hlength : (xs.map some).length = xs.length := List.length_map _
  rw [filled, ← hlength, List.take_left]

theorem drop_filled (n : Nat) : (filled xs rest).drop (xs.length + n) = rest.drop n := by
  have hlength : (xs.map some).length = xs.length := List.length_map _
  rw [filled, ← hlength, List.drop_append, List.drop_eq_nil_of_le (Nat.le_add_right _ _),
    List.nil_append, Nat.add_sub_cancel_left]

/-- **One item is written** behind the others. -/
theorem store_filled (slot : Option α) (a : α) :
    (filled xs (slot :: rest)).store xs.length a = some (filled (xs ++ [a]) rest) := by
  have hlength : (xs.map some).length = xs.length := List.length_map _
  have hroom : xs.length < (filled xs (slot :: rest)).length := by
    rw [length_filled, List.length_cons]
    omega
  rw [store, if_pos hroom, filled, ← hlength, List.set_append_right _ _ (Nat.le_refl _),
    Nat.sub_self, List.set_cons_zero, filled, List.map_append, List.append_assoc]
  rfl

/-- **Several items are written** behind the others. -/
theorem copy_filled {ys : List α} (h : ys.length ≤ rest.length) :
    (filled xs rest).copy xs.length ys = some (filled (xs ++ ys) (rest.drop ys.length)) := by
  have hroom : xs.length + ys.length ≤ (filled xs rest).length := by
    rw [length_filled]
    omega
  rw [copy, if_pos hroom, take_filled, drop_filled, filled, List.map_append, List.append_assoc]

/-- The items stay where they are in a block that still has room for them. -/
theorem realloc_filled (n : Nat) :
    (filled xs rest).realloc (xs.length + n) = filled xs (rest.realloc n) := by
  have hlength : (xs.map some).length = xs.length := List.length_map _
  have htake : (filled xs rest).take (xs.length + n) = filled xs (rest.take n) := by
    rw [filled, List.take_append, hlength, List.take_of_length_le (by omega),
      Nat.add_sub_cancel_left]
    rfl
  have hroom : xs.length + n - (xs.length + rest.length) = n - rest.length := by omega
  rw [realloc, realloc, htake, length_filled, hroom, filled, filled, List.append_assoc]

/-- **What has been written is read back.** -/
theorem load_filled : (filled xs rest).load xs.length = some xs := by
  have hroom : xs.length ≤ (filled xs rest).length := by
    rw [length_filled]
    exact Nat.le_add_right _ _
  rw [load, if_pos hroom, take_filled, List.mapM_map]
  exact List.mapM_pure.trans (congrArg some (List.map_id xs))

/-- **Items are read** up to the first one that stops. -/
theorem read_until_filled {stop : α → Bool} {a : α} (ha : stop a = true) :
    (filled (xs ++ [a]) rest).read_until stop = some (xs.takeWhile fun x => !stop x) := by
  induction xs with
  | nil => exact if_pos ha
  | cons x xs ih =>
    show (if stop x then some [] else (read_until stop (filled (xs ++ [a]) rest)).map (x :: ·)) = _
    cases hx : stop x with
    | true => rw [if_pos rfl, List.takeWhile_cons_of_neg (by rw [hx]; exact nofun)]
    | false =>
      rw [if_neg Bool.false_ne_true, ih, List.takeWhile_cons_of_pos (by rw [hx]; rfl)]
      rfl

end filled

/-! ### New blocks -/

/-- The items `xs`, and `k` slots that have not been written. -/
def written (xs : List α) (k : Nat) : Slots α := filled xs (malloc k)

theorem written_nil (k : Nat) : (written [] k : Slots α) = malloc k := rfl

theorem store_written (xs : List α) (k : Nat) (a : α) :
    (written xs (k + 1)).store xs.length a = some (written (xs ++ [a]) k) :=
  store_filled xs (malloc k) none a

theorem load_written (xs : List α) (k : Nat) : (written xs k).load xs.length = some xs :=
  load_filled xs (malloc k)

/-! ### Filtering into a block -/

end Slots

end DiscoC
