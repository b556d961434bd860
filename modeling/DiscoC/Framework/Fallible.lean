import Mathlib.Data.List.Basic

/-! # Routines that may fail

  A routine that may fail is a function to `Option`. Run on all items of a
  list, or on what a pointer points to, it succeeds when it does on each, and
  what is read back of each result is read back of all.
-/

namespace DiscoC

variable {α β γ : Type} {write : α → Option β} {read : β → γ} {g : α → γ}

/-- What holds of every result holds of the result as soon as there is one. -/
theorem exists_eq_some_and_iff {o : Option α} {P : α → Prop} (h : ∀ a, o = some a → P a) :
    (∃ a, o = some a ∧ P a) ↔ o.isSome = true := by
  rw [Option.isSome_iff_exists]
  exact exists_congr fun a => and_iff_left_of_imp (h a)

/-- A list is written when all of its items are. -/
theorem mapM_isSome_iff {l : List α} :
    (l.mapM write).isSome = true ↔ ∀ a ∈ l, (write a).isSome = true := by
  induction l with
  | nil => exact iff_of_true rfl nofun
  | cons a l ih =>
    rw [List.mapM_cons, List.forall_mem_cons, ← ih]
    cases write a <;> cases l.mapM write <;> simp

theorem mapM_cons_eq_some {a : α} {l : List α} {items : List β}
    (h : (a :: l).mapM write = some items) :
    ∃ b bs, write a = some b ∧ l.mapM write = some bs ∧ items = b :: bs := by
  rw [List.mapM_cons] at h
  obtain ⟨b, hb, h⟩ := Option.bind_eq_some_iff.mp h
  obtain ⟨bs, hbs, h⟩ := Option.bind_eq_some_iff.mp h
  exact ⟨b, bs, hb, hbs, (Option.some.inj h).symm⟩

/-- What is read of the items of a list that were written, where it is known
    of the items of this list. -/
theorem map_of_mapM_mem {l : List α} {items : List β}
    (hread : ∀ a ∈ l, ∀ b, write a = some b → read b = g a) (h : l.mapM write = some items) :
    items.map read = l.map g := by
  induction l generalizing items with
  | nil =>
    cases h
    rfl
  | cons a l ih =>
    obtain ⟨b, bs, hb, hbs, rfl⟩ := mapM_cons_eq_some h
    rw [List.map_cons, List.map_cons, hread a List.mem_cons_self b hb,
      ih (fun a' ha' => hread a' (List.mem_cons_of_mem a ha')) hbs]

theorem map_of_mapM {l : List α} {items : List β}
    (hread : ∀ a b, write a = some b → read b = g a) (h : l.mapM write = some items) :
    items.map read = l.map g :=
  map_of_mapM_mem (fun a _ => hread a) h

/-- Each item of a list is written in its place. -/
theorem getElem?_of_mapM {l : List α} {items : List β} (h : l.mapM write = some items) (i : Nat) :
    items[i]? = l[i]?.bind write := by
  induction l generalizing items i with
  | nil =>
    cases h
    rfl
  | cons a l ih =>
    obtain ⟨b, bs, hb, hbs, rfl⟩ := mapM_cons_eq_some h
    cases i with
    | zero => exact hb.symm
    | succ i => exact ih hbs i

theorem length_of_mapM {l : List α} {items : List β} (h : l.mapM write = some items) :
    items.length = l.length := by
  have hmap : items.map (fun _ => ()) = l.map fun _ => () := map_of_mapM (fun _ _ _ => rfl) h
  simpa using congrArg List.length hmap

/-- The items of a list and what was written of them, in pairs. -/
theorem forall₂_of_mapM {R : β → α → Prop} {l : List α} {items : List β}
    (hwrite : ∀ a b, write a = some b → R b a) (h : l.mapM write = some items) :
    List.Forall₂ R items l := by
  induction l generalizing items with
  | nil =>
    cases h
    exact List.Forall₂.nil
  | cons a l ih =>
    obtain ⟨b, bs, hb, hbs, rfl⟩ := mapM_cons_eq_some h
    exact List.Forall₂.cons (hwrite a b hb) (ih hbs)

/-- A list is written with the index of each item when each is written with
    its own. -/
theorem zipIdx_mapM_isSome_iff {write : α → Nat → Option β} {l : List α} :
    (l.zipIdx.mapM fun p => write p.1 p.2).isSome = true ↔
      ∀ (i : Nat) a, l[i]? = some a → (write a i).isSome = true := by
  rw [mapM_isSome_iff]
  constructor
  · intro h i a ha
    exact h (a, i) (List.mem_zipIdx_iff_getElem?.mpr ha)
  · intro h p hp
    exact h p.2 p.1 (List.mem_zipIdx_iff_getElem?.mp hp)

theorem getElem?_of_zipIdx_mapM {write : α → Nat → Option β} {l : List α} {items : List β}
    (h : (l.zipIdx.mapM fun p => write p.1 p.2) = some items) {i : Nat} {a : α}
    (ha : l[i]? = some a) : items[i]? = write a i := by
  have hi : l.zipIdx[i]? = some (a, i) := by simp [ha]
  rw [getElem?_of_mapM h, hi]
  rfl

theorem length_of_zipIdx_mapM {write : α → Nat → Option β} {l : List α} {items : List β}
    (h : (l.zipIdx.mapM fun p => write p.1 p.2) = some items) : items.length = l.length := by
  rw [length_of_mapM h, List.length_zipIdx]

/-- A routine that needs two others fails, or both of them succeed. -/
theorem bind_map_cases (o : Option α) (o' : Option β) (f : α → β → γ) :
    ((o.bind fun a => o'.map (f a)) = none ∧ ¬ (o.isSome = true ∧ o'.isSome = true)) ∨
      ∃ a b, o = some a ∧ o' = some b ∧ (o.bind fun a => o'.map (f a)) = some (f a b) := by
  cases o with
  | none => exact .inl ⟨rfl, by simp⟩
  | some a =>
    cases o' with
    | none => exact .inl ⟨rfl, by simp⟩
    | some b => exact .inr ⟨a, b, rfl, rfl, rfl⟩

/-- A pointer is written when what it points to is. -/
theorem option_mapM_isSome_iff {o : Option α} :
    (o.mapM write).isSome = true ↔ ∀ a ∈ o, (write a).isSome = true := by
  cases o with
  | none => exact iff_of_true rfl nofun
  | some a =>
    rw [Option.mapM_some]
    cases hw : write a <;> simp [hw]

/-- What a pointer points to is written in its place. -/
theorem write_of_option_mapM {o : Option α} {item : Option β} (h : o.mapM write = some item)
    {a : α} (ha : a ∈ o) : write a = item := by
  obtain rfl := ha
  obtain ⟨b, hb, rfl⟩ := Option.map_eq_some_iff.mp h
  exact hb

/-- A pointer is read as it was written. -/
theorem map_of_option_mapM {o : Option α} {item : Option β}
    (hread : ∀ a b, write a = some b → read b = g a) (h : o.mapM write = some item) :
    item.map read = o.map g := by
  cases o with
  | none =>
    cases h
    rfl
  | some a =>
    obtain ⟨b, hb, h⟩ := Option.map_eq_some_iff.mp h
    rw [← h, Option.map_some, Option.map_some, hread a b hb]

end DiscoC
