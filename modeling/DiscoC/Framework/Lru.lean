import Mathlib.Data.List.Dedup
import Mathlib.Data.List.Induction
import Mathlib.Data.List.Nodup
import Mathlib.Data.List.Perm.Subperm

/-! # LRU maps

  A map of bounded size that makes room by forgetting the entry whose last
  use is oldest.

  * `Lru`: the entries in order of last use, oldest first. That the keys are
    distinct and the bound is kept is part of the structure.
  * `Lru.put`, `Lru.get`, `Lru.erase`: a `put` and a successful `get` make
    their entry the most recent one.
  * `Lru.run_order`: along any sequence of calls, the keys stand in the order
    in which they were last used.
-/

namespace DiscoC

universe u v

variable {κ : Type u} {α : Type v}

/-- An LRU map. -/
structure Lru (κ : Type u) (α : Type v) where
  capacity : Nat
  /-- The entries, the least recently used one first. -/
  entries : List (κ × α)
  positive : 0 < capacity
  distinct : (entries.map Prod.fst).Nodup
  bounded : entries.length ≤ capacity

namespace Lru

def keys (l : Lru κ α) : List κ := l.entries.map Prod.fst

/-- The map without entries. -/
def empty {capacity : Nat} (positive : 0 < capacity) : Lru κ α where
  capacity := capacity
  entries := []
  positive := positive
  distinct := List.nodup_nil
  bounded := Nat.zero_le _

variable [DecidableEq κ]

def lookup (l : Lru κ α) (k : κ) : Option α := l.entries.lookup k

/-- The entries of the other keys. -/
def others (l : Lru κ α) (k : κ) : List (κ × α) := l.entries.filter fun e => e.1 ≠ k

/-- The entries that stay when `k` is put: the others, and of a full map all
    of them but the oldest. -/
def kept (l : Lru κ α) (k : κ) : List (κ × α) :=
  if (l.others k).length < l.capacity then l.others k else (l.others k).tail

/-- The entry that goes when `k` is put. -/
def evicted (l : Lru κ α) (k : κ) : Option (κ × α) :=
  if (l.others k).length < l.capacity then none else (l.others k).head?

theorem others_sublist (l : Lru κ α) (k : κ) : (l.others k).Sublist l.entries :=
  List.filter_sublist

theorem kept_sublist_others (l : Lru κ α) (k : κ) : (l.kept k).Sublist (l.others k) := by
  unfold kept
  split
  · exact List.Sublist.refl _
  · exact List.tail_sublist _

theorem length_kept_lt (l : Lru κ α) (k : κ) : (l.kept k).length < l.capacity := by
  have hlen := (l.others_sublist k).length_le
  have hbound := l.bounded
  have hpos := l.positive
  unfold kept
  split
  · assumption
  · rw [List.length_tail]
    omega

theorem keys_kept_sublist (l : Lru κ α) (k : κ) :
    ((l.kept k).map Prod.fst).Sublist (l.keys.filter fun k' => k' ≠ k) := by
  have h := (l.kept_sublist_others k).map Prod.fst
  rwa [others, ← Function.comp_def (fun k' => decide (k' ≠ k)) Prod.fst, ← List.filter_map] at h

/-- `k` gets the value `a` and becomes the most recent entry. -/
def put (l : Lru κ α) (k : κ) (a : α) : Lru κ α where
  capacity := l.capacity
  entries := l.kept k ++ [(k, a)]
  positive := l.positive
  distinct := by
    have hsub := l.keys_kept_sublist k
    rw [List.map_append, List.map_singleton, List.nodup_append]
    refine ⟨hsub.nodup (l.distinct.filter _), List.nodup_singleton _, ?_⟩
    intro k' hk' k'' hk'' heq
    rw [List.mem_singleton] at hk''
    have hne := (List.mem_filter.mp (hsub.subset hk')).2
    simp [heq, hk''] at hne
  bounded := by
    have := l.length_kept_lt k
    rw [List.length_append, List.length_singleton]
    omega

/-- The map after `k` has been looked up: an entry that is found becomes the
    most recent one. -/
def get (l : Lru κ α) (k : κ) : Lru κ α :=
  match l.lookup k with
  | some a => l.put k a
  | none => l

/-- The map without an entry for `k`. -/
def erase (l : Lru κ α) (k : κ) : Lru κ α where
  capacity := l.capacity
  entries := l.others k
  positive := l.positive
  distinct := ((l.others_sublist k).map Prod.fst).nodup l.distinct
  bounded := Nat.le_trans (l.others_sublist k).length_le l.bounded

/-! ### Entries -/

omit [DecidableEq κ] in
theorem mem_keys_of_mem {l : Lru κ α} {k : κ} {a : α} (h : (k, a) ∈ l.entries) :
    k ∈ l.keys :=
  List.mem_map.mpr ⟨(k, a), h, rfl⟩

theorem others_of_not_mem {l : Lru κ α} {k : κ} (h : k ∉ l.keys) : l.others k = l.entries := by
  refine List.filter_eq_self.mpr fun e he => ?_
  rw [decide_eq_true_iff]
  rintro rfl
  exact h (mem_keys_of_mem he)

/-- A key that has an entry leaves room for it. -/
theorem length_others_lt {l : Lru κ α} {k : κ} (h : k ∈ l.keys) :
    (l.others k).length < l.capacity := by
  obtain ⟨e, he, rfl⟩ := List.mem_map.mp h
  have hlt : (l.others e.1).length < l.entries.length := by
    refine List.length_filter_lt_length_iff_exists.mpr ⟨e, he, ?_⟩
    simp
  exact Nat.lt_of_lt_of_le hlt l.bounded

theorem kept_of_mem {l : Lru κ α} {k : κ} (h : k ∈ l.keys) : l.kept k = l.others k :=
  if_pos (length_others_lt h)

/-- A key without an entry takes nobody's place in a map that is not full. -/
theorem kept_of_room {l : Lru κ α} {k : κ} (h : k ∉ l.keys)
    (hroom : l.entries.length < l.capacity) :
    l.kept k = l.entries ∧ l.evicted k = none := by
  unfold kept evicted
  rw [others_of_not_mem h, if_pos hroom, if_pos hroom]
  exact ⟨rfl, rfl⟩

/-- In a full map it takes the place of the oldest entry. -/
theorem kept_of_full {l : Lru κ α} {k : κ} (h : k ∉ l.keys)
    (hfull : l.capacity ≤ l.entries.length) :
    l.kept k = l.entries.tail ∧ l.evicted k = l.entries.head? := by
  unfold kept evicted
  rw [others_of_not_mem h, if_neg (Nat.not_lt.mpr hfull), if_neg (Nat.not_lt.mpr hfull)]
  exact ⟨rfl, rfl⟩

theorem lookup_eq_some_iff {l : Lru κ α} {k : κ} {a : α} :
    l.lookup k = some a ↔ (k, a) ∈ l.entries := by
  have hdistinct := l.distinct
  unfold lookup
  generalize l.entries = entries at hdistinct ⊢
  induction entries with
  | nil => simp
  | cons e es ih =>
    obtain ⟨k', a'⟩ := e
    rw [List.map_cons, List.nodup_cons] at hdistinct
    by_cases hk : k = k'
    · subst hk
      have hnot : (k, a) ∉ es := fun hmem => hdistinct.1 (List.mem_map.mpr ⟨_, hmem, rfl⟩)
      simp [List.lookup_cons_self, hnot, eq_comm]
    · have hbeq : (k == k') = false := by simpa using hk
      simp [List.lookup_cons, hbeq, hk, ih hdistinct.2]

theorem lookup_eq_none_iff {l : Lru κ α} {k : κ} : l.lookup k = none ↔ k ∉ l.keys := by
  rw [Option.eq_none_iff_forall_ne_some]
  constructor
  · intro h hk
    obtain ⟨⟨k', a⟩, he, rfl⟩ := List.mem_map.mp hk
    exact h a (lookup_eq_some_iff.mpr he)
  · intro h a ha
    exact h (mem_keys_of_mem (lookup_eq_some_iff.mp ha))

/-! ### Order of use -/

/-- A call of the map. -/
inductive Call (κ : Type u) (α : Type v) where
  | get (k : κ)
  | put (k : κ) (a : α)
  | erase (k : κ)

/-- The key that a call uses. -/
def Call.use : Call κ α → Option κ
  | .get k => some k
  | .put k _ => some k
  | .erase _ => none

/-- The map that a call leaves. -/
def exec (l : Lru κ α) : Call κ α → Lru κ α
  | .get k => l.get k
  | .put k a => l.put k a
  | .erase k => l.erase k

def run (l : Lru κ α) (calls : List (Call κ α)) : Lru κ α := calls.foldl exec l

theorem run_snoc (l : Lru κ α) (calls : List (Call κ α)) (call : Call κ α) :
    l.run (calls ++ [call]) = (l.run calls).exec call := by
  simp [run]

/-- The order of last use after one more use of `k`. -/
theorem dedup_snoc (uses : List κ) (k : κ) :
    (uses ++ [k]).dedup = (uses.dedup.filter fun k' => k' ≠ k) ++ [k] := by
  induction uses with
  | nil => rfl
  | cons k' uses ih =>
    rw [List.cons_append, List.dedup_cons, List.dedup_cons, ih]
    by_cases hmem : k' ∈ uses
    · simp [hmem]
    · by_cases hk : k' = k
      · subst hk
        simp [hmem]
      · simp [hmem, hk]

/-- A part of a list without repetitions is what is left of it by its own
    members. -/
theorem eq_filter_of_sublist {ks us : List κ} (h : ks.Sublist us) (hus : us.Nodup) :
    ks = us.filter fun k => k ∈ ks := by
  have hsub : ks.Sublist (us.filter fun k => k ∈ ks) := by
    have hfilter := h.filter fun k => decide (k ∈ ks)
    rwa [List.filter_eq_self.mpr fun k hk => decide_eq_true hk] at hfilter
  refine hsub.eq_of_length_le ?_
  refine (List.Nodup.subperm (hus.filter _) fun k hk => ?_).length_le
  simpa using (List.mem_filter.mp hk).2

theorem keys_put (l : Lru κ α) (k : κ) (a : α) :
    (l.put k a).keys = (l.kept k).map Prod.fst ++ [k] := by
  simp [keys, put]

theorem keys_put_sublist {l : Lru κ α} {uses : List κ} (h : l.keys.Sublist uses.dedup)
    (k : κ) (a : α) : (l.put k a).keys.Sublist (uses ++ [k]).dedup := by
  rw [dedup_snoc, keys_put]
  exact ((l.keys_kept_sublist k).trans (h.filter _)).append_right [k]

/-- **Step lemma**: a call keeps the order of last use. -/
theorem exec_sublist {l : Lru κ α} {uses : List κ} (h : l.keys.Sublist uses.dedup)
    (call : Call κ α) : (l.exec call).keys.Sublist (uses ++ call.use.toList).dedup := by
  cases call with
  | get k =>
    cases hk : l.lookup k with
    | some a =>
      simp only [exec, get, hk]
      exact keys_put_sublist h k a
    | none =>
      -- a key that is not found is in no entry, so its use moves nothing
      have hnot : k ∉ l.keys := lookup_eq_none_iff.mp hk
      have hself : l.keys.filter (fun k' => k' ≠ k) = l.keys :=
        List.filter_eq_self.mpr fun k' hk' => by
          rw [decide_eq_true_iff]
          rintro rfl
          exact hnot hk'
      simp only [exec, get, hk]
      show l.keys.Sublist (uses ++ [k]).dedup
      rw [dedup_snoc, ← hself]
      exact (h.filter _).trans (List.sublist_append_left _ _)
  | put k a => exact keys_put_sublist h k a
  | erase k =>
    rw [Call.use, Option.toList_none, List.append_nil]
    exact ((l.others_sublist k).map Prod.fst).trans h

/-- **Run lemma**: the keys stand in the order of their last use. -/
theorem run_order {capacity : Nat} (positive : 0 < capacity) (calls : List (Call κ α)) :
    ((empty positive).run calls).keys =
      (calls.filterMap Call.use).dedup.filter fun k => k ∈ ((empty positive).run calls).keys := by
  refine eq_filter_of_sublist ?_ (List.nodup_dedup _)
  induction calls using List.reverseRecOn with
  | nil => exact List.nil_sublist _
  | append_singleton calls call ih =>
    rw [run_snoc, List.filterMap_append]
    have hstep := exec_sublist ih call
    cases call <;> exact hstep

end Lru

end DiscoC
