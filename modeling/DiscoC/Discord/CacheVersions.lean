import DiscoC.Discord.Client
import DiscoC.Framework.Copying
import DiscoC.Utils.CacheCapacity

/-! # A cache as a map of versions

  Structures are put into the cache to be looked up again. What should come
  back is the latest version that was put there under the id.

  `Versions` is that abstract map from ids to latest versions. The cache may
  have lost entries of it, once more structures have been put into it than
  fit; what it does serve is in the map (`Serves.answer`).
-/

namespace DiscoC

open Mem

/-! ### The map of versions -/

/-- The latest structure put under each id and not deleted since, and how
    many structures have been put. -/
structure Versions (α : Type) where
  latest : UInt64 → Option α
  count : Nat

namespace Versions
variable {α : Type}

def empty : Versions α := ⟨fun _ => none, 0⟩

def put (v : Versions α) (id : UInt64) (a : α) : Versions α where
  latest := Function.update v.latest id (some a)
  count := v.count + 1

def delete (v : Versions α) (id : UInt64) : Versions α :=
  { v with latest := Function.update v.latest id none }

theorem put_self (v : Versions α) (id : UInt64) (a : α) : (v.put id a).latest id = some a :=
  Function.update_self _ _ _

theorem put_of_ne (v : Versions α) {id id' : UInt64} (a : α) (h : id' ≠ id) :
    (v.put id a).latest id' = v.latest id' :=
  Function.update_of_ne h _ _

theorem put_eq_some {v : Versions α} {id id' : UInt64} {a a' : α}
    (h : (v.put id a).latest id' = some a') : a' = a ∨ v.latest id' = some a' := by
  by_cases hid : id' = id
  · rw [hid, put_self] at h
    exact .inl (Option.some.inj h).symm
  · exact .inr ((put_of_ne v a hid).symm.trans h)

theorem delete_self (v : Versions α) (id : UInt64) : (v.delete id).latest id = none :=
  Function.update_self _ _ _

theorem delete_of_ne (v : Versions α) {id id' : UInt64} (h : id' ≠ id) :
    (v.delete id).latest id' = v.latest id' :=
  Function.update_of_ne h _ _

/-- What is left after a deletion was there before, under another id. -/
theorem delete_eq_some {v : Versions α} {id id' : UInt64} {a : α}
    (h : (v.delete id).latest id' = some a) : id' ≠ id ∧ v.latest id' = some a := by
  by_cases hid : id' = id
  · rw [hid, delete_self] at h
    cases h
  · exact ⟨hid, (delete_of_ne v hid).symm.trans h⟩

/-- What a lookup may answer: the latest version, or null if more structures
    have been put than there is room for. -/
def Answers (v : Versions α) (size : Int) (id : UInt64) (answer : Option α) : Prop :=
  answer = v.latest id ∨ answer = none ∧ size < v.count

theorem Answers.eq_some {v : Versions α} {size : Int} {id : UInt64} {answer : Option α} {a : α}
    (h : v.Answers size id answer) (ha : answer = some a) : v.latest id = some a := by
  rcases h with hlatest | hlost
  · exact hlatest.symm.trans ha
  · rw [hlost.1] at ha
    cases ha

/-- A copy of what a lookup may answer, in blocks from `lo` up to `hi`. -/
def AnswersCopy (v : Versions α) (size : Int) (id : UInt64) (copy : α → CMem α) (lo hi : Nat)
    (old : Option α) : Prop :=
  ∃ answer, v.Answers size id answer ∧
    Option.Rel (fun a c => (copy a).ResultIn lo hi c) answer old

end Versions

/-! ### One cache serves a map -/

/-- The structures of the type `ty` as the cache holds them: a pointer and
    the id that is read through it. -/
structure CacheOf (α : Type) where
  ty : DiscoCacheType
  stored : α → DiscordStructure
  copy : α → CMem α

/-- Deleting by an id takes its entry out of the map, and no other. -/
theorem delete_map_eq (st : Caches) (ty : DiscoCacheType) (id id' : UInt64) :
    hashmap_get ((discord_cache_delete st ty id).cache ty).map id' =
      if id' = id then none else hashmap_get (st.cache ty).map id' := by
  cases hm : hashmap_get (st.cache ty).map id with
  | none =>
    rw [discord_cache_delete_unmapped hm]
    split
    · next heq => rw [heq, hm]
    · rfl
  | some n =>
    rw [discord_cache_delete_mapped hm]
    by_cases hid : id' = id
    · simp [Cache.unlink, hashmap_get, hashmap_remove, hid]
    · simp [Cache.unlink, hashmap_get, hashmap_remove, hid]

/-- No deletion makes the counter larger. -/
theorem delete_size_le (st : Caches) (ty : DiscoCacheType) (id : UInt64) :
    ((discord_cache_delete st ty id).cache ty).size ≤ (st.cache ty).size := by
  cases hm : hashmap_get (st.cache ty).map id with
  | none => rw [discord_cache_delete_unmapped hm]
  | some n =>
    rw [discord_cache_delete_mapped hm, Caches.set_cache_same]
    exact Int.sub_le_self _ (by decide)

/-- A set adds at most one to the counter, and keeps the bound. -/
theorem set_size_le {st st' : Caches} {ty : DiscoCacheType} {cont : DiscordStructure} {rc : Int}
    (hset : discord_cache_set st ty cont 0 = some (rc, st')) :
    (st'.cache ty).size ≤ (st.cache ty).size + 1 ∧
      (st'.cache ty).max_cache_size = (st.cache ty).max_cache_size := by
  refine discord_cache_set_preserves (P := fun t => (t.cache ty).size ≤ (st.cache ty).size + 1 ∧
    (t.cache ty).max_cache_size = (st.cache ty).max_cache_size) ?_ ?_ hset
  · intro t id hP
    rw [delete_max_cache_size]
    exact ⟨(delete_size_le t ty id).trans hP.1, hP.2⟩
  · rw [insert_size, insert_max_cache_size]
    exact ⟨le_refl _, rfl⟩

section serves
variable {α : Type} {k : CacheOf α}

/-- The cache and what its pointers point to serve the map `v`. Every pointer
    is below `bound`. -/
structure Serves (k : CacheOf α) (size : Int) (bound : Nat) (st : Caches)
    (heap : Nat → Option α) (v : Versions α) : Prop where
  configured : (st.cache k.ty).max_cache_size = size
  /-- What the map of the cache leads to is the latest version. -/
  mapped : ∀ id n, hashmap_get (st.cache k.ty).map id = some n →
    ∃ a, v.latest id = some a ∧ n.data = k.stored a ∧ n.data.ptr < bound ∧
      heap n.data.ptr = some a
  counted : (st.cache k.ty).size ≤ v.count
  /-- While there is room, nothing is lost. -/
  room : (v.count : Int) ≤ size → ∀ id a, v.latest id = some a →
    ∃ n, hashmap_get (st.cache k.ty).map id = some n
  /-- Every version can be copied. -/
  copied : ∀ id a, v.latest id = some a → ((k.copy a).run 0).isSome = true

namespace Serves

variable {size : Int} {bound bound' : Nat} {st st' : Caches} {heap : Nat → Option α}
  {v : Versions α}

theorem mono (h : Serves k size bound st heap v) (hle : bound ≤ bound') :
    Serves k size bound' st heap v where
  configured := h.configured
  mapped := by
    intro id n hm
    obtain ⟨a, hlatest, hdata, hlt, hheap⟩ := h.mapped id n hm
    exact ⟨a, hlatest, hdata, Nat.lt_of_lt_of_le hlt hle, hheap⟩
  counted := h.counted
  room := h.room
  copied := h.copied

/-- Only what is in the cache matters. -/
theorem congr (h : Serves k size bound st heap v)
    (hmap : (st'.cache k.ty).map = (st.cache k.ty).map)
    (hsize : (st'.cache k.ty).size = (st.cache k.ty).size)
    (hmax : (st'.cache k.ty).max_cache_size = (st.cache k.ty).max_cache_size) :
    Serves k size bound st' heap v where
  configured := hmax.trans h.configured
  mapped := by
    rw [hmap]
    exact h.mapped
  counted := by
    rw [hsize]
    exact h.counted
  room := by
    rw [hmap]
    exact h.room
  copied := h.copied

/-- A lookup, in whichever cache, reorders the queue. -/
theorem get (h : Serves k size bound st heap v) (ty : DiscoCacheType) (id : UInt64) :
    Serves k size bound (discord_cache_get st ty id).2 heap v := by
  obtain ⟨head, hcache⟩ := get_cache st ty k.ty id
  exact h.congr (by rw [hcache]) (by rw [hcache]) (by rw [hcache])

/-- A call on another cache. -/
theorem other (h : Serves k size bound st heap v) (hcache : st'.cache k.ty = st.cache k.ty) :
    Serves k size bound st' heap v :=
  h.congr (by rw [hcache]) (by rw [hcache]) (by rw [hcache])

theorem delete (h : Serves k size bound st heap v) (id : UInt64) :
    Serves k size bound (discord_cache_delete st k.ty id) heap (v.delete id) where
  configured := by
    rw [delete_max_cache_size]
    exact h.configured
  mapped := by
    intro id' n hm
    rw [delete_map_eq] at hm
    split at hm
    · cases hm
    · next hid =>
      obtain ⟨a, hlatest, hrest⟩ := h.mapped id' n hm
      exact ⟨a, (Versions.delete_of_ne v hid).trans hlatest, hrest⟩
  counted := (delete_size_le st k.ty id).trans h.counted
  room := by
    intro hroom id' a hlatest
    obtain ⟨hid, hlatest⟩ := Versions.delete_eq_some hlatest
    rw [delete_map_eq, if_neg hid]
    exact h.room hroom id' a hlatest
  copied := fun id' a hlatest => h.copied id' a (Versions.delete_eq_some hlatest).2

/-- A new version is put, in a block above all others. -/
theorem set (h : Serves k size bound st heap v) {a : α} {rc : Int}
    (hset : discord_cache_set st k.ty (k.stored a) 0 = some (rc, st'))
    (hfresh : bound ≤ (k.stored a).ptr) (hbound : (k.stored a).ptr < bound')
    (hcopy : ((k.copy a).run 0).isSome = true) :
    Serves k size bound' st' (Function.update heap (k.stored a).ptr (some a))
      (v.put (k.stored a).id a) where
  configured := (set_size_le hset).2.trans h.configured
  mapped := by
    intro id n hm
    have hins := set_map hset hm
    rw [insert_map] at hins
    by_cases hid : id = (k.stored a).id
    · -- the version just put
      rw [if_pos ⟨rfl, hid⟩] at hins
      obtain rfl := Option.some.inj hins
      refine ⟨a, ?_, rfl, hbound, Function.update_self _ _ _⟩
      rw [hid, Versions.put_self]
    · rw [if_neg fun hboth => hid hboth.2] at hins
      obtain ⟨b, hlatest, hdata, hlt, hheap⟩ := h.mapped id n hins
      have hne : n.data.ptr ≠ (k.stored a).ptr := by omega
      refine ⟨b, (Versions.put_of_ne v a hid).trans hlatest, hdata, by omega, ?_⟩
      rw [Function.update_of_ne hne, hheap]
  counted := by
    have hle := (set_size_le hset).1
    have hcount := h.counted
    show _ ≤ ((v.count + 1 : Nat) : Int)
    omega
  room := by
    intro hroom id b hlatest
    have hroom : ((v.count + 1 : Nat) : Int) ≤ size := hroom
    have hcount := h.counted
    -- there is room for one more, so that nothing is cleaned up
    have hnot_full : (st.cache k.ty).size < (st.cache k.ty).max_cache_size := by
      rw [h.configured]
      omega
    rw [set_not_full _ hnot_full] at hset
    obtain rfl := (Prod.mk.inj (Option.some.inj hset)).2
    rw [insert_map]
    by_cases hid : id = (k.stored a).id
    · exact ⟨_, if_pos ⟨rfl, hid⟩⟩
    · rw [if_neg fun hboth => hid hboth.2]
      exact h.room (by omega) id b ((Versions.put_of_ne v a hid).symm.trans hlatest)
  copied := by
    intro id b hlatest
    by_cases hid : id = (k.stored a).id
    · rw [hid, Versions.put_self] at hlatest
      cases hlatest
      exact hcopy
    · exact h.copied id b ((Versions.put_of_ne v a hid).symm.trans hlatest)

/-- **A lookup** reads a structure that has not been destroyed, and answers
    as the map says. -/
theorem answer (h : Serves k size bound st heap v) {calls : List CacheCall}
    (hinv : CacheInv calls st) (hsets : FreshSets calls) (id : UInt64) :
    ∃ answer, Client.get_cached st k.ty heap id =
        some (answer, (discord_cache_get st k.ty id).2) ∧ v.Answers size id answer := by
  unfold Client.get_cached
  cases hm : hashmap_get (st.cache k.ty).map id with
  | none =>
    rw [discord_cache_get_unmapped hm]
    refine ⟨none, rfl, ?_⟩
    cases hlatest : v.latest id with
    | none => exact .inl hlatest.symm
    | some a =>
      -- a version that is gone was one too many
      refine .inr ⟨rfl, ?_⟩
      by_contra hroom
      obtain ⟨n, hn⟩ := h.room (by omega) id a hlatest
      rw [hm] at hn
      cases hn
  | some n =>
    rw [discord_cache_get_mapped hm]
    obtain ⟨a, hlatest, -, -, hheap⟩ := h.mapped id n hm
    have halive : (k.ty, n.data) ∉ st.destroyed := fun hd =>
      hinv.held_not_destroyed hsets ((hinv.rep k.ty).mapped id n hm).1 _ hd rfl
    refine ⟨some a, ?_, .inl hlatest.symm⟩
    simp [Client.read_cached, halive, hheap]

end Serves

end serves

end DiscoC
