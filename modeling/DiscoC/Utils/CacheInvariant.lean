import Mathlib.Algebra.BigOperators.Group.Finset.Basic
import Mathlib.Tactic.Abel
import DiscoC.Utils.Cache

/-! # The representation invariant of the cache

  What links the map, the queue, the counter and the structures that have
  been destroyed, whatever the history of overwrites:

  * `CacheOk`: queue nodes are distinct blocks, every map entry is queued and
    carries its key, the counter is the length of the queue.
  * `held_add_destroyed`: a structure that was ever set is either held by one
    queue node or has been passed to the destroy callback, never both.
  * `MapsLatest`: a map entry is the latest structure set for its id.
-/

namespace DiscoC

/-! ### One cache -/

/-- The representation invariant of one cache. Every queued block lies below
    `bound`, the next block `malloc` returns. -/
structure CacheOk (bound : Nat) (c : Cache) : Prop where
  /-- All queue nodes are distinct blocks. -/
  distinct : (c.head.map Node.addr).Nodup
  below : ∀ n ∈ c.head, n.addr < bound
  /-- Every map entry is in the queue and has its key stored in it. -/
  mapped : ∀ id n, hashmap_get c.map id = some n → n ∈ c.head ∧ n.alloc_id = id
  stored : ∀ n ∈ c.head, n.alloc_id = n.data.id
  counter : c.size = c.head.length

namespace CacheOk

variable {bound : Nat} {c : Cache}

theorem nodup (h : CacheOk bound c) : c.head.Nodup :=
  List.Nodup.of_map _ h.distinct

theorem mono (h : CacheOk bound c) {bound' : Nat} (hle : bound ≤ bound') :
    CacheOk bound' c :=
  ⟨h.distinct, fun n hn => Nat.lt_of_lt_of_le (h.below n hn) hle, h.mapped, h.stored, h.counter⟩

/-- Reordering the queue keeps the invariant. -/
theorem of_perm (h : CacheOk bound c) {q : List Node} (hq : q.Perm c.head) :
    CacheOk bound { c with head := q } where
  distinct := (hq.map Node.addr).nodup_iff.mpr h.distinct
  below := fun n hn => h.below n (hq.mem_iff.mp hn)
  mapped := fun id n hm => ⟨hq.mem_iff.mpr (h.mapped id n hm).1, (h.mapped id n hm).2⟩
  stored := fun n hn => h.stored n (hq.mem_iff.mp hn)
  counter := by rw [h.counter, hq.length_eq]

/-- Moving a mapped node to the tail only reorders the queue. -/
theorem touch_perm (h : CacheOk bound c) (id : UInt64) : (c.touch id).Perm c.head := by
  unfold Cache.touch tailq_insert_tail tailq_remove
  cases hm : hashmap_get c.map id with
  | none => exact List.Perm.refl _
  | some old =>
    have hmem : old ∈ c.head := (h.mapped id old hm).1
    exact (List.perm_append_singleton old _).trans (List.perm_cons_erase hmem).symm

/-- Linking a new block keeps the invariant. -/
theorem link (h : CacheOk bound c) {n : Node} (haddr : n.addr = bound)
    (hid : n.alloc_id = n.data.id) : CacheOk (bound + 1) (c.link n) := by
  have hperm := h.touch_perm n.alloc_id
  -- the address is fresh: all nodes of the queue lie below the bound
  have hnew : n.addr ∉ (c.touch n.alloc_id).map Node.addr := by
    intro hmem
    obtain ⟨m, hm, heq⟩ := List.mem_map.mp hmem
    have := h.below m (hperm.mem_iff.mp hm)
    omega
  refine ⟨?_, ?_, ?_, ?_, ?_⟩
  · simp only [Cache.link, tailq_insert_tail, List.map_append, List.map_cons, List.map_nil]
    rw [List.nodup_append]
    refine ⟨(hperm.map _).nodup_iff.mpr h.distinct, List.nodup_singleton _, ?_⟩
    intro a ha b hb heq
    rw [List.mem_singleton] at hb
    exact hnew (hb ▸ heq ▸ ha)
  · intro m hm
    rcases List.mem_append.mp hm with hm | hm
    · have := h.below m (hperm.mem_iff.mp hm)
      omega
    · rw [List.mem_singleton] at hm
      rw [hm]
      omega
  · intro id m hm
    simp only [Cache.link, hashmap_get, hashmap_put, tailq_insert_tail] at hm ⊢
    by_cases hk : id = n.alloc_id
    · rw [hk, Function.update_self] at hm
      obtain rfl := Option.some.inj hm
      exact ⟨by simp, hk.symm⟩
    · rw [Function.update_of_ne hk] at hm
      have hold := h.mapped id m hm
      exact ⟨List.mem_append_left _ (hperm.mem_iff.mpr hold.1), hold.2⟩
  · intro m hm
    rcases List.mem_append.mp hm with hm | hm
    · exact h.stored m (hperm.mem_iff.mp hm)
    · rw [List.mem_singleton] at hm
      rw [hm, hid]
  · simp only [Cache.link, tailq_insert_tail, List.length_append, List.length_singleton]
    rw [h.counter, hperm.length_eq]
    omega

/-- Unlinking the node mapped for an id keeps the invariant. -/
theorem unlink (h : CacheOk bound c) {id : UInt64} {n : Node}
    (hm : hashmap_get c.map id = some n) : CacheOk bound (c.unlink id n) := by
  obtain ⟨hmem, hkey⟩ := h.mapped id n hm
  have hsub : (c.head.erase n).Sublist c.head := List.erase_sublist
  refine ⟨?_, ?_, ?_, ?_, ?_⟩
  · exact (hsub.map Node.addr).nodup h.distinct
  · exact fun m hm' => h.below m (hsub.subset hm')
  · intro id' m hm'
    simp only [Cache.unlink, hashmap_get, hashmap_remove, tailq_remove] at hm' ⊢
    by_cases hk : id' = id
    · rw [hk, Function.update_self] at hm'
      cases hm'
    · rw [Function.update_of_ne hk] at hm'
      obtain ⟨hmem', hkey'⟩ := h.mapped id' m hm'
      -- another id leads to another node, so the queue still has it
      have hne : m ≠ n := fun heq => hk (by rw [← hkey', heq, hkey])
      exact ⟨(List.mem_erase_of_ne hne).mpr hmem', hkey'⟩
  · exact fun m hm' => h.stored m (hsub.subset hm')
  · simp only [Cache.unlink, tailq_remove]
    rw [h.counter, List.length_erase_of_mem hmem]
    have : 0 < c.head.length := List.length_pos_of_mem hmem
    omega

end CacheOk

/-! ### Rules for the operations

    A property of the whole state survives `discord_cache_set` when it holds
    once the new node is linked and deletions preserve it. -/

section rules

variable {P : Caches → Prop} {st st' : Caches} {ty : DiscoCacheType}

theorem cleanup_preserves (hdel : ∀ st id, P st → P (discord_cache_delete st ty id))
    {k : Nat} (hP : P st) (h : cleanup_older_entries ty k st = some st') : P st' := by
  induction k generalizing st with
  | zero =>
    obtain rfl := Option.some.inj h
    exact hP
  | succ k ih =>
    simp only [cleanup_older_entries] at h
    split at h
    · exact ih (hdel _ _ hP) h
    · cases h

/-- A successful `discord_cache_set` is the insertion and then as many rounds
    of the cleanup as the counter exceeds the bound. -/
theorem discord_cache_set_zero (st : Caches) (ty : DiscoCacheType) (cont : DiscordStructure) :
    discord_cache_set st ty cont 0 =
      (cleanup_older_entries ty
        (((st.insert ty cont).cache ty).size - ((st.insert ty cont).cache ty).max_cache_size).toNat
        (st.insert ty cont)).map fun st => (0, st) := by
  simp only [discord_cache_set, ne_eq, not_true_eq_false, if_false]
  split
  · rfl
  · next hle =>
    rw [Int.toNat_of_nonpos (by omega)]
    rfl

theorem discord_cache_set_preserves {cont : DiscordStructure} {rc : Int}
    (hdel : ∀ st id, P st → P (discord_cache_delete st ty id))
    (hins : P (st.insert ty cont))
    (h : discord_cache_set st ty cont 0 = some (rc, st')) : P st' := by
  rw [discord_cache_set_zero, Option.map_eq_some_iff] at h
  obtain ⟨t, ht, heq⟩ := h
  obtain rfl := (Prod.mk.inj heq).2
  exact cleanup_preserves hdel hins ht

end rules

/-! ### All three caches -/

/-- The representation invariant of all three caches. -/
def RepInv (st : Caches) : Prop :=
  ∀ ty, CacheOk st.next_addr (st.cache ty)

namespace RepInv

variable {st : Caches}

theorem init (m c g : Int) : RepInv (discord_cache_init m c g) := by
  intro ty
  exact ⟨List.nodup_nil, by simp [discord_cache_init], by simp [discord_cache_init, hashmap_get],
    by simp [discord_cache_init], rfl⟩

/-- Replacing one cache by one that is well formed. -/
theorem set_cache (h : RepInv st) {ty : DiscoCacheType} {c : Cache}
    (hc : CacheOk st.next_addr c) : RepInv (st.set_cache ty c) := by
  intro ty'
  by_cases hty : ty' = ty
  · subst hty
    simpa using hc
  · simpa [hty] using h ty'

theorem delete (h : RepInv st) (ty : DiscoCacheType) (id : UInt64) :
    RepInv (discord_cache_delete st ty id) := by
  cases hm : hashmap_get (st.cache ty).map id with
  | none => rwa [discord_cache_delete_unmapped hm]
  | some n =>
    rw [discord_cache_delete_mapped hm]
    exact h.set_cache ((h ty).unlink hm)

theorem insert (h : RepInv st) (ty : DiscoCacheType) (cont : DiscordStructure) :
    RepInv (st.insert ty cont) := by
  intro ty'
  by_cases hty : ty' = ty
  · subst hty
    simpa [Caches.insert] using (h ty').link (n := st.new_node cont) rfl rfl
  · simpa [Caches.insert, hty] using (h ty').mono (Nat.le_succ st.next_addr)

theorem get (h : RepInv st) (ty : DiscoCacheType) (id : UInt64) :
    RepInv (discord_cache_get st ty id).2 := by
  cases hm : hashmap_get (st.cache ty).map id with
  | none => rwa [discord_cache_get_unmapped hm]
  | some n =>
    rw [discord_cache_get_mapped hm]
    exact h.set_cache ((h ty).of_perm ((h ty).touch_perm id))

theorem set (h : RepInv st) {ty : DiscoCacheType} {cont : DiscordStructure} {rc : Int}
    {st' : Caches} (hset : discord_cache_set st ty cont 0 = some (rc, st')) : RepInv st' :=
  discord_cache_set_preserves (fun _ id hP => hP.delete ty id) (h.insert ty cont) hset

/-- Deleting takes at most one node out of the queue. -/
theorem delete_length (h : RepInv st) (ty : DiscoCacheType) (id : UInt64) :
    ((st.cache ty).head.length : Int) - 1 ≤
      ((discord_cache_delete st ty id).cache ty).head.length := by
  cases hm : hashmap_get (st.cache ty).map id with
  | none =>
    rw [discord_cache_delete_unmapped hm]
    omega
  | some n =>
    have hlen := List.length_erase_of_mem ((h ty).mapped id n hm).1
    rw [discord_cache_delete_mapped hm]
    simp only [Caches.set_cache_same, Cache.unlink, tailq_remove, hlen]
    omega

/-- The cleanup never meets an empty queue while it is asked for no more
    rounds than there are nodes. -/
theorem cleanup_total (h : RepInv st) (ty : DiscoCacheType) {k : Nat}
    (hk : k ≤ (st.cache ty).head.length) : ∃ st', cleanup_older_entries ty k st = some st' := by
  induction k generalizing st with
  | zero => exact ⟨st, rfl⟩
  | succ k ih =>
    cases hq : (st.cache ty).head with
    | nil => simp [hq] at hk
    | cons first rest =>
      have hlen := h.delete_length ty first.data.id
      simp only [cleanup_older_entries, hq]
      exact ih (h.delete ty first.data.id) (by omega)

end RepInv

/-! ### Bounds -/

@[simp] theorem delete_max_cache_size (st : Caches) (ty ty' : DiscoCacheType) (id : UInt64) :
    ((discord_cache_delete st ty id).cache ty').max_cache_size =
      (st.cache ty').max_cache_size := by
  cases hm : hashmap_get (st.cache ty).map id with
  | none => rw [discord_cache_delete_unmapped hm]
  | some n =>
    rw [discord_cache_delete_mapped hm]
    by_cases hty : ty' = ty
    · subst hty
      simp [Cache.unlink]
    · simp [hty]

@[simp] theorem insert_max_cache_size (st : Caches) (ty ty' : DiscoCacheType)
    (cont : DiscordStructure) :
    ((st.insert ty cont).cache ty').max_cache_size = (st.cache ty').max_cache_size := by
  by_cases hty : ty' = ty
  · subst hty
    simp [Caches.insert, Cache.link]
  · simp [Caches.insert, hty]

/-- A node may move in its queue, and all else stays as it was. -/
theorem get_cache (st : Caches) (ty ty' : DiscoCacheType) (id : UInt64) :
    ∃ head, (discord_cache_get st ty id).2.cache ty' = { st.cache ty' with head } := by
  cases hm : hashmap_get (st.cache ty).map id with
  | none =>
    rw [discord_cache_get_unmapped hm]
    exact ⟨(st.cache ty').head, rfl⟩
  | some n =>
    rw [discord_cache_get_mapped hm]
    by_cases hty : ty' = ty
    · subst hty
      exact ⟨(st.cache ty').touch id, Caches.set_cache_same ..⟩
    · exact ⟨(st.cache ty').head, Caches.set_cache_other _ _ hty⟩

@[simp] theorem get_max_cache_size (st : Caches) (ty ty' : DiscoCacheType) (id : UInt64) :
    ((discord_cache_get st ty id).2.cache ty').max_cache_size =
      (st.cache ty').max_cache_size := by
  obtain ⟨head, hcache⟩ := get_cache st ty ty' id
  rw [hcache]

/-- Every bound is at least two. -/
def BoundsOk (st : Caches) : Prop :=
  ∀ ty, 2 ≤ (st.cache ty).max_cache_size

theorem BoundsOk.init (m c g : Int) : BoundsOk (discord_cache_init m c g) := by
  intro ty
  simp only [discord_cache_init, clamp_cache_size]
  split <;> omega

/-! ### Conservation -/

/-- The structures that the nodes of one queue hold. -/
def held_in (ty : DiscoCacheType) (c : Cache) : Multiset (DiscoCacheType × DiscordStructure) :=
  (c.head.map fun n => (ty, n.data) : List (DiscoCacheType × DiscordStructure))

/-- The structures that the three caches hold. -/
def held (st : Caches) : Multiset (DiscoCacheType × DiscordStructure) :=
  ∑ ty, held_in ty (st.cache ty)

/-- The structures held and the structures destroyed. -/
def accounted (st : Caches) : Multiset (DiscoCacheType × DiscordStructure) :=
  held st + (st.destroyed : Multiset (DiscoCacheType × DiscordStructure))

theorem held_set_cache (st : Caches) (ty : DiscoCacheType) (c : Cache) :
    held (st.set_cache ty c) + held_in ty (st.cache ty) = held st + held_in ty c := by
  have hrest : ∑ ty' ∈ Finset.univ.erase ty, held_in ty' ((st.set_cache ty c).cache ty') =
      ∑ ty' ∈ Finset.univ.erase ty, held_in ty' (st.cache ty') := by
    apply Finset.sum_congr rfl
    intro ty' hty'
    rw [Caches.set_cache_other st c (Finset.ne_of_mem_erase hty')]
  unfold held
  rw [← Finset.add_sum_erase _ _ (Finset.mem_univ ty), hrest, Caches.set_cache_same,
    ← Finset.add_sum_erase _ (fun ty' => held_in ty' (st.cache ty')) (Finset.mem_univ ty)]
  abel

theorem held_in_of_perm {ty : DiscoCacheType} {c c' : Cache} (h : c.head.Perm c'.head) :
    held_in ty c = held_in ty c' :=
  Multiset.coe_eq_coe.mpr (h.map _)

theorem held_in_unlink {bound : Nat} {c : Cache} (h : CacheOk bound c) (ty : DiscoCacheType)
    {id : UInt64} {n : Node} (hm : hashmap_get c.map id = some n) :
    held_in ty (c.unlink id n) + {(ty, n.data)} = held_in ty c := by
  have hperm := List.perm_cons_erase (h.mapped id n hm).1
  have hmap := Multiset.coe_eq_coe.mpr (hperm.map fun m => (ty, m.data))
  rw [held_in, held_in, hmap, List.map_cons, ← Multiset.cons_coe, ← Multiset.singleton_add,
    add_comm]
  rfl

theorem held_in_link {bound : Nat} {c : Cache} (h : CacheOk bound c) (ty : DiscoCacheType)
    (n : Node) : held_in ty (c.link n) = held_in ty c + {(ty, n.data)} := by
  have hmap := Multiset.coe_eq_coe.mpr ((h.touch_perm n.alloc_id).map fun m => (ty, m.data))
  rw [held_in, held_in, ← hmap]
  simp only [Cache.link, tailq_insert_tail, List.map_append, List.map_cons, List.map_nil,
    ← Multiset.coe_add, Multiset.coe_singleton]

/-- A deletion moves a structure from the queue to the destroy callback. -/
theorem accounted_delete {st : Caches} (h : RepInv st) (ty : DiscoCacheType) (id : UInt64) :
    accounted (discord_cache_delete st ty id) = accounted st := by
  cases hm : hashmap_get (st.cache ty).map id with
  | none => rw [discord_cache_delete_unmapped hm]
  | some n =>
    have hset := held_set_cache st ty ((st.cache ty).unlink id n)
    rw [← held_in_unlink (h ty) ty hm] at hset
    have hheld : held (st.set_cache ty ((st.cache ty).unlink id n)) + {(ty, n.data)} = held st :=
      add_right_cancel (b := held_in ty ((st.cache ty).unlink id n)) (by rw [← hset]; abel)
    rw [discord_cache_delete_mapped hm, accounted, accounted, ← hheld]
    simp only [← Multiset.coe_add, Multiset.coe_singleton]
    change held (st.set_cache ty ((st.cache ty).unlink id n)) + _ = _
    abel

theorem accounted_insert {st : Caches} (h : RepInv st) (ty : DiscoCacheType)
    (cont : DiscordStructure) :
    accounted (st.insert ty cont) = accounted st + {(ty, cont)} := by
  have hset := held_set_cache st ty ((st.cache ty).link (st.new_node cont))
  rw [held_in_link (h ty) ty (st.new_node cont)] at hset
  have hheld : held (st.set_cache ty ((st.cache ty).link (st.new_node cont))) =
      held st + {(ty, cont)} :=
    add_right_cancel (b := held_in ty (st.cache ty)) (by
      rw [hset]
      simp only [Caches.new_node]
      abel)
  change held (st.set_cache ty ((st.cache ty).link (st.new_node cont))) + _ = _
  rw [hheld, accounted]
  simp only [Caches.insert, Caches.set_cache_destroyed]
  abel

theorem accounted_get {st : Caches} (h : RepInv st) (ty : DiscoCacheType) (id : UInt64) :
    accounted (discord_cache_get st ty id).2 = accounted st := by
  cases hm : hashmap_get (st.cache ty).map id with
  | none => rw [discord_cache_get_unmapped hm]
  | some n =>
    have hset := held_set_cache st ty { st.cache ty with head := (st.cache ty).touch id }
    have hperm : held_in ty { st.cache ty with head := (st.cache ty).touch id } =
        held_in ty (st.cache ty) := held_in_of_perm ((h ty).touch_perm id)
    rw [hperm] at hset
    rw [discord_cache_get_mapped hm, accounted, accounted, add_right_cancel hset]
    rfl

/-! ### Freshness -/

/-- Every map entry is the latest structure set for its id. -/
def MapsLatest (calls : List CacheCall) (st : Caches) : Prop :=
  ∀ ty id n, hashmap_get (st.cache ty).map id = some n → latest_set ty id calls = some n.data

/-- A deletion adds no map entry. -/
theorem delete_map {st : Caches} {ty ty' : DiscoCacheType} {id id' : UInt64} {n : Node}
    (h : hashmap_get ((discord_cache_delete st ty id).cache ty').map id' = some n) :
    hashmap_get (st.cache ty').map id' = some n := by
  cases hm : hashmap_get (st.cache ty).map id with
  | none => rwa [discord_cache_delete_unmapped hm] at h
  | some m =>
    rw [discord_cache_delete_mapped hm] at h
    by_cases hty : ty' = ty
    · subst hty
      simp only [Caches.set_cache_same, Cache.unlink, hashmap_get, hashmap_remove] at h
      by_cases hid : id' = id
      · rw [hid, Function.update_self] at h
        cases h
      · rwa [Function.update_of_ne hid] at h
    · simpa only [Caches.set_cache_other _ _ hty] using h

@[simp] theorem get_map (st : Caches) (ty ty' : DiscoCacheType) (id : UInt64) :
    ((discord_cache_get st ty id).2.cache ty').map = (st.cache ty').map := by
  obtain ⟨head, hcache⟩ := get_cache st ty ty' id
  rw [hcache]

theorem insert_map (st : Caches) (ty ty' : DiscoCacheType) (cont : DiscordStructure)
    (id : UInt64) :
    hashmap_get ((st.insert ty cont).cache ty').map id =
      if ty' = ty ∧ id = cont.id then some (st.new_node cont)
      else hashmap_get (st.cache ty').map id := by
  by_cases hty : ty' = ty
  · subst hty
    by_cases hid : id = cont.id
    · simp [Caches.insert, Cache.link, Caches.new_node, hashmap_get, hashmap_put, hid]
    · simp [Caches.insert, Cache.link, Caches.new_node, hashmap_get, hashmap_put, hid]
  · simp [Caches.insert, hty]

theorem set_map {st st' : Caches} {ty ty' : DiscoCacheType} {cont : DiscordStructure} {rc : Int}
    {id : UInt64} {n : Node} (hset : discord_cache_set st ty cont 0 = some (rc, st'))
    (h : hashmap_get (st'.cache ty').map id = some n) :
    hashmap_get ((st.insert ty cont).cache ty').map id = some n :=
  discord_cache_set_preserves
    (P := fun t => ∀ {id n}, hashmap_get (t.cache ty').map id = some n →
      hashmap_get ((st.insert ty cont).cache ty').map id = some n)
    (fun _ _ hP => fun h => hP (delete_map h)) (fun h => h) hset h

/-! ### Runs -/

/-- What holds of every state that a sequence of calls reaches. -/
structure CacheInv (calls : List CacheCall) (st : Caches) : Prop where
  rep : RepInv st
  bounds : BoundsOk st
  accounts : accounted st = (calls.filterMap CacheCall.passed : List _)
  latest : MapsLatest calls st

namespace CacheInv

variable {calls : List CacheCall} {st : Caches}

theorem init (m c g : Int) : CacheInv [] (discord_cache_init m c g) where
  rep := RepInv.init m c g
  bounds := BoundsOk.init m c g
  accounts := by
    simp [accounted, held, held_in, discord_cache_init]
  latest := by
    intro ty id n h
    simp [discord_cache_init, hashmap_get] at h

theorem get (h : CacheInv calls st) (ty : DiscoCacheType) (id : UInt64) :
    CacheInv (calls ++ [.get ty id]) (discord_cache_get st ty id).2 where
  rep := h.rep.get ty id
  bounds := fun ty' => by simpa using h.bounds ty'
  accounts := by
    rw [accounted_get h.rep, h.accounts]
    simp [List.filterMap_cons, CacheCall.passed]
  latest := by
    intro ty' id' n hm
    rw [latest_set_snoc]
    exact h.latest ty' id' n (by simpa using hm)

theorem delete (h : CacheInv calls st) (ty : DiscoCacheType) (id : UInt64) :
    CacheInv (calls ++ [.delete ty id]) (discord_cache_delete st ty id) where
  rep := h.rep.delete ty id
  bounds := fun ty' => by simpa using h.bounds ty'
  accounts := by
    rw [accounted_delete h.rep, h.accounts]
    simp [List.filterMap_cons, CacheCall.passed]
  latest := by
    intro ty' id' n hm
    rw [latest_set_snoc]
    exact h.latest ty' id' n (delete_map hm)

theorem set (h : CacheInv calls st) {ty : DiscoCacheType} {cont : DiscordStructure} {rc : Int}
    {st' : Caches} (hset : discord_cache_set st ty cont 0 = some (rc, st')) :
    CacheInv (calls ++ [.set ty cont]) st' where
  rep := h.rep.set hset
  bounds := discord_cache_set_preserves (P := BoundsOk)
    (fun _ _ hP ty' => by simpa using hP ty') (fun ty' => by simpa using h.bounds ty') hset
  accounts := by
    have hkept := discord_cache_set_preserves
      (P := fun t => RepInv t ∧ accounted t = accounted (st.insert ty cont))
      (fun t id hP => ⟨hP.1.delete ty id, (accounted_delete hP.1 ty id).trans hP.2⟩)
      ⟨h.rep.insert ty cont, rfl⟩ hset
    -- deleting moves structures from the cache to the destroyed ones
    rw [hkept.2, accounted_insert h.rep, h.accounts, List.filterMap_append, ← Multiset.coe_add]
    rfl
  latest := by
    intro ty' id n hm
    have hins := set_map hset hm
    rw [insert_map] at hins
    rw [latest_set_snoc, CacheCall.sets]
    -- what the map leads to afterwards is the new structure or an older one
    split at hins
    · next heq =>
      obtain rfl := Option.some.inj hins
      simp [heq.1, heq.2, Caches.new_node]
    · next hne =>
      rw [if_neg (fun heq => hne ⟨heq.1.symm, heq.2.symm⟩)]
      exact h.latest ty' id n hins

/-- No call fails: the cleanup loop never reads an empty queue. -/
theorem exec_total (h : CacheInv calls st) (call : CacheCall) :
    ∃ st', call.exec st = some st' := by
  cases call with
  | get ty id => exact ⟨_, rfl⟩
  | delete ty id => exact ⟨_, rfl⟩
  | set ty cont =>
    have hins := h.rep.insert ty cont
    have hbound := h.bounds ty
    have hle : (((st.insert ty cont).cache ty).size -
        ((st.insert ty cont).cache ty).max_cache_size).toNat ≤
          ((st.insert ty cont).cache ty).head.length := by
      rw [(hins ty).counter, insert_max_cache_size]
      omega
    obtain ⟨st', hst'⟩ := hins.cleanup_total ty hle
    refine ⟨st', ?_⟩
    rw [CacheCall.exec, discord_cache_set_zero, hst']
    rfl

theorem exec (h : CacheInv calls st) {call : CacheCall} {st' : Caches}
    (hexec : call.exec st = some st') : CacheInv (calls ++ [call]) st' := by
  cases call with
  | get ty id =>
    obtain rfl := Option.some.inj hexec
    exact h.get ty id
  | delete ty id =>
    obtain rfl := Option.some.inj hexec
    exact h.delete ty id
  | set ty cont =>
    obtain ⟨⟨rc, t⟩, hset, rfl⟩ := Option.map_eq_some_iff.mp hexec
    exact h.set hset

end CacheInv

/-- The invariant holds after every sequence of calls. -/
theorem run_cacheInv {message_cache_size channel_cache_size guild_cache_size : Int}
    {calls : List CacheCall} {st : Caches}
    (hrun : (cache_system message_cache_size channel_cache_size guild_cache_size).Run calls st) :
    CacheInv calls st := by
  refine System.Run.invariant (I := CacheInv) ?_ ?_ hrun
  · rintro s rfl
    exact CacheInv.init _ _ _
  · intro calls call s s' _ ih hstep
    exact ih.exec hstep

/-- Every sequence of calls runs through. -/
theorem run_total (message_cache_size channel_cache_size guild_cache_size : Int)
    (calls : List CacheCall) :
    ∃ st, (cache_system message_cache_size channel_cache_size guild_cache_size).Run calls st := by
  have hstep : ∀ calls call st, CacheInv calls st →
      ∃ st', call.exec st = some st' ∧ CacheInv (calls ++ [call]) st' := by
    intro calls call st hinv
    obtain ⟨st', hexec⟩ := hinv.exec_total call
    exact ⟨st', hexec, hinv.exec hexec⟩
  obtain ⟨st, hrun, -⟩ := System.run_ofFn_total (CacheInv.init _ _ _) hstep calls
  exact ⟨st, hrun⟩

/-- With fresh structures, no structure that a queue node holds has been
    destroyed. -/
theorem CacheInv.held_not_destroyed {calls : List CacheCall} {st : Caches}
    (h : CacheInv calls st) (hfresh : FreshSets calls) {ty : DiscoCacheType} {n : Node}
    (hn : n ∈ (st.cache ty).head) : ∀ d ∈ st.destroyed, d.2.ptr ≠ n.data.ptr := by
  intro d hd heq
  have hmap := congrArg (Multiset.map fun p => p.2.ptr) h.accounts
  have hnodup : (Multiset.map (fun p => p.2.ptr) (accounted st)).Nodup := by
    rw [hmap]
    exact hfresh
  rw [accounted, Multiset.map_add, Multiset.nodup_add] at hnodup
  have hheld : (ty, n.data) ∈ held st := by
    rw [held, ← Finset.add_sum_erase _ _ (Finset.mem_univ ty)]
    exact Multiset.mem_add.mpr (.inl (Multiset.mem_coe.mpr (List.mem_map_of_mem hn)))
  exact Multiset.disjoint_left.mp hnodup.2.2 (Multiset.mem_map_of_mem _ hheld)
    (Multiset.mem_map.mpr ⟨d, hd, heq⟩)

/-- What the representation invariant promises of one cache after `calls`. -/
structure Represents (calls : List CacheCall) (st : Caches) (ty : DiscoCacheType) : Prop where
  distinct : ((st.cache ty).head.map Node.addr).Nodup
  alive : ∀ n ∈ (st.cache ty).head, ∀ d ∈ st.destroyed, d.2.ptr ≠ n.data.ptr
  counter : (st.cache ty).size = (st.cache ty).head.length
  mapped : ∀ id n, hashmap_get (st.cache ty).map id = some n →
    n ∈ (st.cache ty).head ∧ n.alloc_id = id
  /-- What `discord_cache_get` returns is the latest version and is alive. -/
  answer : ∀ id s, (discord_cache_get st ty id).1 = some s →
    latest_set ty id calls = some s ∧ ∀ d ∈ st.destroyed, d.2.ptr ≠ s.ptr

/-- **Representation invariant and freshness.** Every sequence of calls with
    fresh structures runs without reading an empty queue, and leaves each
    cache represented. -/
theorem cache_represents (message_cache_size channel_cache_size guild_cache_size : Int)
    (calls : List CacheCall) (hfresh : FreshSets calls) :
    ∃ st, (cache_system message_cache_size channel_cache_size guild_cache_size).Run calls st ∧
      ∀ ty, Represents calls st ty := by
  obtain ⟨st, hrun⟩ := run_total message_cache_size channel_cache_size guild_cache_size calls
  have hinv := run_cacheInv hrun
  refine ⟨st, hrun, fun ty => ⟨(hinv.rep ty).distinct,
    fun n hn => hinv.held_not_destroyed hfresh hn, (hinv.rep ty).counter,
    (hinv.rep ty).mapped, ?_⟩⟩
  intro id s hget
  cases hm : hashmap_get (st.cache ty).map id with
  | none =>
    rw [discord_cache_get_unmapped hm] at hget
    cases hget
  | some n =>
    rw [discord_cache_get_mapped hm] at hget
    obtain rfl := Option.some.inj hget
    exact ⟨hinv.latest ty id n hm,
      hinv.held_not_destroyed hfresh ((hinv.rep ty).mapped id n hm).1⟩

/-- An overwrite followed by an eviction, in a message cache of two. -/
theorem cache_represents_overwrite :
    ∃ st, (cache_system 2 2 2).Run
      [.set .message_cache ⟨0, 1⟩, .set .message_cache ⟨1, 1⟩, .set .message_cache ⟨2, 2⟩] st ∧
      ∀ ty, Represents
        [.set .message_cache ⟨0, 1⟩, .set .message_cache ⟨1, 1⟩, .set .message_cache ⟨2, 2⟩]
        st ty :=
  cache_represents 2 2 2 _ (by decide)

end DiscoC
