import DiscoC.Framework.Lru
import DiscoC.Utils.CacheCapacity

/-! # The cache as an LRU map

  As long as no id is set that is cached at that moment, a cache is an LRU
  map from ids to structures: every queue node has its map entry, the queue
  lists the entries in order of last use, and the cleanup of a full cache
  removes the oldest one.
-/

namespace DiscoC

/-! ### The abstract cache -/

/-- The entries a queue lists. -/
def Cache.entries (c : Cache) : List (UInt64 × DiscordStructure) :=
  c.head.map fun n => (n.alloc_id, n.data)

/-- No set is for an id that is cached at that moment. -/
def OverwriteFree (st : Caches) : CacheCall → Prop
  | .set ty cont => hashmap_get (st.cache ty).map cont.id = none
  | .get _ _ => True
  | .delete _ _ => True

instance (st : Caches) : ∀ call, Decidable (OverwriteFree st call)
  | .set ty cont =>
    inferInstanceAs (Decidable (hashmap_get (st.cache ty).map cont.id = none))
  | .get _ _ => inferInstanceAs (Decidable True)
  | .delete _ _ => inferInstanceAs (Decidable True)

/-- A call on the cache `ty`, as a call of an LRU map. -/
def CacheCall.lru (ty : DiscoCacheType) : CacheCall → Option (Lru.Call UInt64 DiscordStructure)
  | .set ty' cont => if ty' = ty then some (.put cont.id cont) else none
  | .get ty' id => if ty' = ty then some (.get id) else none
  | .delete ty' id => if ty' = ty then some (.erase id) else none

/-- The id that a call on the cache `ty` uses. -/
def CacheCall.use (ty : DiscoCacheType) : CacheCall → Option UInt64
  | .set ty' cont => if ty' = ty then some cont.id else none
  | .get ty' id => if ty' = ty then some id else none
  | .delete _ _ => none

/-- The capacity of an LRU map for a configured size. -/
def lru_capacity (size : Int) : Nat := (max 2 size).toNat

theorem lru_capacity_pos (size : Int) : 0 < lru_capacity size := by
  unfold lru_capacity
  omega

/-- The LRU map of the cache `ty` after `calls`. -/
def lru_after (size : Int) (ty : DiscoCacheType) (calls : List CacheCall) :
    Lru UInt64 DiscordStructure :=
  (Lru.empty (lru_capacity_pos size)).run (calls.filterMap (CacheCall.lru ty))

theorem use_lru (ty : DiscoCacheType) (call : CacheCall) :
    (call.lru ty).bind Lru.Call.use = call.use ty := by
  cases call <;> simp only [CacheCall.lru, CacheCall.use] <;> split <;> rfl

/-! ### Simulation -/

/-- A cache and the LRU map it stands for. -/
structure Mirrors (c : Cache) (l : Lru UInt64 DiscordStructure) : Prop where
  entries : c.entries = l.entries
  capacity : c.max_cache_size = l.capacity
  /-- No queue node is shadowed. -/
  queued : ∀ n ∈ c.head, hashmap_get c.map n.alloc_id = some n

namespace Mirrors

variable {bound : Nat} {c : Cache} {l : Lru UInt64 DiscordStructure}

theorem keys (h : Mirrors c l) : c.head.map Node.alloc_id = l.keys := by
  rw [Lru.keys, ← h.entries, Cache.entries, List.map_map]
  rfl

theorem length (h : Mirrors c l) : c.head.length = l.entries.length := by
  rw [← h.entries, Cache.entries, List.length_map]

theorem mem_keys_iff (hc : CacheOk bound c) (h : Mirrors c l) {id : UInt64} :
    id ∈ l.keys ↔ (hashmap_get c.map id).isSome := by
  rw [← h.keys, List.mem_map, Option.isSome_iff_exists]
  constructor
  · rintro ⟨n, hn, rfl⟩
    exact ⟨n, h.queued n hn⟩
  · rintro ⟨n, hn⟩
    exact ⟨n, hc.mapped id n hn⟩

/-- The map of the cache answers as the LRU map does. -/
theorem lookup (hc : CacheOk bound c) (h : Mirrors c l) (id : UInt64) :
    l.lookup id = (hashmap_get c.map id).map Node.data := by
  cases hm : hashmap_get c.map id with
  | none =>
    have hnot : id ∉ l.keys := by
      rw [h.mem_keys_iff hc, hm]
      exact Bool.false_ne_true
    rw [Lru.lookup_eq_none_iff.mpr hnot]
    rfl
  | some n =>
    obtain ⟨hmem, hkey⟩ := hc.mapped id n hm
    rw [Option.map_some, Lru.lookup_eq_some_iff, ← h.entries]
    exact List.mem_map.mpr ⟨n, hmem, by rw [hkey]⟩

/-- The nodes of the other ids are those that remain when the node of an id
    is taken out. -/
theorem erase_eq_filter (hc : CacheOk bound c) (h : Mirrors c l) {id : UInt64} {n : Node}
    (hm : hashmap_get c.map id = some n) :
    c.head.erase n = c.head.filter fun m => m.alloc_id ≠ id := by
  obtain ⟨hmem, hkey⟩ := hc.mapped id n hm
  rw [hc.nodup.erase_eq_filter]
  refine List.filter_congr fun m hm' => ?_
  have hiff : m = n ↔ m.alloc_id = id := by
    constructor
    · rintro rfl
      exact hkey
    · intro hid
      have hself := h.queued m hm'
      rw [hid, hm] at hself
      exact (Option.some.inj hself).symm
  rw [Bool.eq_iff_iff]
  simp [hiff]

theorem others (h : Mirrors c l) (id : UInt64) :
    (c.head.filter fun m => m.alloc_id ≠ id).map (fun n => (n.alloc_id, n.data)) =
      l.others id := by
  rw [Lru.others, ← h.entries, Cache.entries, List.filter_map]
  rfl

/-- Putting a mapped node back at the tail is a successful `Lru.get`. -/
theorem touch (hc : CacheOk bound c) (h : Mirrors c l) (id : UInt64) :
    Mirrors { c with head := c.touch id } (l.get id) := by
  have hlookup := h.lookup hc id
  cases hm : hashmap_get c.map id with
  | none =>
    rw [hm] at hlookup
    simp only [Cache.touch, Lru.get, hm, hlookup, Option.map_none]
    exact h
  | some n =>
    obtain ⟨hmem, hkey⟩ := hc.mapped id n hm
    rw [hm] at hlookup
    have hin : id ∈ l.keys := (h.mem_keys_iff hc).mpr (by rw [hm]; rfl)
    simp only [Cache.touch, Lru.get, hm, hlookup, Option.map_some, tailq_insert_tail,
      tailq_remove]
    exact {
      -- the node goes to the end of the queue, as its entry does in the list
      entries := by
        show List.map _ (c.head.erase n ++ [n]) = l.kept id ++ [(id, n.data)]
        rw [Lru.kept_of_mem hin, ← h.others id, h.erase_eq_filter hc hm, List.map_append, ← hkey]
        rfl
      capacity := h.capacity
      queued := fun m hm' => by
        have hmem' := (List.perm_cons_erase hmem).symm.mem_iff.mp
          ((List.perm_append_singleton n _).mem_iff.mp hm')
        exact h.queued m hmem' }

/-- Unlinking the node of an id is `Lru.erase`. -/
theorem unlink (hc : CacheOk bound c) (h : Mirrors c l) {id : UInt64} {n : Node}
    (hm : hashmap_get c.map id = some n) : Mirrors (c.unlink id n) (l.erase id) where
  entries := by
    show List.map _ (c.head.erase n) = l.others id
    rw [h.erase_eq_filter hc hm, h.others id]
  capacity := h.capacity
  queued := by
    intro m hm'
    have hm' : m ∈ c.head.erase n := hm'
    rw [h.erase_eq_filter hc hm, List.mem_filter, decide_eq_true_iff] at hm'
    simp only [Cache.unlink, hashmap_get, hashmap_remove]
    rw [Function.update_of_ne hm'.2]
    exact h.queued m hm'.1

theorem erase_absent (hc : CacheOk bound c) (h : Mirrors c l) {id : UInt64}
    (hm : hashmap_get c.map id = none) : Mirrors c (l.erase id) where
  entries := by
    have hnot : id ∉ l.keys := by
      rw [h.mem_keys_iff hc, hm]
      exact Bool.false_ne_true
    rw [h.entries]
    exact (Lru.others_of_not_mem hnot).symm
  capacity := h.capacity
  queued := h.queued

/-- Linking a new node to a queue that is not full. -/
theorem link (hc : CacheOk bound c) (h : Mirrors c l) {n : Node}
    (hm : hashmap_get c.map n.alloc_id = none) (hroom : l.entries.length < l.capacity) :
    Mirrors (c.link n) (l.put n.alloc_id n.data) where
  entries := by
    have hnot : n.alloc_id ∉ l.keys := by
      rw [h.mem_keys_iff hc, hm]
      exact Bool.false_ne_true
    show List.map _ (c.touch n.alloc_id ++ [n]) = l.kept n.alloc_id ++ [(n.alloc_id, n.data)]
    rw [(Lru.kept_of_room hnot hroom).1, Cache.touch, hm, List.map_append, ← h.entries]
    rfl
  capacity := h.capacity
  queued := by
    intro m hm'
    simp only [Cache.link, Cache.touch, hm, tailq_insert_tail, List.mem_append,
      List.mem_singleton] at hm'
    simp only [Cache.link, hashmap_get, hashmap_put]
    rcases hm' with hold | rfl
    · have hself := h.queued m hold
      have hne : m.alloc_id ≠ n.alloc_id := by
        intro heq
        rw [heq, hm] at hself
        cases hself
      rw [Function.update_of_ne hne]
      exact hself
    · exact Function.update_self _ _ _

/-- Linking a new node to a full queue and unlinking its oldest node. -/
theorem link_unlink (hc : CacheOk bound c) (h : Mirrors c l) {n first : Node} {rest : List Node}
    (hm : hashmap_get c.map n.alloc_id = none) (hq : c.head = first :: rest)
    (hfull : l.capacity ≤ l.entries.length) :
    Mirrors ((c.link n).unlink first.alloc_id first) (l.put n.alloc_id n.data) where
  entries := by
    have hnot : n.alloc_id ∉ l.keys := by
      rw [h.mem_keys_iff hc, hm]
      exact Bool.false_ne_true
    show List.map _ ((c.touch n.alloc_id ++ [n]).erase first) =
      l.kept n.alloc_id ++ [(n.alloc_id, n.data)]
    rw [(Lru.kept_of_full hnot hfull).1, Cache.touch, hm, hq, ← h.entries, Cache.entries, hq,
      List.cons_append, List.erase_cons_head, List.map_append]
    rfl
  capacity := h.capacity
  queued := by
    intro m hm'
    simp only [Cache.unlink, Cache.link, Cache.touch, hm, hq, tailq_insert_tail, tailq_remove,
      List.cons_append, List.erase_cons_head, List.mem_append, List.mem_singleton] at hm'
    simp only [Cache.unlink, Cache.link, hashmap_get, hashmap_remove, hashmap_put]
    have hfirst := h.queued first (by rw [hq]; exact List.mem_cons_self)
    -- a node of the old queue, or the new one
    rcases hm' with hold | rfl
    · have hself := h.queued m (by rw [hq]; exact List.mem_cons_of_mem _ hold)
      have hne : m.alloc_id ≠ first.alloc_id := by
        intro heq
        rw [heq, hfirst] at hself
        have hnodup := hc.nodup
        rw [hq, Option.some.inj hself] at hnodup
        exact (List.nodup_cons.mp hnodup).1 hold
      have hne' : m.alloc_id ≠ n.alloc_id := by
        intro heq
        rw [heq, hm] at hself
        cases hself
      rw [Function.update_of_ne hne, Function.update_of_ne hne']
      exact hself
    · have hne : m.alloc_id ≠ first.alloc_id := by
        intro heq
        rw [heq, hfirst] at hm
        cases hm
      rw [Function.update_of_ne hne, Function.update_self]

end Mirrors

/-! ### Steps -/

section steps

variable {calls : List CacheCall} {st st' : Caches} {ty : DiscoCacheType}
  {l : Lru UInt64 DiscordStructure}

theorem Mirrors.get (h : CacheInv calls st) (hl : Mirrors (st.cache ty) l) (id : UInt64) :
    Mirrors ((discord_cache_get st ty id).2.cache ty) (l.get id) := by
  have htouch := hl.touch (h.rep ty) id
  cases hm : hashmap_get (st.cache ty).map id with
  | none =>
    rw [discord_cache_get_unmapped hm]
    simpa only [Cache.touch, hm] using htouch
  | some n =>
    rw [discord_cache_get_mapped hm, Caches.set_cache_same]
    exact htouch

theorem Mirrors.delete (h : CacheInv calls st) (hl : Mirrors (st.cache ty) l) (id : UInt64) :
    Mirrors ((discord_cache_delete st ty id).cache ty) (l.erase id) := by
  cases hm : hashmap_get (st.cache ty).map id with
  | none =>
    rw [discord_cache_delete_unmapped hm]
    exact hl.erase_absent (h.rep ty) hm
  | some n =>
    rw [discord_cache_delete_mapped hm]
    show Mirrors ((st.set_cache ty _).cache ty) _
    rw [Caches.set_cache_same]
    exact hl.unlink (h.rep ty) hm

/-- **Set**: a new id takes the place of the oldest one if the cache is full,
    and of none otherwise. -/
theorem Mirrors.set (h : CacheInv calls st) (hl : Mirrors (st.cache ty) l)
    {cont : DiscordStructure} {rc : Int} (hm : hashmap_get (st.cache ty).map cont.id = none)
    (hset : discord_cache_set st ty cont 0 = some (rc, st')) :
    Mirrors (st'.cache ty) (l.put cont.id cont) ∧
      st'.destroyed = st.destroyed ++ (l.evicted cont.id).toList.map fun e => (ty, e.2) := by
  have hc := h.rep ty
  have hcount := hc.counter
  have hlen := hl.length
  have hcap := hl.capacity
  have hbound := l.bounded
  have hnot : cont.id ∉ l.keys := by
    rw [hl.mem_keys_iff hc, hm]
    exact Bool.false_ne_true
  have hins : (st.insert ty cont).cache ty = (st.cache ty).link (st.new_node cont) := by
    simp [Caches.insert]
  by_cases hfull : (st.cache ty).max_cache_size ≤ (st.cache ty).size
  · obtain ⟨first, hfirst, -, heq⟩ := set_full h.rep h.bounds cont hfull
    obtain ⟨rest, hq⟩ : ∃ rest, (st.cache ty).head = first :: rest := by
      rw [Cache.oldest, Cache.touch, hm, List.head?_eq_some_iff] at hfirst
      exact hfirst
    have hmem : first ∈ (st.cache ty).head := by rw [hq]; exact List.mem_cons_self
    have hid : first.data.id = first.alloc_id := (hc.stored first hmem).symm
    -- the oldest node is mapped: no id is set twice, so none is shadowed
    have hmapped : hashmap_get ((st.insert ty cont).cache ty).map first.data.id = some first := by
      have hself := hl.queued first hmem
      rw [insert_map, if_neg, hid, hself]
      rintro ⟨-, heq⟩
      rw [← heq, hid, hself] at hm
      cases hm
    rw [heq, Int.toNat_of_nonpos (by omega), discord_cache_delete_mapped hmapped] at hset
    obtain rfl := (Prod.mk.inj (Option.some.inj hset)).2
    have hfull' : l.capacity ≤ l.entries.length := by omega
    constructor
    · show Mirrors (((st.insert ty cont).set_cache ty _).cache ty) _
      rw [Caches.set_cache_same, hins, hid]
      exact hl.link_unlink hc (n := st.new_node cont) hm hq hfull'
    · rw [(Lru.kept_of_full hnot hfull').2, ← hl.entries, Cache.entries, hq]
      rfl
  -- there is room, and nothing is evicted
  · rw [set_not_full cont (by omega)] at hset
    obtain rfl := (Prod.mk.inj (Option.some.inj hset)).2
    have hroom : l.entries.length < l.capacity := by omega
    constructor
    · rw [hins]
      exact hl.link hc (n := st.new_node cont) hm hroom
    · rw [(Lru.kept_of_room hnot hroom).2]
      simp [Caches.insert]

/-- **Step lemma**: a call without overwrite is the same call of each LRU
    map. -/
theorem CacheInv.exec_mirrors (h : CacheInv calls st) (size : Int) {call : CacheCall}
    (hfree : OverwriteFree st call) (hexec : call.exec st = some st')
    (hl : Mirrors (st.cache ty) (lru_after size ty calls)) :
    Mirrors (st'.cache ty) (lru_after size ty (calls ++ [call])) := by
  have hsnoc : lru_after size ty (calls ++ [call]) =
      (lru_after size ty calls).run ((call.lru ty).toList) := by
    rw [lru_after, List.filterMap_append, Lru.run, List.foldl_append]
    cases hcall : call.lru ty <;> simp [lru_after, Lru.run, hcall]
  rw [hsnoc]
  -- a call for another type changes neither this cache nor its list
  cases call with
  | get ty' id =>
    obtain rfl := Option.some.inj hexec
    by_cases hty : ty' = ty
    · subst hty
      simpa [CacheCall.lru, Lru.run, Lru.exec] using hl.get h id
    · rw [get_other (Ne.symm hty)]
      simpa [CacheCall.lru, hty, Lru.run] using hl
  | delete ty' id =>
    obtain rfl := Option.some.inj hexec
    by_cases hty : ty' = ty
    · subst hty
      simpa [CacheCall.lru, Lru.run, Lru.exec] using hl.delete h id
    · rw [delete_other (Ne.symm hty)]
      simpa [CacheCall.lru, hty, Lru.run] using hl
  | set ty' cont =>
    obtain ⟨⟨rc, t⟩, hset, rfl⟩ := Option.map_eq_some_iff.mp hexec
    by_cases hty : ty' = ty
    · subst hty
      simpa [CacheCall.lru, Lru.run, Lru.exec] using (hl.set h hfree hset).1
    · rw [set_other (Ne.symm hty) hset]
      simpa [CacheCall.lru, hty, Lru.run] using hl

end steps

/-! ### Runs -/

/-- The size a cache is configured with. -/
def configured_size (message_cache_size channel_cache_size guild_cache_size : Int) :
    DiscoCacheType → Int
  | .message_cache => message_cache_size
  | .channel_cache => channel_cache_size
  | .guild_cache => guild_cache_size

theorem mirrors_init (m c g : Int) (ty : DiscoCacheType) :
    Mirrors ((discord_cache_init m c g).cache ty) (lru_after (configured_size m c g ty) ty []) where
  entries := rfl
  capacity := by
    show clamp_cache_size _ = ((lru_capacity _ : Nat) : Int)
    cases ty <;> simp only [configured_size, clamp_cache_size, lru_capacity] <;> split <;> omega
  queued := fun n hn => by cases hn

/-- A cache that behaves as an LRU map of its configured size, or of size 2 if
    that is larger. -/
structure BehavesAsLru (size : Int) (calls : List CacheCall) (st : Caches) (ty : DiscoCacheType) :
    Prop where
  /-- The queue lists the entries of the LRU map. -/
  entries : (st.cache ty).entries = (lru_after size ty calls).entries
  /-- These are the live entries, in the order of their last set or get. -/
  order : (st.cache ty).head.map Node.alloc_id =
    (calls.filterMap (CacheCall.use ty)).dedup.filter fun id =>
      (hashmap_get (st.cache ty).map id).isSome
  /-- `discord_cache_get` returns what the LRU map returns. -/
  answer : ∀ id, (discord_cache_get st ty id).1 = (lru_after size ty calls).lookup id
  /-- `discord_cache_set` destroys what the LRU map evicts. -/
  evicted : ∀ cont st', hashmap_get (st.cache ty).map cont.id = none →
    discord_cache_set st ty cont 0 = some (0, st') →
      st'.destroyed = st.destroyed ++
        ((lru_after size ty calls).evicted cont.id).toList.map fun e => (ty, e.2)

/-- **LRU refinement.** Along every run without overwrites each cache behaves
    as an LRU map. -/
theorem cache_behaves_as_lru (message_cache_size channel_cache_size guild_cache_size : Int)
    (calls : List CacheCall) (st : Caches)
    (hrun : ((cache_system message_cache_size channel_cache_size guild_cache_size).guarded
      OverwriteFree).Run calls st) (ty : DiscoCacheType) :
    BehavesAsLru (configured_size message_cache_size channel_cache_size guild_cache_size ty) calls
      st ty := by
  have hinv := run_cacheInv hrun.of_guarded
  have hl : Mirrors (st.cache ty) (lru_after
      (configured_size message_cache_size channel_cache_size guild_cache_size ty) ty calls) := by
    refine System.Run.invariant (I := fun calls st => Mirrors (st.cache ty) (lru_after
      (configured_size message_cache_size channel_cache_size guild_cache_size ty) ty calls))
      ?_ ?_ hrun
    · intro s hs
      obtain rfl : s = _ := hs
      exact mirrors_init _ _ _ ty
    · intro calls call s s' hpre ih hstep
      exact (run_cacheInv hpre.of_guarded).exec_mirrors _ hstep.1 hstep.2 ih
  refine ⟨hl.entries, ?_, fun id => ?_, fun cont st' hm hset => (hl.set hinv hm hset).2⟩
  · have horder := Lru.run_order (lru_capacity_pos
      (configured_size message_cache_size channel_cache_size guild_cache_size ty))
      (calls.filterMap (CacheCall.lru ty))
    -- the order of the list is that of the latest uses
    have huses : (calls.filterMap (CacheCall.lru ty)).filterMap Lru.Call.use =
        calls.filterMap (CacheCall.use ty) := by
      rw [List.filterMap_filterMap]
      exact congrArg (List.filterMap · calls) (funext (use_lru ty))
    rw [huses] at horder
    rw [hl.keys]
    refine horder.trans (List.filter_congr fun id _ => ?_)
    rw [Bool.eq_iff_iff, decide_eq_true_iff]
    exact hl.mem_keys_iff (hinv.rep ty)
  · rw [hl.lookup (hinv.rep ty) id]
    cases hm : hashmap_get (st.cache ty).map id with
    | none =>
      rw [discord_cache_get_unmapped hm]
      rfl
    | some n =>
      rw [discord_cache_get_mapped hm]
      rfl

/-- In a message cache of two, the message 1 is used again before a third one
    is set. -/
theorem cache_behaves_as_lru_used_again :
    ∃ st, BehavesAsLru 2
      [.set .message_cache ⟨0, 1⟩, .set .message_cache ⟨1, 2⟩, .get .message_cache 1,
        .set .message_cache ⟨2, 3⟩] st .message_cache := by
  obtain ⟨st, hst⟩ := Option.isSome_iff_exists.mp (show ([.set .message_cache ⟨0, 1⟩,
    .set .message_cache ⟨1, 2⟩, .get .message_cache 1, .set .message_cache ⟨2, 3⟩].foldlM
      (fun st call => if OverwriteFree st call then CacheCall.exec st call else none)
      (discord_cache_init 2 2 2)).isSome = true by decide)
  exact ⟨st, cache_behaves_as_lru 2 2 2 _ st (System.run_guarded_iff.mpr hst) .message_cache⟩

end DiscoC
