import DiscoC.Utils.CacheInvariant

/-! # Capacity of the cache and the write just made

  The cleanup of `discord_cache_set` deletes by the id of the structure at
  the head of the queue. When that id has been set again since, the entry
  mapped for it is another node: that node goes and the head stays, or, when
  the newer node has gone already, nothing happens at all.

  * `cleanup_spec`: each round removes one node, until the head is shadowed.
  * `within_capacity_iff`: the queue stays within its bound along a run
    exactly when no full cache is ever set while its oldest node is shadowed.
  * `read_your_write_iff`: the entry just inserted survives its own cleanup
    exactly when the oldest node is not an older version of it.
-/

namespace DiscoC

/-! ### Shadowed heads -/

/-- The node the cleanup of `discord_cache_set` meets first: the head of the
    queue once the node mapped for `id` has been put back at its tail. -/
def Cache.oldest (c : Cache) (id : UInt64) : Option Node := (c.touch id).head?

/-- The head of the queue has no entry in the map, not even a newer one. -/
def HeadShadowed (c : Cache) : Prop :=
  ∃ n rest, c.head = n :: rest ∧ hashmap_get c.map n.data.id = none

/-- A deletion by the id of a shadowed head does nothing, so the cleanup is
    stuck there. -/
theorem cleanup_shadowed {st : Caches} {ty : DiscoCacheType}
    (h : HeadShadowed (st.cache ty)) (k : Nat) : cleanup_older_entries ty k st = some st := by
  obtain ⟨n, rest, hq, hm⟩ := h
  induction k with
  | zero => rfl
  | succ k ih =>
    simp only [cleanup_older_entries, hq, discord_cache_delete_unmapped hm]
    exact ih

/-- **Cleanup**: every round removes one node, unless the loop ends with a
    shadowed head. -/
theorem cleanup_spec {st st' : Caches} {ty : DiscoCacheType} {k : Nat}
    (h : cleanup_older_entries ty k st = some st') :
    (st'.cache ty).size = (st.cache ty).size - k ∨ HeadShadowed (st'.cache ty) := by
  induction k generalizing st with
  | zero =>
    obtain rfl := Option.some.inj h
    exact .inl (by omega)
  | succ k ih =>
    cases hq : (st.cache ty).head with
    | nil => simp [cleanup_older_entries, hq] at h
    | cons first rest =>
      -- a round deletes by id: the head goes only if the map still leads to it
      cases hm : hashmap_get (st.cache ty).map first.data.id with
      | none =>
        have hsh : HeadShadowed (st.cache ty) := ⟨first, rest, hq, hm⟩
        rw [cleanup_shadowed hsh] at h
        obtain rfl := Option.some.inj h
        exact .inr hsh
      | some n =>
        simp only [cleanup_older_entries, hq] at h
        have hsize : ((discord_cache_delete st ty first.data.id).cache ty).size =
            (st.cache ty).size - 1 := by
          rw [discord_cache_delete_mapped hm]
          simp [Cache.unlink]
        rcases ih h with hk | hsh
        · exact .inl (by rw [hk, hsize]; omega)
        · exact .inr hsh

/-- Putting a mapped node back at the tail leaves a shadowed head in place. -/
theorem HeadShadowed.touch_eq {bound : Nat} {c : Cache} (hc : CacheOk bound c)
    {n : Node} {rest : List Node} (hq : c.head = n :: rest)
    (hm : hashmap_get c.map n.data.id = none) (id : UInt64) :
    ∃ rest', c.touch id = n :: rest' := by
  unfold Cache.touch
  cases hold : hashmap_get c.map id with
  | none => exact ⟨rest, hq⟩
  | some old =>
    obtain ⟨hmem, hkey⟩ := hc.mapped id old hold
    have hne : n ≠ old := by
      rintro rfl
      rw [← hc.stored n hmem, hkey, hold] at hm
      cases hm
    refine ⟨rest.erase old ++ [old], ?_⟩
    simp only [tailq_insert_tail, tailq_remove, hq]
    rw [List.erase_cons_tail (by simpa using hne)]
    rfl

/-! ### What an insertion meets -/

theorem insert_head (st : Caches) (ty : DiscoCacheType) (cont : DiscordStructure) :
    ((st.insert ty cont).cache ty).head = (st.cache ty).touch cont.id ++ [st.new_node cont] := by
  simp [Caches.insert, Cache.link, tailq_insert_tail, Caches.new_node]

theorem insert_size (st : Caches) (ty : DiscoCacheType) (cont : DiscordStructure) :
    ((st.insert ty cont).cache ty).size = (st.cache ty).size + 1 := by
  simp [Caches.insert, Cache.link]

/-- A cache that is not full takes the new node without any cleanup. -/
theorem set_not_full {st : Caches} {ty : DiscoCacheType} (cont : DiscordStructure)
    (hfull : (st.cache ty).size < (st.cache ty).max_cache_size) :
    discord_cache_set st ty cont 0 = some (0, st.insert ty cont) := by
  rw [discord_cache_set_zero, insert_size, insert_max_cache_size,
    Int.toNat_of_nonpos (by omega)]
  rfl

/-- A full cache first deletes by the id of its oldest node. -/
theorem set_full {st : Caches} (h : RepInv st) (hb : BoundsOk st) {ty : DiscoCacheType}
    (cont : DiscordStructure) (hfull : (st.cache ty).max_cache_size ≤ (st.cache ty).size) :
    ∃ first, (st.cache ty).oldest cont.id = some first ∧
      (∃ rest, ((st.insert ty cont).cache ty).head = first :: rest) ∧
      discord_cache_set st ty cont 0 =
        (cleanup_older_entries ty ((st.cache ty).size - (st.cache ty).max_cache_size).toNat
          (discord_cache_delete (st.insert ty cont) ty first.data.id)).map fun st => (0, st) := by
  have hlen := ((h ty).touch_perm cont.id).length_eq
  have hcount := (h ty).counter
  have hbound := hb ty
  cases hq : (st.cache ty).touch cont.id with
  | nil =>
    rw [hq, List.length_nil] at hlen
    omega
  | cons first rest =>
    have hhead : ((st.insert ty cont).cache ty).head = first :: (rest ++ [st.new_node cont]) := by
      rw [insert_head, hq]
      rfl
    -- the first round takes the oldest of the old nodes, not the new one
    refine ⟨first, by simp [Cache.oldest, hq], ⟨_, hhead⟩, ?_⟩
    have hrounds : ((st.cache ty).size + 1 - (st.cache ty).max_cache_size).toNat =
        ((st.cache ty).size - (st.cache ty).max_cache_size).toNat + 1 := by omega
    rw [discord_cache_set_zero, insert_size, insert_max_cache_size, hrounds]
    simp only [cleanup_older_entries, hhead]

/-! ### Capacity -/

/-- The queue is within its bound and the counter is its length. -/
def WithinCapacity (c : Cache) : Prop :=
  (c.head.length : Int) ≤ c.max_cache_size ∧ c.size = c.head.length

/-- If the cache is full, its oldest node is not shadowed: its id is still
    mapped, or is the very id that is being set. -/
def OldestMapped (c : Cache) (id : UInt64) : Prop :=
  c.max_cache_size ≤ c.size →
    ∃ first, c.oldest id = some first ∧
      (first.data.id = id ∨ (hashmap_get c.map first.data.id).isSome)

/-- The condition on one call under which the bound is kept. -/
def CapacityGuard (st : Caches) : CacheCall → Prop
  | .set ty cont => OldestMapped (st.cache ty) cont.id
  | .get _ _ => True
  | .delete _ _ => True

section capacity

variable {calls : List CacheCall} {st st' : Caches}

/-- A call on one cache leaves the others alone. -/
theorem delete_other {ty ty' : DiscoCacheType} (hty : ty' ≠ ty) (id : UInt64) :
    (discord_cache_delete st ty id).cache ty' = st.cache ty' := by
  cases hm : hashmap_get (st.cache ty).map id with
  | none => rw [discord_cache_delete_unmapped hm]
  | some n =>
    rw [discord_cache_delete_mapped hm]
    exact Caches.set_cache_other st _ hty

theorem get_other {ty ty' : DiscoCacheType} (hty : ty' ≠ ty) (id : UInt64) :
    (discord_cache_get st ty id).2.cache ty' = st.cache ty' := by
  cases hm : hashmap_get (st.cache ty).map id with
  | none => rw [discord_cache_get_unmapped hm]
  | some n =>
    rw [discord_cache_get_mapped hm]
    exact Caches.set_cache_other st _ hty

theorem set_other {ty ty' : DiscoCacheType} (hty : ty' ≠ ty) {cont : DiscordStructure} {rc : Int}
    (hset : discord_cache_set st ty cont 0 = some (rc, st')) :
    st'.cache ty' = st.cache ty' :=
  discord_cache_set_preserves (P := fun t => t.cache ty' = st.cache ty')
    (fun _ id hP => (delete_other hty id).trans hP) (by simp [Caches.insert, hty]) hset

/-- The counter is right in every reachable state, so only the bound is at
    stake. -/
theorem CacheInv.withinCapacity_iff (h : CacheInv calls st) (ty : DiscoCacheType) :
    WithinCapacity (st.cache ty) ↔ (st.cache ty).size ≤ (st.cache ty).max_cache_size := by
  have hcount := (h.rep ty).counter
  unfold WithinCapacity
  omega

theorem CacheInv.set_capacity_iff (h : CacheInv calls st) {ty : DiscoCacheType}
    {cont : DiscordStructure} {rc : Int}
    (hset : discord_cache_set st ty cont 0 = some (rc, st'))
    (hgood : WithinCapacity (st.cache ty)) :
    WithinCapacity (st'.cache ty) ↔ OldestMapped (st.cache ty) cont.id := by
  have hle := (h.withinCapacity_iff ty).mp hgood
  rw [(h.set hset).withinCapacity_iff ty]
  by_cases hfull : (st.cache ty).max_cache_size ≤ (st.cache ty).size
  · -- at the bound there is one round, and it decides whether the size goes back
    obtain ⟨first, hfirst, _, heq⟩ := set_full h.rep h.bounds cont hfull
    rw [heq, Int.toNat_of_nonpos (by omega)] at hset
    obtain rfl := (Prod.mk.inj (Option.some.inj hset)).2
    have hmap := insert_map st ty ty cont first.data.id
    have hguard : OldestMapped (st.cache ty) cont.id ↔
        (hashmap_get ((st.insert ty cont).cache ty).map first.data.id).isSome := by
      by_cases hid : first.data.id = cont.id
      -- the oldest node has the id that is set: the map leads to the new one
      · rw [hmap, if_pos ⟨rfl, hid⟩]
        exact ⟨fun _ => rfl, fun _ _ => ⟨first, hfirst, .inl hid⟩⟩
      · rw [hmap, if_neg (fun h => hid h.2)]
        constructor
        · intro hg
          obtain ⟨first', hfirst', hor⟩ := hg hfull
          obtain rfl := Option.some.inj (hfirst.symm.trans hfirst')
          exact hor.resolve_left hid
        · exact fun hsome _ => ⟨first, hfirst, .inr hsome⟩
    rw [hguard, delete_max_cache_size, insert_max_cache_size]
    cases hm : hashmap_get ((st.insert ty cont).cache ty).map first.data.id with
    | none =>
      rw [discord_cache_delete_unmapped hm, insert_size]
      simp only [Option.isSome_none, Bool.false_eq_true, iff_false]
      omega
    | some n =>
      rw [discord_cache_delete_mapped hm]
      simp only [Caches.set_cache_same, Cache.unlink, insert_size, Option.isSome_some, iff_true]
      omega
  · rw [set_not_full cont (by omega)] at hset
    obtain rfl := (Prod.mk.inj (Option.some.inj hset)).2
    rw [insert_size, insert_max_cache_size]
    exact ⟨fun _ hfull' => absurd hfull' hfull, fun _ => by omega⟩

/-- A `discord_cache_get` only reorders a queue. -/
theorem CacheInv.get_capacity (h : CacheInv calls st) (ty : DiscoCacheType) (id : UInt64)
    (hgood : ∀ ty, WithinCapacity (st.cache ty)) (ty' : DiscoCacheType) :
    WithinCapacity ((discord_cache_get st ty id).2.cache ty') := by
  by_cases hty : ty' = ty
  · subst hty
    have hlen := ((h.rep ty').touch_perm id).length_eq
    have hg := (hgood ty').1
    rw [(h.get ty' id).withinCapacity_iff, ((h.get ty' id).rep ty').counter, get_max_cache_size]
    cases hm : hashmap_get (st.cache ty').map id with
    | none => rwa [discord_cache_get_unmapped hm]
    | some n =>
      rw [discord_cache_get_mapped hm]
      simpa only [Caches.set_cache_same, hlen] using hg
  · rw [get_other hty]
    exact hgood ty'

/-- A `discord_cache_delete` makes the counter no larger. -/
theorem CacheInv.delete_capacity (h : CacheInv calls st) (ty : DiscoCacheType) (id : UInt64)
    (hgood : ∀ ty, WithinCapacity (st.cache ty)) (ty' : DiscoCacheType) :
    WithinCapacity ((discord_cache_delete st ty id).cache ty') := by
  by_cases hty : ty' = ty
  · subst hty
    have hg := (h.withinCapacity_iff ty').mp (hgood ty')
    rw [(h.delete ty' id).withinCapacity_iff, delete_max_cache_size]
    cases hm : hashmap_get (st.cache ty').map id with
    | none => rwa [discord_cache_delete_unmapped hm]
    | some n =>
      rw [discord_cache_delete_mapped hm]
      simp only [Caches.set_cache_same, Cache.unlink]
      omega
  · rw [delete_other hty]
    exact hgood ty'

/-- One call keeps all queues within their bounds exactly when it meets the
    guard. -/
theorem CacheInv.exec_capacity_iff (h : CacheInv calls st) {call : CacheCall}
    (hexec : call.exec st = some st') (hgood : ∀ ty, WithinCapacity (st.cache ty)) :
    (∀ ty, WithinCapacity (st'.cache ty)) ↔ CapacityGuard st call := by
  cases call with
  | get ty id =>
    obtain rfl := Option.some.inj hexec
    exact iff_of_true (h.get_capacity ty id hgood) trivial
  | delete ty id =>
    obtain rfl := Option.some.inj hexec
    exact iff_of_true (h.delete_capacity ty id hgood) trivial
  | set ty cont =>
    obtain ⟨⟨rc, t⟩, hset, rfl⟩ := Option.map_eq_some_iff.mp hexec
    rw [CapacityGuard, ← h.set_capacity_iff hset (hgood ty)]
    refine ⟨fun hall => hall ty, fun hty ty' => ?_⟩
    by_cases heq : ty' = ty
    · rwa [heq]
    · rw [set_other heq hset]
      exact hgood ty'

end capacity

/-- **Capacity.** Every queue stays within its configured bound all along a
    run exactly when no full cache is set while its oldest node is
    shadowed. -/
theorem within_capacity_iff (message_cache_size channel_cache_size guild_cache_size : Int)
    (calls : List CacheCall) :
    (∀ pre, pre <+: calls → ∀ st,
      (cache_system message_cache_size channel_cache_size guild_cache_size).Run pre st →
        ∀ ty, WithinCapacity (st.cache ty)) ↔
      ∃ st, ((cache_system message_cache_size channel_cache_size guild_cache_size).guarded
        CapacityGuard).Run calls st := by
  refine System.holds_along_iff_guarded
    (G := fun (st : Caches) => ∀ ty, WithinCapacity (st.cache ty)) ?_ ?_ ?_ calls
  · intro ty
    have hb := BoundsOk.init message_cache_size channel_cache_size guild_cache_size ty
    refine ⟨?_, rfl⟩
    simp only [discord_cache_init, List.length_nil] at hb ⊢
    omega
  · exact fun pre call st hrun => (run_cacheInv hrun).exec_total call
  · exact fun pre call st st' hrun hgood hexec =>
      (run_cacheInv hrun).exec_capacity_iff hexec hgood

/-- An overwritten message at the head of the queue, its newer version
    evicted, makes a cache of two hold three nodes. -/
theorem capacity_exceeded :
    ¬ ∀ (message_cache_size channel_cache_size guild_cache_size : Int) (calls : List CacheCall)
      (st : Caches),
      (cache_system message_cache_size channel_cache_size guild_cache_size).Run calls st →
        ∀ ty, WithinCapacity (st.cache ty) := by
  intro hall
  obtain ⟨st, hrun⟩ := run_total 2 2 2
    [.set .message_cache ⟨0, 1⟩, .set .message_cache ⟨1, 1⟩,
      .set .message_cache ⟨2, 2⟩, .set .message_cache ⟨3, 3⟩]
  have hthree : ([.set .message_cache ⟨0, 1⟩, .set .message_cache ⟨1, 1⟩,
      .set .message_cache ⟨2, 2⟩, .set .message_cache ⟨3, 3⟩].foldlM CacheCall.exec
        (discord_cache_init 2 2 2)).all
          (fun (st : Caches) => (st.cache .message_cache).max_cache_size <
            (st.cache .message_cache).head.length) = true := by decide
  rw [System.run_ofFn_iff.mp hrun, Option.all_some, decide_eq_true_eq] at hthree
  have := (hall 2 2 2 _ st hrun .message_cache).1
  omega

/-! ### The write just made -/

/-- A cache over its bound is stuck at a shadowed head. -/
def OverfullShadowed (st : Caches) : Prop :=
  ∀ ty, (st.cache ty).size ≤ (st.cache ty).max_cache_size ∨ HeadShadowed (st.cache ty)

namespace OverfullShadowed

variable {st st' : Caches}

theorem init (m c g : Int) : OverfullShadowed (discord_cache_init m c g) := by
  intro ty
  have hb := BoundsOk.init m c g ty
  left
  simp only [discord_cache_init] at hb ⊢
  omega

theorem get (h : OverfullShadowed st) (hrep : RepInv st) (ty : DiscoCacheType) (id : UInt64) :
    OverfullShadowed (discord_cache_get st ty id).2 := by
  intro ty'
  by_cases hty : ty' = ty
  · subst hty
    cases hm : hashmap_get (st.cache ty').map id with
    | none =>
      rw [discord_cache_get_unmapped hm]
      exact h ty'
    | some m =>
      rw [discord_cache_get_mapped hm]
      rcases h ty' with hle | ⟨n, rest, hq, hn⟩
      · exact .inl (by simpa using hle)
      · obtain ⟨rest', htouch⟩ := HeadShadowed.touch_eq (hrep ty') hq hn id
        exact .inr ⟨n, rest', by simpa using htouch, by simpa using hn⟩
  · rw [get_other hty]
    exact h ty'

theorem delete (h : OverfullShadowed st) (hrep : RepInv st) (ty : DiscoCacheType) (id : UInt64) :
    OverfullShadowed (discord_cache_delete st ty id) := by
  intro ty'
  by_cases hty : ty' = ty
  · subst hty
    cases hm : hashmap_get (st.cache ty').map id with
    | none =>
      rw [discord_cache_delete_unmapped hm]
      exact h ty'
    | some m =>
      rw [discord_cache_delete_mapped hm]
      simp only [Caches.set_cache_same]
      rcases h ty' with hle | ⟨n, rest, hq, hn⟩
      · left
        simp only [Cache.unlink]
        omega
      · right
        -- the shadowed head is not the node the map leads to, so it stays
        have hne : n ≠ m := by
          rintro rfl
          have hmem : n ∈ (st.cache ty').head := ((hrep ty').mapped id n hm).1
          have hkey := ((hrep ty').mapped id n hm).2
          rw [← (hrep ty').stored n hmem, hkey, hm] at hn
          cases hn
        refine ⟨n, rest.erase m, ?_, ?_⟩
        · simp only [Cache.unlink, tailq_remove, hq]
          rw [List.erase_cons_tail (by simpa using hne)]
        · simp only [Cache.unlink, hashmap_get, hashmap_remove, Function.update_apply]
          split
          · rfl
          · exact hn
  · rw [delete_other hty]
    exact h ty'

theorem set (h : OverfullShadowed st) {ty : DiscoCacheType} {cont : DiscordStructure} {rc : Int}
    (hset : discord_cache_set st ty cont 0 = some (rc, st')) : OverfullShadowed st' := by
  intro ty'
  by_cases hty : ty' = ty
  · subst hty
    rw [discord_cache_set_zero, Option.map_eq_some_iff] at hset
    obtain ⟨t, ht, heq⟩ := hset
    obtain rfl := (Prod.mk.inj heq).2
    have hmax : (t.cache ty').max_cache_size = ((st.insert ty' cont).cache ty').max_cache_size :=
      cleanup_preserves (P := fun t => (t.cache ty').max_cache_size = _)
        (fun _ _ hP => by simpa using hP) rfl ht
    rcases cleanup_spec ht with hsize | hsh
    · left
      omega
    · exact .inr hsh
  · rw [set_other hty hset]
    exact h ty'

/-- It holds in every reachable state. -/
theorem run {message_cache_size channel_cache_size guild_cache_size : Int}
    {calls : List CacheCall}
    (hrun : (cache_system message_cache_size channel_cache_size guild_cache_size).Run calls st) :
    OverfullShadowed st := by
  refine System.Run.invariant (I := fun _ st => OverfullShadowed st) ?_ ?_ hrun
  · rintro s rfl
    exact init _ _ _
  · intro pre call s s' hpre ih hstep
    have hrep := (run_cacheInv hpre).rep
    cases call with
    | get ty id =>
      obtain rfl := Option.some.inj hstep
      exact ih.get hrep ty id
    | delete ty id =>
      obtain rfl := Option.some.inj hstep
      exact ih.delete hrep ty id
    | set ty cont =>
      obtain ⟨⟨rc, t⟩, hset, rfl⟩ := Option.map_eq_some_iff.mp hstep
      exact ih.set hset

end OverfullShadowed

/-- If the cache is full, its oldest node is not an older version of `id`. -/
def OldestDiffers (c : Cache) (id : UInt64) : Prop :=
  c.max_cache_size ≤ c.size → ∀ first, c.oldest id = some first → first.data.id ≠ id

section write

variable {calls : List CacheCall} {st st' : Caches} {ty : DiscoCacheType} {s : DiscordStructure}
  {rc : Int}

/-- An older version at the head of a full queue takes the new entry out. -/
theorem CacheInv.set_lost (h : CacheInv calls st)
    (hset : discord_cache_set st ty s 0 = some (rc, st'))
    (hfull : (st.cache ty).max_cache_size ≤ (st.cache ty).size) {first : Node}
    (hfirst : (st.cache ty).oldest s.id = some first) (hid : first.data.id = s.id) :
    hashmap_get (st'.cache ty).map s.id = none := by
  obtain ⟨first', hfirst', _, heq⟩ := set_full h.rep h.bounds s hfull
  obtain rfl := Option.some.inj (hfirst.symm.trans hfirst')
  rw [heq, Option.map_eq_some_iff] at hset
  obtain ⟨t, ht, hpair⟩ := hset
  obtain rfl := (Prod.mk.inj hpair).2
  have hnew : hashmap_get ((st.insert ty s).cache ty).map s.id = some (st.new_node s) := by
    rw [insert_map, if_pos ⟨rfl, rfl⟩]
  -- later rounds only delete, and what is deleted stays deleted
  refine cleanup_preserves (P := fun t => hashmap_get (t.cache ty).map s.id = none) ?_ ?_ ht
  · intro u id hnone
    cases hm : hashmap_get ((discord_cache_delete u ty id).cache ty).map s.id with
    | none => rfl
    | some n =>
      rw [delete_map hm] at hnone
      cases hnone
  -- the first round deletes the id of the head, which is the one just set
  · rw [hid, discord_cache_delete_mapped hnew]
    simp [Cache.unlink, hashmap_get, hashmap_remove]

/-- Any other node at the head leaves the new entry mapped. -/
theorem CacheInv.set_kept (h : CacheInv calls st) (hover : OverfullShadowed st)
    (hset : discord_cache_set st ty s 0 = some (rc, st'))
    (hdiff : OldestDiffers (st.cache ty) s.id) :
    hashmap_get (st'.cache ty).map s.id = some (st.new_node s) := by
  have hnew : hashmap_get ((st.insert ty s).cache ty).map s.id = some (st.new_node s) := by
    rw [insert_map, if_pos ⟨rfl, rfl⟩]
  by_cases hfull : (st.cache ty).max_cache_size ≤ (st.cache ty).size
  · obtain ⟨first, hfirst, ⟨rest, hhead⟩, heq⟩ := set_full h.rep h.bounds s hfull
    have hid : first.data.id ≠ s.id := hdiff hfull first hfirst
    have hmap := insert_map st ty ty s first.data.id
    rw [if_neg (fun h => hid h.2)] at hmap
    rw [heq, Option.map_eq_some_iff] at hset
    obtain ⟨t, ht, hpair⟩ := hset
    obtain rfl := (Prod.mk.inj hpair).2
    cases hm : hashmap_get (st.cache ty).map first.data.id with
    | none =>
      -- the head is shadowed, so the cleanup does nothing
      rw [hm] at hmap
      rw [discord_cache_delete_unmapped hmap, cleanup_shadowed ⟨first, rest, hhead, hmap⟩] at ht
      rwa [← Option.some.inj ht]
    | some m =>
      -- a cache over its bound has a shadowed head, so this one is just full
      have hexact : (st.cache ty).size ≤ (st.cache ty).max_cache_size := by
        rcases hover ty with hle | ⟨n, rest', hq, hn⟩
        · exact hle
        · obtain ⟨rest'', htouch⟩ := HeadShadowed.touch_eq (h.rep ty) hq hn s.id
          have : first = n := by
            rw [Cache.oldest, htouch] at hfirst
            exact (Option.some.inj hfirst).symm
          rw [this, hn] at hm
          cases hm
      rw [hm] at hmap
      rw [Int.toNat_of_nonpos (by omega)] at ht
      rw [← Option.some.inj ht, discord_cache_delete_mapped hmap]
      simp only [Caches.set_cache_same, Cache.unlink, hashmap_get, hashmap_remove]
      rw [Function.update_of_ne (Ne.symm hid)]
      exact hnew
  · rw [set_not_full s (by omega)] at hset
    obtain rfl := (Prod.mk.inj (Option.some.inj hset)).2
    exact hnew

end write

/-- **Read your write.** In every reachable state, a structure whose
    `discord_cache_set` returns 0 stays alive and is what `discord_cache_get`
    returns next, exactly when the cache had room or its oldest node is not
    an older version of the same id. -/
theorem read_your_write_iff (message_cache_size channel_cache_size guild_cache_size : Int)
    (calls : List CacheCall) (st st' : Caches) (ty : DiscoCacheType) (s : DiscordStructure)
    (put_rc : Int)
    (hrun : (cache_system message_cache_size channel_cache_size guild_cache_size).Run calls st)
    (hfresh : FreshSets (calls ++ [.set ty s]))
    (hset : discord_cache_set st ty s put_rc = some (0, st')) :
    ((∀ d ∈ st'.destroyed, d.2.ptr ≠ s.ptr) ∧ (discord_cache_get st' ty s.id).1 = some s) ↔
      OldestDiffers (st.cache ty) s.id := by
  have hinv := run_cacheInv hrun
  have hrc : put_rc = 0 := by
    by_contra hne
    simp [discord_cache_set, hne] at hset
  subst hrc
  have hinv' := hinv.set hset
  constructor
  · -- a head with the id that is set would take the new node with it
    rintro ⟨_, hget⟩ hfull first hfirst hid
    rw [discord_cache_get_unmapped (hinv.set_lost hset hfull hfirst hid)] at hget
    cases hget
  · intro hdiff
    have hkept := hinv.set_kept (OverfullShadowed.run hrun) hset hdiff
    constructor
    · exact hinv'.held_not_destroyed hfresh ((hinv'.rep ty).mapped _ _ hkept).1
    · rw [discord_cache_get_mapped hkept]
      rfl

/-- The second version of a message in a cache of two is kept. -/
theorem read_your_write_second :
    ∃ st st', (cache_system 2 2 2).Run [.set .message_cache ⟨0, 1⟩] st ∧
      discord_cache_set st .message_cache ⟨1, 1⟩ 0 = some (0, st') ∧
      (((∀ d ∈ st'.destroyed, d.2.ptr ≠ 1) ∧
        (discord_cache_get st' .message_cache 1).1 = some ⟨1, 1⟩) ↔
          OldestDiffers (st.cache .message_cache) 1) := by
  have hrun : (cache_system 2 2 2).Run [.set .message_cache ⟨0, 1⟩]
      ((discord_cache_init 2 2 2).insert .message_cache ⟨0, 1⟩) := System.run_ofFn_iff.mpr rfl
  exact ⟨_, _, hrun, rfl, read_your_write_iff 2 2 2 _ _ _ .message_cache ⟨1, 1⟩ 0 hrun
    (by decide) rfl⟩

/-- The third version of a message in a cache of two is destroyed by its own
    cleanup. -/
theorem write_lost :
    ¬ ∀ (message_cache_size channel_cache_size guild_cache_size : Int) (calls : List CacheCall)
      (st st' : Caches) (ty : DiscoCacheType) (s : DiscordStructure),
      (cache_system message_cache_size channel_cache_size guild_cache_size).Run calls st →
        FreshSets (calls ++ [.set ty s]) → discord_cache_set st ty s 0 = some (0, st') →
          (∀ d ∈ st'.destroyed, d.2.ptr ≠ s.ptr) ∧
            (discord_cache_get st' ty s.id).1 = some s := by
  intro hall
  have hrun : (cache_system 2 2 2).Run [.set .message_cache ⟨0, 1⟩, .set .message_cache ⟨1, 1⟩]
      (((discord_cache_init 2 2 2).insert .message_cache ⟨0, 1⟩).insert .message_cache ⟨1, 1⟩) :=
    System.run_ofFn_iff.mpr rfl
  have hget := (hall 2 2 2 _ _ _ .message_cache ⟨2, 1⟩ hrun (by decide) rfl).2
  exact absurd hget (by decide)

end DiscoC
