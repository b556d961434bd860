import DiscoC.Utils.CacheInvariant

/-! # The end of the cache

  `discord_cache_destroy` passes what the queues still hold to the destroy
  callback. Together with what was deleted and evicted before, that is every
  structure that was ever set, once each.
-/

namespace DiscoC

/-! ### Destroying -/

/-- The loop of `discord_cache_destroy` on the queue of one cache, from the
    nodes it holds on. -/
def destroy_nodes (ty : DiscoCacheType) : List Node → Caches → Caches
  | [], st => st
  | first :: rest, st =>
    destroy_nodes ty rest
      { st.set_cache ty { st.cache ty with head := rest, size := (st.cache ty).size - 1 } with
        destroyed := st.destroyed ++ [(ty, first.data)] }

/-- `while (!TAILQ_EMPTY(&queue.head))` of one cache. -/
def destroy_queue (st : Caches) (ty : DiscoCacheType) : Caches :=
  destroy_nodes ty (st.cache ty).head st

/-- `discord_cache_destroy`. -/
def discord_cache_destroy (st : Caches) : Caches :=
  let st := destroy_queue st .message_cache
  let st := destroy_queue st .channel_cache
  let st := destroy_queue st .guild_cache
  { st with cache := fun ty => { st.cache ty with map := fun _ => none } }

/-! ### What is destroyed -/

theorem destroy_nodes_destroyed (ty : DiscoCacheType) (q : List Node) (st : Caches) :
    (destroy_nodes ty q st).destroyed = st.destroyed ++ q.map fun n => (ty, n.data) := by
  induction q generalizing st with
  | nil => simp [destroy_nodes]
  | cons first rest ih => simp [destroy_nodes, ih]

theorem destroy_nodes_other {ty ty' : DiscoCacheType} (hty : ty' ≠ ty) (q : List Node)
    (st : Caches) : (destroy_nodes ty q st).cache ty' = st.cache ty' := by
  induction q generalizing st with
  | nil => rfl
  | cons first rest ih =>
    rw [destroy_nodes, ih]
    exact Caches.set_cache_other st _ hty

/-- The callbacks of `discord_cache_destroy`. -/
theorem discord_cache_destroy_destroyed (st : Caches) :
    (discord_cache_destroy st).destroyed =
      st.destroyed ++ (st.cache .message_cache).head.map (fun n => (.message_cache, n.data)) ++
        (st.cache .channel_cache).head.map (fun n => (.channel_cache, n.data)) ++
        (st.cache .guild_cache).head.map (fun n => (.guild_cache, n.data)) := by
  simp only [discord_cache_destroy, destroy_queue, destroy_nodes_destroyed]
  rw [destroy_nodes_other (by decide), destroy_nodes_other (by decide),
    destroy_nodes_other (by decide)]

/-- The structures that the caches hold are those of the three queues. -/
theorem held_eq (st : Caches) :
    held st = held_in .message_cache (st.cache .message_cache) +
      held_in .channel_cache (st.cache .channel_cache) +
      held_in .guild_cache (st.cache .guild_cache) := by
  have hall : (Finset.univ : Finset DiscoCacheType) =
      {.message_cache, .channel_cache, .guild_cache} := by decide
  rw [held, hall, Finset.sum_insert (by decide), Finset.sum_insert (by decide),
    Finset.sum_singleton, add_assoc]

/-- At the end, what was held has been destroyed as well. -/
theorem destroyed_eq_accounted (st : Caches) :
    ((discord_cache_destroy st).destroyed : Multiset (DiscoCacheType × DiscordStructure)) =
      accounted st := by
  rw [discord_cache_destroy_destroyed, accounted, held_eq]
  simp only [held_in, ← Multiset.coe_add]
  abel

/-- **Every structure is destroyed exactly once** over the life of the
    caches, with the type of the cache it was set in, and nothing else is. -/
theorem destroyed_exactly_once (message_cache_size channel_cache_size guild_cache_size : Int)
    (calls : List CacheCall) (hfresh : FreshSets calls) :
    ∃ st, (cache_system message_cache_size channel_cache_size guild_cache_size).Run calls st ∧
      (∀ ty s, (discord_cache_destroy st).destroyed.count (ty, s) =
        if .set ty s ∈ calls then 1 else 0) ∧
      ((discord_cache_destroy st).destroyed.map fun d => d.2.ptr).Nodup := by
  obtain ⟨st, hrun⟩ := run_total message_cache_size channel_cache_size guild_cache_size calls
  -- in the end all that was ever passed is destroyed, and nothing else
  have hperm : (discord_cache_destroy st).destroyed.Perm (calls.filterMap CacheCall.passed) := by
    rw [← Multiset.coe_eq_coe, destroyed_eq_accounted]
    exact (run_cacheInv hrun).accounts
  refine ⟨st, hrun, fun ty s => ?_, ?_⟩
  · have hmem : (ty, s) ∈ calls.filterMap CacheCall.passed ↔ .set ty s ∈ calls := by
      rw [List.mem_filterMap]
      constructor
      · rintro ⟨call, hcall, hpassed⟩
        cases call with
        | set ty' cont =>
          obtain ⟨rfl, rfl⟩ := Prod.mk.inj (Option.some.inj hpassed)
          exact hcall
        | get _ _ => cases hpassed
        | delete _ _ => cases hpassed
      · exact fun h => ⟨_, h, rfl⟩
    -- no structure is passed twice, so that each is counted once at most
    rw [hperm.count_eq, (List.Nodup.of_map _ hfresh).count]
    exact if_congr hmem rfl rfl
  · exact (hperm.map _).nodup_iff.mpr hfresh

/-- A message that is overwritten and a channel that is deleted. -/
def overwrite_and_delete : List CacheCall :=
  [.set .message_cache ⟨0, 1⟩, .set .message_cache ⟨1, 1⟩, .set .channel_cache ⟨2, 1⟩,
    .delete .channel_cache 1]

theorem destroyed_exactly_once_overwrite :
    ∃ st, (cache_system 2 2 2).Run overwrite_and_delete st ∧
      (∀ ty s, (discord_cache_destroy st).destroyed.count (ty, s) =
        if .set ty s ∈ overwrite_and_delete then 1 else 0) ∧
      ((discord_cache_destroy st).destroyed.map fun d => d.2.ptr).Nodup :=
  destroyed_exactly_once 2 2 2 _ (by decide)

end DiscoC
