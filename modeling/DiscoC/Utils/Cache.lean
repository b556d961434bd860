import Mathlib.Data.Fintype.Basic
import Mathlib.Data.List.Nodup
import DiscoC.Framework.System

/-! # The structure cache

  Model of `utils/cache.c`. Each of the three caches is a hash map from ids
  to queue nodes, a tail queue of nodes in order of last use, a counter and a
  bound.

  `hashmap.h` is taken as a finite map keyed by the id, `sys/queue.h` as
  lists of nodes. A `NULL` dereference is `none`. The destroy callback is
  observed through the list of the calls made to it; it does not call back
  into the cache here.
-/

namespace DiscoC

/-! ### Data -/

/-- `enum Disco_Cache_Type`. -/
inductive DiscoCacheType where
  | channel_cache
  | message_cache
  | guild_cache
  deriving DecidableEq, Repr

instance : Fintype DiscoCacheType where
  elems := {.channel_cache, .message_cache, .guild_cache}
  complete := by intro ty; cases ty <;> decide

/-- A Discord structure as the cache handles it: the pointer it is passed
    by, and the `id` field read through that pointer. -/
structure DiscordStructure where
  ptr : Nat
  id : UInt64
  deriving DecidableEq, Repr

/-- `struct node`. `addr` is the block `malloc` returned for it, `alloc_id`
    the id kept on the heap for the map's key. -/
structure Node where
  addr : Nat
  alloc_id : UInt64
  data : DiscordStructure
  deriving DecidableEq, Repr

/-- `struct hashmap_s`, as the finite map it implements. -/
abbrev Hashmap := UInt64 → Option Node

def hashmap_get (m : Hashmap) (key : UInt64) : Option Node := m key

/-- A successful `hashmap_put`; an existing entry is overwritten. -/
def hashmap_put (m : Hashmap) (key : UInt64) (n : Node) : Hashmap :=
  Function.update m key (some n)

def hashmap_remove (m : Hashmap) (key : UInt64) : Hashmap :=
  Function.update m key none

/-- `TAILQ_REMOVE`. -/
def tailq_remove (q : List Node) (n : Node) : List Node := q.erase n

/-- `TAILQ_INSERT_TAIL`. -/
def tailq_insert_tail (q : List Node) (n : Node) : List Node := q ++ [n]

/-- One cache: its `_map`, the `head` and `size` of its `_queue`, and its
    `max_cache_size`. -/
structure Cache where
  map : Hashmap
  head : List Node
  size : Int
  max_cache_size : Int

/-- The statics of `cache.c`, selected by type as its `switch`es do, with the
    calls of `destroy_item_callback_fn` so far (oldest first) and the next
    block `malloc` returns. -/
structure Caches where
  cache : DiscoCacheType → Cache
  destroyed : List (DiscoCacheType × DiscordStructure)
  next_addr : Nat

/-- Functional update of one cache. -/
def Caches.set_cache (st : Caches) (ty : DiscoCacheType) (c : Cache) : Caches :=
  { st with cache := Function.update st.cache ty c }

@[simp] theorem Caches.set_cache_same (st : Caches) (ty : DiscoCacheType) (c : Cache) :
    (st.set_cache ty c).cache ty = c := by
  simp [Caches.set_cache]

@[simp] theorem Caches.set_cache_other (st : Caches) {ty ty' : DiscoCacheType} (c : Cache)
    (h : ty' ≠ ty) : (st.set_cache ty c).cache ty' = st.cache ty' := by
  simp [Caches.set_cache, h]

@[simp] theorem Caches.set_cache_destroyed (st : Caches) (ty : DiscoCacheType) (c : Cache) :
    (st.set_cache ty c).destroyed = st.destroyed := rfl

@[simp] theorem Caches.set_cache_next_addr (st : Caches) (ty : DiscoCacheType) (c : Cache) :
    (st.set_cache ty c).next_addr = st.next_addr := rfl

/-! ### Operations -/

/-- The clamp `discord_cache_init` applies to each configured size. -/
def clamp_cache_size (size : Int) : Int := if size < 2 then 2 else size

/-- `discord_cache_init`, when `hashmap_create` succeeds. -/
def discord_cache_init (message_cache_size channel_cache_size guild_cache_size : Int) : Caches where
  cache := fun ty =>
    { map := fun _ => none
      head := []
      size := 0
      max_cache_size := clamp_cache_size <|
        match ty with
        | .message_cache => message_cache_size
        | .channel_cache => channel_cache_size
        | .guild_cache => guild_cache_size }
  destroyed := []
  next_addr := 0

/-- The queue after the node mapped for `id`, if there is one, is put back at
    its tail. -/
def Cache.touch (c : Cache) (id : UInt64) : List Node :=
  match hashmap_get c.map id with
  | some old => tailq_insert_tail (tailq_remove c.head old) old
  | none => c.head

/-- `discord_cache_get`. -/
def discord_cache_get (st : Caches) (ty : DiscoCacheType) (id : UInt64) :
    Option DiscordStructure × Caches :=
  let c := st.cache ty
  match hashmap_get c.map id with
  | some n => (some n.data, st.set_cache ty { c with head := c.touch id })
  | none => (none, st)

theorem discord_cache_get_mapped {st : Caches} {ty : DiscoCacheType} {id : UInt64} {n : Node}
    (hm : hashmap_get (st.cache ty).map id = some n) :
    discord_cache_get st ty id =
      (some n.data, st.set_cache ty { st.cache ty with head := (st.cache ty).touch id }) := by
  simp only [discord_cache_get, hm]

theorem discord_cache_get_unmapped {st : Caches} {ty : DiscoCacheType} {id : UInt64}
    (hm : hashmap_get (st.cache ty).map id = none) :
    discord_cache_get st ty id = (none, st) := by
  simp only [discord_cache_get, hm]

/-- The cache after `discord_cache_delete` has unlinked the node `n` that is
    mapped for `id`. -/
def Cache.unlink (c : Cache) (id : UInt64) (n : Node) : Cache :=
  { c with
    head := tailq_remove c.head n
    map := hashmap_remove c.map id
    size := c.size - 1 }

/-- `discord_cache_delete`. -/
def discord_cache_delete (st : Caches) (ty : DiscoCacheType) (id : UInt64) : Caches :=
  let c := st.cache ty
  match hashmap_get c.map id with
  | some n =>
    { st.set_cache ty (c.unlink id n) with
      destroyed := st.destroyed ++ [(ty, n.data)] }
  | none => st

theorem discord_cache_delete_mapped {st : Caches} {ty : DiscoCacheType} {id : UInt64} {n : Node}
    (hm : hashmap_get (st.cache ty).map id = some n) :
    discord_cache_delete st ty id =
      { st.set_cache ty ((st.cache ty).unlink id n) with
        destroyed := st.destroyed ++ [(ty, n.data)] } := by
  simp only [discord_cache_delete, hm]

theorem discord_cache_delete_unmapped {st : Caches} {ty : DiscoCacheType} {id : UInt64}
    (hm : hashmap_get (st.cache ty).map id = none) :
    discord_cache_delete st ty id = st := by
  simp only [discord_cache_delete, hm]

/-- The loop that cleans up older entries: each round deletes by the id of
    the structure at the head of the queue. -/
def cleanup_older_entries (ty : DiscoCacheType) : Nat → Caches → Option Caches
  | 0, st => some st
  | i + 1, st =>
    match (st.cache ty).head with
    | first :: _ => cleanup_older_entries ty i (discord_cache_delete st ty first.data.id)
    | [] => none

/-- The cache once `discord_cache_set` has linked the new node `n`. -/
def Cache.link (c : Cache) (n : Node) : Cache :=
  { c with
    map := hashmap_put c.map n.alloc_id n
    head := tailq_insert_tail (c.touch n.alloc_id) n
    size := c.size + 1 }

/-- The node `discord_cache_set` allocates for `cont`. -/
def Caches.new_node (st : Caches) (cont : DiscordStructure) : Node :=
  { addr := st.next_addr, alloc_id := cont.id, data := cont }

/-- All of `discord_cache_set` up to its cleanup. -/
def Caches.insert (st : Caches) (ty : DiscoCacheType) (cont : DiscordStructure) : Caches :=
  { st.set_cache ty ((st.cache ty).link (st.new_node cont)) with
    next_addr := st.next_addr + 1 }

/-- `discord_cache_set`, where `put_rc` is what `hashmap_put` reports. When
    it fails, the queue has been reordered and the counter bumped already. -/
def discord_cache_set (st : Caches) (ty : DiscoCacheType) (cont : DiscordStructure)
    (put_rc : Int) : Option (Int × Caches) :=
  let c := st.cache ty
  if put_rc ≠ 0 then
    some (1, { st.set_cache ty { c with head := c.touch cont.id, size := c.size + 1 } with
      next_addr := st.next_addr + 1 })
  else
    let st := st.insert ty cont
    let c := st.cache ty
    if c.max_cache_size < c.size then
      (cleanup_older_entries ty (c.size - c.max_cache_size).toNat st).map fun st => (0, st)
    else
      some (0, st)

/-! ### Runs -/

/-- A call into the cache. -/
inductive CacheCall where
  | set (ty : DiscoCacheType) (cont : DiscordStructure)
  | get (ty : DiscoCacheType) (id : UInt64)
  | delete (ty : DiscoCacheType) (id : UInt64)
  deriving DecidableEq, Repr

/-- The state a call leaves, with `hashmap_put` succeeding. -/
def CacheCall.exec (st : Caches) : CacheCall → Option Caches
  | .set ty cont => (discord_cache_set st ty cont 0).map Prod.snd
  | .get ty id => some (discord_cache_get st ty id).2
  | .delete ty id => some (discord_cache_delete st ty id)

/-- The cache under any sequence of calls after `discord_cache_init`. -/
def cache_system (message_cache_size channel_cache_size guild_cache_size : Int) :
    System Caches CacheCall :=
  System.ofFn (discord_cache_init message_cache_size channel_cache_size guild_cache_size)
    CacheCall.exec

/-- The structure a call hands to a cache. -/
def CacheCall.passed : CacheCall → Option (DiscoCacheType × DiscordStructure)
  | .set ty cont => some (ty, cont)
  | .get _ _ => none
  | .delete _ _ => none

/-- Every set passes a structure that no set before it has passed. -/
def FreshSets (calls : List CacheCall) : Prop :=
  ((calls.filterMap CacheCall.passed).map fun p => p.2.ptr).Nodup

instance (calls : List CacheCall) : Decidable (FreshSets calls) :=
  inferInstanceAs (Decidable (List.Nodup _))

/-- The structure a call sets for `id` in the cache `ty`. -/
def CacheCall.sets (ty : DiscoCacheType) (id : UInt64) : CacheCall → Option DiscordStructure
  | .set ty' cont => if ty' = ty ∧ cont.id = id then some cont else none
  | .get _ _ => none
  | .delete _ _ => none

/-- The structure most recently set for `id` in the cache `ty`. -/
def latest_set (ty : DiscoCacheType) (id : UInt64) (calls : List CacheCall) :
    Option DiscordStructure :=
  (calls.filterMap (CacheCall.sets ty id)).getLast?

theorem latest_set_snoc (ty : DiscoCacheType) (id : UInt64) (calls : List CacheCall)
    (call : CacheCall) :
    latest_set ty id (calls ++ [call]) =
      (call.sets ty id).or (latest_set ty id calls) := by
  unfold latest_set
  cases h : call.sets ty id with
  | none => simp [List.filterMap_append, h]
  | some s => simp [List.filterMap_append, h]

end DiscoC
