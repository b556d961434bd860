import DiscoC.Utils.CacheCapacity

/-! # Sets that fail

  When `hashmap_put` reports failure, `discord_cache_set` returns 1. By then
  it has put the node mapped for the id back at the tail and has counted the
  new node, which it neither links nor takes off the counter again.

  * `counter_drift`: in every reachable state the counter of a cache is the
    length of its queue and the number of sets that have failed on it.
  * `failed_set_never_intact`: no failed set leaves its cache as it was.
  * `capacity_lost`: every failed set costs the cache one place.
  * `few_failures_total`: the cleanup meets no empty queue while no more sets
    have failed on a cache than it may hold.
-/

namespace DiscoC

/-! ### Runs with failures -/

/-- A call into the cache, with what `hashmap_put` reports if the call makes
    it. -/
structure PutCall where
  call : CacheCall
  put_rc : Int
  deriving DecidableEq, Repr

def PutCall.exec (st : Caches) (c : PutCall) : Option Caches :=
  match c.call with
  | .set ty cont => (discord_cache_set st ty cont c.put_rc).map Prod.snd
  | .get ty id => some (discord_cache_get st ty id).2
  | .delete ty id => some (discord_cache_delete st ty id)

/-- The cache under any sequence of calls, `hashmap_put` failing at any of
    them. -/
def cache_put_system (message_cache_size channel_cache_size guild_cache_size : Int) :
    System Caches PutCall :=
  System.ofFn (discord_cache_init message_cache_size channel_cache_size guild_cache_size)
    PutCall.exec

/-- The call is a set on the cache `ty`, and it fails. -/
def PutCall.fails (ty : DiscoCacheType) (c : PutCall) : Bool :=
  match c.call with
  | .set ty' _ => ty' = ty && c.put_rc ≠ 0
  | .get _ _ => false
  | .delete _ _ => false

/-- The number of sets that failed on the cache `ty`. -/
def failed_sets (ty : DiscoCacheType) (calls : List PutCall) : Nat :=
  calls.countP (PutCall.fails ty)

/-- The map, the queue with its order and the counter are as before. -/
structure CacheIntact (c c' : Cache) : Prop where
  map : c'.map = c.map
  head : c'.head = c.head
  size : c'.size = c.size

/-- The state a failed set leaves. -/
def Caches.failed (st : Caches) (ty : DiscoCacheType) (cont : DiscordStructure) : Caches :=
  { st.set_cache ty { st.cache ty with
      head := (st.cache ty).touch cont.id
      size := (st.cache ty).size + 1 } with
    next_addr := st.next_addr + 1 }

theorem discord_cache_set_failed {st : Caches} {ty : DiscoCacheType} {cont : DiscordStructure}
    {put_rc : Int} (hfail : put_rc ≠ 0) :
    discord_cache_set st ty cont put_rc = some (1, st.failed ty cont) := by
  unfold discord_cache_set
  rw [if_pos hfail]
  rfl

/-! ### The counter set right

    `st.uncounted k` is `st` with `k ty` taken off the counter of the cache
    `ty`. Only the bound on the cleanup reads a counter, so the operations
    commute with the correction. -/

def Caches.uncounted (st : Caches) (k : DiscoCacheType → Int) : Caches :=
  { st with cache := fun ty => { st.cache ty with size := (st.cache ty).size - k ty } }

section uncounted

variable (st : Caches) (k : DiscoCacheType → Int) (ty : DiscoCacheType)

theorem uncounted_set_cache (c : Cache) :
    (st.set_cache ty c).uncounted k =
      (st.uncounted k).set_cache ty { c with size := c.size - k ty } := by
  unfold Caches.uncounted Caches.set_cache
  congr 1
  funext ty'
  by_cases hty : ty' = ty
  · subst hty
    simp
  · simp [hty]

theorem uncounted_get (id : UInt64) :
    (discord_cache_get (st.uncounted k) ty id).2 = (discord_cache_get st ty id).2.uncounted k := by
  cases hm : hashmap_get (st.cache ty).map id with
  | none =>
    have hm' : hashmap_get ((st.uncounted k).cache ty).map id = none := hm
    rw [discord_cache_get_unmapped hm, discord_cache_get_unmapped hm']
  | some n =>
    have hm' : hashmap_get ((st.uncounted k).cache ty).map id = some n := hm
    rw [discord_cache_get_mapped hm, discord_cache_get_mapped hm', uncounted_set_cache]
    rfl

theorem uncounted_delete (id : UInt64) :
    discord_cache_delete (st.uncounted k) ty id = (discord_cache_delete st ty id).uncounted k := by
  cases hm : hashmap_get (st.cache ty).map id with
  | none =>
    have hm' : hashmap_get ((st.uncounted k).cache ty).map id = none := hm
    rw [discord_cache_delete_unmapped hm, discord_cache_delete_unmapped hm']
  | some n =>
    have hm' : hashmap_get ((st.uncounted k).cache ty).map id = some n := hm
    have hunlink : ((st.uncounted k).cache ty).unlink id n =
        { (st.cache ty).unlink id n with size := ((st.cache ty).unlink id n).size - k ty } := by
      have hsize : (st.cache ty).size - k ty - 1 = (st.cache ty).size - 1 - k ty := by omega
      simp only [Caches.uncounted, Cache.unlink, hsize]
    rw [discord_cache_delete_mapped hm, discord_cache_delete_mapped hm', hunlink,
      ← uncounted_set_cache]
    rfl

theorem uncounted_insert (cont : DiscordStructure) :
    (st.uncounted k).insert ty cont = (st.insert ty cont).uncounted k := by
  have hlink : ((st.uncounted k).cache ty).link (st.new_node cont) =
      { (st.cache ty).link (st.new_node cont) with
        size := ((st.cache ty).link (st.new_node cont)).size - k ty } := by
    have hsize : (st.cache ty).size - k ty + 1 = (st.cache ty).size + 1 - k ty := by omega
    simp only [Caches.uncounted, Cache.link, Cache.touch, hsize]
  show { (st.uncounted k).set_cache ty (((st.uncounted k).cache ty).link (st.new_node cont)) with
    next_addr := st.next_addr + 1 } = _
  rw [hlink, ← uncounted_set_cache]
  rfl

/-- So does the whole cleanup. -/
theorem uncounted_cleanup (i : Nat) :
    cleanup_older_entries ty i (st.uncounted k) =
      (cleanup_older_entries ty i st).map fun t => t.uncounted k := by
  induction i generalizing st with
  | zero => rfl
  | succ i ih =>
    have hhead : ((st.uncounted k).cache ty).head = (st.cache ty).head := rfl
    cases hq : (st.cache ty).head with
    | nil =>
      rw [hq] at hhead
      simp only [cleanup_older_entries, hq, hhead, Option.map_none]
    | cons first rest =>
      rw [hq] at hhead
      simp only [cleanup_older_entries, hq, hhead]
      rw [uncounted_delete, ih]

end uncounted

/-! ### The drift of the counter -/

/-- With the sets that failed taken off the counters, the representation
    invariant holds. -/
structure Drifted (calls : List PutCall) (st : Caches) : Prop where
  rep : RepInv (st.uncounted fun ty => failed_sets ty calls)
  bounds : BoundsOk st

theorem failed_sets_snoc (ty : DiscoCacheType) (calls : List PutCall) (c : PutCall) :
    failed_sets ty (calls ++ [c]) = failed_sets ty calls + if c.fails ty then 1 else 0 := by
  simp [failed_sets, List.countP_append, List.countP_singleton]

theorem failed_sets_failed {ty : DiscoCacheType} {calls : List PutCall} {cont : DiscordStructure}
    {rc : Int} (hfail : rc ≠ 0) :
    failed_sets ty (calls ++ [⟨.set ty cont, rc⟩]) = failed_sets ty calls + 1 := by
  rw [failed_sets_snoc]
  simp [PutCall.fails, hfail]

namespace Drifted

variable {calls : List PutCall} {st st' : Caches}

/-- A call that does not fail leaves the correction as it is. -/
theorem of_rep (hb : BoundsOk st') {c : PutCall} (hok : ∀ ty, c.fails ty = false)
    (hrep : RepInv (st'.uncounted fun ty => failed_sets ty calls)) :
    Drifted (calls ++ [c]) st' where
  rep := by
    have hsame : (fun ty => (failed_sets ty (calls ++ [c]) : Int)) =
        fun ty => (failed_sets ty calls : Int) := by
      funext ty
      rw [failed_sets_snoc, hok ty]
      rfl
    rw [hsame]
    exact hrep
  bounds := hb

theorem init (m c g : Int) : Drifted [] (discord_cache_init m c g) where
  rep := by
    intro ty
    have h := RepInv.init m c g ty
    exact ⟨h.distinct, h.below, h.mapped, h.stored, rfl⟩
  bounds := BoundsOk.init m c g

theorem get (h : Drifted calls st) (ty : DiscoCacheType) (id : UInt64) (rc : Int) :
    Drifted (calls ++ [⟨.get ty id, rc⟩]) (discord_cache_get st ty id).2 := by
  have hb : BoundsOk (discord_cache_get st ty id).2 := fun ty' => by simpa using h.bounds ty'
  have hrep := h.rep.get ty id
  rw [uncounted_get] at hrep
  exact of_rep hb (fun _ => rfl) hrep

theorem delete (h : Drifted calls st) (ty : DiscoCacheType) (id : UInt64) (rc : Int) :
    Drifted (calls ++ [⟨.delete ty id, rc⟩]) (discord_cache_delete st ty id) := by
  have hb : BoundsOk (discord_cache_delete st ty id) := fun ty' => by simpa using h.bounds ty'
  have hrep := h.rep.delete ty id
  rw [uncounted_delete] at hrep
  exact of_rep hb (fun _ => rfl) hrep

theorem set (h : Drifted calls st) {ty : DiscoCacheType} {cont : DiscordStructure} {rc : Int}
    (hset : discord_cache_set st ty cont 0 = some (rc, st')) :
    Drifted (calls ++ [⟨.set ty cont, 0⟩]) st' := by
  have hb : BoundsOk st' := discord_cache_set_preserves (P := BoundsOk)
    (fun _ _ hP ty' => by simpa using hP ty') (fun ty' => by simpa using h.bounds ty') hset
  -- the insertion and the deletions after it commute with the correction
  have hins := h.rep.insert ty cont
  rw [uncounted_insert] at hins
  have hdel : ∀ t id, RepInv (t.uncounted fun ty => failed_sets ty calls) →
      RepInv ((discord_cache_delete t ty id).uncounted fun ty => failed_sets ty calls) := by
    intro t id ht
    rw [← uncounted_delete]
    exact ht.delete ty id
  have hrep := discord_cache_set_preserves
    (P := fun t => RepInv (t.uncounted fun ty => failed_sets ty calls)) hdel hins hset
  exact of_rep hb (fun ty' => by simp [PutCall.fails]) hrep

/-- A failed set moves the correction by one, in its own cache only. -/
theorem failed (h : Drifted calls st) (ty : DiscoCacheType) (cont : DiscordStructure) {rc : Int}
    (hfail : rc ≠ 0) : Drifted (calls ++ [⟨.set ty cont, rc⟩]) (st.failed ty cont) where
  rep := by
    intro ty'
    have hold := h.rep ty'
    by_cases hty : ty' = ty
    · subst hty
      have hcount : failed_sets ty' (calls ++ [⟨.set ty' cont, rc⟩]) =
          failed_sets ty' calls + 1 := failed_sets_failed hfail
      have htouch := (hold.of_perm (hold.touch_perm cont.id)).mono (Nat.le_succ st.next_addr)
      -- the counter and the correction both go up by one
      have hsize : (st.cache ty').size + 1 - ((failed_sets ty' calls + 1 : Nat) : Int) =
          (st.cache ty').size - failed_sets ty' calls := by omega
      simp only [Caches.uncounted, Caches.failed, Caches.set_cache_same, hcount, hsize]
      exact htouch
    · have hcount : failed_sets ty' (calls ++ [⟨.set ty cont, rc⟩]) = failed_sets ty' calls := by
        rw [failed_sets_snoc]
        simp [PutCall.fails, Ne.symm hty]
      simp only [Caches.uncounted, Caches.failed, Caches.set_cache_other _ _ hty, hcount]
      exact hold.mono (Nat.le_succ st.next_addr)
  bounds := by
    intro ty'
    have hb := h.bounds ty'
    by_cases hty : ty' = ty
    · subst hty
      simpa [Caches.failed] using hb
    · simpa [Caches.failed, hty] using hb

/-- **Step lemma**: every call, failed or not, keeps the account. -/
theorem exec (h : Drifted calls st) {c : PutCall} (hexec : c.exec st = some st') :
    Drifted (calls ++ [c]) st' := by
  obtain ⟨call, rc⟩ := c
  cases call with
  | get ty id =>
    obtain rfl := Option.some.inj hexec
    exact h.get ty id rc
  | delete ty id =>
    obtain rfl := Option.some.inj hexec
    exact h.delete ty id rc
  | set ty cont =>
    obtain ⟨⟨ret, t⟩, hset, rfl⟩ := Option.map_eq_some_iff.mp hexec
    have hset : discord_cache_set st ty cont rc = some (ret, t) := hset
    by_cases hrc : rc = 0
    · subst hrc
      exact h.set hset
    · rw [discord_cache_set_failed hrc] at hset
      obtain rfl := (Prod.mk.inj (Option.some.inj hset)).2
      exact h.failed ty cont hrc

theorem run {m c g : Int} (hrun : (cache_put_system m c g).Run calls st) : Drifted calls st := by
  apply System.Run.invariant (I := Drifted) ?_ ?_ hrun
  · intro s hs
    have hs : s = discord_cache_init m c g := hs
    rw [hs]
    exact init m c g
  · intro ls l s s' _ ih hstep
    exact ih.exec hstep

theorem counter (h : Drifted calls st) (ty : DiscoCacheType) :
    (st.cache ty).size = (st.cache ty).head.length + failed_sets ty calls := by
  have hcount : (st.cache ty).size - failed_sets ty calls = (st.cache ty).head.length :=
    (h.rep ty).counter
  omega

end Drifted

/-- **Drift.** In every reachable state the counter of a cache is the length
    of its queue and the number of sets that have failed on it. -/
theorem counter_drift (message_cache_size channel_cache_size guild_cache_size : Int)
    (calls : List PutCall) (st : Caches)
    (hrun : (cache_put_system message_cache_size channel_cache_size guild_cache_size).Run calls st)
    (ty : DiscoCacheType) :
    (st.cache ty).size = (st.cache ty).head.length + failed_sets ty calls :=
  (Drifted.run hrun).counter ty

/-- The queue of a failed set keeps its order exactly when the id has no
    entry or its node is the last one. -/
theorem failed_head_iff {calls : List PutCall} {st : Caches} (h : Drifted calls st)
    (ty : DiscoCacheType) (cont : DiscordStructure) :
    ((st.failed ty cont).cache ty).head = (st.cache ty).head ↔
      ∀ n, hashmap_get (st.cache ty).map cont.id = some n →
        (st.cache ty).head.getLast? = some n := by
  have hhead : ((st.failed ty cont).cache ty).head = (st.cache ty).touch cont.id := by
    simp [Caches.failed]
  rw [hhead]
  cases hm : hashmap_get (st.cache ty).map cont.id with
  | none => simp [Cache.touch, hm]
  | some n =>
    have hmem : n ∈ (st.cache ty).head := ((h.rep ty).mapped cont.id n hm).1
    have hnodup : (st.cache ty).head.Nodup := (h.rep ty).nodup
    have htouch : (st.cache ty).touch cont.id = (st.cache ty).head.erase n ++ [n] := by
      simp [Cache.touch, hm, tailq_insert_tail, tailq_remove]
    rw [htouch]
    constructor
    · intro heq m hm'
      obtain rfl := Option.some.inj hm'
      rw [← heq, List.getLast?_concat]
    · intro hlast
      have hlast := hlast n rfl
      -- the last of a queue without duplicates is erased where it stands
      obtain ⟨init, hinit⟩ := List.getLast?_eq_some_iff.mp hlast
      rw [hinit] at hnodup ⊢
      have hnot : n ∉ init := by
        have hdisj := (List.nodup_append.mp hnodup).2.2
        intro hin
        exact hdisj n hin n (List.mem_singleton_self n) rfl
      rw [List.erase_append_right _ hnot]
      simp

/-- **Failed sets.** In every reachable state, whatever has failed before, a
    set for which `hashmap_put` reports failure returns 1 and does not leave
    its cache intact: the map stays, the counter is one too high for good. -/
theorem failed_set_never_intact (message_cache_size channel_cache_size guild_cache_size : Int)
    (calls : List PutCall) (st : Caches) (ty : DiscoCacheType) (cont : DiscordStructure)
    (put_rc : Int)
    (hrun : (cache_put_system message_cache_size channel_cache_size guild_cache_size).Run calls st)
    (hfail : put_rc ≠ 0) :
    ∃ st', discord_cache_set st ty cont put_rc = some (1, st') ∧
      ¬ CacheIntact (st.cache ty) (st'.cache ty) ∧
      (st'.cache ty).map = (st.cache ty).map ∧
      (st'.cache ty).size = (st'.cache ty).head.length + (failed_sets ty calls + 1) := by
  have hdrift := Drifted.run hrun
  have hafter := (hdrift.failed ty cont hfail).counter ty
  rw [failed_sets_failed hfail] at hafter
  -- the counter is enough to tell the two states apart
  have hsize : ((st.failed ty cont).cache ty).size = (st.cache ty).size + 1 := by
    simp [Caches.failed]
  use st.failed ty cont
  constructor
  · exact discord_cache_set_failed hfail
  constructor
  · intro hintact
    have := hintact.size
    omega
  constructor
  · simp [Caches.failed]
  · rw [hafter]
    omega

/-- A set, a set that fails and a lookup. -/
def put_calls : List PutCall :=
  [⟨.set .message_cache ⟨0, 1⟩, 0⟩, ⟨.set .message_cache ⟨1, 2⟩, 1⟩, ⟨.get .message_cache 1, 0⟩]

/-- After that, another set fails, of the message that is cached. -/
theorem second_set_failed : ∃ st, (cache_put_system 2 2 2).Run put_calls st ∧
    ∃ st', discord_cache_set st .message_cache ⟨2, 1⟩ 1 = some (1, st') ∧
      ¬ CacheIntact (st.cache .message_cache) (st'.cache .message_cache) ∧
      (st'.cache .message_cache).map = (st.cache .message_cache).map ∧
      (st'.cache .message_cache).size = (st'.cache .message_cache).head.length + (1 + 1) := by
  have hrun : ∃ st, (cache_put_system 2 2 2).Run put_calls st :=
    ⟨_, System.run_ofFn_iff.mpr rfl⟩
  obtain ⟨st, hrun⟩ := hrun
  exact ⟨st, hrun, failed_set_never_intact 2 2 2 put_calls st .message_cache ⟨2, 1⟩ 1 hrun
    (by decide)⟩

/-- An empty cache counts one entry after a set that failed. -/
theorem failed_set_counted :
    ¬ ∀ (message_cache_size channel_cache_size guild_cache_size : Int) (calls : List PutCall)
      (st : Caches) (ty : DiscoCacheType) (cont : DiscordStructure) (put_rc : Int),
      (cache_put_system message_cache_size channel_cache_size guild_cache_size).Run calls st →
        put_rc ≠ 0 → ∃ st', discord_cache_set st ty cont put_rc = some (1, st') ∧
          CacheIntact (st.cache ty) (st'.cache ty) := by
  intro hall
  have hrun : (cache_put_system 2 2 2).Run [] (discord_cache_init 2 2 2) := System.Run.start rfl
  obtain ⟨st', hset, hintact⟩ := hall 2 2 2 [] _ .message_cache ⟨0, 1⟩ 1 hrun (by decide)
  rw [discord_cache_set_failed (by decide)] at hset
  obtain rfl := (Prod.mk.inj (Option.some.inj hset)).2
  exact absurd hintact.size (by decide)

/-! ### What later calls meet -/

section later

variable {message_cache_size channel_cache_size guild_cache_size : Int} {calls : List PutCall}
  {st st' : Caches} {ty : DiscoCacheType}

/-- **Lost places.** After a set that succeeds, the queue and the sets that
    have failed on the cache share its bound, unless the head is shadowed. -/
theorem capacity_lost {cont : DiscordStructure}
    (hrun : (cache_put_system message_cache_size channel_cache_size guild_cache_size).Run calls st)
    (hset : discord_cache_set st ty cont 0 = some (0, st')) :
    ((st'.cache ty).head.length + failed_sets ty calls : Int) ≤ (st.cache ty).max_cache_size ∨
      HeadShadowed (st'.cache ty) := by
  have hcount := ((Drifted.run hrun).set hset).counter ty
  have hsame : failed_sets ty (calls ++ [⟨.set ty cont, 0⟩]) = failed_sets ty calls := by
    rw [failed_sets_snoc]
    simp [PutCall.fails]
  rw [hsame] at hcount
  rw [discord_cache_set_zero, Option.map_eq_some_iff] at hset
  obtain ⟨t, ht, heq⟩ := hset
  obtain rfl := (Prod.mk.inj heq).2
  rw [insert_max_cache_size] at ht
  -- as many rounds as the counter is over the bound
  rcases cleanup_spec ht with hsize | hshadowed
  · left
    omega
  · exact .inr hshadowed

/-- No call dereferences `NULL` while no more sets have failed on a cache
    than it may hold. -/
theorem few_failures_total
    (hrun : (cache_put_system message_cache_size channel_cache_size guild_cache_size).Run calls st)
    (hfew : ∀ ty, (failed_sets ty calls : Int) ≤ (st.cache ty).max_cache_size) (c : PutCall) :
    ∃ st', c.exec st = some st' := by
  have hdrift := Drifted.run hrun
  obtain ⟨call, rc⟩ := c
  cases call with
  | get ty id => exact ⟨_, rfl⟩
  | delete ty id => exact ⟨_, rfl⟩
  | set ty cont =>
    show ∃ st', (discord_cache_set st ty cont rc).map Prod.snd = some st'
    by_cases hrc : rc = 0
    · subst hrc
      have hins := hdrift.rep.insert ty cont
      rw [uncounted_insert] at hins
      have hcount := hdrift.counter ty
      have hlen : ((st.insert ty cont).cache ty).head.length = (st.cache ty).head.length + 1 := by
        have hperm := (hdrift.rep ty).touch_perm cont.id
        have htouch : ((st.cache ty).touch cont.id).length = (st.cache ty).head.length :=
          hperm.length_eq
        rw [insert_head, List.length_append, htouch, List.length_singleton]
      have hmax := hfew ty
      -- the rounds the drift adds still find a node each
      obtain ⟨t, ht⟩ := hins.cleanup_total ty
        (k := (((st.insert ty cont).cache ty).size -
          ((st.insert ty cont).cache ty).max_cache_size).toNat) (by
            show _ ≤ ((st.insert ty cont).cache ty).head.length
            rw [hlen, insert_size, insert_max_cache_size]
            omega)
      rw [uncounted_cleanup, Option.map_eq_some_iff] at ht
      obtain ⟨u, hu, -⟩ := ht
      rw [discord_cache_set_zero, hu]
      exact ⟨u, rfl⟩
    · rw [discord_cache_set_failed hrc]
      exact ⟨_, rfl⟩

/-- One failure more, and the cleanup of the next set reads an empty queue. -/
example :
    ([⟨.set .message_cache ⟨0, 1⟩, 1⟩, ⟨.set .message_cache ⟨1, 2⟩, 1⟩,
      ⟨.set .message_cache ⟨2, 3⟩, 1⟩, ⟨.set .message_cache ⟨3, 4⟩, 0⟩].foldlM PutCall.exec
        (discord_cache_init 2 2 2)).isNone = true := by
  decide

end later

end DiscoC
