import Mathlib.Data.List.Count
import DiscoC.Utils.CacheInvariant

/-! # Callbacks that use the cache

  The destroy callback may call the cache again. `discord_cache_set` and
  `discord_cache_delete` keep `map` and `queue` in static variables, which a
  nested call points to its own cache. The loop of `discord_cache_set` and
  the last line of `discord_cache_delete` go on with whatever these variables
  point to when the callback returns.

  A call that waits for a callback is a frame on a stack. The callback itself
  is the environment: it makes any calls and then returns.
-/

namespace DiscoC

/-! ### Data -/

/-- A call that waits for the destroy callback. -/
inductive CacheFrame where
  /-- `discord_cache_delete`, with its parameter `type`. -/
  | deleting (type : DiscoCacheType)
  /-- The loop of `discord_cache_set`, with the rounds that are left. -/
  | cleaning (type : DiscoCacheType) (left : Nat)
  deriving DecidableEq, Repr

/-- The caches, where the static variables `map` and `queue` of two of the
    functions point, and the calls that wait, innermost first. -/
structure ReentrantCaches where
  caches : Caches
  set_queue : Option DiscoCacheType
  delete_queue : Option DiscoCacheType
  frames : List CacheFrame

/-- What the program does next: it calls the cache, from the outside or from
    the callback that runs, or the callback returns. -/
inductive ReentrantLabel where
  | call (call : CacheCall)
  | callback_returns

/-! ### Operations -/

/-- The cache when `discord_cache_delete` calls back: the node is unlinked,
    the counter is as before. -/
def Cache.detach (c : Cache) (id : UInt64) (n : Node) : Cache :=
  { c with head := tailq_remove c.head n, map := hashmap_remove c.map id }

/-- `discord_cache_delete`, up to the callback if there is a node. -/
def delete_begin (s : ReentrantCaches) (ty : DiscoCacheType) (id : UInt64) : ReentrantCaches :=
  let c := s.caches.cache ty
  match hashmap_get c.map id with
  | some n =>
    { s with
      delete_queue := some ty
      caches :=
        { s.caches.set_cache ty (c.detach id n) with
          destroyed := s.caches.destroyed ++ [(ty, n.data)] }
      frames := .deleting ty :: s.frames }
  | none => { s with delete_queue := some ty }

/-- `queue->size--`, the end of `discord_cache_delete`. -/
def delete_end (s : ReentrantCaches) : Option ReentrantCaches := do
  let ty ← s.delete_queue
  let c := s.caches.cache ty
  some { s with caches := s.caches.set_cache ty { c with size := c.size - 1 } }

/-- The loop of `discord_cache_set` with `left` rounds, up to a callback. -/
def clean (ty : DiscoCacheType) : Nat → ReentrantCaches → Option ReentrantCaches
  | 0, s => some s
  | left + 1, s => do
    let queue ← s.set_queue
    let first ← (s.caches.cache queue).head.head?
    -- `id` is the first field of each structure, whichever queue this is
    match hashmap_get (s.caches.cache ty).map first.data.id with
    | some _ =>
      some (delete_begin { s with frames := .cleaning ty left :: s.frames } ty first.data.id)
    | none => clean ty left (delete_begin s ty first.data.id)

/-- `discord_cache_set` when `hashmap_put` succeeds, up to a callback. -/
def set_begin (s : ReentrantCaches) (ty : DiscoCacheType) (cont : DiscordStructure) :
    Option ReentrantCaches :=
  let s := { s with set_queue := some ty, caches := s.caches.insert ty cont }
  let c := s.caches.cache ty
  clean ty (if c.max_cache_size < c.size then (c.size - c.max_cache_size).toNat else 0) s

/-- One step. `none` stands for an access through the null pointer, and for a
    return when no callback runs. -/
def reentrant_step (s : ReentrantCaches) : ReentrantLabel → Option ReentrantCaches
  | .call (.get ty id) => some { s with caches := (discord_cache_get s.caches ty id).2 }
  | .call (.delete ty id) => some (delete_begin s ty id)
  | .call (.set ty cont) => set_begin s ty cont
  | .callback_returns =>
    match s.frames with
    | .deleting _ :: .cleaning ty left :: frames =>
      (delete_end { s with frames }).bind (clean ty left)
    | .deleting _ :: frames => delete_end { s with frames }
    | _ => none

/-- The caches after `discord_cache_init`, under any calls and callbacks. -/
def reentrant_system (message_cache_size channel_cache_size guild_cache_size : Int) :
    System ReentrantCaches ReentrantLabel :=
  .ofFn
    { caches := discord_cache_init message_cache_size channel_cache_size guild_cache_size
      set_queue := none
      delete_queue := none
      frames := [] }
    reentrant_step

/-! ### The invariant -/

/-- The cache when the calls that wait will have counted down. -/
def ReentrantCaches.settled (s : ReentrantCaches) (ty : DiscoCacheType) : Cache :=
  { s.caches.cache ty with
    size := (s.caches.cache ty).size - s.frames.count (.deleting ty) }

/-- Apart from the calls that wait, every cache is well formed. -/
def ReentrantInv (s : ReentrantCaches) : Prop :=
  ∀ ty, CacheOk s.caches.next_addr (s.settled ty)

/-- When the callback returns, `queue` of `discord_cache_delete` points to
    the cache that the structure was taken from. -/
def ReturnsToQueue (s : ReentrantCaches) : ReentrantLabel → Prop
  | .call _ => True
  | .callback_returns =>
    match s.frames with
    | .deleting ty :: _ => s.delete_queue = some ty
    | _ => True

instance (s : ReentrantCaches) (lab : ReentrantLabel) : Decidable (ReturnsToQueue s lab) := by
  unfold ReturnsToQueue
  split <;> try split
  all_goals infer_instance

theorem delete_begin_mapped {s : ReentrantCaches} {ty : DiscoCacheType} {id : UInt64} {n : Node}
    (hm : hashmap_get (s.caches.cache ty).map id = some n) :
    delete_begin s ty id =
      { s with
        delete_queue := some ty
        caches :=
          { s.caches.set_cache ty ((s.caches.cache ty).detach id n) with
            destroyed := s.caches.destroyed ++ [(ty, n.data)] }
        frames := .deleting ty :: s.frames } := by
  simp only [delete_begin, hm]

theorem delete_begin_unmapped {s : ReentrantCaches} {ty : DiscoCacheType} {id : UInt64}
    (hm : hashmap_get (s.caches.cache ty).map id = none) :
    delete_begin s ty id = { s with delete_queue := some ty } := by
  simp only [delete_begin, hm]

namespace ReentrantInv

variable {s s' : ReentrantCaches} {ty : DiscoCacheType}

theorem init (message_cache_size channel_cache_size guild_cache_size : Int) :
    ReentrantInv
      { caches := discord_cache_init message_cache_size channel_cache_size guild_cache_size
        set_queue := none
        delete_queue := none
        frames := [] } := by
  intro ty
  refine ⟨List.nodup_nil, ?_, ?_, ?_, rfl⟩
  · intro n hn
    cases hn
  · intro id n hm
    cases hm
  · intro n hn
    cases hn

theorem get (h : ReentrantInv s) (ty : DiscoCacheType) (id : UInt64) :
    ReentrantInv { s with caches := (discord_cache_get s.caches ty id).2 } := by
  intro ty'
  cases hm : hashmap_get (s.caches.cache ty).map id with
  | none =>
    rw [discord_cache_get_unmapped hm]
    exact h ty'
  | some n =>
    rw [discord_cache_get_mapped hm]
    by_cases hty : ty' = ty
    · subst hty
      -- the queue that `touch` computes does not depend on the counter
      have htouch : (s.settled ty').touch id = (s.caches.cache ty').touch id := rfl
      have hperm := (h ty').of_perm ((h ty').touch_perm id)
      rw [htouch] at hperm
      simpa [ReentrantCaches.settled] using hperm
    · simpa [ReentrantCaches.settled, hty] using h ty'

theorem insert (h : ReentrantInv s) (ty : DiscoCacheType) (cont : DiscordStructure) :
    ReentrantInv { s with caches := s.caches.insert ty cont } := by
  intro ty'
  by_cases hty : ty' = ty
  · subst hty
    have hlink := (h ty').link (n := s.caches.new_node cont) rfl rfl
    have hsize : (s.caches.cache ty').size + 1 - (s.frames.count (.deleting ty') : Int) =
        (s.caches.cache ty').size - s.frames.count (.deleting ty') + 1 := by omega
    simp only [ReentrantCaches.settled, Caches.insert, Caches.set_cache_same, Cache.link, hsize]
    exact hlink
  · simpa [ReentrantCaches.settled, Caches.insert, hty] using (h ty').mono (Nat.le_succ _)

/-- The frames of the loops are not counted. -/
theorem settled_cleaning (s : ReentrantCaches) (ty ty' : DiscoCacheType) (left : Nat)
    (frames : List CacheFrame) :
    { s with frames := .cleaning ty left :: frames }.settled ty' =
      { s with frames := frames }.settled ty' := by
  have hcount : (CacheFrame.cleaning ty left :: frames).count (.deleting ty') =
      frames.count (.deleting ty') := List.count_cons_of_ne (by simp)
  simp only [ReentrantCaches.settled, hcount]

theorem push_cleaning (h : ReentrantInv s) (ty : DiscoCacheType) (left : Nat) :
    ReentrantInv { s with frames := .cleaning ty left :: s.frames } := by
  intro ty'
  rw [settled_cleaning]
  exact h ty'

/-- The call that waits below the one that returns may be a loop. -/
theorem drop_cleaning {left : Nat} {ty' : DiscoCacheType} {frames : List CacheFrame}
    (h : ReentrantInv { s with frames := .deleting ty :: .cleaning ty' left :: frames }) :
    ReentrantInv { s with frames := .deleting ty :: frames } := by
  intro ty₀
  have hcount : (CacheFrame.deleting ty :: .cleaning ty' left :: frames).count (.deleting ty₀) =
      (CacheFrame.deleting ty :: frames).count (.deleting ty₀) := by
    simp [List.count_cons]
  simpa only [ReentrantCaches.settled, hcount] using h ty₀

theorem delete_begin (h : ReentrantInv s) (ty : DiscoCacheType) (id : UInt64) :
    ReentrantInv (delete_begin s ty id) := by
  intro ty'
  cases hm : hashmap_get (s.caches.cache ty).map id with
  | none =>
    rw [delete_begin_unmapped hm]
    exact h ty'
  | some n =>
    rw [delete_begin_mapped hm]
    by_cases hty : ty' = ty
    · subst hty
      have hunlink := @CacheOk.unlink _ _ (h ty') id n hm
      -- one more call waits to count the node down, which is unlinked already
      have hsize : (s.caches.cache ty').size - ((s.frames.count (.deleting ty') + 1 : Nat) : Int) =
          (s.caches.cache ty').size - s.frames.count (.deleting ty') - 1 := by omega
      simp only [ReentrantCaches.settled, Caches.set_cache_same, List.count_cons_self,
        Cache.detach, hsize]
      exact hunlink
    · have hcount : (CacheFrame.deleting ty :: s.frames).count (.deleting ty') =
          s.frames.count (.deleting ty') :=
        List.count_cons_of_ne (by simpa using Ne.symm hty)
      simpa [ReentrantCaches.settled, hty, hcount] using h ty'

/-- The counter that `discord_cache_delete` counts down is the right one. -/
theorem delete_end {frames : List CacheFrame}
    (h : ReentrantInv { s with frames := .deleting ty :: frames })
    (hqueue : s.delete_queue = some ty)
    (hend : delete_end { s with frames := frames } = some s') : ReentrantInv s' := by
  simp only [DiscoC.delete_end, hqueue, Option.bind_eq_bind, Option.bind_some,
    Option.some.injEq] at hend
  subst hend
  intro ty'
  have hinv := h ty'
  simp only [ReentrantCaches.settled] at hinv ⊢
  by_cases hty : ty' = ty
  · subst hty
    rw [List.count_cons_self] at hinv
    -- the call that returns counts its node down, and waits no more
    have hsize : (s.caches.cache ty').size - 1 - (frames.count (.deleting ty') : Int) =
        (s.caches.cache ty').size - ((frames.count (.deleting ty') + 1 : Nat) : Int) := by omega
    simp only [Caches.set_cache_same, hsize]
    exact hinv
  · rw [List.count_cons_of_ne (by simpa using Ne.symm hty)] at hinv
    simpa [hty] using hinv

theorem clean {left : Nat} (h : ReentrantInv s) (hclean : clean ty left s = some s') :
    ReentrantInv s' := by
  induction left generalizing s with
  | zero =>
    obtain rfl := Option.some.inj hclean
    exact h
  | succ left ih =>
    simp only [DiscoC.clean, Option.bind_eq_bind, Option.bind_eq_some_iff] at hclean
    obtain ⟨queue, -, first, -, hclean⟩ := hclean
    split at hclean
    · obtain rfl := Option.some.inj hclean
      exact (h.push_cleaning ty left).delete_begin ty first.data.id
    · exact ih (h.delete_begin ty first.data.id) hclean

/-- **Step lemma**: a step keeps the invariant, as long as a callback returns
    to the queue it was called for. -/
theorem step (h : ReentrantInv s) {lab : ReentrantLabel} (hlab : ReturnsToQueue s lab)
    (hstep : reentrant_step s lab = some s') : ReentrantInv s' := by
  cases lab with
  | call call =>
    cases call with
    | get ty id =>
      obtain rfl := Option.some.inj hstep
      exact h.get ty id
    | delete ty id =>
      obtain rfl := Option.some.inj hstep
      exact h.delete_begin ty id
    | set ty cont =>
      exact clean (s := { s with set_queue := some ty, caches := s.caches.insert ty cont })
        (h.insert ty cont) hstep
  | callback_returns =>
    obtain ⟨caches, set_queue, delete_queue, frames⟩ := s
    -- what goes on depends on the call below: a loop takes its next round
    match frames with
    | [] => cases hstep
    | .cleaning _ _ :: _ => cases hstep
    | [.deleting ty] => exact delete_end h hlab hstep
    | .deleting ty :: .deleting ty' :: frames => exact delete_end h hlab hstep
    | .deleting ty :: .cleaning ty' left :: frames =>
      obtain ⟨t, hend, hclean⟩ := Option.bind_eq_some_iff.mp hstep
      exact clean (delete_end h.drop_cleaning hlab hend) hclean

end ReentrantInv

/-! ### When an outermost call returns -/

/-- The counter is the length of the queue, and map entries are queued. -/
def Consistent (c : Cache) : Prop :=
  c.size = c.head.length ∧ ∀ id n, hashmap_get c.map id = some n → n ∈ c.head

/-- **The caches stay consistent** in every run whose callbacks all return to
    the queue they were called for. -/
theorem reentrant_consistent (message_cache_size channel_cache_size guild_cache_size : Int)
    {s : ReentrantCaches}
    (hs : ((reentrant_system message_cache_size channel_cache_size guild_cache_size).guarded
      ReturnsToQueue).Reachable s) (hout : s.frames = []) (ty : DiscoCacheType) :
    Consistent (s.caches.cache ty) := by
  have hinv : ReentrantInv s := by
    refine System.Reachable.invariant (I := ReentrantInv) ?_ ?_ hs
    · intro s hinit
      obtain rfl : s = _ := hinit
      exact .init message_cache_size channel_cache_size guild_cache_size
    · intro s lab s' _ ih hstep
      exact ih.step hstep.1 hstep.2
  have hok := hinv ty
  simp only [ReentrantCaches.settled, hout, List.count_nil, Int.ofNat_zero, Int.sub_zero] at hok
  exact ⟨hok.counter, fun id n hm => (hok.mapped id n hm).1⟩

/-- Three messages in a cache of two; the callback for the first one puts it
    into the channel cache. -/
def put_back_elsewhere : List ReentrantLabel :=
  [.call (.set .message_cache ⟨0, 1⟩), .call (.set .message_cache ⟨1, 2⟩),
    .call (.set .message_cache ⟨2, 3⟩), .call (.set .channel_cache ⟨3, 1⟩), .callback_returns]

theorem reentrant_consistent_put_back : ∃ s : ReentrantCaches, s.frames = [] ∧
    Consistent (s.caches.cache .message_cache) ∧
    ((s.caches.cache .message_cache).size, (s.caches.cache .channel_cache).size) = (2, 1) := by
  obtain ⟨s, hs, hout, hsize⟩ : ∃ s : ReentrantCaches, put_back_elsewhere.foldlM
      (fun s lab => if ReturnsToQueue s lab then reentrant_step s lab else none)
      { caches := discord_cache_init 2 2 2
        set_queue := none
        delete_queue := none
        frames := [] } = some s ∧ s.frames = [] ∧
      ((s.caches.cache .message_cache).size, (s.caches.cache .channel_cache).size) = (2, 1) :=
    ⟨_, rfl, rfl, rfl⟩
  exact ⟨s, hout, reentrant_consistent 2 2 2 ⟨_, System.run_guarded_iff.mpr hs⟩ hout .message_cache,
    hsize⟩

/-- A message is deleted; its callback deletes a channel that is not cached. -/
def delete_other_type : List ReentrantLabel :=
  [.call (.set .message_cache ⟨0, 1⟩), .call (.delete .message_cache 1),
    .call (.delete .channel_cache 5), .callback_returns]

/-- The counter of the wrong queue is counted down. -/
theorem wrong_queue_counted : ∃ s : ReentrantCaches,
    (reentrant_system 2 2 2).Run delete_other_type s ∧ s.frames = [] ∧
    ((s.caches.cache .message_cache).size, (s.caches.cache .channel_cache).size) = (1, -1) ∧
    ¬ Consistent (s.caches.cache .message_cache) ∧
    ¬ Consistent (s.caches.cache .channel_cache) := by
  obtain ⟨s, hs, hout, hsize, hmessages, hchannels⟩ : ∃ s : ReentrantCaches,
      delete_other_type.foldlM reentrant_step
        { caches := discord_cache_init 2 2 2
          set_queue := none
          delete_queue := none
          frames := [] } = some s ∧ s.frames = [] ∧
      ((s.caches.cache .message_cache).size, (s.caches.cache .channel_cache).size) = (1, -1) ∧
      (s.caches.cache .message_cache).head = [] ∧ (s.caches.cache .channel_cache).head = [] :=
    ⟨_, rfl, rfl, rfl, rfl, rfl⟩
  obtain ⟨hmessage, hchannel⟩ := Prod.mk.inj hsize
  refine ⟨s, System.run_ofFn_iff.mpr hs, hout, hsize, ?_, ?_⟩
  · rintro ⟨hcounter, -⟩
    rw [hmessage, hmessages] at hcounter
    exact absurd hcounter (by decide)
  · rintro ⟨hcounter, -⟩
    rw [hchannel, hchannels] at hcounter
    exact absurd hcounter (by decide)

end DiscoC
