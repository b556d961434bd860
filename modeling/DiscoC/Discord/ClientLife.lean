import DiscoC.Discord.ClientCache
import DiscoC.Utils.CacheLife

/-! # What a client decodes is destroyed

  `discord_start_bot` ends with `discord_cache_destroy`. Until then, what a
  client does is for its cache a run of calls: those that the events make
  (`EventData.cache_calls`) and those of the bot. Each event puts a structure
  that it has just decoded, in a block that no other one has.

  So at the end every message and channel that has been decoded for the
  cache has been destroyed once, whatever the ids were and however small the
  caches are (`decoded_destroyed_once`).
-/

namespace DiscoC

/-! ### The calls of an event -/

/-- The structure that an event puts into a cache. -/
def EventData.cached : EventData → List (DiscoCacheType × DiscordStructure)
  | .channel_create channel | .channel_update channel =>
    [(.channel_cache, ⟨channel.address, channel.id⟩)]
  | .message_create message | .message_update message =>
    [(.message_cache, ⟨message.address, message.id⟩)]
  | _ => []

/-- The calls of the cache that an event makes once it is read. -/
def EventData.cache_calls : EventData → List CacheCall
  | .channel_create channel => [.set .channel_cache ⟨channel.address, channel.id⟩]
  | .channel_update channel =>
    [.get .channel_cache channel.id, .set .channel_cache ⟨channel.address, channel.id⟩]
  | .channel_delete id _ _ _ => if id = 0 then [] else [.get .channel_cache id]
  | .message_create message => [.set .message_cache ⟨message.address, message.id⟩]
  | .message_update message =>
    [.get .message_cache message.id, .set .message_cache ⟨message.address, message.id⟩]
  | .message_delete id _ _ => if id = 0 then [] else [.get .message_cache id]
  | _ => []

theorem EventData.cache_calls_passed (read : EventData) :
    read.cache_calls.filterMap CacheCall.passed = read.cached := by
  cases read with
  | channel_delete id guild_id parent_id type =>
    show (if id = 0 then [] else [CacheCall.get .channel_cache id]).filterMap _ = []
    by_cases hid : id = 0 <;> simp [hid, CacheCall.passed]
  | message_delete id channel_id guild_id =>
    show (if id = 0 then [] else [CacheCall.get .message_cache id]).filterMap _ = []
    by_cases hid : id = 0 <;> simp [hid, CacheCall.passed]
  | _ => rfl

theorem EventData.cached_addresses (read : EventData) :
    (read.cached.map fun p => p.2.ptr) = read.addresses := by
  cases read <;> rfl

section calls
variable {client client' : Client}

theorem run_caches {α : Type} {x : CMem α} {a : α} (h : client.run x = some (a, client')) :
    client'.caches = client.caches := by
  obtain ⟨r, -, heq⟩ := Option.map_eq_some_iff.mp h
  cases heq
  rfl

theorem set_message_caches {message : Message}
    (h : client.discord_cache_set_message message = some client') :
    CacheCall.exec client.caches (.set .message_cache ⟨message.address, message.id⟩) =
      some client'.caches := by
  obtain ⟨r, hset, rfl⟩ := Option.map_eq_some_iff.mp h
  exact congrArg (Option.map Prod.snd) hset

theorem set_channel_caches {channel : Channel}
    (h : client.discord_cache_set_channel channel = some client') :
    CacheCall.exec client.caches (.set .channel_cache ⟨channel.address, channel.id⟩) =
      some client'.caches := by
  obtain ⟨r, hset, rfl⟩ := Option.map_eq_some_iff.mp h
  exact congrArg (Option.map Prod.snd) hset

/-- A lookup leaves the cache as the call does, whatever it answers. -/
theorem get_cached_caches {α : Type} {caches caches' : Caches} {ty : DiscoCacheType}
    {heap : Nat → Option α} {id : UInt64} {answer : Option α}
    (h : Client.get_cached caches ty heap id = some (answer, caches')) :
    caches' = (discord_cache_get caches ty id).2 := by
  unfold Client.get_cached at h
  cases hget : discord_cache_get caches ty id with
  | mk found caches₁ =>
    rw [hget] at h
    cases found with
    | none =>
      cases h
      rfl
    | some s =>
      obtain ⟨a, -, heq⟩ := Option.map_eq_some_iff.mp h
      cases heq
      rfl

theorem get_message_caches {id : UInt64} {answer : Option Message}
    (h : client.discord_cache_get_message id = some (answer, client')) :
    client'.caches = (discord_cache_get client.caches .message_cache id).2 := by
  obtain ⟨r, hget, heq⟩ := Option.map_eq_some_iff.mp h
  cases heq
  exact get_cached_caches hget

theorem get_channel_caches {id : UInt64} {answer : Option Channel}
    (h : client.discord_cache_get_channel id = some (answer, client')) :
    client'.caches = (discord_cache_get client.caches .channel_cache id).2 := by
  obtain ⟨r, hget, heq⟩ := Option.map_eq_some_iff.mp h
  cases heq
  exact get_cached_caches hget

theorem copy_cached_message_caches {id : UInt64} {old : Option Message}
    (h : client.copy_cached_message id = some (old, client')) :
    client'.caches = (discord_cache_get client.caches .message_cache id).2 := by
  obtain ⟨⟨answer, client₁⟩, hget, hrun⟩ := Option.bind_eq_some_iff.mp h
  exact (run_caches hrun).trans (get_message_caches hget)

theorem copy_cached_channel_caches {id : UInt64} {old : Option Channel}
    (h : client.copy_cached_channel id = some (old, client')) :
    client'.caches = (discord_cache_get client.caches .channel_cache id).2 := by
  obtain ⟨⟨answer, client₁⟩, hget, hrun⟩ := Option.bind_eq_some_iff.mp h
  exact (run_caches hrun).trans (get_channel_caches hget)

theorem foldlM_set {st st' : Caches} {ty : DiscoCacheType} {cont : DiscordStructure}
    (h : CacheCall.exec st (.set ty cont) = some st') :
    [CacheCall.set ty cont].foldlM CacheCall.exec st = some st' := by
  rw [List.foldlM_cons, h]
  rfl

/-- **Refinement** of one event: its calls leave the cache as it does. -/
theorem event_cached_calls {callbacks : Callbacks} {read : EventData}
    {call : Option CallbackCall} (h : client.event_cached callbacks read = some (call, client')) :
    read.cache_calls.foldlM CacheCall.exec client.caches = some client'.caches := by
  cases read with
  | ready user session_id =>
    obtain ⟨⟨u, client₁⟩, hrun, heq⟩ := Option.bind_eq_some_iff.mp h
    cases heq
    exact congrArg some (run_caches hrun).symm
  | channel_create channel =>
    obtain ⟨⟨copy, client₁⟩, hrun, h⟩ := Option.bind_eq_some_iff.mp h
    obtain ⟨client₂, hset, heq⟩ := Option.bind_eq_some_iff.mp h
    cases heq
    have hcall := set_channel_caches hset
    rw [run_caches hrun] at hcall
    exact foldlM_set hcall
  | channel_update channel =>
    obtain ⟨⟨old, client₁⟩, hold, h⟩ := Option.bind_eq_some_iff.mp h
    obtain ⟨⟨new, client₂⟩, hrun, h⟩ := Option.bind_eq_some_iff.mp h
    obtain ⟨client₃, hset, heq⟩ := Option.bind_eq_some_iff.mp h
    cases heq
    have hcall := set_channel_caches hset
    rw [run_caches hrun, copy_cached_channel_caches hold] at hcall
    exact foldlM_set hcall
  | channel_delete id guild_id parent_id type =>
    simp only [Client.event_cached, Option.bind_eq_bind] at h
    by_cases hid : id = 0
    · rw [if_neg (not_not.mpr hid)] at h
      cases h
      simp [EventData.cache_calls, hid]
    · rw [if_pos hid] at h
      obtain ⟨⟨old, client₁⟩, hold, heq⟩ := Option.bind_eq_some_iff.mp h
      cases heq
      simp [EventData.cache_calls, hid, CacheCall.exec, copy_cached_channel_caches hold]
  | message_create message =>
    obtain ⟨⟨copy, client₁⟩, hrun, h⟩ := Option.bind_eq_some_iff.mp h
    obtain ⟨client₂, hset, heq⟩ := Option.bind_eq_some_iff.mp h
    cases heq
    have hcall := set_message_caches hset
    rw [run_caches hrun] at hcall
    exact foldlM_set hcall
  | message_update message =>
    obtain ⟨⟨old, client₁⟩, hold, h⟩ := Option.bind_eq_some_iff.mp h
    obtain ⟨⟨new, client₂⟩, hrun, h⟩ := Option.bind_eq_some_iff.mp h
    obtain ⟨client₃, hset, heq⟩ := Option.bind_eq_some_iff.mp h
    cases heq
    have hcall := set_message_caches hset
    rw [run_caches hrun, copy_cached_message_caches hold] at hcall
    exact foldlM_set hcall
  | message_delete id channel_id guild_id =>
    simp only [Client.event_cached, Option.bind_eq_bind] at h
    by_cases hid : id = 0
    · rw [if_neg (not_not.mpr hid)] at h
      cases h
      simp [EventData.cache_calls, hid]
    · rw [if_pos hid] at h
      obtain ⟨⟨old, client₁⟩, hold, heq⟩ := Option.bind_eq_some_iff.mp h
      cases heq
      simp [EventData.cache_calls, hid, CacheCall.exec, copy_cached_message_caches hold]
  | interaction_create interaction =>
    cases h
    rfl
  | ignored =>
    cases h
    rfl

end calls

/-! ### Runs -/

/-- What a step of a client puts into a cache. -/
def ClientStep.cached (callbacks : Callbacks) (client : Client) :
    ClientStep → List (DiscoCacheType × DiscordStructure)
  | .event data name =>
    ((client.run (event_read (some callbacks) data name)).map fun r => r.1.cached).getD []
  | _ => []

/-- A client, with all that has been put into its caches. -/
structure ClientLife extends ClientHistory where
  cached : List (DiscoCacheType × DiscordStructure)

def ClientLife.exec (callbacks : Callbacks) (s : ClientLife) (call : ClientStep) :
    Option ClientLife :=
  (s.toClientHistory.exec callbacks call).map fun history => {
    toClientHistory := history
    cached := s.cached ++ call.cached callbacks s.client }

/-- A client from its first event on. -/
def life_system (callbacks : Callbacks)
    (message_cache_size channel_cache_size guild_cache_size : Int) :
    System ClientLife ClientStep :=
  .ofFn
    { client := Client.init message_cache_size channel_cache_size guild_cache_size
      messages := .empty
      channels := .empty
      cached := [] }
    (ClientLife.exec callbacks)

section steps
variable {callbacks : Callbacks} {s s' : ClientHistory} {call : ClientStep}

/-- **Refinement**: a step of a client is a run of calls for its caches. -/
theorem ClientHistory.exec_calls (h : s.exec callbacks call = some s') :
    ∃ calls : List CacheCall,
      calls.foldlM CacheCall.exec s.client.caches = some s'.client.caches ∧
      calls.filterMap CacheCall.passed = call.cached callbacks s.client := by
  cases call with
  | event data event =>
    obtain ⟨⟨read, client₁⟩, hread, h⟩ := Option.bind_eq_some_iff.mp h
    obtain ⟨⟨call, client'⟩, hhandle, heq⟩ := Option.bind_eq_some_iff.mp h
    cases heq
    have hcached : client₁.event_cached callbacks read = some (call, client') := by
      rw [Client.event_handle, hread] at hhandle
      exact hhandle
    refine ⟨read.cache_calls, ?_, ?_⟩
    · rw [← run_caches hread]
      exact event_cached_calls hcached
    · rw [EventData.cache_calls_passed, ClientStep.cached, hread]
      rfl
  | get_message id =>
    obtain ⟨⟨answer, client'⟩, hget, heq⟩ := Option.bind_eq_some_iff.mp h
    cases heq
    exact ⟨[.get .message_cache id], congrArg some (get_message_caches hget).symm, rfl⟩
  | get_channel id =>
    obtain ⟨⟨answer, client'⟩, hget, heq⟩ := Option.bind_eq_some_iff.mp h
    cases heq
    exact ⟨[.get .channel_cache id], congrArg some (get_channel_caches hget).symm, rfl⟩
  | delete_message id =>
    cases h
    exact ⟨[.delete .message_cache id], rfl, rfl⟩
  | delete_channel id =>
    cases h
    exact ⟨[.delete .channel_cache id], rfl, rfl⟩

/-- What a step puts is in blocks that are allocated in this step. -/
theorem ClientHistory.exec_fresh {ms cs : Int}
    (hok : ClientOk ms cs s.client.next s.client s.messages s.channels)
    (h : s.exec callbacks call = some s') :
    s.client.next ≤ s'.client.next ∧ ∀ p ∈ call.cached callbacks s.client,
      s.client.next ≤ p.2.ptr ∧ p.2.ptr < s'.client.next := by
  cases call with
  | event data event =>
    obtain ⟨⟨read, client₁⟩, hread, h⟩ := Option.bind_eq_some_iff.mp h
    obtain ⟨⟨call, client'⟩, hhandle, heq⟩ := Option.bind_eq_some_iff.mp h
    cases heq
    rcases event_handled hok callbacks data event with hhandled | hnone
    · obtain ⟨read', log, call', client'', hrun, hhandle', -, hnext, -⟩ := hhandled
      rw [s.client.run_eq hrun] at hread
      cases hread
      rw [hhandle] at hhandle'
      cases hhandle'
      refine ⟨(Nat.le_add_right _ _).trans hnext, fun p hp => ?_⟩
      rw [ClientStep.cached, s.client.run_eq hrun] at hp
      have hmem : p.2.ptr ∈ read.addresses := by
        rw [← EventData.cached_addresses]
        exact List.mem_map_of_mem hp
      -- the block was allocated while the event was read
      rcases event_read_supplies callbacks data event _ read log hrun _ hmem with hnil | hnew
      · exact absurd hnil List.not_mem_nil
      · exact ⟨hnew.1, Nat.lt_of_lt_of_le hnew.2 hnext⟩
    · rw [hnone.1] at hhandle
      cases hhandle
  | get_message id =>
    obtain ⟨⟨answer, client'⟩, hget, heq⟩ := Option.bind_eq_some_iff.mp h
    cases heq
    obtain ⟨answer', client'', hget', -, hnext, -⟩ := hok.get_message id
    rw [hget] at hget'
    cases hget'
    exact ⟨Nat.le_of_eq hnext.symm, fun p hp => absurd hp List.not_mem_nil⟩
  | get_channel id =>
    obtain ⟨⟨answer, client'⟩, hget, heq⟩ := Option.bind_eq_some_iff.mp h
    cases heq
    obtain ⟨answer', client'', hget', -, hnext, -⟩ := hok.get_channel id
    rw [hget] at hget'
    cases hget'
    exact ⟨Nat.le_of_eq hnext.symm, fun p hp => absurd hp List.not_mem_nil⟩
  | delete_message id =>
    cases h
    exact ⟨le_refl _, fun p hp => absurd hp List.not_mem_nil⟩
  | delete_channel id =>
    cases h
    exact ⟨le_refl _, fun p hp => absurd hp List.not_mem_nil⟩

/-- A step puts one structure at most. -/
theorem ClientStep.cached_length (callbacks : Callbacks) (client : Client) (call : ClientStep) :
    (call.cached callbacks client).length ≤ 1 := by
  cases call with
  | event data event =>
    rw [ClientStep.cached]
    cases client.run (event_read (some callbacks) data event) with
    | none => exact Nat.zero_le 1
    | some r =>
      show r.1.cached.length ≤ 1
      cases r.1 <;> simp [EventData.cached]
  | _ => exact Nat.zero_le 1

end steps

/-- **Invariant** of the life of a client. -/
structure LifeOk (message_cache_size channel_cache_size guild_cache_size : Int)
    (s : ClientLife) : Prop where
  client : ClientOk (clamp_cache_size message_cache_size) (clamp_cache_size channel_cache_size)
    s.client.next s.client s.messages s.channels
  caches : ∃ calls,
    (cache_system message_cache_size channel_cache_size guild_cache_size).Run calls
      s.client.caches ∧ calls.filterMap CacheCall.passed = s.cached
  below : ∀ p ∈ s.cached, p.2.ptr < s.client.next
  fresh : (s.cached.map fun p => p.2.ptr).Nodup

/-- **Step lemma.** -/
theorem LifeOk.exec {callbacks : Callbacks} {m c g : Int} {s s' : ClientLife} (h : LifeOk m c g s)
    {call : ClientStep} (hexec : s.exec callbacks call = some s') : LifeOk m c g s' := by
  obtain ⟨history, hstep, rfl⟩ := Option.map_eq_some_iff.mp hexec
  obtain ⟨hnext, hblocks⟩ := ClientHistory.exec_fresh h.client hstep
  refine ⟨ClientHistory.exec_ok h.client hstep, ?_, ?_, ?_⟩
  · obtain ⟨calls, hrun, hpassed⟩ := h.caches
    obtain ⟨calls', hcalls, hpassed'⟩ := ClientHistory.exec_calls hstep
    refine ⟨calls ++ calls', hrun.append_ofFn hcalls, ?_⟩
    rw [List.filterMap_append, hpassed, hpassed']
  · intro p hp
    rcases List.mem_append.mp hp with hold | hnew
    · exact Nat.lt_of_lt_of_le (h.below p hold) hnext
    · exact (hblocks p hnew).2
  · show ((s.cached ++ call.cached callbacks s.client).map fun p => p.2.ptr).Nodup
    rw [List.map_append, List.nodup_append]
    refine ⟨h.fresh, ?_, ?_⟩
    · have hone := ClientStep.cached_length callbacks s.client call
      match hcached : call.cached callbacks s.client with
      | [] => exact List.nodup_nil
      | [p] => exact List.nodup_singleton _
      | p :: q :: rest =>
        rw [hcached] at hone
        simp at hone
    · -- a block of this step is above all blocks so far
      intro q hq q' hq' heq
      obtain ⟨p, hp, rfl⟩ := List.mem_map.mp hq
      obtain ⟨p', hp', rfl⟩ := List.mem_map.mp hq'
      have hlt := h.below p hp
      have hle := (hblocks p' hp').1
      omega

/-- **Run lemma.** -/
theorem life_ok {callbacks : Callbacks} {m c g : Int} {s : ClientLife}
    (h : (life_system callbacks m c g).Reachable s) : LifeOk m c g s := by
  refine System.Reachable.invariant (I := LifeOk m c g) ?_ ?_ h
  · intro s hs
    rw [show s = _ from hs]
    exact ⟨ClientOk.init m c g, ⟨[], .start rfl, rfl⟩, fun p hp => absurd hp List.not_mem_nil,
      List.nodup_nil⟩
  · intro s call s' _ hok hstep
    exact hok.exec hstep

/-- **What is decoded for the cache is destroyed exactly once.** However a
    client has run, when it ends with `discord_cache_destroy`, each structure
    that it has put into a cache has been destroyed once, with the type of
    this cache. No other has, and they are in blocks of their own. -/
theorem decoded_destroyed_once {callbacks : Callbacks}
    {message_cache_size channel_cache_size guild_cache_size : Int} {s : ClientLife}
    (h : (life_system callbacks message_cache_size channel_cache_size
      guild_cache_size).Reachable s) :
    (discord_cache_destroy s.client.caches).destroyed.Perm s.cached ∧
      (s.cached.map fun p => p.2.ptr).Nodup := by
  have hok := life_ok h
  obtain ⟨calls, hrun, hpassed⟩ := hok.caches
  have hperm : (discord_cache_destroy s.client.caches).destroyed.Perm s.cached := by
    rw [← Multiset.coe_eq_coe, destroyed_eq_accounted, ← hpassed]
    exact (run_cacheInv hrun).accounts
  exact ⟨hperm, hok.fresh⟩

/-- A channel has been created and updated. -/
theorem life_kept : ∃ s, (life_system (channel_callbacks true) 1000 1000 1000).Run
    [.event (some id_channel) (some "CHANNEL_CREATE"),
      .event (some id_channel) (some "CHANNEL_UPDATE")] s ∧ s.cached.length = 2 :=
  ⟨_, System.run_ofFn_iff.mpr rfl, rfl⟩

theorem decoded_destroyed_once_kept : ∃ s : ClientLife, s.cached.length = 2 ∧
    (discord_cache_destroy s.client.caches).destroyed.Perm s.cached ∧
      (s.cached.map fun p => p.2.ptr).Nodup := by
  obtain ⟨s, hrun, hlength⟩ := life_kept
  exact ⟨s, hlength, decoded_destroyed_once ⟨_, hrun⟩⟩

end DiscoC
