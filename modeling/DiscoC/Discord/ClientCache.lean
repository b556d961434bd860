import DiscoC.Discord.CacheVersions
import DiscoC.Discord.ChannelCopying
import DiscoC.Discord.CopyAgain
import DiscoC.Discord.OldVersions

/-! # What a client serves from its cache

  A client decodes the messages and channels of its events, puts them into
  the cache, and looks them up again: for the old versions that its callbacks
  are given, and for the bot.

  `ClientHistory` keeps the maps of versions beside the client. `Called` says
  in terms of these maps which callback an event leads to. In every run, the
  cache serves the maps: the bot and the callbacks are given the latest
  version of a message or channel, or null if it had to make room, and no
  event fails because of what is in the cache.
-/

namespace DiscoC

open Mem

/-! ### Runs of a client -/

/-- `discord_cache_delete_message`. -/
def Client.discord_cache_delete_message (client : Client) (id : UInt64) : Client :=
  { client with caches := discord_cache_delete client.caches .message_cache id }

/-- `discord_cache_delete_channel`. -/
def Client.discord_cache_delete_channel (client : Client) (id : UInt64) : Client :=
  { client with caches := discord_cache_delete client.caches .channel_cache id }

def cached_messages : CacheOf Message :=
  ⟨.message_cache, fun m => ⟨m.address, m.id⟩, _d_copy_message⟩

def cached_channels : CacheOf Channel :=
  ⟨.channel_cache, fun ch => ⟨ch.address, ch.id⟩, _d_copy_channel⟩

/-- A client, with the messages and channels that have been put into its
    cache. -/
structure ClientHistory where
  client : Client
  messages : Versions Message
  channels : Versions Channel

/-- What a client is asked to do: to handle an event, or a call of the
    bot. -/
inductive ClientStep where
  | event (data : Option CJson) (event : Option String)
  | get_message (id : UInt64)
  | get_channel (id : UInt64)
  | delete_message (id : UInt64)
  | delete_channel (id : UInt64)

/-- The messages with the one that an event puts. -/
def EventData.put_message (v : Versions Message) : EventData → Versions Message
  | .message_create message | .message_update message => v.put message.id message
  | _ => v

/-- The channels with the one that an event puts. -/
def EventData.put_channel (v : Versions Channel) : EventData → Versions Channel
  | .channel_create channel | .channel_update channel => v.put channel.id channel
  | _ => v

def ClientHistory.exec (callbacks : Callbacks) (s : ClientHistory) :
    ClientStep → Option ClientHistory
  | .event data event => do
    let (read, _) ← s.client.run (event_read (some callbacks) data event)
    let (_, client) ← s.client.event_handle callbacks data event
    some {
      client
      messages := read.put_message s.messages
      channels := read.put_channel s.channels }
  | .get_message id => do
    let (_, client) ← s.client.discord_cache_get_message id
    some { s with client }
  | .get_channel id => do
    let (_, client) ← s.client.discord_cache_get_channel id
    some { s with client }
  | .delete_message id => some { s with
      client := s.client.discord_cache_delete_message id
      messages := s.messages.delete id }
  | .delete_channel id => some { s with
      client := s.client.discord_cache_delete_channel id
      channels := s.channels.delete id }

/-- A client with its callbacks, from its first event on. -/
def client_system (callbacks : Callbacks)
    (message_cache_size channel_cache_size guild_cache_size : Int) :
    System ClientHistory ClientStep :=
  .ofFn
    { client := Client.init message_cache_size channel_cache_size guild_cache_size
      messages := .empty
      channels := .empty }
    (ClientHistory.exec callbacks)

/-! ### What an event is to lead to -/

/-- Old versions are looked up if an id is given. -/
def old_version {α : Type} (v : Versions α) (size : Int) (id : UInt64) (copy : α → CMem α)
    (lo hi : Nat) (old : Option α) : Prop :=
  if id = 0 then old = none else v.AnswersCopy size id copy lo hi old

/-- The callback that is called for an event, in terms of what has been put.
    The callbacks are given copies, in blocks from `lo` up to `hi`, the old
    version before the new one. -/
inductive Called (callbacks : Callbacks) (message_cache_size channel_cache_size : Int)
    (messages : Versions Message) (channels : Versions Channel) (lo hi : Nat) :
    EventData → Option CallbackCall → Prop
  | ready (user : Option User) (session_id : Option CStr) :
      Called callbacks message_cache_size channel_cache_size messages channels lo hi
        (.ready user session_id) (if callbacks.on_ready then some .on_ready else none)
  | channel_create {channel copy : Channel}
      (h : (_d_copy_channel channel).ResultIn lo hi copy) :
      Called callbacks message_cache_size channel_cache_size messages channels lo hi
        (.channel_create channel) (some (.on_channel_create copy))
  | channel_update {channel new : Channel} {old : Option Channel} {mid : Nat} (hmid : lo ≤ mid)
      (hold : channels.AnswersCopy channel_cache_size channel.id _d_copy_channel lo mid old)
      (hnew : (_d_copy_channel channel).ResultIn mid hi new) :
      Called callbacks message_cache_size channel_cache_size messages channels lo hi
        (.channel_update channel) (some (.on_channel_update old new))
  | channel_delete {id guild_id parent_id : UInt64} {type : Int} {old : Option Channel}
      (hold : old_version channels channel_cache_size id _d_copy_channel lo hi old) :
      Called callbacks message_cache_size channel_cache_size messages channels lo hi
        (.channel_delete id guild_id parent_id type)
        (some (.on_channel_delete id guild_id parent_id type old))
  | message_create {message copy : Message}
      (h : (_d_copy_message message).ResultIn lo hi copy) :
      Called callbacks message_cache_size channel_cache_size messages channels lo hi
        (.message_create message) (some (.on_message copy))
  | message_update {message new : Message} {old : Option Message} {mid : Nat} (hmid : lo ≤ mid)
      (hold : messages.AnswersCopy message_cache_size message.id _d_copy_message lo mid old)
      (hnew : (_d_copy_message message).ResultIn mid hi new) :
      Called callbacks message_cache_size channel_cache_size messages channels lo hi
        (.message_update message) (some (.on_message_edit old new))
  | message_delete {id channel_id guild_id : UInt64} {old : Option Message}
      (hold : old_version messages message_cache_size id _d_copy_message lo hi old) :
      Called callbacks message_cache_size channel_cache_size messages channels lo hi
        (.message_delete id channel_id guild_id)
        (some (.on_message_delete id channel_id guild_id old))
  | interaction_create (interaction : Interaction) :
      Called callbacks message_cache_size channel_cache_size messages channels lo hi
        (.interaction_create interaction) (some (.on_interaction_create interaction))
  | ignored :
      Called callbacks message_cache_size channel_cache_size messages channels lo hi .ignored none

/-- The message of an event can be copied. A channel always can. -/
def EventData.Copyable : EventData → Prop
  | .message_create message | .message_update message =>
    ∃ copy, (_d_copy_message message).Result copy
  | _ => True

/-! ### Blocks of what is decoded -/

/-- The block of the structure that an event puts. -/
def EventData.addresses : EventData → List Nat
  | .message_create message | .message_update message => [message.address]
  | .channel_create channel | .channel_update channel => [channel.address]
  | _ => []

theorem message_address_supplies (data : CJson) :
    Supplies [] (_d_json_to_message data) fun m => [m.address] := by
  rw [_d_json_to_message]
  refine (Supplies.alloc _).bind fun address => ?_
  repeat refine Supplies.skip fun _ => ?_
  exact Supplies.pure fun q hq => hq

theorem channel_address_supplies (data : CJson) :
    Supplies [] (_d_json_to_channel data) fun ch => [ch.address] := by
  unfold _d_json_to_channel
  refine (Supplies.alloc _).bind fun address => ?_
  repeat refine Supplies.skip fun _ => ?_
  exact Supplies.pure fun q hq => hq

/-- What an event puts is in a block that was allocated for it. -/
theorem event_read_supplies (callbacks : Callbacks) (data : Option CJson)
    (event : Option String) :
    Supplies [] (event_read (some callbacks) data event) EventData.addresses := by
  have hif : ∀ {callback : Bool} {x : CMem EventData}, Supplies [] x EventData.addresses →
      Supplies [] (read_if callback x) EventData.addresses := by
    intro callback x hx
    cases callback with
    | false => exact Supplies.pure fun q hq => hq
    | true => exact hx
  cases event with
  | none =>
    intro n a log hrun
    cases hrun
  | some event =>
    unfold event_read
    dsimp only
    cases event_branch event with
    | ready =>
      refine Supplies.skip fun _ => Supplies.skip fun _ => ?_
      exact Supplies.pure fun q hq => hq
    | channel_create | channel_update =>
      refine hif ((channel_address_supplies _).bind fun channel => ?_)
      exact Supplies.pure fun q hq => hq
    | channel_delete =>
      exact hif (Supplies.skip fun _ => Supplies.pure fun q hq => hq)
    | message_create | message_update =>
      refine hif ((message_address_supplies _).bind fun message => ?_)
      exact Supplies.pure fun q hq => hq
    | message_delete => exact hif (Supplies.pure fun q hq => hq)
    | interaction_create =>
      exact hif (Supplies.skip fun _ => Supplies.pure fun q hq => hq)
    | ignored => exact Supplies.pure fun q hq => hq

/-! ### The invariant -/

theorem Client.run_eq (client : Client) {α : Type} {x : CMem α} {a : α}
    {log : List (Event StructType)} (h : x.run client.next = some (a, log)) :
    client.run x = some (a, { client with next := client.next + (allocs log).length }) := by
  rw [Client.run, h]
  rfl

/-- The caches hold distinct structures, all in blocks below `bound`. -/
def CachesOk (bound : Nat) (st : Caches) : Prop :=
  ∃ calls, CacheInv calls st ∧ FreshSets calls ∧
    ∀ p ∈ calls.filterMap CacheCall.passed, p.2.ptr < bound

namespace CachesOk
variable {bound bound' : Nat} {st : Caches}

theorem init (m c g : Int) (bound : Nat) : CachesOk bound (discord_cache_init m c g) :=
  ⟨[], CacheInv.init m c g, List.nodup_nil, fun _ hp => absurd hp List.not_mem_nil⟩

theorem mono (h : CachesOk bound st) (hle : bound ≤ bound') : CachesOk bound' st := by
  obtain ⟨calls, hinv, hsets, hbound⟩ := h
  exact ⟨calls, hinv, hsets, fun p hp => Nat.lt_of_lt_of_le (hbound p hp) hle⟩

/-- A call that puts nothing. -/
theorem call (h : CachesOk bound st) (call : CacheCall) {st' : Caches}
    (hcall : call.passed = none) (hexec : call.exec st = some st') : CachesOk bound st' := by
  obtain ⟨calls, hinv, hsets, hbound⟩ := h
  have hpassed : (calls ++ [call]).filterMap CacheCall.passed =
      calls.filterMap CacheCall.passed := by
    simp [hcall]
  refine ⟨calls ++ [call], hinv.exec hexec, ?_, ?_⟩
  · rw [FreshSets, hpassed]
    exact hsets
  · rw [hpassed]
    exact hbound

/-- A structure is put in a block above all others. -/
theorem set (h : CachesOk bound st) (ty : DiscoCacheType) (cont : DiscordStructure)
    (hfresh : bound ≤ cont.ptr) (hbound' : cont.ptr < bound') :
    ∃ rc st', discord_cache_set st ty cont 0 = some (rc, st') ∧ CachesOk bound' st' := by
  obtain ⟨calls, hinv, hsets, hbound⟩ := h
  obtain ⟨st', hexec⟩ := hinv.exec_total (.set ty cont)
  obtain ⟨⟨rc, t⟩, hset, rfl⟩ := Option.map_eq_some_iff.mp hexec
  have hpassed : (calls ++ [CacheCall.set ty cont]).filterMap CacheCall.passed =
      calls.filterMap CacheCall.passed ++ [(ty, cont)] := by
    simp [CacheCall.passed]
  refine ⟨rc, t, hset, calls ++ [.set ty cont], hinv.set hset, ?_, ?_⟩
  · -- the block is none of those before
    rw [FreshSets, hpassed, List.map_append, List.nodup_append]
    refine ⟨hsets, List.nodup_singleton _, ?_⟩
    intro q hq q' hq' heq
    obtain ⟨p, hp, rfl⟩ := List.mem_map.mp hq
    have hlt := hbound p hp
    rw [List.map_singleton, List.mem_singleton] at hq'
    dsimp only at hq'
    omega
  · intro p hp
    rw [hpassed] at hp
    rcases List.mem_append.mp hp with hold | hnew
    · have hlt := hbound p hold
      omega
    · rw [List.mem_singleton.mp hnew]
      exact hbound'

end CachesOk

/-- **Invariant** of a client: its caches serve the maps of what has been
    put. -/
structure ClientOk (message_cache_size channel_cache_size : Int) (bound : Nat) (client : Client)
    (messages : Versions Message) (channels : Versions Channel) : Prop where
  caches : CachesOk bound client.caches
  messages : Serves cached_messages message_cache_size bound client.caches client.messages messages
  channels : Serves cached_channels channel_cache_size bound client.caches client.channels channels

namespace ClientOk
variable {ms cs : Int} {bound bound' : Nat} {client client' : Client} {messages : Versions Message}
  {channels : Versions Channel}

theorem mono (h : ClientOk ms cs bound client messages channels) (hle : bound ≤ bound') :
    ClientOk ms cs bound' client messages channels :=
  ⟨h.caches.mono hle, h.messages.mono hle, h.channels.mono hle⟩

/-- A routine that decodes, copies or destroys does not touch the caches. -/
theorem run {α : Type} {x : CMem α} {a : α} (h : ClientOk ms cs bound client messages channels)
    (hrun : client.run x = some (a, client')) :
    ClientOk ms cs bound client' messages channels ∧ client.next ≤ client'.next ∧
      x.ResultIn client.next client'.next a := by
  obtain ⟨⟨b, log⟩, hx, heq⟩ := Option.map_eq_some_iff.mp hrun
  cases heq
  refine ⟨⟨h.caches, h.messages, h.channels⟩, Nat.le_add_right _ _, client.next, log, hx, ?_, ?_⟩
  · exact le_refl _
  · exact le_refl _

theorem get_message (h : ClientOk ms cs bound client messages channels) (id : UInt64) :
    ∃ answer client', client.discord_cache_get_message id = some (answer, client') ∧
      messages.Answers ms id answer ∧ client'.next = client.next ∧
      ClientOk ms cs bound client' messages channels := by
  obtain ⟨calls, hinv, hsets, -⟩ := h.caches
  obtain ⟨answer, hget, hanswers⟩ := h.messages.answer hinv hsets id
  have hcaches : CachesOk bound (discord_cache_get client.caches .message_cache id).2 :=
    h.caches.call (.get .message_cache id) rfl rfl
  refine ⟨answer, _, congrArg _ hget, hanswers, rfl, hcaches, ?_, ?_⟩
  · exact h.messages.get _ id
  · exact h.channels.get _ id

theorem get_channel (h : ClientOk ms cs bound client messages channels) (id : UInt64) :
    ∃ answer client', client.discord_cache_get_channel id = some (answer, client') ∧
      channels.Answers cs id answer ∧ client'.next = client.next ∧
      ClientOk ms cs bound client' messages channels := by
  obtain ⟨calls, hinv, hsets, -⟩ := h.caches
  obtain ⟨answer, hget, hanswers⟩ := h.channels.answer hinv hsets id
  have hcaches : CachesOk bound (discord_cache_get client.caches .channel_cache id).2 :=
    h.caches.call (.get .channel_cache id) rfl rfl
  refine ⟨answer, _, congrArg _ hget, hanswers, rfl, hcaches, ?_, ?_⟩
  · exact h.messages.get _ id
  · exact h.channels.get _ id

theorem delete_message (h : ClientOk ms cs bound client messages channels) (id : UInt64) :
    ClientOk ms cs bound (client.discord_cache_delete_message id) (messages.delete id)
      channels where
  caches := h.caches.call (.delete .message_cache id) rfl rfl
  messages := h.messages.delete id
  channels := h.channels.other (delete_other (by decide) id)

theorem delete_channel (h : ClientOk ms cs bound client messages channels) (id : UInt64) :
    ClientOk ms cs bound (client.discord_cache_delete_channel id) messages
      (channels.delete id) where
  caches := h.caches.call (.delete .channel_cache id) rfl rfl
  messages := h.messages.other (delete_other (by decide) id)
  channels := h.channels.delete id

/-- A message is put that has been decoded since and can be copied. -/
theorem set_message (h : ClientOk ms cs bound client messages channels) {message : Message}
    (hfresh : bound ≤ message.address) (hbound : message.address < bound')
    (hcopy : ((_d_copy_message message).run 0).isSome = true) :
    ∃ client', client.discord_cache_set_message message = some client' ∧
      client'.next = client.next ∧
      ClientOk ms cs bound' client' (messages.put message.id message) channels := by
  obtain ⟨rc, st', hset, hcaches⟩ := h.caches.set .message_cache
    ⟨message.address, message.id⟩ hfresh hbound
  unfold Client.discord_cache_set_message
  rw [hset]
  have hmessages := h.messages.set hset hfresh hbound hcopy
  have hchannels := (h.channels.other (set_other (by decide) hset)).mono
    (hfresh.trans (Nat.le_of_lt hbound))
  exact ⟨_, rfl, rfl, hcaches, hmessages, hchannels⟩

theorem set_channel (h : ClientOk ms cs bound client messages channels) {channel : Channel}
    (hfresh : bound ≤ channel.address) (hbound : channel.address < bound')
    (hcopy : ((_d_copy_channel channel).run 0).isSome = true) :
    ∃ client', client.discord_cache_set_channel channel = some client' ∧
      client'.next = client.next ∧
      ClientOk ms cs bound' client' messages (channels.put channel.id channel) := by
  obtain ⟨rc, st', hset, hcaches⟩ := h.caches.set .channel_cache
    ⟨channel.address, channel.id⟩ hfresh hbound
  unfold Client.discord_cache_set_channel
  rw [hset]
  have hchannels := h.channels.set hset hfresh hbound hcopy
  have hmessages := (h.messages.other (set_other (by decide) hset)).mono
    (hfresh.trans (Nat.le_of_lt hbound))
  exact ⟨_, rfl, rfl, hcaches, hmessages, hchannels⟩

/-! #### Copies -/

/-- What the cache answers can be copied, since it has been copied before. -/
theorem copy_answer {α : Type} {k : CacheOf α} {size : Int} {st : Caches} {heap : Nat → Option α}
    {v : Versions α} (h : Serves k size bound st heap v)
    (halike : ∀ a, (k.copy a).Alike (k.copy a)) {id : UInt64} {answer : Option α}
    (hanswers : v.Answers size id answer) (client : Client) :
    ∃ old client', client.run (Mem.unless_null answer fun a _ => k.copy a) = some (old, client') ∧
      v.AnswersCopy size id k.copy client.next client'.next old := by
  cases answer with
  | none => exact ⟨none, _, rfl, none, hanswers, .none⟩
  | some a =>
    have hlatest := hanswers.eq_some rfl
    obtain ⟨c, log, hrun⟩ := (halike a).again (k := client.next) (h.copied id a hlatest)
    have hpointer : (Mem.unless_null (some a) fun a _ => k.copy a).run client.next =
        some (some c, log ++ []) := by
      show (k.copy a >>= fun b => pure (some b)).run client.next = _
      rw [run_bind, hrun]
      rfl
    refine ⟨some c, _, client.run_eq hpointer, some a, hanswers, .some ⟨_, log, hrun, ?_, ?_⟩⟩
    · exact le_refl _
    · rw [List.append_nil]

theorem copy_cached_message (h : ClientOk ms cs bound client messages channels) (id : UInt64) :
    ∃ old client', client.copy_cached_message id = some (old, client') ∧
      messages.AnswersCopy ms id _d_copy_message client.next client'.next old ∧
      client.next ≤ client'.next ∧
      ClientOk ms cs bound client' messages channels := by
  obtain ⟨answer, client₁, hget, hanswers, hnext, hok⟩ := h.get_message id
  obtain ⟨old, client', hrun, hold⟩ :=
    copy_answer (k := cached_messages) hok.messages copy_message_alike hanswers client₁
  obtain ⟨hok', hle, -⟩ := hok.run hrun
  rw [hnext] at hold hle
  refine ⟨old, client', ?_, hold, hle, hok'⟩
  unfold Client.copy_cached_message
  rw [hget]
  exact hrun

theorem copy_cached_channel (h : ClientOk ms cs bound client messages channels) (id : UInt64) :
    ∃ old client', client.copy_cached_channel id = some (old, client') ∧
      channels.AnswersCopy cs id _d_copy_channel client.next client'.next old ∧
      client.next ≤ client'.next ∧
      ClientOk ms cs bound client' messages channels := by
  obtain ⟨answer, client₁, hget, hanswers, hnext, hok⟩ := h.get_channel id
  obtain ⟨old, client', hrun, hold⟩ :=
    copy_answer (k := cached_channels) hok.channels copy_channel_alike hanswers client₁
  obtain ⟨hok', hle, -⟩ := hok.run hrun
  rw [hnext] at hold hle
  refine ⟨old, client', ?_, hold, hle, hok'⟩
  unfold Client.copy_cached_channel
  rw [hget]
  exact hrun

/-- A message is copied for its callback and put, or it has no copy. -/
theorem put_message (h : ClientOk ms cs bound client messages channels) {message : Message}
    (hfresh : bound ≤ message.address) (hbound : message.address < client.next) :
    (∃ copy client₁ client', client.run (_d_copy_message message) = some (copy, client₁) ∧
      client₁.discord_cache_set_message message = some client' ∧
      (_d_copy_message message).ResultIn client.next client'.next copy ∧
      ClientOk ms cs client'.next client' (messages.put message.id message) channels) ∨
    client.run (_d_copy_message message) = none ∧
      ¬ ∃ copy, (_d_copy_message message).Result copy := by
  have halike := copy_message_alike message
  cases hcopy : client.run (_d_copy_message message) with
  | none =>
    -- not here, and so nowhere
    refine .inr ⟨rfl, fun hresult => ?_⟩
    obtain ⟨copy, n, log, hrun⟩ := hresult
    obtain ⟨copy', log', hrun'⟩ := halike.again (k := client.next)
      (Option.isSome_of_eq_some hrun)
    rw [client.run_eq hrun'] at hcopy
    cases hcopy
  | some r =>
    obtain ⟨copy, client₁⟩ := r
    obtain ⟨hok, hle, hresult⟩ := h.run hcopy
    obtain ⟨n, log, hrun, hlo, hhi⟩ := hresult
    obtain ⟨copy', log', hagain⟩ := halike.again (k := 0) (Option.isSome_of_eq_some hrun)
    obtain ⟨client', hset, hnext, hok'⟩ := hok.set_message hfresh
      (Nat.lt_of_lt_of_le hbound hle) (Option.isSome_of_eq_some hagain)
    refine .inl ⟨copy, client₁, client', rfl, hset, ?_⟩
    rw [hnext]
    exact ⟨⟨n, log, hrun, hlo, hhi⟩, hok'⟩

/-- A channel is copied for its callback and put. -/
theorem put_channel (h : ClientOk ms cs bound client messages channels) {channel : Channel}
    (hfresh : bound ≤ channel.address) (hbound : channel.address < client.next) :
    ∃ copy client₁ client', client.run (_d_copy_channel channel) = some (copy, client₁) ∧
      client₁.discord_cache_set_channel channel = some client' ∧
      (_d_copy_channel channel).ResultIn client.next client'.next copy ∧
      ClientOk ms cs client'.next client' messages (channels.put channel.id channel) := by
  have hreturns := copy_channel_returns channel
  obtain ⟨copy, log, hrun, -⟩ := (hreturns client.next).1 trivial
  have hcopy := client.run_eq hrun
  obtain ⟨hok, hle, hresult⟩ := h.run hcopy
  obtain ⟨client', hset, hnext, hok'⟩ := hok.set_channel hfresh
    (Nat.lt_of_lt_of_le hbound hle) ((hreturns.run_iff 0).mpr trivial)
  refine ⟨copy, _, client', hcopy, hset, ?_⟩
  rw [hnext]
  exact ⟨hresult, hok'⟩

end ClientOk

/-! ### One event -/

section event
variable {ms cs : Int} {bound : Nat} {client : Client} {messages : Versions Message}
  {channels : Versions Channel}

/-- What an event leads to once it has been read: the callback that the maps
    say, with the caches serving the maps afterwards. -/
def HandledAs (ms cs : Int) (callbacks : Callbacks) (messages : Versions Message)
    (channels : Versions Channel) (lo : Nat) (read : EventData)
    (result : Option (Option CallbackCall × Client)) : Prop :=
  (∃ call client', result = some (call, client') ∧ read.Copyable ∧ lo ≤ client'.next ∧
    Called callbacks ms cs messages channels lo client'.next read call ∧
    ClientOk ms cs client'.next client' (read.put_message messages)
      (read.put_channel channels)) ∨
  result = none ∧ ¬ read.Copyable

/-- The old version of what is deleted is looked up if there is an id. -/
theorem old_message (h : ClientOk ms cs bound client messages channels) (id : UInt64) {β : Type}
    (f : Option Message × Client → Option β) :
    ∃ old client', (if id ≠ 0 then (client.copy_cached_message id).bind f else f (none, client)) =
        f (old, client') ∧
      old_version messages ms id _d_copy_message client.next client'.next old ∧
      client.next ≤ client'.next ∧ ClientOk ms cs bound client' messages channels := by
  unfold old_version
  by_cases hid : id = 0
  · refine ⟨none, client, if_neg (not_not.mpr hid), ?_, le_refl _, h⟩
    rw [if_pos hid]
  · obtain ⟨old, client', hcopy, hold, hle, hok⟩ := h.copy_cached_message id
    refine ⟨old, client', ?_, ?_, hle, hok⟩
    · rw [if_pos hid, hcopy]
      rfl
    · rw [if_neg hid]
      exact hold

theorem old_channel (h : ClientOk ms cs bound client messages channels) (id : UInt64) {β : Type}
    (f : Option Channel × Client → Option β) :
    ∃ old client', (if id ≠ 0 then (client.copy_cached_channel id).bind f else f (none, client)) =
        f (old, client') ∧
      old_version channels cs id _d_copy_channel client.next client'.next old ∧
      client.next ≤ client'.next ∧ ClientOk ms cs bound client' messages channels := by
  unfold old_version
  by_cases hid : id = 0
  · refine ⟨none, client, if_neg (not_not.mpr hid), ?_, le_refl _, h⟩
    rw [if_pos hid]
  · obtain ⟨old, client', hcopy, hold, hle, hok⟩ := h.copy_cached_channel id
    refine ⟨old, client', ?_, ?_, hle, hok⟩
    · rw [if_pos hid, hcopy]
      rfl
    · rw [if_neg hid]
      exact hold

/-- The user of the bot is destroyed when there is another. -/
theorem user_destroyed (client : Client) (b : Bool) :
    ∃ r, client.run (if b then destroy_pointer client.user fun user _ => discord_destroy_user user
      else pure ()) = some r := by
  cases b with
  | false => exact ⟨_, rfl⟩
  | true =>
    rcases destroy_user_pointer_disposes client.user client.next with hnone | hsome
    · exact absurd trivial hnone.2
    · obtain ⟨a, log, lost, hrun, -⟩ := hsome
      exact ⟨_, client.run_eq hrun⟩

/-- **Step lemma**: the rest of an event, where what it puts has been decoded
    since. -/
theorem event_cached_handled (h : ClientOk ms cs bound client messages channels)
    (hle : bound ≤ client.next) {read : EventData}
    (hread : ∀ q ∈ read.addresses, bound ≤ q ∧ q < client.next) (callbacks : Callbacks) :
    HandledAs ms cs callbacks messages channels client.next read
      (client.event_cached callbacks read) := by
  cases read with
  | ready user session_id =>
    obtain ⟨⟨u, client₁⟩, hrun⟩ := user_destroyed client user.isSome
    obtain ⟨hok, hnext, -⟩ := h.run hrun
    refine .inl ⟨if callbacks.on_ready then some .on_ready else none,
      { client₁ with
        user := user.or client₁.user
        session_id := session_id.or client₁.session_id }, ?_, trivial, hnext,
      .ready user session_id, ?_⟩
    · rw [Client.event_cached, hrun]
      rfl
    · have hok := hok.mono (hle.trans hnext)
      exact ⟨hok.caches, hok.messages, hok.channels⟩
  | channel_create channel =>
    obtain ⟨hfresh, hbound⟩ := hread channel.address (List.mem_singleton_self _)
    obtain ⟨copy, client₁, client', hrun, hset, hresult, hok⟩ := h.put_channel hfresh hbound
    refine .inl ⟨some (.on_channel_create copy), client', ?_, trivial, hresult.le,
      .channel_create hresult, hok⟩
    rw [Client.event_cached, hrun]
    exact congrArg (Option.bind · _) hset
  | channel_update channel =>
    obtain ⟨hfresh, hbound⟩ := hread channel.address (List.mem_singleton_self _)
    obtain ⟨old, client₀, hcached, hold, hnext, hok₀⟩ := h.copy_cached_channel channel.id
    obtain ⟨new, client₁, client', hrun, hset, hresult, hok⟩ :=
      hok₀.put_channel hfresh (Nat.lt_of_lt_of_le hbound hnext)
    refine .inl ⟨some (.on_channel_update old new), client', ?_, trivial, hnext.trans hresult.le,
      .channel_update hnext hold hresult, hok⟩
    rw [Client.event_cached, hcached]
    show (client₀.run (_d_copy_channel channel)).bind _ = _
    rw [hrun]
    exact congrArg (Option.bind · _) hset
  | channel_delete id guild_id parent_id type =>
    obtain ⟨old, client', hcached, hold, hnext, hok⟩ := old_channel h id fun r =>
      some (some (CallbackCall.on_channel_delete id guild_id parent_id type r.1), r.2)
    exact .inl ⟨some (.on_channel_delete id guild_id parent_id type old), client', hcached, trivial,
      hnext, .channel_delete hold, hok.mono (hle.trans hnext)⟩
  | message_create message =>
    obtain ⟨hfresh, hbound⟩ := hread message.address (List.mem_singleton_self _)
    rcases h.put_message hfresh hbound with hput | hnone
    · obtain ⟨copy, client₁, client', hrun, hset, hresult, hok⟩ := hput
      refine .inl ⟨some (.on_message copy), client', ?_, ⟨copy, hresult.result⟩,
        hresult.le, .message_create hresult, hok⟩
      rw [Client.event_cached, hrun]
      exact congrArg (Option.bind · _) hset
    · refine .inr ⟨?_, hnone.2⟩
      rw [Client.event_cached, hnone.1]
      rfl
  | message_update message =>
    obtain ⟨hfresh, hbound⟩ := hread message.address (List.mem_singleton_self _)
    obtain ⟨old, client₀, hcached, hold, hnext, hok₀⟩ := h.copy_cached_message message.id
    rcases hok₀.put_message hfresh (Nat.lt_of_lt_of_le hbound hnext) with hput | hnone
    · obtain ⟨new, client₁, client', hrun, hset, hresult, hok⟩ := hput
      refine .inl ⟨some (.on_message_edit old new), client', ?_, ⟨new, hresult.result⟩,
        hnext.trans hresult.le, .message_update hnext hold hresult, hok⟩
      rw [Client.event_cached, hcached]
      show (client₀.run (_d_copy_message message)).bind _ = _
      rw [hrun]
      exact congrArg (Option.bind · _) hset
    · refine .inr ⟨?_, hnone.2⟩
      rw [Client.event_cached, hcached]
      show (client₀.run (_d_copy_message message)).bind _ = _
      rw [hnone.1]
      rfl
  | message_delete id channel_id guild_id =>
    obtain ⟨old, client', hcached, hold, hnext, hok⟩ := old_message h id fun r =>
      some (some (CallbackCall.on_message_delete id channel_id guild_id r.1), r.2)
    exact .inl ⟨some (.on_message_delete id channel_id guild_id old), client', hcached, trivial,
      hnext, .message_delete hold, hok.mono (hle.trans hnext)⟩
  | interaction_create interaction =>
    exact .inl ⟨_, client, rfl, trivial, le_refl _, .interaction_create interaction, h.mono hle⟩
  | ignored => exact .inl ⟨_, client, rfl, trivial, le_refl _, .ignored, h.mono hle⟩

/-- **One event** is handled as the maps say, unless it cannot be read or has
    a message that cannot be copied. -/
theorem event_handled (h : ClientOk ms cs client.next client messages channels)
    (callbacks : Callbacks) (data : Option CJson) (event : Option String) :
    (∃ read log call client',
      (event_read (some callbacks) data event).run client.next = some (read, log) ∧
      client.event_handle callbacks data event = some (call, client') ∧ read.Copyable ∧
      client.next + (allocs log).length ≤ client'.next ∧
      Called callbacks ms cs messages channels (client.next + (allocs log).length) client'.next read
        call ∧
      ClientOk ms cs client'.next client' (read.put_message messages)
        (read.put_channel channels)) ∨
    client.event_handle callbacks data event = none ∧
      ∀ read log, (event_read (some callbacks) data event).run client.next = some (read, log) →
        ¬ read.Copyable := by
  unfold Client.event_handle
  cases hread : (event_read (some callbacks) data event).run client.next with
  | none =>
    refine .inr ⟨?_, fun _ _ hsome => nomatch hsome⟩
    rw [Client.run, hread]
    rfl
  | some r =>
    obtain ⟨read, log⟩ := r
    have hrun := client.run_eq hread
    obtain ⟨hok, hnext, -⟩ := h.run hrun
    -- the structure that is put was allocated while the event was read
    have hblocks : ∀ q ∈ read.addresses, client.next ≤ q ∧
        q < client.next + (allocs log).length := by
      intro q hq
      rcases event_read_supplies callbacks data event _ read log hread q hq with hnil | hnew
      · exact absurd hnil List.not_mem_nil
      · exact hnew
    rw [hrun]
    rcases event_cached_handled hok hnext hblocks callbacks with hhandled | hnone
    · obtain ⟨call, client', hcached, hcopyable, hnext', hcalled, hok'⟩ := hhandled
      exact .inl ⟨read, log, call, client', rfl, hcached, hcopyable, hnext', hcalled, hok'⟩
    · refine .inr ⟨hnone.1, fun read' log' heq => ?_⟩
      cases heq
      exact hnone.2

end event

/-! ### Every run -/

section runs
variable {callbacks : Callbacks} {ms cs : Int}

theorem ClientOk.init (m c g : Int) :
    ClientOk (clamp_cache_size m) (clamp_cache_size c) 0 (Client.init m c g) .empty .empty := by
  have hserves : ∀ {α : Type} (k : CacheOf α) (heap : Nat → Option α),
      Serves k ((discord_cache_init m c g).cache k.ty).max_cache_size 0
        (discord_cache_init m c g) heap .empty := by
    intro α k heap
    refine ⟨rfl, ?_, le_refl _, ?_, ?_⟩
    · intro id n hm
      cases hm
    · intro _ id a hlatest
      cases hlatest
    · intro id a hlatest
      cases hlatest
  exact ⟨CachesOk.init m c g 0, hserves cached_messages _, hserves cached_channels _⟩

/-- **Step lemma**: whatever the client is asked to do, its caches serve the
    maps. -/
theorem ClientHistory.exec_ok {s s' : ClientHistory}
    (h : ClientOk ms cs s.client.next s.client s.messages s.channels) {call : ClientStep}
    (hexec : s.exec callbacks call = some s') :
    ClientOk ms cs s'.client.next s'.client s'.messages s'.channels := by
  cases call with
  | event data event =>
    obtain ⟨⟨read, client₁⟩, hread, hexec⟩ := Option.bind_eq_some_iff.mp hexec
    obtain ⟨⟨call, client'⟩, hhandle, hexec⟩ := Option.bind_eq_some_iff.mp hexec
    cases hexec
    rcases event_handled h callbacks data event with hhandled | hnone
    · obtain ⟨read', log, call', client'', hrun, hhandle', -, -, -, hok⟩ := hhandled
      rw [s.client.run_eq hrun] at hread
      cases hread
      rw [hhandle] at hhandle'
      cases hhandle'
      exact hok
    · rw [hnone.1] at hhandle
      cases hhandle
  | get_message id =>
    obtain ⟨⟨answer, client'⟩, hget, hexec⟩ := Option.bind_eq_some_iff.mp hexec
    cases hexec
    obtain ⟨answer', client'', hget', -, hnext, hok⟩ := h.get_message id
    rw [hget] at hget'
    cases hget'
    show ClientOk ms cs client'.next client' s.messages s.channels
    rw [hnext]
    exact hok
  | get_channel id =>
    obtain ⟨⟨answer, client'⟩, hget, hexec⟩ := Option.bind_eq_some_iff.mp hexec
    cases hexec
    obtain ⟨answer', client'', hget', -, hnext, hok⟩ := h.get_channel id
    rw [hget] at hget'
    cases hget'
    show ClientOk ms cs client'.next client' s.messages s.channels
    rw [hnext]
    exact hok
  | delete_message id =>
    cases hexec
    exact h.delete_message id
  | delete_channel id =>
    cases hexec
    exact h.delete_channel id

/-- **Run lemma.** -/
theorem client_ok {m c g : Int} {s : ClientHistory}
    (h : (client_system callbacks m c g).Reachable s) :
    ClientOk (clamp_cache_size m) (clamp_cache_size c) s.client.next s.client s.messages
      s.channels := by
  refine System.Reachable.invariant
    (I := fun s => ClientOk _ _ s.client.next s.client s.messages s.channels) ?_ ?_ h
  · intro s hs
    rw [show s = _ from hs]
    exact ClientOk.init m c g
  · intro s call s' _ hok hstep
    exact ClientHistory.exec_ok hok hstep

end runs

/-- **Lookups are coherent.** In every run, a lookup reads no structure that
    has been destroyed. It answers with the latest version that has been put
    under the id and not deleted since; only once more structures have been
    put than the cache has room for may it answer null instead. -/
theorem lookups_coherent {callbacks : Callbacks}
    {message_cache_size channel_cache_size guild_cache_size : Int} {s : ClientHistory}
    (h : (client_system callbacks message_cache_size channel_cache_size
      guild_cache_size).Reachable s) (id : UInt64) :
    (∃ answer client', s.client.discord_cache_get_message id = some (answer, client') ∧
      s.messages.Answers (clamp_cache_size message_cache_size) id answer) ∧
    ∃ answer client', s.client.discord_cache_get_channel id = some (answer, client') ∧
      s.channels.Answers (clamp_cache_size channel_cache_size) id answer := by
  have hok := client_ok h
  obtain ⟨message, client₁, hmessage, hanswers, -⟩ := hok.get_message id
  obtain ⟨channel, client₂, hchannel, hanswers', -⟩ := hok.get_channel id
  exact ⟨⟨message, client₁, hmessage, hanswers⟩, channel, client₂, hchannel, hanswers'⟩

/-- A channel has been created and updated. -/
theorem channel_kept : ∃ s, (client_system (channel_callbacks true) 1000 1000 1000).Run
    [.event (some id_channel) (some "CHANNEL_CREATE"),
      .event (some id_channel) (some "CHANNEL_UPDATE")] s ∧
    (s.channels.latest 1).isSome = true ∧ s.channels.count = 2 :=
  ⟨_, System.run_ofFn_iff.mpr rfl, rfl, rfl⟩

theorem lookups_coherent_kept : ∃ s : ClientHistory, (s.channels.latest 1).isSome = true ∧
    (∃ answer client', s.client.discord_cache_get_message 1 = some (answer, client') ∧
      s.messages.Answers (clamp_cache_size 1000) 1 answer) ∧
    ∃ answer client', s.client.discord_cache_get_channel 1 = some (answer, client') ∧
      s.channels.Answers (clamp_cache_size 1000) 1 answer := by
  obtain ⟨s, hrun, hlatest, -⟩ := channel_kept
  exact ⟨s, hlatest, lookups_coherent ⟨_, hrun⟩ 1⟩

/-- **Events are handled as the maps say.** In every run, an event leads to
    the callback that it should, with copies of the latest versions as the
    old ones; only once more structures have been put than there is room for
    may an old one be null instead. Nothing that the cache holds makes an
    event fail: it is undefined only if it cannot be read, or has a message
    that cannot be copied. -/
theorem events_coherent {callbacks : Callbacks}
    {message_cache_size channel_cache_size guild_cache_size : Int} {s : ClientHistory}
    (h : (client_system callbacks message_cache_size channel_cache_size
      guild_cache_size).Reachable s) (data : Option CJson) (event : Option String) :
    (∀ call client', s.client.event_handle callbacks data event = some (call, client') →
      ∃ read log, (event_read (some callbacks) data event).run s.client.next = some (read, log) ∧
        Called callbacks (clamp_cache_size message_cache_size)
          (clamp_cache_size channel_cache_size) s.messages s.channels
          (s.client.next + (allocs log).length) client'.next read call) ∧
    ((s.client.event_handle callbacks data event).isSome = true ↔ ∃ read log,
      (event_read (some callbacks) data event).run s.client.next = some (read, log) ∧
        read.Copyable) := by
  rcases event_handled (client_ok h) callbacks data event with hhandled | hnone
  · obtain ⟨read, log, call, client', hread, hhandle, hcopyable, -, hcalled, -⟩ := hhandled
    rw [hhandle]
    refine ⟨?_, iff_of_true rfl ⟨read, log, hread, hcopyable⟩⟩
    intro call' client'' heq
    cases heq
    exact ⟨read, log, hread, hcalled⟩
  · rw [hnone.1]
    refine ⟨fun _ _ heq => (nomatch heq), iff_of_false Bool.false_ne_true ?_⟩
    rintro ⟨read, log, hread, hcopyable⟩
    exact hnone.2 read log hread hcopyable

/-- The channel is deleted after that. -/
theorem events_coherent_kept : ∃ s : ClientHistory, (s.channels.latest 1).isSome = true ∧
    (∀ call client', s.client.event_handle (channel_callbacks true) (some id_channel)
        (some "CHANNEL_DELETE") = some (call, client') →
      ∃ read log, (event_read (some (channel_callbacks true)) (some id_channel)
          (some "CHANNEL_DELETE")).run s.client.next = some (read, log) ∧
        Called (channel_callbacks true) (clamp_cache_size 1000) (clamp_cache_size 1000)
          s.messages s.channels (s.client.next + (allocs log).length) client'.next read call) ∧
    ((s.client.event_handle (channel_callbacks true) (some id_channel)
        (some "CHANNEL_DELETE")).isSome = true ↔ ∃ read log,
      (event_read (some (channel_callbacks true)) (some id_channel)
        (some "CHANNEL_DELETE")).run s.client.next = some (read, log) ∧ read.Copyable) := by
  obtain ⟨s, hrun, hlatest, -⟩ := channel_kept
  exact ⟨s, hlatest, events_coherent ⟨_, hrun⟩ (some id_channel) (some "CHANNEL_DELETE")⟩

end DiscoC
