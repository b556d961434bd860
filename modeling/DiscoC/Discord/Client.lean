import DiscoC.Discord.Event
import DiscoC.Utils.Cache

/-! # Structures in the cache

  Model of what the bot does with the structures it has decoded: it keeps
  them in the cache of `utils/cache.c` and passes copies of them to the
  callbacks. `Client.event_handle` is all of `event_handle`, of which
  `event_read` is the part that decodes.

  The cache holds pointers. What a pointer points to is kept beside the
  cache; it can be read until the cache has destroyed it. A callback is
  observed through its arguments, and `hashmap_put` succeeds.
-/

namespace DiscoC

/-! ### Data -/

/-- What the bot has in memory: the caches with the structures they point
    to, the user of the bot and its session id. The next block `malloc`
    returns is at `next`. -/
structure Client where
  caches : Caches
  next : Nat
  messages : Nat → Option Message
  channels : Nat → Option Channel
  user : Option User
  session_id : Option CStr

/-- A call of one of the callbacks, with its arguments. -/
inductive CallbackCall where
  | on_ready
  | on_message (message : Message)
  | on_message_edit (old : Option Message) (new : Message)
  | on_message_delete (id channel_id guild_id : UInt64) (old : Option Message)
  | on_channel_create (channel : Channel)
  | on_channel_update (old : Option Channel) (new : Channel)
  | on_channel_delete (id guild_id parent_id : UInt64) (type : Int) (old : Option Channel)
  | on_interaction_create (interaction : Interaction)

namespace Client

/-- A client before its first event. -/
def init (message_cache_size channel_cache_size guild_cache_size : Int) : Client where
  caches := discord_cache_init message_cache_size channel_cache_size guild_cache_size
  next := 0
  messages := fun _ => none
  channels := fun _ => none
  user := none
  session_id := none

/-- A routine that decodes, copies or destroys structures. -/
def run {α : Type} (client : Client) (x : CMem α) : Option (α × Client) :=
  (x.run client.next).map fun (a, log) =>
    (a, { client with next := client.next + (allocs log).length })

/-! ### The cache -/

/-- What a pointer of the cache `ty` points to. Once it is destroyed, it is
    not there to be read. -/
def read_cached {α : Type} (caches : Caches) (ty : DiscoCacheType) (heap : Nat → Option α)
    (s : DiscordStructure) : Option α :=
  if (ty, s) ∈ caches.destroyed then none else heap s.ptr

/-- A pointer from the cache, which may be null, with what it points to. -/
def get_cached {α : Type} (caches : Caches) (ty : DiscoCacheType) (heap : Nat → Option α)
    (id : UInt64) : Option (Option α × Caches) :=
  match discord_cache_get caches ty id with
  | (some s, caches) => (read_cached caches ty heap s).map fun a => (some a, caches)
  | (none, caches) => some (none, caches)

/-- `discord_cache_set_message`. -/
def discord_cache_set_message (client : Client) (message : Message) : Option Client :=
  (discord_cache_set client.caches .message_cache ⟨message.address, message.id⟩ 0).map
    fun (_, caches) => { client with
      caches
      messages := Function.update client.messages message.address (some message) }

/-- `discord_cache_get_message`. -/
def discord_cache_get_message (client : Client) (id : UInt64) :
    Option (Option Message × Client) :=
  (get_cached client.caches .message_cache client.messages id).map
    fun (message, caches) => (message, { client with caches })

/-- `discord_cache_set_channel`. -/
def discord_cache_set_channel (client : Client) (channel : Channel) : Option Client :=
  (discord_cache_set client.caches .channel_cache ⟨channel.address, channel.id⟩ 0).map
    fun (_, caches) => { client with
      caches
      channels := Function.update client.channels channel.address (some channel) }

/-- `discord_cache_get_channel`. -/
def discord_cache_get_channel (client : Client) (id : UInt64) :
    Option (Option Channel × Client) :=
  (get_cached client.caches .channel_cache client.channels id).map
    fun (channel, caches) => (channel, { client with caches })

/-- `_d_copy_message(discord_cache_get_message(id))`. -/
def copy_cached_message (client : Client) (id : UInt64) : Option (Option Message × Client) := do
  let (message, client) ← client.discord_cache_get_message id
  client.run (Mem.unless_null message fun message _ => _d_copy_message message)

/-- `_d_copy_channel(discord_cache_get_channel(id))`. -/
def copy_cached_channel (client : Client) (id : UInt64) : Option (Option Channel × Client) := do
  let (channel, client) ← client.discord_cache_get_channel id
  client.run (Mem.unless_null channel fun channel _ => _d_copy_channel channel)

/-! ### Events -/

/-- The rest of `event_handle`, once it has decoded the event. -/
def event_cached (callbacks : Callbacks) (client : Client) :
    EventData → Option (Option CallbackCall × Client)
  | .ready user session_id => do
    let (_, client) ← client.run <| if user.isSome then
      destroy_pointer client.user fun user _ => discord_destroy_user user else pure ()
    let client := { client with
      user := user.or client.user
      session_id := session_id.or client.session_id }
    some (if callbacks.on_ready then some .on_ready else none, client)
  | .channel_create channel => do
    let (copy, client) ← client.run (_d_copy_channel channel)
    let client ← client.discord_cache_set_channel channel
    some (some (.on_channel_create copy), client)
  | .channel_update channel => do
    let (old, client) ← client.copy_cached_channel channel.id
    let (new, client) ← client.run (_d_copy_channel channel)
    let client ← client.discord_cache_set_channel channel
    some (some (.on_channel_update old new), client)
  | .channel_delete del_id del_guild_id del_parent_id type => do
    let (old, client) ←
      if del_id ≠ 0 then client.copy_cached_channel del_id else some (none, client)
    some (some (.on_channel_delete del_id del_guild_id del_parent_id type old), client)
  | .message_create message => do
    let (copy, client) ← client.run (_d_copy_message message)
    let client ← client.discord_cache_set_message message
    some (some (.on_message copy), client)
  | .message_update message => do
    let (old, client) ← client.copy_cached_message message.id
    let (new, client) ← client.run (_d_copy_message message)
    let client ← client.discord_cache_set_message message
    some (some (.on_message_edit old new), client)
  | .message_delete del_id del_channel_id del_guild_id => do
    let (old, client) ←
      if del_id ≠ 0 then client.copy_cached_message del_id else some (none, client)
    some (some (.on_message_delete del_id del_channel_id del_guild_id old), client)
  | .interaction_create interaction =>
    some (some (.on_interaction_create interaction), client)
  | .ignored => some (none, client)

/-- `event_handle`, with the callback it calls, if any. -/
def event_handle (callbacks : Callbacks) (client : Client) (data : Option CJson)
    (event : Option String) : Option (Option CallbackCall × Client) := do
  let (read, client) ← client.run (event_read (some callbacks) data event)
  client.event_cached callbacks read

end Client

end DiscoC
