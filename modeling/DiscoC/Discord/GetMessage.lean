import DiscoC.Discord.MessageCommands
import DiscoC.Discord.RequestCallbacks

/-! # Getting one message

  `discord_get_message` calls the callback with a message from the cache, and
  then makes a request for the message all the same. Where the message is not
  in the cache, the request is all there is, and its answer is not put into
  the cache. So it never gives the one answer it should
  (`get_message_never_once`).
-/

namespace DiscoC

/-! ### A call and what becomes of it -/

/-- What `discord_get_message` does at once: it calls the callback, and makes
    requests. -/
structure GetMessage where
  client : Client
  calls : List Message
  requests : List RequestNode

/-- `discord_get_message`; `cb` says if there is a callback. -/
def discord_get_message (cJSON_Print : CJson → String) (client : Client) (bot : BotClient)
    (channel_id message_id : UInt64) (cb : Bool) : Option GetMessage :=
  if !cb then some { client, calls := [], requests := [] }
  else do
    let (msg, client) ← client.discord_cache_get_message message_id
    let requests ← discord_fetch_message cJSON_Print bot channel_id message_id cb
    some { client, calls := msg.toList, requests }

section answers

variable (cJSON_Parse : Option String → Option CJson)

/-- All calls of the callback, once the requests have been executed. The
    transfers of a request go as `outcomes`. -/
def GetMessage.answered (g : GetMessage) (outcomes : List Transfer) :
    Option (List RequestCall × Client) := do
  let lives ← g.requests.mapM fun n => request_life cJSON_Parse g.client n outcomes
  let (handled, client) ← handle_callbacks g.client (lives.flatten.filterMap RequestEvent.called)
  some (g.calls.map .message ++ handled.map Handled.call, client)

/-- The message of the last response. -/
def Fetched (outcomes : List Transfer) (m : Message) : Prop :=
  ∃ n log, (_d_json_to_message (event_data (last_response cJSON_Parse outcomes.getLast?))).run n =
    some (m, log)

/-- The callback is called once: with the message in the cache, and without a
    request; or with the message that is fetched, which is in the cache
    then. -/
def AnsweredOnce (cJSON_Print : CJson → String) (client : Client) (bot : BotClient)
    (channel_id message_id : UInt64) (outcomes : List Transfer) : Prop :=
  ∃ g m client', discord_get_message cJSON_Print client bot channel_id message_id true = some g ∧
    g.answered cJSON_Parse outcomes = some ([.message m], client') ∧
    match (discord_cache_get client.caches .message_cache message_id).1 with
    | some s => g.requests = [] ∧ client.messages s.ptr = some m
    | none => Fetched cJSON_Parse outcomes m ∧
      (discord_cache_get client'.caches .message_cache message_id).1 = some ⟨m.address, m.id⟩

variable {cJSON_Parse} {n : RequestNode}

/-! ### The callbacks of a request -/

/-- Whatever an attempt leads to, the callback of a request stays. -/
theorem request_attempt_rc (n : RequestNode) (t : Transfer) :
    (request_attempt cJSON_Parse n t).1.rc = n.rc := by
  obtain ⟨res, http, iteration, hnode⟩ := @request_attempt_node cJSON_Parse n t
  rw [hnode]

/-- An execution keeps the callback, and calls no other. -/
theorem request_t_pool_rc (n : RequestNode) (t : Transfer) :
    (request_t_pool cJSON_Parse client n t).node.rc = n.rc ∧
      ∀ p ∈ (request_t_pool cJSON_Parse client n t).events.filterMap RequestEvent.called,
        n.rc = some p.1 := by
  obtain ⟨hnode, rest, hevents, hrest⟩ := @request_t_pool_parts cJSON_Parse client n t
  have hrc := @request_attempt_rc cJSON_Parse n t
  generalize (request_attempt cJSON_Parse n t).1 = m at hnode hevents hrest hrc
  refine ⟨?_, fun p hp => ?_⟩
  · rw [hnode, cleaned_up_rc, hrc]
  · rw [hevents, List.filterMap_append, attempt_part_called, List.nil_append] at hp
    rcases hrest with rfl | ⟨response, rfl⟩
    · -- queued again, or dropped: nothing is called
      exact absurd hp List.not_mem_nil
    · rw [request_finalise_called, hrc] at hp
      obtain ⟨type, htype, rfl⟩ := List.mem_map.mp hp
      exact Option.mem_toList.mp htype

/-- **Run lemma**: all its life, a request calls its own callback only. -/
theorem request_life_rc {ts : List Transfer} {events : List RequestEvent}
    (h : request_life cJSON_Parse client n ts = some events) :
    ∀ p ∈ events.filterMap RequestEvent.called, n.rc = some p.1 := by
  induction ts generalizing n events with
  | nil =>
    unfold request_life at h
    split at h
    · cases h
      -- the attempts are used up
      exact (request_t_pool_rc n no_transfer).2
    · cases h
  | cons t ts ih =>
    obtain ⟨hrc, hcalled⟩ := @request_t_pool_rc cJSON_Parse client n t
    unfold request_life at h
    split at h
    · cases h
    · dsimp only at h
      split at h
      · -- it is queued again, with the same callback
        obtain ⟨rest, hrest, rfl⟩ := Option.map_eq_some_iff.mp h
        intro p hp
        rw [List.filterMap_append, List.mem_append] at hp
        rcases hp with hp | hp
        · exact hcalled p hp
        · rw [← hrc]
          exact ih hrest p hp
      · split at h
        · cases h
          exact hcalled
        · cases h

/-- A callback for one message does not touch the cache. -/
theorem handle_callbacks_message {called : List (CallbackType × Option CJson)} {client : Client}
    {handled : List Handled} {client' : Client}
    (htype : ∀ p ∈ called, p.1 = .DISCORD_MESSAGE_CALLBACK)
    (h : handle_callbacks client called = some (handled, client')) :
    client'.caches = client.caches := by
  induction called generalizing client handled client' with
  | nil =>
    cases h
    rfl
  | cons p called ih =>
    obtain ⟨type, res_json⟩ := p
    obtain rfl : type = .DISCORD_MESSAGE_CALLBACK := htype _ List.mem_cons_self
    obtain ⟨first, hfirst, h⟩ := Option.bind_eq_some_iff.mp h
    obtain ⟨⟨others, client₁⟩, hothers, h⟩ := Option.bind_eq_some_iff.mp h
    cases h
    rw [ih (fun p hp => htype p (List.mem_cons_of_mem _ hp)) hothers]
    -- decoding only takes memory
    obtain ⟨⟨msg, client₂⟩, hdecode, hfirst⟩ := Option.bind_eq_some_iff.mp hfirst
    cases hfirst
    obtain ⟨⟨msg', log⟩, -, hclient⟩ := Option.map_eq_some_iff.mp hdecode
    cases hclient
    rfl

/-! ### The answer -/

/-- A request for a message is one request, for one message. -/
theorem fetch_message_requests {cJSON_Print : CJson → String} {bot : BotClient}
    {channel_id message_id : UInt64} {requests : List RequestNode}
    (h : discord_fetch_message cJSON_Print bot channel_id message_id true = some requests) :
    ∃ n, requests = [n] ∧ n.rc = some .DISCORD_MESSAGE_CALLBACK := by
  obtain ⟨url, -, h⟩ := Option.bind_eq_some_iff.mp h
  cases h
  exact ⟨_, rfl, rfl⟩

/-- A look for a message that is not in the cache changes nothing. -/
theorem get_uncached_message {client : Client} {id : UInt64}
    (h : (discord_cache_get client.caches .message_cache id).1 = none) :
    client.discord_cache_get_message id = some (none, client) := by
  have hunmapped : hashmap_get (client.caches.cache .message_cache).map id = none := by
    cases hm : hashmap_get (client.caches.cache .message_cache).map id with
    | none => rfl
    | some n =>
      rw [discord_cache_get_mapped hm] at h
      cases h
  unfold Client.discord_cache_get_message Client.get_cached
  rw [discord_cache_get_unmapped hunmapped]
  rfl

section never

variable {cJSON_Print : CJson → String} {client : Client} {bot : BotClient}
  {channel_id message_id : UInt64} {outcomes : List Transfer}

/-- A message in the cache is requested all the same. -/
theorem cached_not_once {s : DiscordStructure}
    (h : (discord_cache_get client.caches .message_cache message_id).1 = some s) :
    ¬ AnsweredOnce cJSON_Parse cJSON_Print client bot channel_id message_id outcomes := by
  intro hanswered
  obtain ⟨g, m, client', hget, -, hcache⟩ := hanswered
  obtain ⟨⟨msg, client₁⟩, -, hget⟩ := Option.bind_eq_some_iff.mp hget
  obtain ⟨requests, hfetch, hget⟩ := Option.bind_eq_some_iff.mp hget
  cases hget
  obtain ⟨n, rfl, -⟩ := fetch_message_requests hfetch
  rw [h] at hcache
  cases hcache.1

/-- A message that is fetched does not get into the cache. -/
theorem fetched_not_once
    (h : (discord_cache_get client.caches .message_cache message_id).1 = none) :
    ¬ AnsweredOnce cJSON_Parse cJSON_Print client bot channel_id message_id outcomes := by
  intro hanswered
  obtain ⟨g, m, client', hget, hanswered, hcache⟩ := hanswered
  obtain ⟨⟨msg, client₁⟩, hlookup, hget⟩ := Option.bind_eq_some_iff.mp hget
  obtain ⟨requests, hfetch, hget⟩ := Option.bind_eq_some_iff.mp hget
  cases hget
  obtain ⟨n, rfl, hrc⟩ := fetch_message_requests hfetch
  rw [get_uncached_message h] at hlookup
  cases hlookup
  obtain ⟨lives, hlives, hanswered⟩ := Option.bind_eq_some_iff.mp hanswered
  obtain ⟨⟨handled, client₂⟩, hhandled, hanswered⟩ := Option.bind_eq_some_iff.mp hanswered
  obtain rfl : client₂ = client' := congrArg Prod.snd (Option.some.inj hanswered)
  obtain ⟨events, hlife, hlives⟩ := Option.bind_eq_some_iff.mp hlives
  cases hlives
  -- the life of the request is handled without the cache
  have hcaches : client₂.caches = client.caches := by
    refine handle_callbacks_message (fun p hp => ?_) hhandled
    rw [List.reverse_singleton, List.flatten_singleton] at hp
    have htype := request_life_rc hlife p hp
    exact Option.some.inj (htype.symm.trans hrc)
  rw [h, hcaches, h] at hcache
  cases hcache.2

end never

/-- **Getting a message** never answers once as it should: a message in the
    cache is requested all the same, and one that is fetched does not get
    into the cache. -/
theorem get_message_never_once (cJSON_Parse : Option String → Option CJson)
    (cJSON_Print : CJson → String) (client : Client) (bot : BotClient)
    (channel_id message_id : UInt64) (outcomes : List Transfer) :
    ¬ AnsweredOnce cJSON_Parse cJSON_Print client bot channel_id message_id outcomes := by
  cases h : (discord_cache_get client.caches .message_cache message_id).1 with
  | some s => exact cached_not_once h
  | none => exact fetched_not_once h

/-- A message that is in the cache: the callback is called with it, and a
    request is made as well. -/
theorem cached_message_requested :
    ∃ m client₁ client g,
      (Client.init 1000 1000 1000).run (_d_json_to_message id_message) = some (m, client₁) ∧
      client₁.discord_cache_set_message m = some client ∧
      discord_get_message (fun _ => "") client ⟨"t"⟩ 2 1 true = some g ∧
      g.calls.map (fun m => m.id) = [1] ∧ g.requests.length = 1 ∧
      ¬ AnsweredOnce no_document (fun _ => "") client ⟨"t"⟩ 2 1 [answered 200 (some "?")] := by
  rw [_d_json_to_message]
  refine ⟨_, _, _, _, rfl, rfl, rfl, rfl, rfl, ?_⟩
  exact cached_not_once rfl

end answers

end DiscoC
