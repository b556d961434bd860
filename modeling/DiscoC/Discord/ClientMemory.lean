import DiscoC.Discord.ClientCache
import DiscoC.Discord.CopySeparation
import DiscoC.Discord.MessageOwnership

/-! # The structures of a client

  Each structure that a client is given is destroyed by itself: by the cache,
  the client or the bot. That goes well as long as no block belongs to two of
  them.

  `ClientLedger` keeps a list of the structures beside a client. In every
  run, they are apart exactly if none of the channels among them has an icon
  (`structures_apart_iff`): a copy of a channel keeps the icon of the channel.
-/

namespace DiscoC

open Mem

/-! ### What is decoded has its own blocks -/

section decoding
variable {base : Block StructType → Prop}

theorem decoded_brings {α : Type} {x : CMem α} {D : Prop} {R : α → List (Block StructType) → Prop}
    {destroy : α → CMem Unit} (h : Owns [] x D R)
    (hR : ∀ a own, R a own → ∃ G, Destroys (destroy a) own G) :
    Brings base x fun a => Frees (destroy a) :=
  (Brings.of_owns h hR).mono fun _ hb => hb.elim

theorem get_string_brings (data : CJson) (name : String) :
    Brings base (_d_get_string_from_json data name) fun s => Frees (free_string s) := by
  refine decoded_brings (get_string_owns data name) fun s own hown => ?_
  rw [hown]
  exact ⟨True, free_string_disposes s⟩

theorem user_brings (data : CJson) :
    Brings base (_d_json_to_user data) fun u => Frees (discord_destroy_user u) := by
  refine decoded_brings (user_owns data) fun u own hown => ?_
  rw [hown]
  exact ⟨True, user_disposes u⟩

theorem user_array_brings (tmp : Option CJson) :
    Brings base (array_from_items tmp fun cur _ => _d_json_to_user cur) fun users =>
      Frees (destroy_array users fun user _ => discord_destroy_user user) := by
  refine decoded_brings (array_owns_total fun c _ => user_owns c) fun users own hown => ?_
  refine ⟨True, destroy_array_disposes_all hown fun c user own h => ?_⟩
  rw [h]
  exact user_disposes user

theorem unimplemented_array_brings (data : CJson) (name : String) :
    Brings base (_d_get_array_from_json data name fun cur _ => json_to_unimplemented cur)
      fun array => Frees (destroy_array array fun p _ => destroy_unimplemented p) := by
  refine decoded_brings (unimplemented_array_owns data name) fun array own hown => ?_
  rw [hown]
  exact ⟨True, destroy_plain_array_disposes (fun p => Disposes.pure ()) array⟩

theorem unimplemented_field_brings (tmp : Option CJson) :
    Brings base (unimplemented_field tmp json_to_unimplemented) fun p =>
      Frees (destroy_pointer p fun b _ => Mem.free b) := by
  refine decoded_brings (unimplemented_field_owns tmp) fun p own hown => ?_
  rw [hown.2]
  exact ⟨True, destroy_null_pointer_disposes hown.1⟩

theorem channel_brings (data : CJson) :
    Brings base (_d_json_to_channel data) fun ch => Frees (discord_destroy_channel ch) := by
  unfold _d_json_to_channel
  refine (Brings.alloc _).bind fun address => ?_
  refine (unimplemented_array_brings _ _).bind fun overwrites => ?_
  refine (get_string_brings _ _).bind fun name => (get_string_brings _ _).bind fun topic => ?_
  refine (user_array_brings _).bind fun recipients => ?_
  refine (get_string_brings _ _).bind fun icon => (get_string_brings _ _).bind fun last_pin => ?_
  refine (get_string_brings _ _).bind fun rtc_region => ?_
  refine (unimplemented_field_brings _).bind fun thread_metadata => ?_
  refine (unimplemented_field_brings _).bind fun member => ?_
  refine (get_string_brings _ _).bind fun permissions => Brings.pure fun b hb => ?_
  dsimp only [discord_destroy_channel, discord_destroy_overwrite] at hb
  rcases hb.destroying with hb | hb
  · simp [hb]
  iterate 9
    rcases hb.seq with hfirst | hb
    · simp [hfirst]
  simp [hb]

theorem message_brings (data : CJson) :
    Brings base (_d_json_to_message data) fun m => Frees (discord_destroy_message m) := by
  refine decoded_brings (message_owns data) fun m own hown => ?_
  exact ⟨_, hown.freed⟩

theorem interaction_brings (data : CJson) :
    Brings base (_d_json_to_interaction data) fun i => Frees (discord_destroy_interaction i) := by
  refine decoded_brings (interaction_owns data) fun i own hown => ?_
  exact ⟨_, hown.freed⟩

end decoding

/-! ### What is decoded lends nothing -/

theorem array_ensures_all {α : Type} {tmp : Option CJson}
    {func : (c : CJson) → c ∈ cJSON_ArrayItems tmp → CMem α} {P : α → Prop}
    (h : ∀ c hc, (func c hc).Ensures P) :
    (array_from_items tmp func).Ensures fun array => ∀ a ∈ array.items, P a := by
  refine (array_ensures (R := fun _ a => P a) h).mono fun array hitems => ?_
  have hflip := hitems.flip.imp (S := fun a _ => P a ∧ True) fun a c ha => ⟨ha, trivial⟩
  exact ((List.forall₂_and_left _ _).mp hflip).1

theorem pointer_ensures_all {α β : Type} {o : Option α} {f : (a : α) → o = some a → CMem β}
    {P : β → Prop} (h : ∀ a ha, (f a ha).Ensures P) :
    (Mem.unless_null o f).Ensures fun p => ∀ b, p = some b → P b := by
  refine Ensures.unless_null (fun _ b hb => ?_) fun a ha => (h a ha).mono fun b hb b' heq => ?_
  · cases hb
  · cases heq
    exact hb

/-- The values of options are always marked as strings, and so copied. -/
theorem option_lends_nothing (data : CJson) :
    (_d_json_to_interaction_data_option data).Ensures fun o => ∀ b, ¬ o.Lends b := by
  have ih : ∀ c ∈ items data "options",
      (_d_json_to_interaction_data_option c).Ensures fun o => ∀ b, ¬ o.Lends b := by
    intro c hc
    have : sizeOf c < sizeOf data := sizeOf_array_item hc
    exact option_lends_nothing c
  rw [_d_json_to_interaction_data_option]
  refine Ensures.skip fun address => Ensures.skip fun name => Ensures.skip fun value => ?_
  refine (array_ensures_all ih).bind fun options hoptions => Ensures.pure fun b hb => ?_
  cases hb with
  | value htype _ => exact htype rfl
  | option hc hb => exact hoptions _ hc b hb
termination_by sizeOf data

/-- The values are no options, and nothing is lent of them. -/
theorem interaction_data_lends_nothing (data : CJson) :
    (_d_json_to_interaction_data data).Ensures fun d => ∀ b, ¬ d.Lends b := by
  unfold _d_json_to_interaction_data
  refine Ensures.skip fun address => Ensures.skip fun name => ?_
  refine (array_ensures_all fun c _ => option_lends_nothing c).bind fun options hoptions => ?_
  refine Ensures.skip fun custom_id => ?_
  refine (array_ensures_all (P := fun p => ∀ o : InteractionDataOption, p ≠ .inl o) fun c _ =>
    Ensures.skip fun option => Ensures.pure fun o => Sum.inr_ne_inl).bind fun values hvalues => ?_
  refine Ensures.skip fun components => Ensures.pure fun b hb => ?_
  rcases hb with hoption | hvalue
  · obtain ⟨o, ho, hb⟩ := hoption
    exact hoptions o ho b hb
  · obtain ⟨o, ho, -⟩ := hvalue
    exact hvalues _ ho o rfl

mutual

/-- Neither threads nor channels are decoded for a message. -/
theorem message_lends_nothing (data : CJson) :
    (_d_json_to_message data).Ensures fun m => ∀ b, ¬ m.Lends b := by
  have ih : ∀ c, cJSON_GetObjectItem data "interaction" = some c →
      (_d_json_to_interaction c).Ensures fun i => ∀ b, ¬ i.Lends b := by
    intro c hc
    have : sizeOf c < sizeOf data := sizeOf_item hc
    exact interaction_lends_nothing c
  rw [_d_json_to_message]
  iterate 7 refine Ensures.skip fun _ => ?_
  refine Ensures.skip fun mention_roles => ?_
  refine (array_ensures_all (P := fun p => ∀ ch : Channel, p ≠ .inl ch) fun c _ =>
    Ensures.skip fun mention => Ensures.pure fun ch => Sum.inr_ne_inl).bind
      fun mention_channels hchannels => ?_
  iterate 7 refine Ensures.skip fun _ => ?_
  refine (pointer_ensures_all ih).bind fun interaction hinteraction => ?_
  iterate 3 refine Ensures.skip fun _ => ?_
  refine Ensures.pure fun b hb => ?_
  cases hb with
  | thread hch _ => cases hch
  | mention_channel hch _ => exact hchannels _ hch _ rfl
  | interaction hi hb => exact hinteraction _ hi b hb
termination_by sizeOf data

theorem interaction_lends_nothing (data : CJson) :
    (_d_json_to_interaction data).Ensures fun i => ∀ b, ¬ i.Lends b := by
  have ih : ∀ c, cJSON_GetObjectItem data "message" = some c →
      (_d_json_to_message c).Ensures fun m => ∀ b, ¬ m.Lends b := by
    intro c hc
    have : sizeOf c < sizeOf data := sizeOf_item hc
    exact message_lends_nothing c
  rw [_d_json_to_interaction]
  refine Ensures.skip fun address => ?_
  refine (pointer_ensures_all fun c _ => interaction_data_lends_nothing c).bind
    fun idata hdata => ?_
  iterate 3 refine Ensures.skip fun _ => ?_
  refine (pointer_ensures_all ih).bind fun message hmessage => ?_
  iterate 3 refine Ensures.skip fun _ => ?_
  refine Ensures.pure fun b hb => ?_
  cases hb with
  | data hd hb => exact hdata _ hd b hb
  | message hm hb => exact hmessage _ hm b hb
termination_by sizeOf data

end

/-! ### The ledger -/

/-- A structure that is destroyed by itself. -/
inductive ClientStructure where
  | user (user : User)
  | message (message : Message)
  | channel (channel : Channel)
  | interaction (interaction : Interaction)

namespace ClientStructure

def destroy : ClientStructure → CMem Unit
  | .user u => discord_destroy_user u
  | .message m => discord_destroy_message m
  | .channel ch => discord_destroy_channel ch
  | .interaction i => discord_destroy_interaction i

/-- The blocks that are freed when the structure is destroyed. -/
def blocks (x : ClientStructure) : Block StructType → Prop := Frees x.destroy

/-- No block is freed for both. -/
def Disjoint (x y : ClientStructure) : Prop := ∀ b, x.blocks b → ¬ y.blocks b

end ClientStructure

/-- The structure that is decoded for an event. -/
def EventData.decoded : EventData → List ClientStructure
  | .ready user _ => user.toList.map .user
  | .message_create message | .message_update message => [.message message]
  | .channel_create channel | .channel_update channel => [.channel channel]
  | .interaction_create interaction => [.interaction interaction]
  | _ => []

/-- The copies that a callback is given. -/
def copies : Option CallbackCall → List ClientStructure
  | some (.on_message new) => [.message new]
  | some (.on_message_edit old new) => old.toList.map .message ++ [.message new]
  | some (.on_message_delete _ _ _ old) => old.toList.map .message
  | some (.on_channel_create new) => [.channel new]
  | some (.on_channel_update old new) => old.toList.map .channel ++ [.channel new]
  | some (.on_channel_delete _ _ _ _ old) => old.toList.map .channel
  | _ => []

theorem copies_ready (on_ready : Bool) :
    copies (if on_ready then some .on_ready else none) = [] := by
  cases on_ready with
  | false => rfl
  | true => rfl

/-- The structures that a client is given in a step. -/
def Client.given (callbacks : Callbacks) (client : Client) : ClientStep → List ClientStructure
  | .event data event =>
    match client.run (event_read (some callbacks) data event),
      client.event_handle callbacks data event with
    | some (read, _), some (call, _) => read.decoded ++ copies call
    | _, _ => []
  | _ => []

/-- A client, with all structures that it has been given. -/
structure ClientLedger extends ClientHistory where
  structures : List ClientStructure

def ClientLedger.exec (callbacks : Callbacks) (s : ClientLedger) (step : ClientStep) :
    Option ClientLedger := do
  let history ← s.toClientHistory.exec callbacks step
  some {
    toClientHistory := history
    structures := s.structures ++ s.client.given callbacks step }

/-- A client from its first event on, with its ledger. -/
def ledger_system (callbacks : Callbacks)
    (message_cache_size channel_cache_size guild_cache_size : Int) :
    System ClientLedger ClientStep :=
  .ofFn
    { client := Client.init message_cache_size channel_cache_size guild_cache_size
      messages := .empty
      channels := .empty
      structures := [] }
    (ClientLedger.exec callbacks)

/-- Each of the structures is apart from the others. -/
def ClientLedger.Disjoint (s : ClientLedger) : Prop :=
  s.structures.Pairwise ClientStructure.Disjoint

/-- No channel of the ledger has an icon. -/
def NoIcons (xs : List ClientStructure) : Prop :=
  ∀ ch : Channel, .channel ch ∈ xs → ch.icon = none

/-! ### Without icons -/

section apart
variable {lo hi : Nat} {xs : List ClientStructure}

/-- The structures are apart, in blocks below `bound`. -/
def AllApart (bound : Nat) (xs : List ClientStructure) : Prop :=
  Apart bound (xs.map ClientStructure.blocks)

theorem AllApart.disjoint (h : AllApart lo xs) : xs.Pairwise ClientStructure.Disjoint := by
  have hblocks := Apart.disjoint h
  rw [List.pairwise_map] at hblocks
  exact hblocks

theorem AllApart.add (h : AllApart lo xs) {x : ClientStructure} (hle : lo ≤ hi)
    (hx : ∀ b, x.blocks b → lo ≤ b.address ∧ b.address < hi) : AllApart hi (xs ++ [x]) := by
  unfold AllApart
  rw [List.map_append]
  exact Apart.add h hle hx

/-- A copy is added that has nothing from what it is copied from. -/
theorem AllApart.add_copy {α : Type} {mk : α → ClientStructure} {copy : CMem α} {c : α}
    (h : AllApart lo xs) (hcopy : copy.ResultIn lo hi c)
    (hbrings : Brings (fun _ => False) copy fun c => (mk c).blocks) : AllApart hi (xs ++ [mk c]) :=
  h.add hcopy.le fun _ hb => hbrings.address_range hcopy hb

/-- An old version is added, if there is one. -/
theorem AllApart.add_old {α : Type} {mk : α → ClientStructure} {v : Versions α} {size : Int}
    {id : UInt64} {copy : α → CMem α} {old : Option α} (h : AllApart lo xs) (hle : lo ≤ hi)
    (hold : v.AnswersCopy size id copy lo hi old)
    (hbrings : ∀ a, v.latest id = some a →
      Brings (fun _ => False) (copy a) fun c => (mk c).blocks) :
    AllApart hi (xs ++ old.toList.map mk) := by
  obtain ⟨answer, hanswers, hrel⟩ := hold
  cases hrel with
  | none =>
    rw [Option.toList_none, List.map_nil, List.append_nil]
    exact Apart.mono h hle
  | some hcopy => exact h.add_copy hcopy (hbrings _ (hanswers.eq_some rfl))

/-- What an event reads is in blocks of its own. -/
theorem event_read_brings (callbacks : Callbacks) (data : Option CJson) (event : Option String) :
    Brings (fun _ => False) (event_read (some callbacks) data event) fun read b =>
      ∃ x ∈ read.decoded, x.blocks b := by
  have hnone : ∀ {x : CMem EventData}, (x.Ensures fun read => read.decoded = []) →
      Brings (fun _ => False) x fun read b => ∃ x ∈ read.decoded, x.blocks b := by
    intro x hx n read log hrun b hb
    obtain ⟨y, hy, -⟩ := hb
    rw [hx n read log hrun] at hy
    cases hy
  have hif : ∀ {callback : Bool} {x : CMem EventData},
      Brings (fun _ => False) x (fun read b => ∃ x ∈ read.decoded, x.blocks b) →
      Brings (fun _ => False) (read_if callback x) fun read b =>
        ∃ x ∈ read.decoded, x.blocks b := by
    intro callback x hx
    cases callback with
    | false => exact hnone (Ensures.pure rfl)
    | true => exact hx
  -- one structure is decoded and put into the data of the event
  have hone : ∀ {α : Type} {decode : CMem α} {k : α → ClientStructure} {f : α → EventData},
      (∀ a, (f a).decoded = [k a]) → Brings (fun _ => False) decode (fun a => (k a).blocks) →
      Brings (fun _ => False) (do let a ← decode; pure (f a)) fun read b =>
        ∃ x ∈ read.decoded, x.blocks b := by
    intro α decode k f hf hdecode
    refine hdecode.bind fun a => Brings.pure fun b hb => ?_
    obtain ⟨x, hx, hb⟩ := hb
    rw [hf a, List.mem_singleton] at hx
    rw [hx] at hb
    exact .inr hb
  cases event with
  | none => exact Brings.undefined
  | some event =>
    unfold event_read
    dsimp only
    cases event_branch event with
    | ready =>
      refine (Brings.unless_null fun c _ => user_brings c).bind fun user => ?_
      refine Brings.skip fun session_id => Brings.pure fun b hb => ?_
      obtain ⟨x, hx, hb⟩ := hb
      obtain ⟨u, hu, rfl⟩ := List.mem_map.mp hx
      exact .inr ⟨u, Option.mem_toList.mp hu, hb⟩
    | channel_create => exact hif (hone (k := .channel) (fun _ => rfl) (channel_brings _))
    | channel_update => exact hif (hone (k := .channel) (fun _ => rfl) (channel_brings _))
    | message_create => exact hif (hone (k := .message) (fun _ => rfl) (message_brings _))
    | message_update => exact hif (hone (k := .message) (fun _ => rfl) (message_brings _))
    | interaction_create =>
      exact hif (hone (k := .interaction) (fun _ => rfl) (interaction_brings _))
    | channel_delete => exact hif (hnone (Ensures.skip fun _ => Ensures.pure rfl))
    | message_delete => exact hif (hnone (Ensures.pure rfl))
    | ignored => exact hnone (Ensures.pure rfl)

/-- At most one structure is decoded for an event. -/
theorem EventData.decoded_cases (read : EventData) :
    read.decoded = [] ∨ ∃ x, read.decoded = [x] := by
  cases read with
  | ready user session_id =>
    cases user with
    | none => exact .inl rfl
    | some user => exact .inr ⟨.user user, rfl⟩
  | channel_create channel | channel_update channel => exact .inr ⟨.channel channel, rfl⟩
  | message_create message | message_update message => exact .inr ⟨.message message, rfl⟩
  | interaction_create interaction => exact .inr ⟨.interaction interaction, rfl⟩
  | channel_delete id guild_id parent_id type => exact .inl rfl
  | message_delete id channel_id guild_id => exact .inl rfl
  | ignored => exact .inl rfl

/-- What an event reads is apart from what there is. -/
theorem AllApart.add_decoded (h : AllApart lo xs) {callbacks : Callbacks} {data : Option CJson}
    {event : Option String} {read : EventData}
    (hread : (event_read (some callbacks) data event).ResultIn lo hi read) :
    AllApart hi (xs ++ read.decoded) := by
  have hblocks : ∀ x ∈ read.decoded, ∀ b, x.blocks b → lo ≤ b.address ∧ b.address < hi :=
    fun x hx b hb => (event_read_brings callbacks data event).address_range hread ⟨x, hx, hb⟩
  rcases read.decoded_cases with hnil | hone
  · rw [hnil, List.append_nil]
    exact Apart.mono h hread.le
  · obtain ⟨x, hx⟩ := hone
    rw [hx] at hblocks ⊢
    exact h.add hread.le (hblocks x (List.mem_singleton_self x))

/-- A copy of a channel without an icon. -/
theorem copy_channel_apart {ch : Channel} (h : ch.icon = none) :
    Brings (fun _ => False) (_d_copy_channel ch) fun c => (ClientStructure.channel c).blocks := by
  refine copy_channel_brings fun b hb => ?_
  unfold Channel.Lends at hb
  rw [h] at hb
  exact Frees.not_pure hb

/-- A copy of a message that lends nothing. -/
theorem copy_message_apart {m : Message} (h : ∀ b, ¬ m.Lends b) :
    Brings (fun _ => False) (_d_copy_message m) fun c => (ClientStructure.message c).blocks :=
  copy_message_brings m h

/-- A message that an event reads lends nothing. -/
theorem event_read_lends_nothing (callbacks : Callbacks) (data : Option CJson)
    (event : Option String) :
    (event_read (some callbacks) data event).Ensures fun read =>
      ∀ m : Message, .message m ∈ read.decoded → ∀ b, ¬ m.Lends b := by
  have hnone : ∀ {x : CMem EventData},
      (x.Ensures fun read => ∀ m : Message, .message m ∉ read.decoded) →
      x.Ensures fun read => ∀ m : Message, .message m ∈ read.decoded → ∀ b, ¬ m.Lends b :=
    fun hx => hx.mono fun read hread m hm => absurd hm (hread m)
  have hif : ∀ {callback : Bool} {x : CMem EventData},
      (x.Ensures fun read => ∀ m : Message, .message m ∈ read.decoded → ∀ b, ¬ m.Lends b) →
      (read_if callback x).Ensures fun read =>
        ∀ m : Message, .message m ∈ read.decoded → ∀ b, ¬ m.Lends b := by
    intro callback x hx
    cases callback with
    | false => exact hnone (Ensures.pure fun m => List.not_mem_nil)
    | true => exact hx
  cases event with
  | none =>
    intro n a log hrun
    cases hrun
  | some event =>
    unfold event_read
    dsimp only
    cases event_branch event with
    | ready =>
      refine hnone (Ensures.skip fun user => Ensures.skip fun session_id => Ensures.pure ?_)
      intro m hm
      obtain ⟨u, -, hu⟩ := List.mem_map.mp hm
      cases hu
    | message_create | message_update =>
      refine hif ((message_lends_nothing _).bind fun message h => Ensures.pure fun m hm => ?_)
      obtain rfl := ClientStructure.message.inj (List.mem_singleton.mp hm)
      exact h
    | channel_create | channel_update | interaction_create =>
      refine hif (hnone (Ensures.skip fun a => Ensures.pure fun m hm => ?_))
      cases List.mem_singleton.mp hm
    | channel_delete =>
      exact hif (hnone (Ensures.skip fun _ => Ensures.pure fun m => List.not_mem_nil))
    | message_delete => exact hif (hnone (Ensures.pure fun m => List.not_mem_nil))
    | ignored => exact hnone (Ensures.pure fun m => List.not_mem_nil)

/-- The copies of an event are apart from what there is. -/
theorem AllApart.add_copies {callbacks : Callbacks} {ms cs : Int} {messages : Versions Message}
    {channels : Versions Channel} {read : EventData} {call : Option CallbackCall}
    (h : AllApart lo xs) (hle : lo ≤ hi)
    (hcalled : Called callbacks ms cs messages channels lo hi read call)
    (hmessages : ∀ id m, messages.latest id = some m → ∀ b, ¬ m.Lends b)
    (hchannels : ∀ id ch, channels.latest id = some ch → ch.icon = none)
    (hread : ∀ m : Message, .message m ∈ read.decoded → ∀ b, ¬ m.Lends b)
    (hicons : NoIcons read.decoded) : AllApart hi (xs ++ copies call) := by
  have hnone : AllApart hi (xs ++ []) := by
    rw [List.append_nil]
    exact Apart.mono h hle
  have hold_channel : ∀ id ch, channels.latest id = some ch →
      Brings (fun _ => False) (_d_copy_channel ch) fun c => (ClientStructure.channel c).blocks :=
    fun id ch hlatest => copy_channel_apart (hchannels id ch hlatest)
  have hold_message : ∀ id m, messages.latest id = some m →
      Brings (fun _ => False) (_d_copy_message m) fun c => (ClientStructure.message c).blocks :=
    fun id m hlatest => copy_message_apart (hmessages id m hlatest)
  cases hcalled with
  | ready user session_id =>
    rw [copies_ready]
    exact hnone
  | channel_create hcopy =>
    exact h.add_copy hcopy (copy_channel_apart (hicons _ (List.mem_singleton_self _)))
  | channel_update hmid hold hnew =>
    have hxs := h.add_old hmid hold (hold_channel _)
    have hall := hxs.add_copy hnew (copy_channel_apart (hicons _ (List.mem_singleton_self _)))
    rw [List.append_assoc] at hall
    exact hall
  | channel_delete hold =>
    unfold old_version at hold
    split at hold
    · rw [hold]
      exact hnone
    · exact h.add_old hle hold (hold_channel _)
  | message_create hcopy =>
    exact h.add_copy hcopy (copy_message_apart (hread _ (List.mem_singleton_self _)))
  | message_update hmid hold hnew =>
    have hxs := h.add_old hmid hold (hold_message _)
    have hall := hxs.add_copy hnew (copy_message_apart (hread _ (List.mem_singleton_self _)))
    rw [List.append_assoc] at hall
    exact hall
  | message_delete hold =>
    unfold old_version at hold
    split at hold
    · rw [hold]
      exact hnone
    · exact h.add_old hle hold (hold_message _)
  | interaction_create interaction => exact hnone
  | ignored => exact hnone

end apart

/-! ### With an icon -/

section shared
variable {xs ys : List ClientStructure}

/-- Destroying a channel frees its icon. -/
theorem destroy_channel_icon {ch : Channel} {icon : CStr} (h : ch.icon = some icon) :
    (ClientStructure.channel ch).blocks ⟨.chars, icon.address⟩ := by
  have hstring : ∀ s : Option CStr, (free_string s).Returns True :=
    fun s => Returns.of_disposes (free_string_disposes s)
  have harray : ∀ {α : Type} (array : CArray α) (destroy : α → CMem Unit),
      (∀ a, (destroy a).Returns True) →
      (destroy_array array fun a _ => destroy a).Returns True := by
    intro α array destroy hdestroy
    refine Returns.seq ((Returns.each fun a _ => hdestroy a).congr (by simp)) fun _ => ?_
    exact Returns.of_disposes (free_array_disposes array)
  have hpointer : ∀ p : Unimplemented, (destroy_pointer p fun b _ => Mem.free b).Returns True := by
    intro p
    refine Returns.seq ((Returns.unless_null fun b _ => Returns.of_spec (SurelyFrees.free b)).congr
      (by simp)) fun _ => Returns.pure ()
  refine SurelyFrees.frees (SurelyFrees.destroying ?_)
  refine SurelyFrees.later (hstring _) fun _ => SurelyFrees.later (hstring _) fun _ => ?_
  rw [h]
  refine SurelyFrees.first (SurelyFrees.free _) fun _ => ?_
  iterate 3 refine Returns.seq (hstring _) fun _ => ?_
  refine Returns.seq (harray _ _ fun _ => Returns.pure ()) fun _ => ?_
  refine Returns.seq (harray _ _ fun user => Returns.of_disposes (user_disposes user)) fun _ => ?_
  exact Returns.seq (hpointer _) fun _ => hpointer _

/-- Two channels with the same icon are not apart. -/
theorem not_disjoint_of_icon {ch c : Channel} (hicon : ch.icon ≠ none) (hsame : c.icon = ch.icon) :
    ¬ (ClientStructure.channel ch).Disjoint (.channel c) := by
  intro h
  obtain ⟨icon, hch⟩ := Option.ne_none_iff_exists'.mp hicon
  exact h _ (destroy_channel_icon hch) (destroy_channel_icon (hsame.trans hch))

theorem copied_icon {ch c : Channel} {lo hi : Nat} (h : (_d_copy_channel ch).ResultIn lo hi c) :
    c.icon = ch.icon := by
  obtain ⟨n, log, hrun, -⟩ := h
  exact copy_channel_icon ch n c log hrun

/-- An old version has the icon of the latest version. -/
theorem old_icon {v : Versions Channel} {size : Int} {id : UInt64} {lo hi : Nat}
    {old : Option Channel} (h : v.AnswersCopy size id _d_copy_channel lo hi old) {c : Channel}
    (hc : .channel c ∈ old.toList.map ClientStructure.channel) :
    ∃ ch : Channel, v.latest id = some ch ∧ c.icon = ch.icon := by
  obtain ⟨answer, hanswers, hrel⟩ := h
  cases hrel with
  | none => cases hc
  | some hcopy =>
    obtain rfl := ClientStructure.channel.inj (List.mem_singleton.mp hc)
    exact ⟨_, hanswers.eq_some rfl, copied_icon hcopy⟩

/-- Each channel that is read is copied with its icon. -/
theorem Called.copied {callbacks : Callbacks} {ms cs : Int} {messages : Versions Message}
    {channels : Versions Channel} {lo hi : Nat} {read : EventData} {call : Option CallbackCall}
    (h : Called callbacks ms cs messages channels lo hi read call) {ch : Channel}
    (hch : .channel ch ∈ read.decoded) :
    ∃ c : Channel, .channel c ∈ copies call ∧ c.icon = ch.icon := by
  cases h with
  | channel_create hcopy =>
    obtain rfl := ClientStructure.channel.inj (List.mem_singleton.mp hch)
    exact ⟨_, List.mem_singleton_self _, copied_icon hcopy⟩
  | channel_update hmid hold hnew =>
    obtain rfl := ClientStructure.channel.inj (List.mem_singleton.mp hch)
    exact ⟨_, List.mem_append_right _ (List.mem_singleton_self _), copied_icon hnew⟩
  | ready user session_id =>
    obtain ⟨u, -, hu⟩ := List.mem_map.mp hch
    cases hu
  | message_create hcopy => cases List.mem_singleton.mp hch
  | message_update hmid hold hnew => cases List.mem_singleton.mp hch
  | interaction_create interaction => cases List.mem_singleton.mp hch
  | channel_delete hold => cases hch
  | message_delete hold => cases hch
  | ignored => cases hch

/-- Each copy of a channel has the icon of one that is read, or that has been
    put. -/
theorem Called.copy_of {callbacks : Callbacks} {ms cs : Int} {messages : Versions Message}
    {channels : Versions Channel} {lo hi : Nat} {read : EventData} {call : Option CallbackCall}
    (h : Called callbacks ms cs messages channels lo hi read call) {c : Channel}
    (hc : .channel c ∈ copies call) :
    ∃ ch : Channel, (.channel ch ∈ read.decoded ∨ ∃ id, channels.latest id = some ch) ∧
      c.icon = ch.icon := by
  cases h with
  | channel_create hcopy =>
    obtain rfl := ClientStructure.channel.inj (List.mem_singleton.mp hc)
    exact ⟨_, .inl (List.mem_singleton_self _), copied_icon hcopy⟩
  | channel_update hmid hold hnew =>
    rcases List.mem_append.mp hc with hmem | hmem
    · obtain ⟨ch, hlatest, hicon⟩ := old_icon hold hmem
      exact ⟨ch, .inr ⟨_, hlatest⟩, hicon⟩
    · obtain rfl := ClientStructure.channel.inj (List.mem_singleton.mp hmem)
      exact ⟨_, .inl (List.mem_singleton_self _), copied_icon hnew⟩
  | channel_delete hold =>
    unfold old_version at hold
    split at hold
    · rw [hold] at hc
      cases hc
    · obtain ⟨ch, hlatest, hicon⟩ := old_icon hold hc
      exact ⟨ch, .inr ⟨_, hlatest⟩, hicon⟩
  | message_update hmid hold hnew =>
    rcases List.mem_append.mp hc with hmem | hmem
    · obtain ⟨m, -, hm⟩ := List.mem_map.mp hmem
      cases hm
    · cases List.mem_singleton.mp hmem
  | message_delete hold =>
    obtain ⟨m, -, hm⟩ := List.mem_map.mp hc
    cases hm
  | message_create hcopy => cases List.mem_singleton.mp hc
  | ready user session_id =>
    rw [copies_ready] at hc
    cases hc
  | interaction_create interaction => cases hc
  | ignored => cases hc

end shared

/-! ### Every run -/

/-- What is put has been read. -/
theorem EventData.put_channel_eq_some {read : EventData} {v : Versions Channel} {id : UInt64}
    {ch : Channel} (h : (read.put_channel v).latest id = some ch) :
    .channel ch ∈ read.decoded ∨ v.latest id = some ch := by
  cases read with
  | channel_create channel | channel_update channel =>
    rcases Versions.put_eq_some h with hnew | hold
    · rw [hnew]
      exact .inl (List.mem_singleton_self _)
    · exact .inr hold
  | ready | channel_delete | message_create | message_update | message_delete
  | interaction_create | ignored => exact .inr h

theorem EventData.put_message_eq_some {read : EventData} {v : Versions Message} {id : UInt64}
    {m : Message} (h : (read.put_message v).latest id = some m) :
    .message m ∈ read.decoded ∨ v.latest id = some m := by
  cases read with
  | message_create message | message_update message =>
    rcases Versions.put_eq_some h with hnew | hold
    · rw [hnew]
      exact .inl (List.mem_singleton_self _)
    · exact .inr hold
  | ready | channel_create | channel_update | channel_delete | message_delete
  | interaction_create | ignored => exact .inr h

/-- **Invariant** of a ledger. -/
structure LedgerOk (s : ClientLedger) : Prop where
  channels : ∀ id ch, s.channels.latest id = some ch → .channel ch ∈ s.structures
  messages : ∀ id m, s.messages.latest id = some m → ∀ b, ¬ m.Lends b
  apart : NoIcons s.structures → AllApart s.client.next s.structures
  shared : ¬ NoIcons s.structures → ¬ s.Disjoint

namespace LedgerOk
variable {callbacks : Callbacks} {ms cs : Int} {s s' : ClientLedger}

/-- A step that gives the client no structure. -/
theorem of_none (h : LedgerOk s) (hnext : s'.client.next = s.client.next)
    (hstructures : s'.structures = s.structures ++ [])
    (hchannels : ∀ id ch, s'.channels.latest id = some ch → s.channels.latest id = some ch)
    (hmessages : ∀ id m, s'.messages.latest id = some m → s.messages.latest id = some m) :
    LedgerOk s' := by
  rw [List.append_nil] at hstructures
  refine ⟨?_, ?_, ?_, ?_⟩
  · intro id ch hlatest
    rw [hstructures]
    exact h.channels id ch (hchannels id ch hlatest)
  · intro id m hlatest
    exact h.messages id m (hmessages id m hlatest)
  · rw [hstructures, hnext]
    exact h.apart
  · unfold ClientLedger.Disjoint
    rw [hstructures]
    exact h.shared

/-- An event, given what is read and which callback is called. -/
theorem event (h : LedgerOk s) {read : EventData} {call : Option CallbackCall} {mid : Nat}
    {data : Option CJson} {event : Option String}
    (hread : (event_read (some callbacks) data event).ResultIn s.client.next mid read)
    (hle : mid ≤ s'.client.next)
    (hcalled : Called callbacks ms cs s.messages s.channels mid s'.client.next read call)
    (hstructures : s'.structures = s.structures ++ (read.decoded ++ copies call))
    (hchannels : s'.channels = read.put_channel s.channels)
    (hmessages : s'.messages = read.put_message s.messages) : LedgerOk s' := by
  have hlends : ∀ m : Message, .message m ∈ read.decoded → ∀ b, ¬ m.Lends b := by
    obtain ⟨n, log, hrun, -⟩ := hread
    exact event_read_lends_nothing callbacks data event n read log hrun
  refine ⟨?_, ?_, ?_, ?_⟩
  · intro id ch hlatest
    rw [hchannels] at hlatest
    rw [hstructures]
    rcases EventData.put_channel_eq_some hlatest with hnew | hold
    · exact List.mem_append_right _ (List.mem_append_left _ hnew)
    · exact List.mem_append_left _ (h.channels id ch hold)
  · intro id m hlatest
    rw [hmessages] at hlatest
    rcases EventData.put_message_eq_some hlatest with hnew | hold
    · exact hlends m hnew
    · exact h.messages id m hold
  · intro hicons
    rw [hstructures] at hicons ⊢
    have hold : NoIcons s.structures := fun ch hch => hicons ch (List.mem_append_left _ hch)
    have hdecoded : NoIcons read.decoded :=
      fun ch hch => hicons ch (List.mem_append_right _ (List.mem_append_left _ hch))
    have hall := ((h.apart hold).add_decoded hread).add_copies hle hcalled h.messages
      (fun id ch hlatest => hold ch (h.channels id ch hlatest)) hlends hdecoded
    rw [List.append_assoc] at hall
    exact hall
  · intro hicons hdisjoint
    unfold ClientLedger.Disjoint at hdisjoint
    rw [hstructures] at hicons hdisjoint
    obtain ⟨hfirst, hnew, hboth⟩ := List.pairwise_append.mp hdisjoint
    obtain ⟨-, -, hcopies⟩ := List.pairwise_append.mp hnew
    have hold : NoIcons s.structures := by
      by_contra hold
      exact h.shared hold hfirst
    -- a channel that is read and its copy would share the icon
    have hdecoded : NoIcons read.decoded := by
      intro ch hch
      by_contra hicon
      obtain ⟨c, hc, hsame⟩ := hcalled.copied hch
      exact not_disjoint_of_icon hicon hsame (hcopies _ hch _ hc)
    refine hicons fun ch hch => ?_
    rcases List.mem_append.mp hch with hmem | hmem
    · exact hold ch hmem
    · rcases List.mem_append.mp hmem with hmem | hmem
      · exact hdecoded ch hmem
      · obtain ⟨src, hsrc, hsame⟩ := hcalled.copy_of hmem
        rw [hsame]
        rcases hsrc with hread' | hput
        · exact hdecoded src hread'
        · obtain ⟨id, hlatest⟩ := hput
          exact hold src (h.channels id src hlatest)

/-- **Step lemma.** -/
theorem exec (h : LedgerOk s)
    (hok : ClientOk ms cs s.client.next s.client s.messages s.channels) {step : ClientStep}
    (hexec : s.exec callbacks step = some s') : LedgerOk s' := by
  obtain ⟨history, hhistory, hexec⟩ := Option.bind_eq_some_iff.mp hexec
  cases hexec
  cases step with
  | event data event =>
    obtain ⟨⟨read, client₁⟩, hread, hhistory⟩ := Option.bind_eq_some_iff.mp hhistory
    obtain ⟨⟨call, client'⟩, hhandle, hhistory⟩ := Option.bind_eq_some_iff.mp hhistory
    cases hhistory
    rcases event_handled hok callbacks data event with hhandled | hnone
    · obtain ⟨read', log, call', client'', hrun, hhandle', -, hle, hcalled, -⟩ := hhandled
      have hgiven : s.client.given callbacks (.event data event) = read.decoded ++ copies call := by
        unfold Client.given
        dsimp only
        rw [hread, hhandle]
      rw [s.client.run_eq hrun] at hread
      cases hread
      rw [hhandle] at hhandle'
      cases hhandle'
      exact h.event ⟨_, log, hrun, le_refl _, le_refl _⟩ hle hcalled (congrArg _ hgiven) rfl rfl
    · rw [hnone.1] at hhandle
      cases hhandle
  | get_message id =>
    obtain ⟨⟨answer, client'⟩, hget, hhistory⟩ := Option.bind_eq_some_iff.mp hhistory
    cases hhistory
    obtain ⟨answer', client'', hget', -, hnext, -⟩ := hok.get_message id
    rw [hget] at hget'
    cases hget'
    exact h.of_none hnext rfl (fun _ _ hlatest => hlatest) fun _ _ hlatest => hlatest
  | get_channel id =>
    obtain ⟨⟨answer, client'⟩, hget, hhistory⟩ := Option.bind_eq_some_iff.mp hhistory
    cases hhistory
    obtain ⟨answer', client'', hget', -, hnext, -⟩ := hok.get_channel id
    rw [hget] at hget'
    cases hget'
    exact h.of_none hnext rfl (fun _ _ hlatest => hlatest) fun _ _ hlatest => hlatest
  | delete_message id =>
    cases hhistory
    exact h.of_none rfl rfl (fun _ _ hlatest => hlatest)
      fun _ _ hlatest => (Versions.delete_eq_some hlatest).2
  | delete_channel id =>
    cases hhistory
    exact h.of_none rfl rfl (fun _ _ hlatest => (Versions.delete_eq_some hlatest).2)
      fun _ _ hlatest => hlatest

end LedgerOk

/-- **Run lemma.** -/
theorem ledger_ok {callbacks : Callbacks} {m c g : Int} {s : ClientLedger}
    (h : (ledger_system callbacks m c g).Reachable s) :
    ClientOk (clamp_cache_size m) (clamp_cache_size c) s.client.next s.client s.messages
      s.channels ∧ LedgerOk s := by
  refine System.Reachable.invariant (I := fun s : ClientLedger =>
    ClientOk (clamp_cache_size m) (clamp_cache_size c) s.client.next s.client s.messages
      s.channels ∧ LedgerOk s) ?_ ?_ h
  · intro s hs
    rw [show s = _ from hs]
    refine ⟨ClientOk.init m c g, ?_, ?_, ?_, ?_⟩
    · intro id ch hlatest
      cases hlatest
    · intro id m hlatest
      cases hlatest
    · intro _
      exact Apart.nil
    · intro hicons
      exact absurd (fun ch hch => absurd hch List.not_mem_nil) hicons
  · intro s step s' _ hok hstep
    obtain ⟨history, hhistory, hexec⟩ := Option.bind_eq_some_iff.mp hstep
    cases hexec
    exact ⟨ClientHistory.exec_ok hok.1 hhistory, hok.2.exec hok.1 hstep⟩

/-- **Structures are apart.** In every run, no block is freed by the
    destroyers of two of the structures that the client has been given,
    unless one of these is a channel with an icon. Then two of them do free
    the same block. -/
theorem structures_apart_iff {callbacks : Callbacks}
    {message_cache_size channel_cache_size guild_cache_size : Int} {s : ClientLedger}
    (h : (ledger_system callbacks message_cache_size channel_cache_size
      guild_cache_size).Reachable s) :
    s.Disjoint ↔ NoIcons s.structures := by
  have hok := (ledger_ok h).2
  constructor
  · intro hdisjoint
    by_contra hicons
    exact hok.shared hicons hdisjoint
  · intro hicons
    exact (hok.apart hicons).disjoint

/-- A channel that is created and updated is there five times. -/
theorem structures_apart_iff_kept : ∃ s : ClientLedger, s.structures.length = 5 ∧
    (s.Disjoint ↔ NoIcons s.structures) := by
  have hrun : ∃ s, (ledger_system (channel_callbacks true) 1000 1000 1000).Run
      [.event (some id_channel) (some "CHANNEL_CREATE"),
        .event (some id_channel) (some "CHANNEL_UPDATE")] s ∧ s.structures.length = 5 :=
    ⟨_, System.run_ofFn_iff.mpr rfl, rfl⟩
  obtain ⟨s, hrun, hlength⟩ := hrun
  exact ⟨s, hlength, structures_apart_iff ⟨_, hrun⟩⟩

end DiscoC
