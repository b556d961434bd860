import DiscoC.Framework.Copying
import DiscoC.Discord.Client
import DiscoC.Discord.EventRead

/-! # Which callback is called

  `event_handle` compares the name of an event with the names of the events
  one after the other, each up to a length that is counted by hand. All of
  these lengths take in the null byte at the end, so that only the name
  itself compares equal. Hence the callback of an event is called for the
  event of that very name only, and for a name that belongs to no callback
  nothing happens at all (`event_dispatch_exact`).
-/

namespace DiscoC

open Mem

/-! ### Names -/

/-- The event that a callback belongs to. -/
def CallbackCall.event_name : CallbackCall → String
  | .on_ready => "READY"
  | .on_message _ => "MESSAGE_CREATE"
  | .on_message_edit _ _ => "MESSAGE_UPDATE"
  | .on_message_delete _ _ _ _ => "MESSAGE_DELETE"
  | .on_channel_create _ => "CHANNEL_CREATE"
  | .on_channel_update _ _ => "CHANNEL_UPDATE"
  | .on_channel_delete _ _ _ _ _ => "CHANNEL_DELETE"
  | .on_interaction_create _ => "INTERACTION_CREATE"

/-- The events that have a callback, and whether it is given. -/
def Callbacks.events (callbacks : Callbacks) : List (String × Bool) :=
  [("READY", callbacks.on_ready),
    ("MESSAGE_CREATE", callbacks.on_message),
    ("MESSAGE_UPDATE", callbacks.on_message_edit),
    ("MESSAGE_DELETE", callbacks.on_message_delete),
    ("CHANNEL_CREATE", callbacks.on_channel_create),
    ("CHANNEL_UPDATE", callbacks.on_channel_update),
    ("CHANNEL_DELETE", callbacks.on_channel_delete),
    ("INTERACTION_CREATE", callbacks.on_interaction_create)]

/-- The name of the event that a branch is for, if it does something. -/
def EventBranch.event_name : EventBranch → Option String
  | .ready => some "READY"
  | .channel_create => some "CHANNEL_CREATE"
  | .channel_update => some "CHANNEL_UPDATE"
  | .channel_delete => some "CHANNEL_DELETE"
  | .message_create => some "MESSAGE_CREATE"
  | .message_update => some "MESSAGE_UPDATE"
  | .message_delete => some "MESSAGE_DELETE"
  | .interaction_create => some "INTERACTION_CREATE"
  | .ignored => none

/-- The callback of a branch is given. -/
def EventBranch.given (callbacks : Callbacks) : EventBranch → Bool
  | .ready => callbacks.on_ready
  | .channel_create => callbacks.on_channel_create
  | .channel_update => callbacks.on_channel_update
  | .channel_delete => callbacks.on_channel_delete
  | .message_create => callbacks.on_message
  | .message_update => callbacks.on_message_edit
  | .message_delete => callbacks.on_message_delete
  | .interaction_create => callbacks.on_interaction_create
  | .ignored => false

/-- The branch that has read the data of an event. -/
def EventData.branch : EventData → EventBranch
  | .ready _ _ => .ready
  | .channel_create _ => .channel_create
  | .channel_update _ => .channel_update
  | .channel_delete _ _ _ _ => .channel_delete
  | .message_create _ => .message_create
  | .message_update _ => .message_update
  | .message_delete _ _ _ => .message_delete
  | .interaction_create _ => .interaction_create
  | .ignored => .ignored

/-- A branch that does something is taken by its own name only. -/
theorem event_branch_eq_iff {branch : EventBranch} {name : String}
    (h : branch.event_name = some name) (event : String) :
    event_branch event = branch ↔ event = name := by
  cases branch with
  | ignored => cases h
  | _ =>
    obtain rfl := Option.some.inj h
    exact event_branch_iff _ (by decide) (by decide) (by decide +kernel) event

theorem EventBranch.given_iff {branch : EventBranch} {name : String}
    (h : branch.event_name = some name) (callbacks : Callbacks) :
    (name, true) ∈ callbacks.events ↔ branch.given callbacks = true := by
  cases branch with
  | ignored => cases h
  | _ =>
    obtain rfl := Option.some.inj h
    simp [Callbacks.events, EventBranch.given]

/-- Every event that has a callback has a branch. -/
theorem branch_of_event {callbacks : Callbacks} {event : String} {given : Bool}
    (h : (event, given) ∈ callbacks.events) :
    ∃ branch : EventBranch, branch.event_name = some event := by
  simp only [Callbacks.events, List.mem_cons, Prod.mk.injEq, List.not_mem_nil, or_false] at h
  rcases h with h | h | h | h | h | h | h | h
  · exact ⟨.ready, h.1 ▸ rfl⟩
  · exact ⟨.message_create, h.1 ▸ rfl⟩
  · exact ⟨.message_update, h.1 ▸ rfl⟩
  · exact ⟨.message_delete, h.1 ▸ rfl⟩
  · exact ⟨.channel_create, h.1 ▸ rfl⟩
  · exact ⟨.channel_update, h.1 ▸ rfl⟩
  · exact ⟨.channel_delete, h.1 ▸ rfl⟩
  · exact ⟨.interaction_create, h.1 ▸ rfl⟩

/-- An event that no branch is for is ignored. -/
theorem event_branch_ignored {event : String}
    (h : ¬ ∃ branch : EventBranch, branch.event_name = some event) :
    event_branch event = .ignored := by
  cases hname : (event_branch event).event_name with
  | none =>
    cases hb : event_branch event with
    | ignored => rfl
    | _ =>
      rw [hb] at hname
      cases hname
  | some name =>
    -- the branch that is taken bears the name of the event
    have heq : event = name := (event_branch_eq_iff hname event).mp rfl
    exact absurd ⟨event_branch event, heq ▸ hname⟩ h

/-- The callback of an event is given exactly when that of its branch is, and
    the branch then bears its name. -/
theorem event_given_iff (callbacks : Callbacks) (event : String) :
    (event, true) ∈ callbacks.events ↔ (event_branch event).given callbacks = true := by
  by_cases hnamed : ∃ branch : EventBranch, branch.event_name = some event
  · obtain ⟨branch, hname⟩ := hnamed
    rw [(event_branch_eq_iff hname event).mpr rfl]
    exact EventBranch.given_iff hname callbacks
  · rw [event_branch_ignored hnamed]
    exact iff_of_false (fun h => hnamed (branch_of_event h)) Bool.false_ne_true

theorem event_name_of_given {callbacks : Callbacks} {event : String}
    (h : (event_branch event).given callbacks = true) :
    (event_branch event).event_name = some event := by
  obtain ⟨branch, hname⟩ := branch_of_event ((event_given_iff callbacks event).mpr h)
  rw [(event_branch_eq_iff hname event).mpr rfl, hname]

/-! ### What is called -/

/-- A branch whose callback is given reads the data of its event, and so does
    READY. Any other one reads nothing. -/
theorem branch_read_branch (callbacks : Callbacks) (data : CJson) (branch : EventBranch) :
    (branch_read callbacks data branch).Ensures fun read =>
      read.branch = if branch = .ready ∨ branch.given callbacks = true then branch
        else .ignored := by
  have hread_if : ∀ {callback : Bool} {read : CMem EventData} {branch : EventBranch},
      branch ≠ .ready → (read.Ensures fun d => d.branch = branch) →
        (read_if callback read).Ensures fun d =>
          d.branch = if branch = .ready ∨ callback = true then branch else .ignored := by
    intro callback read branch hready h
    unfold read_if
    cases callback with
    | false => exact Ensures.pure (by simp [hready, EventData.branch])
    | true => exact h.mono fun d hd => by rw [hd, if_pos (.inr rfl)]
  cases branch with
  | ready => exact Ensures.skip fun user => Ensures.skip fun session_id => Ensures.pure rfl
  | channel_create | channel_update | channel_delete | message_create | message_update
  | interaction_create =>
    exact hread_if (by decide) (Ensures.skip fun a => Ensures.pure rfl)
  | message_delete => exact hread_if (by decide) (Ensures.pure rfl)
  | ignored => exact Ensures.pure rfl

/-- The callback that is called for what has been read is that of the branch
    that has read it. -/
theorem event_cached_called {callbacks : Callbacks} {client client' : Client} {read : EventData}
    {call : Option CallbackCall}
    (h : client.event_cached callbacks read = some (call, client')) :
    call.map CallbackCall.event_name =
      if read.branch = .ready ∧ callbacks.on_ready = false then none
      else read.branch.event_name := by
  -- the updates of the caches come first, and then the one call
  cases read with
  | ready user session_id =>
    obtain ⟨⟨_, client₁⟩, -, h⟩ := Option.bind_eq_some_iff.mp h
    obtain ⟨rfl, -⟩ := Prod.mk.inj (Option.some.inj h)
    cases callbacks.on_ready <;> rfl
  | channel_create channel =>
    obtain ⟨⟨copy, client₁⟩, -, h⟩ := Option.bind_eq_some_iff.mp h
    obtain ⟨client₂, -, h⟩ := Option.bind_eq_some_iff.mp h
    obtain ⟨rfl, -⟩ := Prod.mk.inj (Option.some.inj h)
    rfl
  | channel_update channel =>
    obtain ⟨⟨old, client₁⟩, -, h⟩ := Option.bind_eq_some_iff.mp h
    obtain ⟨⟨new, client₂⟩, -, h⟩ := Option.bind_eq_some_iff.mp h
    obtain ⟨client₃, -, h⟩ := Option.bind_eq_some_iff.mp h
    obtain ⟨rfl, -⟩ := Prod.mk.inj (Option.some.inj h)
    rfl
  | channel_delete id guild_id parent_id type =>
    simp only [Client.event_cached, Option.bind_eq_bind] at h
    -- the old version is handed over if it was cached
    split at h
    · obtain ⟨⟨old, client₁⟩, -, h⟩ := Option.bind_eq_some_iff.mp h
      obtain ⟨rfl, -⟩ := Prod.mk.inj (Option.some.inj h)
      rfl
    · obtain ⟨rfl, -⟩ := Prod.mk.inj (Option.some.inj h)
      rfl
  | message_create message =>
    obtain ⟨⟨copy, client₁⟩, -, h⟩ := Option.bind_eq_some_iff.mp h
    obtain ⟨client₂, -, h⟩ := Option.bind_eq_some_iff.mp h
    obtain ⟨rfl, -⟩ := Prod.mk.inj (Option.some.inj h)
    rfl
  | message_update message =>
    obtain ⟨⟨old, client₁⟩, -, h⟩ := Option.bind_eq_some_iff.mp h
    obtain ⟨⟨new, client₂⟩, -, h⟩ := Option.bind_eq_some_iff.mp h
    obtain ⟨client₃, -, h⟩ := Option.bind_eq_some_iff.mp h
    obtain ⟨rfl, -⟩ := Prod.mk.inj (Option.some.inj h)
    rfl
  | message_delete id channel_id guild_id =>
    simp only [Client.event_cached, Option.bind_eq_bind] at h
    split at h
    · obtain ⟨⟨old, client₁⟩, -, h⟩ := Option.bind_eq_some_iff.mp h
      obtain ⟨rfl, -⟩ := Prod.mk.inj (Option.some.inj h)
      rfl
    · obtain ⟨rfl, -⟩ := Prod.mk.inj (Option.some.inj h)
      rfl
  | interaction_create interaction =>
    obtain ⟨rfl, -⟩ := Prod.mk.inj (Option.some.inj h)
    rfl
  | ignored =>
    obtain ⟨rfl, -⟩ := Prod.mk.inj (Option.some.inj h)
    rfl

/-- The callback that is called for an event is the one that is given for the
    branch the event takes. -/
theorem event_handle_called {callbacks : Callbacks} {client client' : Client}
    {data : Option CJson} {event : String} {call : Option CallbackCall}
    (h : client.event_handle callbacks data (some event) = some (call, client')) :
    call.map CallbackCall.event_name =
      if (event_branch event).given callbacks = true then (event_branch event).event_name
      else none := by
  obtain ⟨⟨read, client₁⟩, hrun, h⟩ := Option.bind_eq_some_iff.mp h
  obtain ⟨⟨read, log⟩, hread, heq⟩ := Option.map_eq_some_iff.mp hrun
  obtain ⟨rfl, -⟩ := Prod.mk.inj heq
  have hbranch := branch_read_branch callbacks (event_data data) (event_branch event)
    client.next read log hread
  rw [event_cached_called h, hbranch]
  by_cases hgiven : (event_branch event).given callbacks = true
  · have hnone : ¬ (event_branch event = .ready ∧ callbacks.on_ready = false) := by
      intro h
      -- the callback of READY is given as well
      rw [h.1, EventBranch.given, h.2] at hgiven
      cases hgiven
    rw [if_pos (Or.inr hgiven), if_pos hgiven, if_neg hnone]
  · by_cases hready : event_branch event = .ready
    · have hnone : callbacks.on_ready = false := by
        rw [hready] at hgiven
        simpa [EventBranch.given] using hgiven
      rw [if_pos (Or.inl hready), if_pos ⟨hready, hnone⟩, if_neg hgiven]
    · rw [if_neg (not_or.mpr ⟨hready, hgiven⟩), if_neg hgiven]
      rfl

/-- Nothing is done for an event that is ignored. -/
theorem event_handle_ignored {callbacks : Callbacks} {client : Client} {data : Option CJson}
    {event : String} (h : event_branch event = .ignored) :
    client.event_handle callbacks data (some event) = some (none, client) := by
  have hread : client.run (event_read (some callbacks) data (some event)) =
      some (.ignored, client) := by
    rw [event_read, h]
    rfl
  rw [Client.event_handle, hread]
  rfl

/-- **Events are dispatched exactly**: the callback that is called for an
    event is that of the event with this very name, if it is given. For a name
    without a callback nothing is called, and the caches stay as they are. -/
theorem event_dispatch_exact (callbacks : Callbacks) (client : Client) (data : Option CJson)
    (event : String) :
    (∀ call client', client.event_handle callbacks data (some event) = some (call, client') →
      call.map CallbackCall.event_name =
        if (event, true) ∈ callbacks.events then some event else none) ∧
    (event ∉ callbacks.events.map Prod.fst →
      client.event_handle callbacks data (some event) = some (none, client)) := by
  constructor
  · intro call client' h
    rw [event_handle_called h]
    by_cases hgiven : (event_branch event).given callbacks = true
    · rw [if_pos hgiven, if_pos ((event_given_iff callbacks event).mpr hgiven),
        event_name_of_given hgiven]
    · rw [if_neg hgiven, if_neg (mt (event_given_iff callbacks event).mp hgiven)]
  · intro hother
    -- a branch that bears the name would give it a callback
    refine event_handle_ignored (event_branch_ignored fun hnamed => hother ?_)
    obtain ⟨branch, hname⟩ := hnamed
    cases branch with
    | ignored => cases hname
    | _ =>
      obtain rfl := Option.some.inj hname
      simp [Callbacks.events]

/-- Callbacks for messages that are deleted only. -/
def delete_callbacks : Callbacks where
  on_ready := false
  on_message := false
  on_message_edit := false
  on_message_delete := true
  on_channel_create := false
  on_channel_update := false
  on_channel_delete := false
  on_interaction_create := false

/-- One deleted message is passed on, and several at once are not. -/
theorem message_delete_dispatched :
    (∃ call client', (Client.init 1 1 1).event_handle delete_callbacks none
        (some "MESSAGE_DELETE") = some (call, client') ∧
      call.map CallbackCall.event_name = some "MESSAGE_DELETE") ∧
    (Client.init 1 1 1).event_handle delete_callbacks none (some "MESSAGE_DELETE_BULK") =
      some (none, Client.init 1 1 1) := by
  have hbranch : event_branch "MESSAGE_DELETE" = .message_delete :=
    (event_branch_eq_iff rfl "MESSAGE_DELETE").mpr rfl
  have hread : (Client.init 1 1 1).run
      (event_read (some delete_callbacks) none (some "MESSAGE_DELETE")) =
        some (.message_delete 0 0 0, Client.init 1 1 1) := by
    rw [event_read, hbranch]
    rfl
  have hcalled : (Client.init 1 1 1).event_handle delete_callbacks none (some "MESSAGE_DELETE") =
      some (some (.on_message_delete 0 0 0 none), Client.init 1 1 1) := by
    rw [Client.event_handle, hread]
    rfl
  refine ⟨⟨_, _, hcalled, ?_⟩, ?_⟩
  · have h := (event_dispatch_exact delete_callbacks (Client.init 1 1 1) none
      "MESSAGE_DELETE").1 _ _ hcalled
    rwa [if_pos (by decide +kernel)] at h
  · exact (event_dispatch_exact delete_callbacks (Client.init 1 1 1) none
      "MESSAGE_DELETE_BULK").2 (by decide +kernel)

end DiscoC
