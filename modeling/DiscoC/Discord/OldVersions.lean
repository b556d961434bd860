import DiscoC.Discord.Client
import DiscoC.Discord.EventRead
import DiscoC.Framework.Copying
import DiscoC.Framework.System

/-! # Old versions and unrelated callbacks

  The old version of a message or channel that a callback is given comes from
  the cache. It should not depend on the callbacks for new messages and
  channels: two clients that differ in these only should pass the same old
  versions.

  Messages and channels are only decoded, and put into the cache, where the
  callback for them is given. So the two go apart with the first creation
  whose callback only one of them has; until then they are in the same state
  (`old_versions_agree`).
-/

namespace DiscoC

open Mem

/-! ### Runs of a client -/

/-- The events that use the cache. -/
inductive CachedEvent where
  | channel_create
  | channel_update
  | channel_delete
  | message_create
  | message_update
  | message_delete
  deriving DecidableEq, Repr

namespace CachedEvent

def name : CachedEvent → String
  | channel_create => "CHANNEL_CREATE"
  | channel_update => "CHANNEL_UPDATE"
  | channel_delete => "CHANNEL_DELETE"
  | message_create => "MESSAGE_CREATE"
  | message_update => "MESSAGE_UPDATE"
  | message_delete => "MESSAGE_DELETE"

/-- The branch of `event_handle` for the event. -/
def branch : CachedEvent → EventBranch
  | channel_create => .channel_create
  | channel_update => .channel_update
  | channel_delete => .channel_delete
  | message_create => .message_create
  | message_update => .message_update
  | message_delete => .message_delete

/-- The callback for the event. -/
def callback (callbacks : Callbacks) : CachedEvent → Bool
  | channel_create => callbacks.on_channel_create
  | channel_update => callbacks.on_channel_update
  | channel_delete => callbacks.on_channel_delete
  | message_create => callbacks.on_message
  | message_update => callbacks.on_message_edit
  | message_delete => callbacks.on_message_delete

theorem event_branch_name (e : CachedEvent) : event_branch e.name = e.branch := by
  refine (event_branch_iff e.name ?_ ?_ ?_ e.name).mpr rfl
  · cases e <;> decide
  · cases e <;> decide
  · cases e <;> decide +kernel

end CachedEvent

/-- A client, with the calls of its callbacks so far. -/
structure ClientRun where
  client : Client
  calls : List CallbackCall

/-- An event is dispatched. The callbacks do not touch the cache. -/
def ClientRun.dispatch (callbacks : Callbacks) (s : ClientRun) (e : CachedEvent × CJson) :
    Option ClientRun := do
  let (call, client) ← s.client.event_handle callbacks (some e.2) (some e.1.name)
  some { client, calls := s.calls ++ call.toList }

/-- Two clients with different callbacks are dispatched the same events. -/
def client_pair (callbacks₁ callbacks₂ : Callbacks) (client : Client) :
    System (ClientRun × ClientRun) (CachedEvent × CJson) :=
  .ofFn ({ client, calls := [] }, { client, calls := [] }) fun s e => do
    let s₁ ← s.1.dispatch callbacks₁ e
    let s₂ ← s.2.dispatch callbacks₂ e
    some (s₁, s₂)

/-! ### Old versions -/

/-- The old version that is passed to a callback. -/
inductive OldVersion where
  | on_message_edit (old : Option Message)
  | on_message_delete (old : Option Message)
  | on_channel_update (old : Option Channel)
  | on_channel_delete (old : Option Channel)

def CallbackCall.old_version : CallbackCall → Option OldVersion
  | .on_message_edit old _ => some (.on_message_edit old)
  | .on_message_delete _ _ _ old => some (.on_message_delete old)
  | .on_channel_update old _ => some (.on_channel_update old)
  | .on_channel_delete _ _ _ _ old => some (.on_channel_delete old)
  | _ => none

/-- The old versions that have been passed, in order. -/
def ClientRun.old_versions (s : ClientRun) : List OldVersion :=
  s.calls.filterMap CallbackCall.old_version

/-- The callbacks that are given old versions are the same. -/
structure AgreeOnOld (callbacks₁ callbacks₂ : Callbacks) : Prop where
  on_message_edit : callbacks₁.on_message_edit = callbacks₂.on_message_edit
  on_message_delete : callbacks₁.on_message_delete = callbacks₂.on_message_delete
  on_channel_update : callbacks₁.on_channel_update = callbacks₂.on_channel_update
  on_channel_delete : callbacks₁.on_channel_delete = callbacks₂.on_channel_delete

/-- An event is no creation whose callback only one of the two has. -/
def CreatedAlike (callbacks₁ callbacks₂ : Callbacks) (_ : ClientRun × ClientRun)
    (e : CachedEvent × CJson) : Prop :=
  (e.1 = .message_create → callbacks₁.on_message = callbacks₂.on_message) ∧
    (e.1 = .channel_create → callbacks₁.on_channel_create = callbacks₂.on_channel_create)

instance (callbacks₁ callbacks₂ : Callbacks) (s : ClientRun × ClientRun)
    (e : CachedEvent × CJson) : Decidable (CreatedAlike callbacks₁ callbacks₂ s e) :=
  inferInstanceAs (Decidable (_ ∧ _))

/-! ### One event -/

section step

variable {callbacks₁ callbacks₂ : Callbacks}

/-- Callbacks that agree on old versions have the callback of an event in
    common, unless it is a creation that only one of them is told of. -/
theorem AgreeOnOld.callback_eq (h : AgreeOnOld callbacks₁ callbacks₂) {s : ClientRun × ClientRun}
    {e : CachedEvent × CJson} (he : CreatedAlike callbacks₁ callbacks₂ s e) :
    e.1.callback callbacks₁ = e.1.callback callbacks₂ := by
  obtain ⟨event, data⟩ := e
  cases event with
  | channel_create => exact he.2 rfl
  | channel_update => exact h.on_channel_update
  | channel_delete => exact h.on_channel_delete
  | message_create => exact he.1 rfl
  | message_update => exact h.on_message_edit
  | message_delete => exact h.on_message_delete

/-- What an event reads depends on its own callback only. -/
theorem branch_read_congr {e : CachedEvent} (h : e.callback callbacks₁ = e.callback callbacks₂)
    (data : CJson) :
    branch_read callbacks₁ data e.branch = branch_read callbacks₂ data e.branch := by
  cases e with
  | channel_create | channel_update | channel_delete | message_create | message_update
    | message_delete => exact congrArg (fun callback => read_if callback _) h

/-- What is done with it depends on no callback. -/
theorem event_cached_congr {client : Client} {read : EventData}
    (h : ∀ user session_id, read ≠ .ready user session_id) :
    client.event_cached callbacks₁ read = client.event_cached callbacks₂ read := by
  cases read with
  | ready user session_id => exact absurd rfl (h user session_id)
  | channel_create | channel_update | channel_delete | message_create | message_update
    | message_delete | interaction_create | ignored => rfl

/-- No such event is the one the bot is ready with. -/
theorem branch_read_ensures (callbacks : Callbacks) (data : CJson) (e : CachedEvent) :
    (branch_read callbacks data e.branch).Ensures fun read =>
      ∀ user session_id, read ≠ .ready user session_id := by
  have hif : ∀ {callback : Bool} {x : CMem EventData},
      (x.Ensures fun read => ∀ user session_id, read ≠ .ready user session_id) →
      (read_if callback x).Ensures fun read =>
        ∀ user session_id, read ≠ .ready user session_id := by
    intro callback x hx
    cases callback with
    | false => exact Ensures.pure fun _ _ => nofun
    | true => exact hx
  cases e with
  | message_delete => exact hif (Ensures.pure fun _ _ => nofun)
  | channel_create | channel_update | channel_delete | message_create | message_update =>
    exact hif (Ensures.skip fun _ => Ensures.pure fun _ _ => nofun)

/-- **Step lemma**: an event whose callback both have does the same to
    both. -/
theorem ClientRun.dispatch_congr {e : CachedEvent × CJson}
    (h : e.1.callback callbacks₁ = e.1.callback callbacks₂) (s : ClientRun) :
    s.dispatch callbacks₁ e = s.dispatch callbacks₂ e := by
  have hhandle : s.client.event_handle callbacks₁ (some e.2) (some e.1.name) =
      s.client.event_handle callbacks₂ (some e.2) (some e.1.name) := by
    unfold Client.event_handle event_read
    dsimp only
    rw [e.1.event_branch_name, branch_read_congr h]
    refine Option.bind_congr fun r hr => ?_
    obtain ⟨⟨read, log⟩, hrun, rfl⟩ := Option.map_eq_some_iff.mp hr
    exact event_cached_congr (branch_read_ensures callbacks₂ _ e.1 _ read log hrun)
  unfold ClientRun.dispatch
  rw [hhandle]

end step

/-! ### Every run -/

/-- **Old versions agree**: two clients that start in the same state and have
    the same callbacks for old versions pass the same ones to them, in every
    run without a creation whose callback only one of them has. -/
theorem old_versions_agree {callbacks₁ callbacks₂ : Callbacks}
    (hagree : AgreeOnOld callbacks₁ callbacks₂) (client : Client) {s : ClientRun × ClientRun}
    (h : ((client_pair callbacks₁ callbacks₂ client).guarded
      (CreatedAlike callbacks₁ callbacks₂)).Reachable s) :
    s.1.old_versions = s.2.old_versions := by
  have hsame : s.1 = s.2 := by
    refine System.Reachable.invariant (I := fun s => s.1 = s.2) ?_ ?_ h
    · intro s hs
      rw [show s = _ from hs]
    · intro s e s' _ hinv hstep
      obtain ⟨halike, hstep⟩ := hstep
      obtain ⟨s₁, h₁, hstep⟩ := Option.bind_eq_some_iff.mp hstep
      obtain ⟨s₂, h₂, hstep⟩ := Option.bind_eq_some_iff.mp hstep
      cases hstep
      -- both take the same step from the same state
      rw [ClientRun.dispatch_congr (hagree.callback_eq halike), hinv, h₂] at h₁
      exact (Option.some.inj h₁).symm
  rw [hsame]

/-- The callbacks for channels, with the one for new channels or without. -/
def channel_callbacks (on_channel_create : Bool) : Callbacks where
  on_ready := false
  on_message := false
  on_message_edit := false
  on_message_delete := false
  on_channel_create := on_channel_create
  on_channel_update := true
  on_channel_delete := true
  on_interaction_create := false

theorem channel_callbacks_agree : AgreeOnOld (channel_callbacks true) (channel_callbacks false) :=
  ⟨rfl, rfl, rfl, rfl⟩

/-- A channel with an id and a type. -/
def id_channel : CJson := .object [("id", .string "1"), ("type", .number 0)]

/-- A channel that is updated and deleted has its old version passed. -/
theorem channel_updated :
    ∃ s channel, ((client_pair (channel_callbacks true) (channel_callbacks false)
        (Client.init 1000 1000 1000)).guarded
          (CreatedAlike (channel_callbacks true) (channel_callbacks false))).Run
        [(.channel_update, id_channel), (.channel_delete, id_channel)] s ∧
      s.1.old_versions = [.on_channel_update none, .on_channel_delete (some channel)] :=
  ⟨_, _, System.run_guarded_iff.mpr rfl, rfl⟩

/-- Only one client has the callback for new channels. -/
theorem old_versions_agree_updated :
    ∃ s : ClientRun × ClientRun, s.1.old_versions.length = 2 ∧
      s.1.old_versions = s.2.old_versions := by
  obtain ⟨s, channel, hrun, hold⟩ := channel_updated
  refine ⟨s, ?_, ?_⟩
  · rw [hold]
    rfl
  · exact old_versions_agree channel_callbacks_agree (Client.init 1000 1000 1000) ⟨_, hrun⟩

/-- A channel that is created and deleted: its old version is there if it
    was created with a callback, and else it is null. -/
theorem old_versions_of_create :
    ∃ s channel, (client_pair (channel_callbacks true) (channel_callbacks false)
        (Client.init 1000 1000 1000)).Run
        [(.channel_create, id_channel), (.channel_delete, id_channel)] s ∧
      AgreeOnOld (channel_callbacks true) (channel_callbacks false) ∧
      s.1.old_versions = [.on_channel_delete (some channel)] ∧
      s.2.old_versions = [.on_channel_delete none] ∧ s.1.old_versions ≠ s.2.old_versions := by
  refine ⟨_, _, System.run_ofFn_iff.mpr rfl, channel_callbacks_agree, rfl, rfl, fun h => ?_⟩
  cases h

end DiscoC
