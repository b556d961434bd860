import DiscoC.Framework.Yields
import DiscoC.Discord.MessageOwnership
import DiscoC.Discord.Event

/-! # Which events can be read

  An event is read without an access through the null pointer exactly when
  it is readable (`event_returns`): every value that is used unchecked has to
  be there and to be of the type that is expected. These are the name of the
  event, the session id of READY, the type of a deleted channel, and the role
  ids of members and messages.
-/

namespace DiscoC

open Mem

/-! ### Branches by name -/

/-- Every comparison is of the whole name. -/
theorem event_branches_length : ∀ b ∈ event_branches, b.1.toList.length < b.2.1 := by
  intro b hb
  have hsize : ∀ b ∈ event_branches, b.1.utf8ByteSize < b.2.1 := by decide +kernel
  exact (length_le_utf8ByteSize b.1).trans_lt (hsize b hb)

theorem event_branches_cmp {event : String} {b : String × Nat × EventBranch}
    (hb : b ∈ event_branches) : strncmp_eq event b.1 b.2.1 = true ↔ event = b.1 :=
  strncmp_eq_iff (event_branches_length b hb)

/-- A branch that does something belongs to one name. -/
theorem event_branch_iff {branch : EventBranch} (name : String) (hne : branch ≠ .ignored)
    (hbranch : ∃ b ∈ event_branches, b.2.2 = branch)
    (honly : ∀ b ∈ event_branches, b.1 = name ↔ b.2.2 = branch) (event : String) :
    event_branch event = branch ↔ event = name := by
  unfold event_branch
  split
  next heq =>
    have hmem := List.mem_of_find?_eq_some heq
    have hcmp := List.find?_some heq
    -- the branch that was found has compared equal, so it bears the name
    rw [(event_branches_cmp hmem).mp hcmp]
    exact (honly _ hmem).symm
  next heq =>
    refine iff_of_false hne.symm ?_
    rintro rfl
    -- no branch compares equal, not even the one of this name
    obtain ⟨b, hb, hkind⟩ := hbranch
    have hcmp : strncmp_eq event b.1 b.2.1 = true :=
      (event_branches_cmp hb).mpr ((honly b hb).mpr hkind).symm
    exact List.find?_eq_none.mp heq b hb hcmp

theorem event_branch_ready : ∀ event, event_branch event = .ready ↔ event = "READY" :=
  event_branch_iff "READY" (by decide) (by decide) (by decide +kernel)

theorem event_branch_channel_delete :
    ∀ event, event_branch event = .channel_delete ↔ event = "CHANNEL_DELETE" :=
  event_branch_iff "CHANNEL_DELETE" (by decide) (by decide) (by decide +kernel)

theorem event_branch_message_create :
    ∀ event, event_branch event = .message_create ↔ event = "MESSAGE_CREATE" :=
  event_branch_iff "MESSAGE_CREATE" (by decide) (by decide) (by decide +kernel)

theorem event_branch_message_update :
    ∀ event, event_branch event = .message_update ↔ event = "MESSAGE_UPDATE" :=
  event_branch_iff "MESSAGE_UPDATE" (by decide) (by decide) (by decide +kernel)

theorem event_branch_interaction_create :
    ∀ event, event_branch event = .interaction_create ↔ event = "INTERACTION_CREATE" :=
  event_branch_iff "INTERACTION_CREATE" (by decide) (by decide) (by decide +kernel)

/-! ### What the branches need -/

/-- What `event_handle` uses of an event without a check is there. -/
structure Readable (callbacks : Callbacks) (event : String) (data : CJson) : Prop where
  ready : event = "READY" →
    ∀ item, cJSON_GetObjectItem data "session_id" = some item → item.valuestring.isSome
  channel_delete : event = "CHANNEL_DELETE" → callbacks.on_channel_delete →
    (cJSON_GetObjectItem data "type").isSome
  message_create : event = "MESSAGE_CREATE" → callbacks.on_message →
    message_everywhere message_readable interaction_readable data
  message_update : event = "MESSAGE_UPDATE" → callbacks.on_message_edit →
    message_everywhere message_readable interaction_readable data
  interaction_create : event = "INTERACTION_CREATE" → callbacks.on_interaction_create →
    interaction_everywhere message_readable interaction_readable data

/-- What has to hold of `data` for a branch to be read. -/
def branch_readable (callbacks : Callbacks) (data : CJson) : EventBranch → Prop
  | .ready => ∀ item, cJSON_GetObjectItem data "session_id" = some item → item.valuestring.isSome
  | .channel_delete => callbacks.on_channel_delete → (cJSON_GetObjectItem data "type").isSome
  | .message_create => callbacks.on_message →
    message_everywhere message_readable interaction_readable data
  | .message_update => callbacks.on_message_edit →
    message_everywhere message_readable interaction_readable data
  | .interaction_create => callbacks.on_interaction_create →
    interaction_everywhere message_readable interaction_readable data
  | .channel_create | .channel_update | .message_delete | .ignored => True

theorem readable_iff (callbacks : Callbacks) (event : String) (data : CJson) :
    branch_readable callbacks data (event_branch event) ↔ Readable callbacks event data := by
  constructor
  · intro h
    constructor
    · intro he
      rwa [(event_branch_ready event).mpr he] at h
    · intro he
      rwa [(event_branch_channel_delete event).mpr he] at h
    · intro he
      rwa [(event_branch_message_create event).mpr he] at h
    · intro he
      rwa [(event_branch_message_update event).mpr he] at h
    · intro he
      rwa [(event_branch_interaction_create event).mpr he] at h
  · intro h
    cases hb : event_branch event with
    | ready => exact h.ready ((event_branch_ready event).mp hb)
    | channel_delete => exact h.channel_delete ((event_branch_channel_delete event).mp hb)
    | message_create => exact h.message_create ((event_branch_message_create event).mp hb)
    | message_update => exact h.message_update ((event_branch_message_update event).mp hb)
    | interaction_create =>
      exact h.interaction_create ((event_branch_interaction_create event).mp hb)
    | channel_create | channel_update | message_delete | ignored => trivial

/-! ### When the decoders return -/

theorem string_returns (data : CJson) (name : String) :
    (_d_get_string_from_json data name).Returns True :=
  .of_spec (get_string_owns data name)

theorem read_type_returns (c : Option CJson) : (read_type c).Returns (c.isSome = true) := by
  cases c with
  | none => exact Returns.undefined.congr (by simp)
  | some c => exact (Returns.pure _).congr (by simp)

theorem read_session_id_returns (item : CJson) :
    (read_session_id item).Returns (item.valuestring.isSome = true) := by
  unfold read_session_id
  cases item.valuestring with
  | none => exact Returns.undefined.congr (by simp)
  | some s => exact (Returns.of_spec (new_string_owns s 100)).congr (by simp)

/-- Every document is decoded as a channel. -/
theorem channel_returns (data : CJson) : (_d_json_to_channel data).Returns True := by
  have harray : ∀ {α : Type} (name : String) (decode : CJson → CMem α)
      {R : CJson → α → List (Block StructType) → Prop},
      (∀ c, Owns [] (decode c) True (R c)) →
      (_d_get_array_from_json data name fun cur _ => decode cur).Returns True :=
    fun name decode R h => .of_spec (array_owns_total fun c _ => h c)
  -- every field has a default, so no read of one fails
  refine (Returns.alloc _).seq fun address => ?_
  refine (harray "permission_overwrites" _ unimplemented_owns).seq fun overwrites => ?_
  refine (string_returns data "name").seq fun name => ?_
  refine (string_returns data "topic").seq fun topic => ?_
  refine (harray "recipients" _ user_owns).seq fun recipients => ?_
  refine (string_returns data "icon").seq fun icon => ?_
  refine (string_returns data "last_pin_timestamp").seq fun last_pin_timestamp => ?_
  refine (string_returns data "rtc_region").seq fun rtc_region => ?_
  refine (Returns.of_spec (unimplemented_field_owns _)).seq fun thread_metadata => ?_
  refine (Returns.of_spec (unimplemented_field_owns _)).seq fun member => ?_
  exact (string_returns data "permissions").seq fun permissions => Returns.pure _

theorem read_if_returns {callback : Bool} {read : CMem EventData} {D : Prop}
    (h : read.Returns D) : (read_if callback read).Returns (callback = true → D) := by
  unfold read_if
  cases callback with
  | false => exact (Returns.pure _).congr (by simp)
  | true => exact h.congr (by simp)

/-! ### When an event is read -/

theorem branch_returns (callbacks : Callbacks) (data : CJson) (branch : EventBranch) :
    (branch_read callbacks data branch).Returns (branch_readable callbacks data branch) := by
  have hchannel (wrap : Channel → EventData) :
      (do let channel ← _d_json_to_channel data; pure (wrap channel) : CMem EventData).Returns
        True :=
    (channel_returns data).seq fun channel => Returns.pure _
  have hmessage (wrap : Message → EventData) :
      (do let message ← _d_json_to_message data; pure (wrap message) : CMem EventData).Returns
        (message_everywhere message_readable interaction_readable data) :=
    (Returns.of_spec (message_owns data)).bind_total fun message => Returns.pure _
  cases branch with
  | ready =>
    refine Returns.seq (.of_spec (user_pointer_owns _)) fun user => ?_
    refine Returns.bind_total ?_ fun session_id => Returns.pure _
    exact Returns.unless_null fun item _ => read_session_id_returns item
  | channel_create => exact (read_if_returns (hchannel _)).congr (by simp [branch_readable])
  | channel_update => exact (read_if_returns (hchannel _)).congr (by simp [branch_readable])
  | channel_delete =>
    exact read_if_returns ((read_type_returns _).bind_total fun type => Returns.pure _)
  | message_create => exact read_if_returns (hmessage _)
  | message_update => exact read_if_returns (hmessage _)
  | message_delete => exact (read_if_returns (Returns.pure _)).congr (by simp [branch_readable])
  | interaction_create =>
    exact read_if_returns ((Returns.of_spec (interaction_owns data)).bind_total
      fun interaction => Returns.pure _)
  | ignored => exact Returns.pure _

theorem event_returns (callbacks : Option Callbacks) (data : Option CJson)
    (event : Option String) :
    (event_read callbacks data event).Returns (∀ cb, callbacks = some cb →
      ∃ name, event = some name ∧ Readable cb name (event_data data)) := by
  cases callbacks with
  | none => exact (Returns.pure _).congr (by simp)
  | some cb =>
    cases event with
    | none => exact Returns.undefined.congr (by simp)
    | some name =>
      refine (branch_returns cb (event_data data) (event_branch name)).congr ?_
      rw [readable_iff]
      simp

end DiscoC
