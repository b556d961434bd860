import Mathlib.Data.Rat.Lemmas
import Mathlib.Tactic.Tauto
import DiscoC.Framework.System
import DiscoC.Web.Gateway

/-! # Resuming a session

  A HELLO may be answered with op 6 only for the session of the latest
  READY, unless it has been invalidated since, and with the sequence id of
  the latest dispatch that has one (`AnswersSafely`).

  The client stores the session id with a READY and never drops it. An
  INVALID_SESSION resets the sequence id only, so the next HELLO is answered
  with op 6 for the invalidated session. `StepOk` says which steps keep the
  answer safe, in any state; a run is safe throughout exactly when all its
  steps are of this kind (`resume_safe_iff`).
-/

namespace DiscoC

/-! ### What the server has said -/

/-- What follows from the payloads received so far. -/
structure Seen where
  /-- There has been a READY, and what its session id was. -/
  ready : Option (Option String)
  /-- An INVALID_SESSION came after it. -/
  invalidated : Bool
  /-- The `s` of the latest dispatch with a number. -/
  last_s : Option Rat

/-- The event of a dispatch. -/
def payload_event (json : CJson) : Option String :=
  (cJSON_GetObjectItemCaseSensitive json "t").bind CJson.valuestring

/-- The session id of a READY. -/
def payload_session (json : CJson) : Option CJson :=
  cJSON_GetObjectItem (cJSON_GetObjectItemCaseSensitive json "d") "session_id"

/-- The sequence id of a dispatch. -/
def payload_s (json : CJson) : Option CJson := cJSON_GetObjectItemCaseSensitive json "s"

/-- One more payload. -/
def Seen.payload (h : Seen) (json : CJson) : Seen :=
  match payload_op json with
  | some 0 =>
    let h := { h with last_s := (cJSON_IsNumber (payload_s json)).or h.last_s }
    if payload_event json = some "READY" then
      { h with ready := some ((payload_session json).bind CJson.valuestring), invalidated := false }
    else h
  | some 9 => { h with invalidated := true }
  | _ => h

/-- One more event. -/
def Seen.event (h : Seen) : GatewayEvent → Seen
  | .receive (some json) => h.payload json
  | _ => h

/-- A run: the client, unless it has crashed, and what it has been told. -/
structure GatewayRun where
  client : Option GatewayClient
  seen : Seen

/-- The client receives an event. -/
def GatewayRun.event (s : GatewayRun) (e : GatewayEvent) : GatewayRun where
  client := (s.client.bind fun c => gateway_step c e).map Prod.fst
  seen := s.seen.event e

/-- Any events in any order. -/
def gateway_system (token : String) (callbacks : Bool) : System GatewayRun GatewayEvent :=
  .ofFn
    { client := some (gateway_init token callbacks)
      seen := { ready := none, invalidated := false, last_s := none } }
    fun s e => some (s.event e)

/-! ### Safe answers -/

/-- The answer to a HELLO: op 6 with the session of the latest READY, which
    has not been invalidated, and with the latest sequence id, or op 2. -/
def AnswersSafely (s : GatewayRun) : Prop :=
  ∀ c ∈ s.client,
    (∀ session_id seq, gateway_identify c = .resume c.token session_id seq →
      s.seen.ready = some (some session_id) ∧ s.seen.invalidated = false ∧
        0 ≤ seq ∧ s.seen.last_s = some (seq : Rat)) ∧
    ((∀ session_id seq, gateway_identify c ≠ .resume c.token session_id seq) →
      gateway_identify c = .identify c.token)

/-- `seq` is the latest sequence id after the dispatch `json`. -/
def SeqOk (c : GatewayClient) (h : Seen) (json : CJson) : Prop :=
  match cJSON_IsNumber (payload_s json) with
  | some d => 0 ≤ d ∧ (CJson.int_of d : Rat) = d
  | none => cJSON_IsNull (payload_s json) = false ∧ 0 ≤ c.seq ∧ h.last_s = some (c.seq : Rat)

/-- A dispatch that keeps the answer safe: a READY names its session, in 100
    bytes, unless none is stored; and when a session is stored, the sequence
    id is a number that fits. Without callbacks, no session is ever stored.
    A dispatch that crashes the client does no harm. -/
def DispatchOk (c : GatewayClient) (h : Seen) (json : CJson) : Prop :=
  c.callbacks = true → ∀ event ∈ payload_event json,
    if event = "READY" then
      match payload_session json with
      | none => c.session_id = none
      | some item => ∀ id ∈ item.valuestring, id.toList.length ≤ 100 ∧ SeqOk c h json
    else c.session_id = none ∨ SeqOk c h json

/-- A step that keeps the answer safe. An INVALID_SESSION does when no
    session is stored. -/
def StepOk (s : GatewayRun) : GatewayEvent → Prop
  | .receive (some json) => ∀ c ∈ s.client,
    match payload_op json with
    | some 0 => DispatchOk c s.seen json
    | some 9 => c.session_id = none
    | _ => True
  | _ => True

/-! ### One state -/

/-- A stored session is the one the server would resume. -/
def SessionOk (c : GatewayClient) (h : Seen) : Prop :=
  ∀ session_id ∈ c.session_id, h.ready = some (some session_id) ∧ h.invalidated = false ∧
    0 ≤ c.seq ∧ h.last_s = some (c.seq : Rat)

theorem answersSafely_iff {s : GatewayRun} :
    AnswersSafely s ↔ ∀ c ∈ s.client, SessionOk c s.seen := by
  refine forall₂_congr fun c _ => ?_
  cases hid : c.session_id with
  | none => simp [SessionOk, gateway_identify, hid]
  | some id =>
    have hresume : gateway_identify c = .resume c.token id c.seq := by
      rw [gateway_identify, hid]
    -- the resume frame is the only answer that can go wrong
    constructor
    · rintro ⟨h, -⟩ _ hmem
      obtain rfl := Option.some.inj (hid.symm.trans hmem)
      exact h id c.seq hresume
    · intro h
      refine ⟨fun session_id seq heq => ?_, fun hne => absurd hresume (hne id c.seq)⟩
      rw [hresume] at heq
      obtain ⟨-, rfl, rfl⟩ := Frame.resume.inj heq
      exact h id hid

theorem sessionOk_of_none {c : GatewayClient} {h : Seen} (hid : c.session_id = none) :
    SessionOk c h := by
  simp [SessionOk, hid]

/-- No session may be stored when the server would resume none. -/
theorem sessionOk_iff_none {c : GatewayClient} {h : Seen}
    (hbad : ∀ id, h.ready = some (some id) → h.invalidated = true) :
    SessionOk c h ↔ c.session_id = none := by
  constructor
  · intro hok
    by_contra hne
    obtain ⟨id, hid⟩ := Option.ne_none_iff_exists'.mp hne
    obtain ⟨hready, hinv, -⟩ := hok id hid
    rw [hbad id hready] at hinv
    cases hinv
  · exact sessionOk_of_none

theorem sessionOk_congr {c c' : GatewayClient} {h : Seen} (hid : c'.session_id = c.session_id)
    (hseq : c'.seq = c.seq) : SessionOk c' h ↔ SessionOk c h := by
  rw [SessionOk, SessionOk, hid, hseq]

/-! ### One dispatch -/

/-- What a dispatch leaves in the client and in the history. -/
theorem seqOk_iff {c : GatewayClient} {h : Seen} {json : CJson} :
    (0 ≤ next_seq c.seq (payload_s json) ∧
      (cJSON_IsNumber (payload_s json)).or h.last_s =
        some (next_seq c.seq (payload_s json) : Rat)) ↔
    SeqOk c h json := by
  unfold SeqOk next_seq
  cases hs : cJSON_IsNumber (payload_s json) with
  | some d =>
    simp only [Option.some_or, Option.some.injEq]
    constructor
    · rintro ⟨hpos, heq⟩
      refine ⟨?_, heq.symm⟩
      rw [heq]
      exact_mod_cast hpos
    · rintro ⟨hpos, heq⟩
      refine ⟨?_, heq.symm⟩
      rw [← heq] at hpos
      exact_mod_cast hpos
  | none =>
    -- without a number in "s", only a JSON null resets the client to 0
    cases hnull : cJSON_IsNull (payload_s json) with
    | true => simp
    | false => simp

/-- `gateway_handle_dispatch` updates the sequence id and handles the event. -/
theorem gateway_handle_dispatch_eq {c : GatewayClient} {json item : CJson}
    (ht : cJSON_GetObjectItemCaseSensitive json "t" = some item) :
    gateway_handle_dispatch c json =
      event_handle { c with seq := next_seq c.seq (payload_s json) }
        (cJSON_GetObjectItemCaseSensitive json "d") item.valuestring := by
  simp only [gateway_handle_dispatch, ht, Option.bind_eq_bind, Option.bind_some, payload_s]

theorem strncmp_ready {event : String} : strncmp_eq event "READY" 6 = true ↔ event = "READY" :=
  strncmp_eq_iff (by decide)

theorem event_handle_other {c : GatewayClient} {data : Option CJson} {event : String}
    (hne : event ≠ "READY") : event_handle c data (some event) = some c := by
  have hcmp : strncmp_eq event "READY" 6 = false :=
    Bool.eq_false_iff.mpr fun h => hne (strncmp_ready.mp h)
  unfold event_handle
  split
  · rfl
  · simp [hcmp]

theorem event_handle_ready {c : GatewayClient} {data : Option CJson} (hc : c.callbacks = true) :
    event_handle c data (some "READY") =
      match cJSON_GetObjectItem data "session_id" with
      | some item => item.valuestring.map fun id => { c with session_id := some (strndup id 100) }
      | none => some c := by
  have hcmp : strncmp_eq "READY" "READY" 6 = true := strncmp_ready.mpr rfl
  cases hid : cJSON_GetObjectItem data "session_id" with
  | none => simp only [event_handle, hc, Bool.not_true, Bool.false_eq_true, if_false,
      Option.bind_eq_bind, Option.bind_some, hcmp, if_true, hid]
  | some item =>
    simp only [event_handle, hc, Bool.not_true, Bool.false_eq_true, if_false,
      Option.bind_eq_bind, Option.bind_some, hcmp, if_true, hid]
    cases item.valuestring <;> rfl

/-- The history after a dispatch. -/
theorem seen_payload_dispatch {h : Seen} {json : CJson} (hop : payload_op json = some 0) :
    h.payload json =
      { ready := if payload_event json = some "READY" then
          some ((payload_session json).bind CJson.valuestring) else h.ready
        invalidated := if payload_event json = some "READY" then false else h.invalidated
        last_s := (cJSON_IsNumber (payload_s json)).or h.last_s } := by
  simp only [Seen.payload, hop]
  split <;> rfl

/-- A dispatch that leaves the stored session alone. -/
theorem sessionOk_other_iff {c c' : GatewayClient} {h : Seen} {json : CJson}
    (hok : SessionOk c h) (hid : c'.session_id = c.session_id)
    (hseq : c'.seq = next_seq c.seq (payload_s json)) :
    SessionOk c' { h with last_s := (cJSON_IsNumber (payload_s json)).or h.last_s } ↔
      c.session_id = none ∨ SeqOk c h json := by
  rw [← seqOk_iff, ← hseq]
  constructor
  · intro hok'
    cases hc : c.session_id with
    | none => exact .inl rfl
    | some id => exact .inr (hok' id (hid.trans hc)).2.2
  · rintro (hnone | hseq')
    · exact sessionOk_of_none (hid.trans hnone)
    · intro id hmem
      obtain ⟨hready, hinv, -⟩ := hok id (hid ▸ hmem)
      exact ⟨hready, hinv, hseq'⟩

/-- A READY that names its session. -/
theorem sessionOk_ready_iff {c c' : GatewayClient} {h : Seen} {json : CJson} {id : String}
    (hid : c'.session_id = some (strndup id 100))
    (hseq : c'.seq = next_seq c.seq (payload_s json)) :
    SessionOk c' { ready := some (some id), invalidated := false
                   last_s := (cJSON_IsNumber (payload_s json)).or h.last_s } ↔
      id.toList.length ≤ 100 ∧ SeqOk c h json := by
  rw [← seqOk_iff, ← hseq]
  constructor
  · intro hok
    obtain ⟨hready, -, hseq'⟩ := hok _ hid
    have heq : id = strndup id 100 := Option.some.inj (Option.some.inj hready)
    exact ⟨length_le_of_strndup heq.symm, hseq'⟩
  · rintro ⟨hlen, hseq'⟩ _ hmem
    rw [strndup_of_length_le hlen] at hid
    obtain rfl := Option.some.inj (hid.symm.trans hmem)
    exact ⟨rfl, rfl, hseq'⟩

/-- Handling a READY. The client has the sequence id of the dispatch already,
    and the history has the session. -/
theorem event_ready_sessionOk_iff {c c₁ : GatewayClient} {h : Seen} {json : CJson}
    (hc : c₁.callbacks = true) (hid : c₁.session_id = c.session_id)
    (hseq : c₁.seq = next_seq c.seq (payload_s json)) :
    (∀ c' ∈ event_handle c₁ (cJSON_GetObjectItemCaseSensitive json "d") (some "READY"),
      SessionOk c' { ready := some ((payload_session json).bind CJson.valuestring)
                     invalidated := false
                     last_s := (cJSON_IsNumber (payload_s json)).or h.last_s }) ↔
      match payload_session json with
      | none => c.session_id = none
      | some item => ∀ id ∈ item.valuestring, id.toList.length ≤ 100 ∧ SeqOk c h json := by
  have hsession : payload_session json =
      cJSON_GetObjectItem (cJSON_GetObjectItemCaseSensitive json "d") "session_id" := rfl
  rw [event_handle_ready hc, ← hsession]
  cases payload_session json with
  | none =>
    -- the server has no session, and the client keeps the one it has
    simp only [Option.bind_none, Option.mem_some_iff, forall_eq']
    rw [sessionOk_iff_none (by simp), hid]
  | some item =>
    cases hstr : item.valuestring with
    | none => simp [hstr]
    | some id =>
      simp only [Option.map_some, Option.mem_some_iff, forall_eq', Option.bind_some, hstr]
      exact sessionOk_ready_iff rfl hseq

/-- **Step lemma** for dispatches. -/
theorem dispatch_sessionOk_iff {c : GatewayClient} {h : Seen} {json : CJson}
    (hop : payload_op json = some 0) (hok : SessionOk c h)
    (hcb : c.callbacks = false → c.session_id = none) :
    (∀ c' ∈ gateway_handle_dispatch { c with success_login := true } json,
      SessionOk c' (h.payload json)) ↔ DispatchOk c h json := by
  rw [seen_payload_dispatch hop]
  cases ht : cJSON_GetObjectItemCaseSensitive json "t" with
  | none => simp [gateway_handle_dispatch, DispatchOk, payload_event, ht]
  | some item =>
    rw [gateway_handle_dispatch_eq ht]
    have hevent : payload_event json = item.valuestring := by
      rw [payload_event, ht]
      rfl
    cases hc : c.callbacks with
    | false =>
      -- no session is stored without callbacks
      refine iff_of_true ?_ fun htrue => by rw [hc] at htrue; cases htrue
      intro c' hc'
      simp only [event_handle, Bool.not_false, if_true, Option.mem_some_iff] at hc'
      subst hc'
      exact sessionOk_of_none (hcb hc)
    | true =>
      cases hval : item.valuestring with
      | none =>
        -- the event has no name: the client crashes
        simp [event_handle, hc, DispatchOk, hevent, hval]
      | some event =>
        simp only [DispatchOk, hc, hevent, hval, Option.mem_some_iff, forall_eq', true_implies,
          Option.some.injEq]
        by_cases hready : event = "READY"
        · subst hready
          simp only [if_true]
          exact event_ready_sessionOk_iff rfl rfl rfl
        · rw [event_handle_other hready]
          simp only [hready, if_false, Option.mem_some_iff, forall_eq']
          exact sessionOk_other_iff hok rfl rfl

/-! ### One event -/

/-- Without callbacks, no session is stored. -/
def NeedsCallbacks (c : GatewayClient) : Prop := c.callbacks = false → c.session_id = none

theorem event_handle_needs_callbacks {c c' : GatewayClient} {data : Option CJson}
    {event : Option String} (h : event_handle c data event = some c') (hc : NeedsCallbacks c) :
    NeedsCallbacks c' := by
  -- no callbacks means that nothing is stored, not even on READY
  cases hcb : c.callbacks with
  | false =>
    have heq : c' = c := by
      rw [event_handle, hcb] at h
      exact (Option.some.inj h).symm
    rw [heq]
    exact hc
  | true =>
    suffices hcb' : c'.callbacks = true by
      intro hfalse
      rw [hcb'] at hfalse
      cases hfalse
    cases event with
    | none => simp [event_handle, hcb] at h
    | some event =>
      by_cases hready : event = "READY"
      · subst hready
        rw [event_handle_ready hcb] at h
        split at h
        · obtain ⟨_, _, rfl⟩ := Option.map_eq_some_iff.mp h
          exact hcb
        · obtain rfl := Option.some.inj h
          exact hcb
      · rw [event_handle_other hready] at h
        obtain rfl := Option.some.inj h
        exact hcb

/-- A payload that is no dispatch leaves the session alone, and changes the
    sequence id only if it invalidates the session. -/
theorem gateway_on_receive_quiet {c : GatewayClient} {json : CJson}
    (hop : payload_op json ≠ some 0) :
    ∃ c' frames, gateway_on_receive c (some json) = some (c', frames) ∧
      c'.session_id = c.session_id ∧ c'.callbacks = c.callbacks ∧
      c'.seq = if payload_op json = some 9 then -1 else c.seq := by
  simp only [gateway_on_receive]
  split
  · exact absurd ‹_› hop
  -- an invalid session resets the sequence number and keeps the session
  · next h9 => exact ⟨_, _, rfl, rfl, rfl, by rw [if_pos h9]; rfl⟩
  · next h10 =>
    have h9 : payload_op json ≠ some 9 := by rw [h10]; simp
    rw [if_neg h9]
    cases hello_interval json <;> exact ⟨_, _, rfl, rfl, rfl, rfl⟩
  · next h1 =>
    have h9 : payload_op json ≠ some 9 := by rw [h1]; simp
    exact ⟨_, _, rfl, rfl, rfl, by rw [if_neg h9]⟩
  · next h9 _ _ => exact ⟨_, _, rfl, rfl, rfl, by rw [if_neg h9]⟩

theorem gateway_on_receive_dispatch {c : GatewayClient} {json : CJson}
    (hop : payload_op json = some 0) :
    gateway_on_receive c (some json) =
      (gateway_handle_dispatch { c with success_login := true } json).map (·, []) := by
  simp only [gateway_on_receive, hop]

/-- What is not a payload leaves session and sequence id alone. -/
theorem gateway_step_quiet {c : GatewayClient} {e : GatewayEvent}
    (he : ∀ json, e ≠ .receive (some json)) :
    ∃ c' frames, gateway_step c e = some (c', frames) ∧
      c'.session_id = c.session_id ∧ c'.callbacks = c.callbacks ∧ c'.seq = c.seq := by
  cases e with
  | receive result =>
    cases result with
    | none => exact ⟨_, _, rfl, rfl, rfl, rfl⟩
    | some json => exact absurd rfl (he json)
  | closed =>
    refine ⟨_, _, rfl, ?_⟩
    unfold websocket_closed
    split
    · exact ⟨rfl, rfl, rfl⟩
    · cases c.success_login <;> exact ⟨rfl, rfl, rfl⟩
  | reconnect => exact ⟨_, _, rfl, rfl, rfl, rfl⟩
  | exit => exact ⟨_, _, rfl, rfl, rfl, rfl⟩

theorem gateway_step_needs_callbacks {c c' : GatewayClient} {e : GatewayEvent}
    {frames : List Frame} (h : gateway_step c e = some (c', frames)) (hc : NeedsCallbacks c) :
    NeedsCallbacks c' := by
  have hquiet : ∀ c₁ f₁, gateway_step c e = some (c₁, f₁) → c₁.session_id = c.session_id →
      c₁.callbacks = c.callbacks → NeedsCallbacks c' := by
    intro c₁ f₁ h₁ hid hcb hfalse
    obtain ⟨rfl, -⟩ := Prod.mk.inj (Option.some.inj (h.symm.trans h₁))
    exact hid.trans (hc (hcb ▸ hfalse))
  -- only a dispatch can store a session, the rest keeps both fields
  by_cases he : ∃ json, e = .receive (some json)
  · obtain ⟨json, rfl⟩ := he
    by_cases hop : payload_op json = some 0
    · have h' : gateway_on_receive c (some json) = some (c', frames) := h
      rw [gateway_on_receive_dispatch hop] at h'
      obtain ⟨c₁, hdis, heq⟩ := Option.map_eq_some_iff.mp h'
      obtain ⟨rfl, -⟩ := Prod.mk.inj heq
      cases ht : cJSON_GetObjectItemCaseSensitive json "t" with
      | none => simp [gateway_handle_dispatch, ht] at hdis
      | some item =>
        rw [gateway_handle_dispatch_eq ht] at hdis
        exact event_handle_needs_callbacks hdis hc
    · obtain ⟨c₁, f₁, h₁, hid, hcb, -⟩ := gateway_on_receive_quiet (c := c) hop
      exact hquiet c₁ f₁ h₁ hid hcb
  · obtain ⟨c₁, f₁, h₁, hid, hcb, -⟩ := gateway_step_quiet (c := c) fun json h => he ⟨json, h⟩
    exact hquiet c₁ f₁ h₁ hid hcb

/-- A payload, for a client that has not crashed. The events split by their
    op, as `gateway_on_receive` and `StepOk` do. -/
theorem payload_sessionOk_iff {c : GatewayClient} {h : Seen} {json : CJson}
    (hok : SessionOk c h) (hcb : NeedsCallbacks c) :
    (∀ c' ∈ (gateway_on_receive c (some json)).map Prod.fst, SessionOk c' (h.payload json)) ↔
      match payload_op json with
      | some 0 => DispatchOk c h json
      | some 9 => c.session_id = none
      | _ => True := by
  by_cases hop : payload_op json = some 0
  · have hdispatch : (gateway_on_receive c (some json)).map Prod.fst =
        gateway_handle_dispatch { c with success_login := true } json := by
      rw [gateway_on_receive_dispatch hop, Option.map_map]
      exact Option.map_id'
    rw [hdispatch, hop]
    exact dispatch_sessionOk_iff hop hok hcb
  · obtain ⟨c', frames, hrec, hid, -, hseq⟩ := gateway_on_receive_quiet (c := c) hop
    simp only [hrec, Option.map_some, Option.mem_some_iff, forall_eq']
    by_cases h9 : payload_op json = some 9
    · -- the session is still stored, but the server has invalidated it
      have hseen : h.payload json = { h with invalidated := true } := by
        simp only [Seen.payload, h9]
      rw [hseen, h9, sessionOk_iff_none fun _ _ => rfl, hid]
      exact Iff.rfl
    · have hseen : h.payload json = h := by
        unfold Seen.payload
        split
        · exact absurd ‹_› hop
        · exact absurd ‹_› h9
        · rfl
      rw [if_neg h9] at hseq
      rw [hseen, sessionOk_congr hid hseq]
      refine iff_of_true hok ?_
      split
      · exact absurd ‹_› hop
      · exact absurd ‹_› h9
      · trivial

/-- **Step lemma**: a step keeps the answer safe exactly when it meets
    `StepOk`. -/
theorem step_sessionOk_iff {s : GatewayRun} {e : GatewayEvent}
    (hok : ∀ c ∈ s.client, SessionOk c s.seen) (hcb : ∀ c ∈ s.client, NeedsCallbacks c) :
    (∀ c ∈ (s.event e).client, SessionOk c (s.event e).seen) ↔ StepOk s e := by
  cases hclient : s.client with
  | none =>
    have hnone : (s.event e).client = none := by rw [GatewayRun.event, hclient]; rfl
    rw [hnone]
    refine iff_of_true (by simp) ?_
    unfold StepOk
    split
    · simp [hclient]
    · trivial
  | some c =>
    have hevent : (s.event e).client = (gateway_step c e).map Prod.fst := by
      rw [GatewayRun.event, hclient]
      rfl
    rw [hevent]
    -- nothing but a payload moves the sequence number or the session
    by_cases he : ∃ json, e = .receive (some json)
    · obtain ⟨json, rfl⟩ := he
      simp only [StepOk, hclient, Option.mem_some_iff, forall_eq']
      exact payload_sessionOk_iff (hok c hclient) (hcb c hclient)
    · obtain ⟨c', frames, hstep, hid, -, hseq⟩ :=
        gateway_step_quiet (c := c) fun json h => he ⟨json, h⟩
      have hseen : (s.event e).seen = s.seen := by
        show s.seen.event e = s.seen
        unfold Seen.event
        split
        · exact absurd ⟨_, rfl⟩ he
        · rfl
      have hstepok : StepOk s e := by
        unfold StepOk
        split
        · exact absurd ⟨_, rfl⟩ he
        · trivial
      rw [hstep, hseen]
      refine iff_of_true ?_ hstepok
      simp only [Option.map_some, Option.mem_some_iff, forall_eq']
      exact (sessionOk_congr hid hseq).mpr (hok c hclient)

/-! ### Runs -/

/-- **Every HELLO is answered safely** throughout a run exactly when all its
    steps meet `StepOk`. -/
theorem resume_safe_iff (token : String) (callbacks : Bool) (es : List GatewayEvent) :
    (∀ pre, pre <+: es → ∀ s, (gateway_system token callbacks).Run pre s → AnswersSafely s) ↔
      ∃ s, ((gateway_system token callbacks).guarded StepOk).Run es s := by
  simp only [answersSafely_iff]
  refine System.holds_along_iff_guarded
    (G := fun s : GatewayRun => ∀ c ∈ s.client, SessionOk c s.seen) ?_ ?_ ?_ es
  · simp [SessionOk, gateway_init]
  -- every event can happen in every state
  · exact fun _ e s _ => ⟨s.event e, rfl⟩
  · rintro es e s s' hrun hok hstep
    obtain rfl : s.event e = s' := Option.some.inj hstep
    refine step_sessionOk_iff hok ?_
    -- that a session is stored with callbacks only is an invariant of its own
    refine System.Run.invariant (I := fun _ s => ∀ c ∈ s.client, NeedsCallbacks c) ?_ ?_ hrun
    · rintro s rfl c hc
      obtain rfl := Option.some.inj hc
      exact fun _ => rfl
    · rintro es e s s' - ih hstep c' hc'
      obtain rfl : s.event e = s' := Option.some.inj hstep
      obtain ⟨⟨c₁, frames⟩, hbind, rfl⟩ := Option.map_eq_some_iff.mp hc'
      obtain ⟨c, hc, hstep'⟩ := Option.bind_eq_some_iff.mp hbind
      exact gateway_step_needs_callbacks hstep' (ih c hc)

/-- A READY, an INVALID_SESSION, and the reconnect that follows. -/
def invalid_session : List GatewayEvent :=
  [.receive (some (.object [("op", .number 0), ("t", .string "READY"), ("s", .number 1),
      ("d", .object [("session_id", .string "a")])])),
    .receive (some (.object [("op", .number 9), ("d", .bool false)])),
    .closed]

/-- The next HELLO is answered with op 6 for the invalidated session, and
    with the sequence id -1. -/
theorem invalid_session_resumed :
    ∃ s, (gateway_system "t" true).Run invalid_session s ∧
      s.client.map gateway_identify = some (.resume "t" "a" (-1)) ∧ ¬ AnswersSafely s := by
  refine ⟨_, ((System.Run.start rfl).snoc rfl).snoc rfl |>.snoc rfl, by decide, fun h => ?_⟩
  obtain ⟨-, hinv, -⟩ := (h _ rfl).1 "a" (-1) (by decide)
  cases hinv

end DiscoC
