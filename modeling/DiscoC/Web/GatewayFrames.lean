import DiscoC.Web.GatewayResume

/-! # Frames in fixed arrays

  `gateway_send_heartbeat` prints its frame into 128 bytes, and
  `gateway_handle_identify` into 256, with the token of the bot and the
  session id. The session id has been cut off at 100 bytes when it was stored
  and the sequence id is an `int`, but nothing limits the token.

  Every frame of every run is sent as it was printed, within its array,
  exactly when the token has 93 bytes at most, or 144 if there are no
  callbacks and so no session (`frames_fit_iff`).
-/

namespace DiscoC

/-! ### Texts of frames -/

/-- The format strings of `gateway.c`. -/
def Frame.text : Frame → String
  | .heartbeat none => "\x7b\"op\":1, \"d\":null\x7d"
  | .heartbeat (some seq) => "\x7b\"op\":1, \"d\":" ++ format_d seq ++ "\x7d"
  | .identify token =>
    "\x7b\"op\":2, \"d\":\x7b\"token\":\"" ++ token ++ "\",\"intents\":513, " ++
      "\"properties\":\x7b\"$os\":\"linux\",\"$browser\":\"Disco-C\"," ++
      "\"$device\":\"Disco-C\"\x7d\x7d\x7d"
  | .resume token session_id seq =>
    "\x7b\"op\":6, \"d\":\x7b\"token\":\"" ++ token ++ "\",\"session_id\":\"" ++ session_id ++
      "\", \"seq\": " ++ format_d seq ++ "\x7d\x7d"

/-- The size of `response`. -/
def Frame.size : Frame → Nat
  | .heartbeat _ => 128
  | .identify _ | .resume _ _ _ => 256

/-- `strnlen`. -/
def strnlen (s : String) (n : Nat) : Nat := min s.toList.length n

/-- `websocket_send`: the bytes that are given to `lws_write`. -/
def websocket_send (data : String) (len : Nat) : String := strndup data len

/-- A frame is printed into `response` and sent. -/
def Frame.sent (f : Frame) : Option String :=
  (sprintf f.size f.text).map fun response => websocket_send response (strnlen response f.size)

/-- A frame is sent as it was printed if it was printed within its array. -/
theorem Frame.sent_eq_iff (f : Frame) :
    f.sent = some f.text ↔ f.text.toList.length < f.size := by
  unfold Frame.sent
  constructor
  · intro h
    obtain ⟨response, hprint, -⟩ := Option.map_eq_some_iff.mp h
    exact sprintf_isSome_iff.mp (Option.isSome_of_eq_some hprint)
  · intro hlt
    have hlen : strnlen f.text f.size = f.text.toList.length := by
      unfold strnlen
      omega
    rw [sprintf_eq_some hlt, Option.map_some, hlen]
    exact congrArg some (strndup_of_length_le (le_refl _))

/-- The length of the text of a frame. -/
def Frame.length : Frame → Nat
  | .heartbeat none => 18
  | .heartbeat (some seq) => 14 + (format_d seq).toList.length
  | .identify token => 111 + token.toList.length
  | .resume token session_id seq =>
    51 + token.toList.length + session_id.toList.length + (format_d seq).toList.length

theorem Frame.length_text (f : Frame) : f.text.toList.length = f.length := by
  match f with
  | .heartbeat none =>
    show "\x7b\"op\":1, \"d\":null\x7d".toList.length = 18
    decide
  | .heartbeat (some seq) =>
    show ("\x7b\"op\":1, \"d\":" ++ format_d seq ++ "\x7d").toList.length = 14 + _
    have hfront : "\x7b\"op\":1, \"d\":".toList.length = 13 := by decide
    have hback : "\x7d".toList.length = 1 := by decide
    rw [length_append, length_append, hfront, hback]
    omega
  | .identify token =>
    show ("\x7b\"op\":2, \"d\":\x7b\"token\":\"" ++ token ++ "\",\"intents\":513, " ++
      "\"properties\":\x7b\"$os\":\"linux\",\"$browser\":\"Disco-C\"," ++
      "\"$device\":\"Disco-C\"\x7d\x7d\x7d").toList.length = 111 + _
    have hfront : "\x7b\"op\":2, \"d\":\x7b\"token\":\"".toList.length = 23 := by decide
    have hintents : "\",\"intents\":513, ".toList.length = 17 := by decide
    have hproperties :
        "\"properties\":\x7b\"$os\":\"linux\",\"$browser\":\"Disco-C\",".toList.length = 49 := by
      decide
    have hback : "\"$device\":\"Disco-C\"\x7d\x7d\x7d".toList.length = 22 := by decide
    simp only [length_append, hfront, hintents, hproperties, hback]
    omega
  | .resume token session_id seq =>
    show ("\x7b\"op\":6, \"d\":\x7b\"token\":\"" ++ token ++ "\",\"session_id\":\"" ++ session_id ++
      "\", \"seq\": " ++ format_d seq ++ "\x7d\x7d").toList.length = 51 + _ + _ + _
    have hfront : "\x7b\"op\":6, \"d\":\x7b\"token\":\"".toList.length = 23 := by decide
    have hsession : "\",\"session_id\":\"".toList.length = 16 := by decide
    have hseq : "\", \"seq\": ".toList.length = 10 := by decide
    have hback : "\x7d\x7d".toList.length = 2 := by decide
    simp only [length_append, hfront, hsession, hseq, hback]
    omega

/-- What is kept of the texts that frames are printed from. -/
structure FrameParts (token : String) (cb : Bool) (c : GatewayClient) : Prop where
  token : c.token = token
  callbacks : c.callbacks = cb
  /-- `seq` is an `int`. -/
  seq : -2147483648 ≤ c.seq ∧ c.seq ≤ 2147483647
  session_id : ∀ session_id ∈ c.session_id, cb = true ∧ session_id.toList.length ≤ 100

namespace FrameParts
variable {token : String} {cb : Bool} {c c' : GatewayClient}

theorem congr (h : FrameParts token cb c) (htoken : c'.token = c.token)
    (hcallbacks : c'.callbacks = c.callbacks) (hseq : c'.seq = c.seq)
    (hsession : c'.session_id = c.session_id) : FrameParts token cb c' where
  token := htoken.trans h.token
  callbacks := hcallbacks.trans h.callbacks
  seq := by
    rw [hseq]
    exact h.seq
  session_id := by
    rw [hsession]
    exact h.session_id

theorem with_seq (h : FrameParts token cb c) (seq : Int)
    (hseq : -2147483648 ≤ seq ∧ seq ≤ 2147483647) :
    FrameParts token cb { c with seq := seq } :=
  ⟨h.token, h.callbacks, hseq, h.session_id⟩

theorem init (token : String) (cb : Bool) :
    FrameParts token cb (gateway_init token cb) :=
  ⟨rfl, rfl, ⟨by show -2147483648 ≤ (-1 : Int); decide, by show (-1 : Int) ≤ _; decide⟩,
    fun _ hmem => nomatch hmem⟩

theorem next_seq_int (h : FrameParts token cb c) (local_s : Option CJson) :
    -2147483648 ≤ next_seq c.seq local_s ∧ next_seq c.seq local_s ≤ 2147483647 := by
  unfold next_seq
  split
  · unfold CJson.int_of
    omega
  · split
    · decide
    · exact h.seq

/-- A READY cuts its session id off. -/
theorem event (h : FrameParts token cb c) {data : Option CJson} {event : Option String}
    (hevent : event_handle c data event = some c') : FrameParts token cb c' := by
  unfold event_handle at hevent
  split at hevent
  · cases hevent
    exact h
  · next hcallbacks =>
    obtain ⟨event, -, hevent⟩ := Option.bind_eq_some_iff.mp hevent
    split at hevent
    · split at hevent
      · obtain ⟨valuestring, -, hevent⟩ := Option.bind_eq_some_iff.mp hevent
        cases hevent
        refine ⟨h.token, h.callbacks, h.seq, ?_⟩
        intro session_id hmem
        obtain rfl := Option.some.inj hmem
        refine ⟨?_, ?_⟩
        · rw [← h.callbacks]
          simpa using hcallbacks
        · simp [strndup]
      · cases hevent
        exact h
    · cases hevent
      exact h

/-- **Step lemma**: the frames are made of the parts, and the parts are
    kept. -/
theorem step (h : FrameParts token cb c) {e : GatewayEvent} {frames : List Frame}
    (hstep : gateway_step c e = some (c', frames)) :
    FrameParts token cb c' ∧
      ∀ f ∈ frames, f = gateway_send_heartbeat c ∨ f = gateway_identify c := by
  cases e with
  | receive result =>
    cases result with
    | none =>
      cases hstep
      exact ⟨h, fun _ hf => nomatch hf⟩
    | some json =>
      simp only [gateway_step, gateway_on_receive] at hstep
      split at hstep
      · obtain ⟨c₁, hdispatch, heq⟩ := Option.map_eq_some_iff.mp hstep
        cases heq
        refine ⟨?_, fun _ hf => nomatch hf⟩
        obtain ⟨event_type, -, hevent⟩ := Option.bind_eq_some_iff.mp hdispatch
        have hlogin : FrameParts token cb { c with success_login := true } :=
          h.congr rfl rfl rfl rfl
        exact (hlogin.with_seq _ (hlogin.next_seq_int _)).event hevent
      · cases hstep
        have hinvalid := h.with_seq (-1) (by decide)
        exact ⟨hinvalid.congr rfl rfl rfl rfl, fun _ hf => nomatch hf⟩
      · -- the frames that answer a HELLO
        have hframes : ∀ f ∈ (gateway_handle_identify c).2,
            f = gateway_send_heartbeat c ∨ f = gateway_identify c := by
          intro f hf
          rcases List.mem_cons.mp hf with hbeat | hidentify
          · exact .inl hbeat
          · exact .inr (List.mem_singleton.mp hidentify)
        split at hstep
        · cases hstep
          exact ⟨h.congr rfl rfl rfl rfl, hframes⟩
        · cases hstep
          exact ⟨h.congr rfl rfl rfl rfl, hframes⟩
      · cases hstep
        exact ⟨h, fun f hf => .inl (List.mem_singleton.mp hf)⟩
      · cases hstep
        exact ⟨h, fun _ hf => nomatch hf⟩
  | closed =>
    cases hstep
    refine ⟨?_, fun _ hf => nomatch hf⟩
    unfold websocket_closed
    split
    · exact h.congr rfl rfl rfl rfl
    · cases c.success_login <;> exact h.congr rfl rfl rfl rfl
  | reconnect =>
    cases hstep
    exact ⟨h.congr rfl rfl rfl rfl, fun _ hf => nomatch hf⟩
  | exit =>
    cases hstep
    exact ⟨h.congr rfl rfl rfl rfl, fun _ hf => nomatch hf⟩

end FrameParts

/-! ### Every run -/

/-- In every run, every frame is sent as it was printed. -/
def FramesFit (token : String) (callbacks : Bool) : Prop :=
  ∀ s, (gateway_system token callbacks).Reachable s → ∀ c ∈ s.client, ∀ e c' frames,
    gateway_step c e = some (c', frames) → ∀ f ∈ frames, f.sent = some f.text

/-- How long a token may be. -/
def token_room (callbacks : Bool) : Nat := if callbacks then 93 else 144

/-- **Run lemma.** -/
theorem gateway_frame_parts {token : String} {callbacks : Bool} {s : GatewayRun}
    (h : (gateway_system token callbacks).Reachable s) :
    ∀ c ∈ s.client, FrameParts token callbacks c := by
  refine System.Reachable.invariant (I := fun s => ∀ c ∈ s.client, FrameParts token callbacks c)
    ?_ ?_ h
  · intro s hs c hc
    rw [show s = _ from hs] at hc
    obtain rfl := Option.some.inj hc
    exact FrameParts.init token callbacks
  · intro s e s' _ hinv hstep c' hc'
    obtain rfl : s.event e = s' := Option.some.inj hstep
    obtain ⟨⟨c₁, frames⟩, hbind, rfl⟩ := Option.map_eq_some_iff.mp hc'
    obtain ⟨c, hc, hstep'⟩ := Option.bind_eq_some_iff.mp hbind
    exact ((hinv c hc).step hstep').1

/-- An `int` is written with eleven characters at most. -/
theorem length_format_int {i : Int} (h : -2147483648 ≤ i ∧ i ≤ 2147483647) :
    (format_d i).toList.length ≤ 11 :=
  (length_format_d_le_iff (by decide) i).mpr (by omega)

/-- Frames of kept parts fit if the token does. -/
theorem FrameParts.fits {token : String} {callbacks : Bool} {c : GatewayClient}
    (h : FrameParts token callbacks c) (htoken : token.toList.length ≤ token_room callbacks)
    {f : Frame} (hf : f = gateway_send_heartbeat c ∨ f = gateway_identify c) :
    f.sent = some f.text := by
  have hseq := length_format_int h.seq
  rw [Frame.sent_eq_iff, Frame.length_text]
  rcases hf with hbeat | hidentify
  · rw [hbeat]
    unfold gateway_send_heartbeat
    split
    · show 18 < 128
      decide
    · show 14 + (format_d c.seq).toList.length < 128
      omega
  · rw [hidentify]
    unfold gateway_identify
    split
    · next session_id hsession =>
      obtain ⟨hcb, hlen⟩ := h.session_id session_id hsession
      rw [token_room, if_pos hcb] at htoken
      show 51 + c.token.toList.length + _ + _ < 256
      rw [h.token]
      omega
    · show 111 + c.token.toList.length < 256
      rw [h.token]
      unfold token_room at htoken
      split at htoken <;> omega

/-- A HELLO. -/
def hello : GatewayEvent := .receive (some (.object [("op", .number 10)]))

/-- A session id that is kept as it is. -/
def long_session : String := .ofList (List.replicate 100 'a')

theorem length_long_session : long_session.toList.length = 100 := by
  have hlen : ∀ n, (String.ofList (List.replicate n 'a')).toList.length = n := by
    intro n
    rw [String.toList_ofList, List.length_replicate]
  exact hlen 100

/-- A READY with the longest session id and sequence id. -/
def long_ready : GatewayEvent :=
  .receive (some (.object [("op", .number 0), ("t", .string "READY"),
    ("s", .number (.of (-2147483648))), ("d", .object [("session_id", .string long_session)])]))

/-- The HELLO that follows is answered with all of them. -/
theorem long_ready_resumed (token : String) :
    ∃ s c c' frames, (gateway_system token true).Reachable s ∧ c ∈ s.client ∧
      gateway_step c hello = some (c', frames) ∧
      Frame.resume token long_session (-2147483648) ∈ frames := by
  have hstep : ∃ c frames, gateway_step (gateway_init token true) long_ready = some (c, frames) ∧
      c.token = token ∧ c.session_id = some (strndup long_session 100) ∧
      c.seq = -2147483648 := ⟨_, _, rfl, rfl, rfl, rfl⟩
  obtain ⟨c, frames, hready, htoken, hsession, hseq⟩ := hstep
  have hkept : strndup long_session 100 = long_session :=
    strndup_of_length_le (Nat.le_of_eq length_long_session)
  have hidentify : gateway_identify c = .resume token long_session (-2147483648) := by
    rw [gateway_identify, hsession, htoken, hseq, hkept]
  have hhello : ∃ c', gateway_step c hello =
      some (c', [gateway_send_heartbeat c, gateway_identify c]) := ⟨_, rfl⟩
  obtain ⟨c', hhello⟩ := hhello
  have hrun : (gateway_system token true).Run [long_ready]
      (GatewayRun.event ⟨some (gateway_init token true), ⟨none, false, none⟩⟩ long_ready) :=
    (System.Run.start rfl).snoc rfl
  refine ⟨_, c, c', _, ⟨_, hrun⟩, ?_, hhello, ?_⟩
  · show Option.map Prod.fst (gateway_step (gateway_init token true) long_ready) = some c
    rw [hready]
    rfl
  · rw [hidentify]
    exact List.mem_cons_of_mem _ (List.mem_singleton_self _)

/-- **Every frame fits** in every run exactly when the token is short enough:
    the sequence id and the session id leave room for 93 bytes of it, and 144
    are left where no session is ever stored. -/
theorem frames_fit_iff (token : String) (callbacks : Bool) :
    FramesFit token callbacks ↔ token.toList.length ≤ token_room callbacks := by
  constructor
  · intro h
    cases callbacks with
    | false =>
      -- the first HELLO is answered with the token alone
      have hfit := h _ ⟨[], System.Run.start rfl⟩ _ rfl hello _ _ rfl (.identify token)
        (List.mem_cons_of_mem _ (List.mem_singleton_self _))
      rw [Frame.sent_eq_iff, Frame.length_text] at hfit
      have hlen : 111 + token.toList.length < 256 := hfit
      show token.toList.length ≤ 144
      omega
    | true =>
      obtain ⟨s, c, c', frames, hreach, hc, hstep, hmem⟩ := long_ready_resumed token
      have hfit := h s hreach c hc hello c' frames hstep _ hmem
      rw [Frame.sent_eq_iff, Frame.length_text] at hfit
      have hsession := length_long_session
      have hseq : (format_d (-2147483648)).toList.length = 11 := by decide
      have hlen : 51 + token.toList.length + long_session.toList.length +
        (format_d (-2147483648)).toList.length < 256 := hfit
      show token.toList.length ≤ 93
      omega
  · intro htoken s hreach c hc e c' frames hstep f hf
    have hparts := gateway_frame_parts hreach c hc
    exact hparts.fits htoken ((hparts.step hstep).2 f hf)

end DiscoC
