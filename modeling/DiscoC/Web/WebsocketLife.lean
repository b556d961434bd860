import DiscoC.Web.Websocket

/-! # The life of the connection

  A heartbeat thread is started only while none is active, and whoever
  clears `heartbeat_active` joins it. So at most one thread waits to be
  joined, in every state on the way (`LogOk`), and there is one exactly when
  the flag is set (`ServiceInv`).

  `websocket_destroy_client` does not join. It is called behind the event
  loop, which leaves `active` or a SIGTERM to end it; `Phase` says what
  either has done to the thread.
-/

namespace DiscoC

namespace ServiceThread

/-! ### The log -/

/-- What holds of the actions, at any moment. -/
structure LogOk (log : List ServiceAction) : Prop where
  /-- At most one heartbeat thread waits to be joined. -/
  at_most_one : ∀ pre, pre <+: log → (unjoined pre).length ≤ 1
  /-- `websocket_connect` is not called once `exit` is set. -/
  no_connect_after_exit : log.Pairwise fun a b => a = .exit_set → b ≠ .connect
  /-- The context is not destroyed under a heartbeat thread. -/
  none_at_destroy : ∀ pre, pre ++ [.context_destroyed] <+: log → unjoined pre = []
  none_after_destroy : log.Pairwise fun a b =>
    a = .context_destroyed → ∀ thread, b ≠ .heartbeat_started thread

theorem LogOk.snoc {log : List ServiceAction} (h : LogOk log) {a : ServiceAction}
    (hthreads : (join_threads (unjoined log) a).length ≤ 1)
    (hconnect : a = .connect → .exit_set ∉ log)
    (hdestroy : a = .context_destroyed → unjoined log = [])
    (hstart : ∀ thread, a = .heartbeat_started thread → .context_destroyed ∉ log) :
    LogOk (log ++ [a]) where
  at_most_one := by
    intro pre hpre
    -- the new prefix is the whole log, the others are prefixes of the old one
    rcases List.prefix_concat_iff.mp hpre with rfl | hpre
    · rw [unjoined_snoc]
      exact hthreads
    · exact h.at_most_one pre hpre
  no_connect_after_exit := by
    refine List.pairwise_append.mpr ⟨h.no_connect_after_exit, List.pairwise_singleton .., ?_⟩
    rintro b hb c hc rfl rfl
    rw [List.mem_singleton] at hc
    exact hconnect hc.symm hb
  none_at_destroy := by
    intro pre hpre
    rcases List.prefix_concat_iff.mp hpre with heq | hpre
    · obtain ⟨rfl, ha⟩ := List.append_inj' heq rfl
      exact hdestroy (List.singleton_inj.mp ha).symm
    · exact h.none_at_destroy pre hpre
  none_after_destroy := by
    refine List.pairwise_append.mpr ⟨h.none_after_destroy, List.pairwise_singleton .., ?_⟩
    rintro b hb c hc rfl thread rfl
    rw [List.mem_singleton] at hc
    exact hstart thread hc.symm hb

theorem LogOk.nil : LogOk [] where
  at_most_one := by
    intro pre hpre
    rw [List.prefix_nil.mp hpre]
    exact Nat.zero_le _
  no_connect_after_exit := .nil
  none_at_destroy := by
    intro pre hpre
    exact absurd (List.prefix_nil.mp hpre) (by simp)
  none_after_destroy := .nil

/-! ### The flags -/

/-- The flags say what the log says. -/
structure ServiceInv (s : ServiceThread) : Prop where
  log : LogOk s.log
  threads : unjoined s.log =
    if s.client.heartbeat_active then s.client.heartbeat_thread.toList else []
  handle : s.client.heartbeat_active = true → s.client.heartbeat_thread.isSome = true
  exit : s.client.exit = true ↔ .exit_set ∈ s.log

/-- The join that `websocket_close` makes. -/
def close_actions (c : WebsocketClient) : List ServiceAction :=
  if c.heartbeat_active then c.heartbeat_thread.toList.map .heartbeat_joined else []

/-- The state after `websocket_close`. -/
def closed_down (s : ServiceThread) : ServiceThread :=
  { s with
    client := { s.client with heartbeat_active := false }
    log := s.log ++ close_actions s.client }

theorem mem_closed_down_log {s : ServiceThread} {a : ServiceAction}
    (ha : ∀ thread, a ≠ .heartbeat_joined thread) : a ∈ s.closed_down.log ↔ a ∈ s.log := by
  rw [closed_down, List.mem_append, or_iff_left]
  intro hmem
  unfold close_actions at hmem
  split at hmem
  · obtain ⟨thread, -, rfl⟩ := List.mem_map.mp hmem
    exact ha thread rfl
  · cases hmem

namespace ServiceInv

variable {s : ServiceThread}

/-- `websocket_close` joins the thread, if there is one. -/
theorem close_eq (h : ServiceInv s) : s.websocket_close = some s.closed_down := by
  unfold websocket_close closed_down close_actions
  cases hactive : s.client.heartbeat_active with
  | true =>
    obtain ⟨thread, hthread⟩ := Option.isSome_iff_exists.mp (h.handle hactive)
    have hmem : thread ∈ unjoined s.log := by
      rw [h.threads, hactive, if_pos rfl, hthread]
      exact List.mem_singleton_self thread
    simp [pthread_join, hthread, hmem, act]
  | false =>
    have hclient : { s.client with heartbeat_active := false } = s.client := by rw [← hactive]
    simp [hclient]

theorem closed_down (h : ServiceInv s) : ServiceInv s.closed_down := by
  cases hactive : s.client.heartbeat_active with
  | true =>
    -- the one running heartbeat thread is joined
    obtain ⟨thread, hthread⟩ := Option.isSome_iff_exists.mp (h.handle hactive)
    have hone : unjoined s.log = [thread] := by
      rw [h.threads, hactive, if_pos rfl, hthread]
      rfl
    have hlog : s.closed_down.log = s.log ++ [.heartbeat_joined thread] := by
      simp [ServiceThread.closed_down, close_actions, hactive, hthread]
    have hnone : unjoined s.closed_down.log = [] := by
      rw [hlog, unjoined_snoc, hone]
      simp [join_threads]
    refine ⟨?_, hnone, nofun, h.exit.trans (mem_closed_down_log (by simp)).symm⟩
    rw [hlog]
    refine h.log.snoc ?_ nofun nofun nofun
    rw [hone]
    simp [join_threads]
  | false =>
    have hlog : s.closed_down.log = s.log := by
      simp [ServiceThread.closed_down, close_actions, hactive]
    refine ⟨hlog ▸ h.log, ?_, nofun, h.exit.trans (mem_closed_down_log (by simp)).symm⟩
    rw [hlog, h.threads, hactive]
    rfl

theorem set_exit (h : ServiceInv s) : ServiceInv s.set_exit where
  log := h.log.snoc (h.log.at_most_one _ (List.prefix_refl _)) nofun nofun nofun
  threads := by
    rw [ServiceThread.set_exit, act, unjoined_snoc]
    exact h.threads
  handle := h.handle
  exit := by simp [ServiceThread.set_exit, act]

/-- A HELLO starts a thread only while none is active. -/
theorem identify (h : ServiceInv s) (hfresh : .context_destroyed ∉ s.log) :
    ServiceInv s.gateway_handle_identify := by
  cases hactive : s.client.heartbeat_active with
  -- a heartbeat that runs is left alone
  | true =>
    simpa [gateway_handle_identify, hactive] using h
  | false =>
    have hnone : unjoined s.log = [] := by
      rw [h.threads, hactive]
      rfl
    have heq : s.gateway_handle_identify =
        { s with client := { s.client with heartbeat_active := true } }.pthread_create := by
      simp [gateway_handle_identify, hactive]
    rw [heq]
    refine ⟨?_, ?_, fun _ => rfl, ?_⟩
    · refine h.log.snoc ?_ nofun nofun fun _ _ => hfresh
      rw [hnone]
      exact Nat.le_refl 1
    · rw [pthread_create, act, unjoined_snoc, hnone]
      rfl
    · simpa [pthread_create, act] using h.exit

theorem connect (h : ServiceInv s) (hexit : s.client.exit = false) :
    ServiceInv s.websocket_connect where
  log := by
    refine h.log.snoc (h.log.at_most_one _ (List.prefix_refl _)) (fun _ hmem => ?_) nofun nofun
    rw [h.exit.mpr hmem] at hexit
    cases hexit
  threads := by
    rw [websocket_connect, act, unjoined_snoc]
    exact h.threads
  handle := h.handle
  exit := by simpa [websocket_connect, act] using h.exit

theorem context_destroyed (h : ServiceInv s) (hactive : s.client.heartbeat_active = false) :
    ServiceInv (s.act .context_destroyed) := by
  have hnone : unjoined s.log = [] := by
    rw [h.threads, hactive]
    rfl
  refine ⟨h.log.snoc ?_ nofun (fun _ => hnone) nofun, ?_, h.handle, ?_⟩
  · rw [hnone]
    exact Nat.zero_le 1
  · rw [act, unjoined_snoc]
    exact h.threads
  · simpa [act] using h.exit

end ServiceInv

/-! ### With a connection -/

/-- The event loop runs, and there is a connection. -/
structure Linked (s : ServiceThread) : Prop extends ServiceInv s where
  place : s.place = .event_loop
  link : s.link = true
  active : s.client.active = true
  fresh : .context_destroyed ∉ s.log

namespace Linked

variable {s : ServiceThread}

theorem closed_down (h : Linked s) : Linked s.closed_down where
  toServiceInv := h.toServiceInv.closed_down
  place := h.place
  link := h.link
  active := h.active
  fresh := fun hmem => h.fresh ((mem_closed_down_log (by simp)).mp hmem)

theorem set_exit (h : Linked s) : Linked s.set_exit where
  toServiceInv := h.toServiceInv.set_exit
  place := h.place
  link := h.link
  active := h.active
  fresh := by simpa [ServiceThread.set_exit, act] using h.fresh

theorem success_login (h : Linked s) :
    Linked { s with client := { s.client with success_login := true } } :=
  ⟨⟨h.log, h.threads, h.handle, h.exit⟩, h.place, h.link, h.active, h.fresh⟩

theorem established (h : Linked s) :
    Linked { s with client := { s.client with connected := true } } :=
  ⟨⟨h.log, h.threads, h.handle, h.exit⟩, h.place, h.link, h.active, h.fresh⟩

theorem identify (h : Linked s) : Linked s.gateway_handle_identify := by
  refine ⟨h.toServiceInv.identify h.fresh, ?_, ?_, ?_, ?_⟩
  all_goals unfold gateway_handle_identify
  · split
    · exact h.place
    · exact h.place
  · split
    · exact h.link
    · exact h.link
  · split
    · exact h.active
    · exact h.active
  · split
    · simpa [pthread_create, act] using h.fresh
    · exact h.fresh

/-- What an event callback may do. -/
theorem call (h : Linked s) (c : ClientCall) : ∃ s', s.call c = some s' ∧ Linked s' := by
  cases c with
  | exit => exact ⟨_, h.set_exit.close_eq, h.set_exit.closed_down⟩
  | reconnect => exact ⟨_, h.close_eq, h.closed_down⟩

theorem calls (h : Linked s) (calls : List ClientCall) :
    ∃ s', calls.foldlM ServiceThread.call s = some s' ∧ Linked s' := by
  induction calls generalizing s with
  | nil => exact ⟨s, rfl, h⟩
  | cons c calls ih =>
    obtain ⟨t, ht, hlinked⟩ := h.call c
    obtain ⟨s', hs', hlinked'⟩ := ih hlinked
    exact ⟨s', by rw [List.foldlM_cons, ht]; exact hs', hlinked'⟩

theorem receive (h : Linked s) (result : Option CJson) (calls : List ClientCall) :
    ∃ s', s.gateway_on_receive result calls = some s' ∧ Linked s' := by
  unfold gateway_on_receive
  split
  · exact h.success_login.calls calls
  · exact ⟨_, h.close_eq, h.closed_down⟩
  · exact ⟨_, rfl, h.identify⟩
  · exact ⟨s, rfl, h⟩

end Linked

/-! ### Without one -/

/-- The connection is not tried again. -/
def hang_up (s : ServiceThread) : ServiceThread :=
  let t := { s with client := { s.client with active := false } }.closed_down
  { t with client := { t.client with connected := false, success_login := false } }

theorem ServiceInv.inactive {s : ServiceThread} (h : ServiceInv s) :
    ServiceInv { s with client := { s.client with active := false } } :=
  ⟨h.log, h.threads, h.handle, h.exit⟩

theorem ServiceInv.hang_up {s : ServiceThread} (h : ServiceInv s) : ServiceInv s.hang_up :=
  have ht := h.inactive.closed_down
  ⟨ht.log, ht.threads, ht.handle, ht.exit⟩

/-- The connection is gone. -/
def unlinked (s : ServiceThread) : ServiceThread := { s with link := false }

theorem ServiceInv.unlinked {s : ServiceThread} (h : ServiceInv s) : ServiceInv s.unlinked :=
  ⟨h.log, h.threads, h.handle, h.exit⟩

/-- What `LWS_CALLBACK_CLIENT_CLOSED` does. -/
theorem ServiceInv.closed_eq {s : ServiceThread} (h : ServiceInv s) :
    s.websocket_closed = some
      (if s.client.success_login && !s.client.exit then s.unlinked.websocket_connect
      else if s.client.success_login then s.unlinked.hang_up else s.unlinked.set_exit.hang_up) := by
  unfold websocket_closed
  by_cases hagain : (s.client.success_login && !s.client.exit) = true
  · simp only [if_pos hagain]
    rfl
  · simp only [if_neg hagain, Option.bind_eq_bind]
    by_cases hlogin : s.client.success_login = true
    · simp only [if_pos hlogin]
      exact congrArg (Option.bind · _) h.unlinked.inactive.close_eq
    · simp only [if_neg hlogin]
      exact congrArg (Option.bind · _) h.unlinked.set_exit.inactive.close_eq

/-- The client connects again, or gives up with `exit` set. -/
theorem ServiceInv.closed {s : ServiceThread} (h : ServiceInv s) :
    ∃ s', s.websocket_closed = some s' ∧ ServiceInv s' ∧ s'.place = s.place ∧
      (.context_destroyed ∈ s'.log ↔ .context_destroyed ∈ s.log) ∧
      (s'.client.active = true ∧ s'.link = true ∧ s.client.exit = false ∨
        s'.client.active = false ∧ s'.link = false ∧ s'.client.heartbeat_active = false ∧
          s'.client.exit = true) := by
  have hmem : ∀ t : ServiceThread,
      (.context_destroyed ∈ t.hang_up.log ↔ .context_destroyed ∈ t.log) :=
    fun _ => mem_closed_down_log (by simp)
  refine ⟨_, h.closed_eq, ?_⟩
  cases hlogin : s.client.success_login with
  | true =>
    -- after a login the client reconnects, unless it is told to exit
    cases hexit : s.client.exit with
    | true => exact ⟨h.unlinked.hang_up, rfl, hmem _, .inr ⟨rfl, rfl, rfl, hexit⟩⟩
    | false =>
      refine ⟨h.unlinked.connect hexit, rfl, ?_, .inl ⟨rfl, rfl, rfl⟩⟩
      simp [websocket_connect, act, ServiceThread.unlinked]
  | false =>
    refine ⟨h.unlinked.set_exit.hang_up, rfl, (hmem _).trans ?_, .inr ⟨rfl, rfl, rfl, rfl⟩⟩
    simp [ServiceThread.set_exit, act, ServiceThread.unlinked]

/-- The states between events. -/
inductive Phase (s : ServiceThread) : Prop where
  | linked : Linked s → Phase s
  /-- The loop is about to end. -/
  | idle : s.place = .event_loop → s.link = false → s.client.active = false →
      s.client.heartbeat_active = false → s.client.exit = true →
      .context_destroyed ∉ s.log → Phase s
  | returned : s.place = .returned → s.client.heartbeat_active = false →
      s.client.exit = true → .context_destroyed ∉ s.log → Phase s
  | ended : s.place = .destroyed ∨ s.place = .exited → s.client.heartbeat_active = false → Phase s

/-- The context takes an open connection down with it. -/
theorem ServiceInv.lws_context_destroy {s : ServiceThread} (h : ServiceInv s)
    (hbeat : s.client.heartbeat_active = false) (hexit : s.client.exit = true) :
    ∃ t, s.lws_context_destroy = some t ∧ ServiceInv t ∧ t.client.heartbeat_active = false := by
  -- the log may take the destruction, as no heartbeat is left
  have hinv := h.context_destroyed hbeat
  unfold ServiceThread.lws_context_destroy
  cases hlink : s.link with
  | true =>
    obtain ⟨t, ht, hdone, -, -, hor⟩ := hinv.closed
    refine ⟨t, by simpa [act, hlink] using ht, hdone, ?_⟩
    -- `exit` is set, so the close does not connect again
    rcases hor with ⟨-, -, hno⟩ | ⟨-, -, hbeat, -⟩
    · rw [show (s.act .context_destroyed).client.exit = true from hexit] at hno
      cases hno
    · exact hbeat
  | false => exact ⟨_, by simp [act, hlink], hinv, hbeat⟩

/-- The invariant of the service thread. -/
structure LifeInv (s : ServiceThread) : Prop where
  inv : ServiceInv s
  phase : Phase s

namespace LifeInv

variable {s : ServiceThread}

theorem start : LifeInv discord_start_bot := by
  have hinv : ServiceInv
      { client := websocket_create
        place := .event_loop
        link := false
        sigterm_recv := false
        threads := 0
        log := [] } :=
    ⟨.nil, rfl, nofun, by simp [websocket_create]⟩
  have hconnect := hinv.connect rfl
  exact ⟨hconnect, .linked ⟨hconnect, rfl, rfl, rfl, by decide⟩⟩

theorem of_linked (h : Linked s) : LifeInv s := ⟨h.toServiceInv, .linked h⟩

/-- In the event loop the context is there, and without a connection the
    client is told to exit. -/
theorem in_loop (h : LifeInv s) (hplace : s.place = .event_loop) :
    .context_destroyed ∉ s.log ∧ (Linked s ∨ s.link = false ∧ s.client.active = false ∧
      s.client.heartbeat_active = false ∧ s.client.exit = true) := by
  cases h.phase with
  | linked hl => exact ⟨hl.fresh, .inl hl⟩
  | idle _ hlink hactive hbeat hexit hfresh =>
    exact ⟨hfresh, .inr ⟨hlink, hactive, hbeat, hexit⟩⟩
  | returned hp =>
    rw [hp] at hplace
    cases hplace
  | ended hp =>
    rw [hplace] at hp
    rcases hp with hp | hp <;> cases hp

/-- After the event loop the heartbeat thread has been joined. -/
theorem after_loop (h : LifeInv s) (hplace : s.place = .returned) :
    s.client.heartbeat_active = false ∧ s.client.exit = true := by
  cases h.phase with
  | returned _ hbeat hexit => exact ⟨hbeat, hexit⟩
  | linked hl =>
    rw [hl.place] at hplace
    cases hplace
  | idle hp =>
    rw [hp] at hplace
    cases hplace
  | ended hp =>
    rw [hplace] at hp
    rcases hp with hp | hp <;> cases hp

/-- An event on a connection finds it. -/
theorem linked (h : LifeInv s) (hplace : s.place = .event_loop) (hlink : s.link = true) :
    Linked s := by
  obtain ⟨-, hl | ⟨hnone, -⟩⟩ := h.in_loop hplace
  · exact hl
  · rw [hnone] at hlink
    cases hlink

theorem closed (h : LifeInv s) (hl : Linked s) :
    ∃ s', s.websocket_closed = some s' ∧ LifeInv s' := by
  obtain ⟨s', hs', hinv, hplace, hmem, hor⟩ := h.inv.closed
  refine ⟨s', hs', hinv, ?_⟩
  have hfresh : .context_destroyed ∉ s'.log := fun hd => hl.fresh (hmem.mp hd)
  rcases hor with ⟨hactive, hlink, -⟩ | ⟨hactive, hlink, hbeat, hexit⟩
  · exact .linked ⟨hinv, hplace.trans hl.place, hlink, hactive, hfresh⟩
  · exact .idle (hplace.trans hl.place) hlink hactive hbeat hexit hfresh

theorem connection_error (h : LifeInv s) :
    ∃ s', s.websocket_connection_error = some s' ∧ LifeInv s' := by
  have hinv : ServiceInv { s with
      client := { s.client with connected := false, active := false }, link := false } :=
    ⟨h.inv.log, h.inv.threads, h.inv.handle, h.inv.exit⟩
  refine ⟨{ closed_down { s with
      client := { s.client with connected := false, active := false }, link := false } with
      place := .exited }, ?_, ?_, .ended (.inr rfl) rfl⟩
  · simp only [websocket_connection_error, hinv.close_eq, Option.bind_eq_bind, Option.bind_some]
  · have hdown := hinv.closed_down
    exact ⟨hdown.log, hdown.threads, hdown.handle, hdown.exit⟩

/-- The event loop ends only without a heartbeat thread and with `exit` set. -/
theorem service_returns (h : LifeInv s) (hplace : s.place = .event_loop) :
    ∃ s', s.gateway_event_loop = some s' ∧ LifeInv s' := by
  obtain ⟨hfresh, hor⟩ := h.in_loop hplace
  unfold gateway_event_loop
  by_cases hterm : s.sigterm_recv = true
  · -- on SIGTERM the client is shut down before the loop is left
    have hdown := h.inv.set_exit.closed_down
    refine ⟨{ s.set_exit.closed_down with place := .returned },
      by rw [if_pos hterm, websocket_exit, h.inv.set_exit.close_eq]; rfl, ⟨hdown.log,
        hdown.threads, hdown.handle, hdown.exit⟩, .returned rfl rfl rfl ?_⟩
    intro hmem
    have hmem := (mem_closed_down_log (by simp)).mp hmem
    simp [ServiceThread.set_exit, act, hfresh] at hmem
  · rw [if_neg hterm]
    -- otherwise the loop goes on for as long as the client is active
    by_cases hactive : s.client.active = true
    · exact ⟨s, if_pos hactive, h⟩
    · refine ⟨{ s with place := .returned }, if_neg hactive,
        ⟨h.inv.log, h.inv.threads, h.inv.handle, h.inv.exit⟩, ?_⟩
      rcases hor with hl | ⟨-, -, hbeat, hexit⟩
      · exact absurd hl.active hactive
      · exact .returned rfl hbeat hexit hfresh

theorem destroy (h : LifeInv s) (hplace : s.place = .returned) :
    ∃ s', s.websocket_destroy_client = some s' ∧ LifeInv s' := by
  obtain ⟨hbeat, hexit⟩ := h.after_loop hplace
  obtain ⟨t, ht, hdone, hquiet⟩ := h.inv.lws_context_destroy hbeat hexit
  refine ⟨{ t with
      client := { t.client with active := false, heartbeat_active := false }
      place := .destroyed }, ?_, ⟨hdone.log, ?_, nofun, hdone.exit⟩, .ended (.inl rfl) rfl⟩
  · rw [websocket_destroy_client, ht]
    rfl
  · show unjoined t.log = []
    rw [hdone.threads, hquiet]
    rfl

/-- **Step lemma**: every event that may occur is handled, and keeps the
    invariant. -/
theorem step (h : LifeInv s) {e : ServiceEvent} (hen : s.enabled e) :
    ∃ s', s.handle e = some s' ∧ LifeInv s' := by
  cases e with
  | established => exact ⟨_, rfl, of_linked (h.linked hen.1 hen.2).established⟩
  | receive result calls =>
    obtain ⟨s', hs', hlinked⟩ := (h.linked hen.1 hen.2).receive result calls
    exact ⟨s', hs', of_linked hlinked⟩
  | closed => exact h.closed (h.linked hen.1 hen.2)
  | connection_error => exact h.connection_error
  | sigterm =>
    refine ⟨_, rfl, ⟨h.inv.log, h.inv.threads, h.inv.handle, h.inv.exit⟩, ?_⟩
    cases h.phase with
    | linked hl =>
      exact .linked ⟨⟨hl.log, hl.threads, hl.handle, hl.exit⟩, hl.place, hl.link, hl.active,
        hl.fresh⟩
    | idle hp hlink hactive hbeat hexit hfresh => exact .idle hp hlink hactive hbeat hexit hfresh
    | returned hp hbeat hexit hfresh => exact .returned hp hbeat hexit hfresh
    | ended hp hbeat => exact .ended hp hbeat
  | service_returns => exact h.service_returns hen
  | destroy => exact h.destroy hen

end LifeInv

/-! ### Every run -/

theorem reachable_lifeInv {s : ServiceThread} (h : service_system.Reachable s) : LifeInv s := by
  refine System.Reachable.invariant (I := LifeInv) ?_ ?_ h
  · rintro s rfl
    exact .start
  · intro s e s' _ ih hs
    have hs : (if s.enabled e then s.handle e else none) = some s' := hs
    by_cases hen : s.enabled e
    · rw [if_pos hen] at hs
      obtain ⟨t, ht, hinv⟩ := ih.step hen
      obtain rfl := Option.some.inj (ht.symm.trans hs)
      exact hinv
    · rw [if_neg hen] at hs
      cases hs

/-- The life of the connection goes as it should. -/
structure LifecycleOk (s : ServiceThread) : Prop where
  log : LogOk s.log
  /-- One heartbeat thread waits to be joined, or none. -/
  heartbeat : (unjoined s.log).length = if s.client.heartbeat_active then 1 else 0
  exit : s.client.exit = true ↔ .exit_set ∈ s.log
  /-- None does once the event loop has returned. -/
  returned : s.place ≠ .event_loop → unjoined s.log = []
  /-- Every event is handled, without a join of a thread that is not there. -/
  handled : ∀ e, s.enabled e → (s.handle e).isSome = true

/-- **The connection lifecycle**, for every sequence of events. -/
theorem lifecycle {s : ServiceThread} (h : service_system.Reachable s) : LifecycleOk s := by
  have hlife := reachable_lifeInv h
  refine ⟨hlife.inv.log, ?_, hlife.inv.exit, fun hplace => ?_, fun e hen => ?_⟩
  · rw [hlife.inv.threads]
    cases hactive : s.client.heartbeat_active with
    | true =>
      obtain ⟨thread, hthread⟩ := Option.isSome_iff_exists.mp (hlife.inv.handle hactive)
      rw [hthread]
      rfl
    | false => rfl
  -- the loop has been left, so no thread is left either
  · have hbeat : s.client.heartbeat_active = false := by
      cases hlife.phase with
      | linked hl => exact absurd hl.place hplace
      | idle hp => exact absurd hp hplace
      | returned _ hbeat => exact hbeat
      | ended _ hbeat => exact hbeat
    rw [hlife.inv.threads, hbeat]
    rfl
  · obtain ⟨s', hs', -⟩ := hlife.step hen
    rw [hs']
    rfl

/-- A connection is lost and tried again; then a SIGTERM ends the loop. -/
def reconnect_and_exit : List ServiceEvent :=
  [.established, .receive (some (.object [("op", .number 10)])) [],
    .receive (some (.object [("op", .number 0)])) [.reconnect],
    .receive (some (.object [("op", .number 10)])) [], .closed, .established, .sigterm,
    .service_returns, .destroy]

theorem lifecycle_reconnect_and_exit : ∃ s, s.place = .destroyed ∧ s.log =
    [.connect, .heartbeat_started 0, .heartbeat_joined 0, .heartbeat_started 1, .connect,
      .exit_set, .heartbeat_joined 1, .context_destroyed] ∧ LifecycleOk s := by
  obtain ⟨s, hs, hplace, hlog⟩ : ∃ s : ServiceThread, reconnect_and_exit.foldlM
      (fun s e => if s.enabled e then s.handle e else none) discord_start_bot = some s ∧
      s.place = .destroyed ∧ s.log =
        [.connect, .heartbeat_started 0, .heartbeat_joined 0, .heartbeat_started 1, .connect,
          .exit_set, .heartbeat_joined 1, .context_destroyed] :=
    ⟨_, rfl, rfl, rfl⟩
  exact ⟨s, hplace, hlog, lifecycle ⟨_, System.run_ofFn_iff.mpr hs⟩⟩

/-! ### The gateway -/

/-- The flags of the gateway connection are those of the service thread. -/
structure Agrees (c : GatewayClient) (s : ServiceThread) : Prop where
  success_login : c.success_login = s.client.success_login
  active : c.active = s.client.active
  heartbeat_active : c.heartbeat_active = s.client.heartbeat_active
  exit : c.exit = s.client.exit

theorem Agrees.closed_down {c : GatewayClient} {s : ServiceThread} (h : Agrees c s) :
    Agrees (DiscoC.websocket_close c) s.closed_down :=
  ⟨h.success_login, h.active, rfl, h.exit⟩

theorem Agrees.closed {c : GatewayClient} {s : ServiceThread} (h : Agrees c s)
    (hs : ServiceInv s) :
    ∃ s', s.websocket_closed = some s' ∧ Agrees (DiscoC.websocket_closed c) s' := by
  refine ⟨_, hs.closed_eq, ?_⟩
  unfold DiscoC.websocket_closed
  rw [← h.success_login, ← h.exit]
  split
  · exact ⟨h.success_login, rfl, h.heartbeat_active, h.exit⟩
  · split
    · exact ⟨rfl, rfl, rfl, h.exit⟩
    · exact ⟨rfl, rfl, rfl, rfl⟩

theorem event_handle_flags {c c' : GatewayClient} {s : ServiceThread} {data : Option CJson}
    {event : Option String} (he : event_handle c data event = some c') (h : Agrees c s) :
    Agrees c' s := by
  unfold event_handle at he
  split at he
  · obtain rfl := Option.some.inj he
    exact h
  · obtain ⟨event, -, he⟩ := Option.bind_eq_some_iff.mp he
    split at he
    · split at he
      · obtain ⟨valuestring, -, he⟩ := Option.bind_eq_some_iff.mp he
        obtain rfl := Option.some.inj he
        exact ⟨h.success_login, h.active, h.heartbeat_active, h.exit⟩
      · obtain rfl := Option.some.inj he
        exact h
    · obtain rfl := Option.some.inj he
      exact h

theorem Agrees.identify {c : GatewayClient} {s : ServiceThread} (h : Agrees c s) :
    Agrees (DiscoC.gateway_handle_identify c).1 s.gateway_handle_identify := by
  unfold gateway_handle_identify
  split
  · exact ⟨h.success_login, h.active, rfl, h.exit⟩
  · next hactive =>
    rw [Bool.not_eq_true, Bool.not_eq_false'] at hactive
    exact ⟨h.success_login, h.active, hactive.symm, h.exit⟩

theorem Agrees.receive {c c' : GatewayClient} {s : ServiceThread} {frames : List Frame}
    (h : Agrees c s) (hs : ServiceInv s) {json : CJson}
    (he : DiscoC.gateway_on_receive c (some json) = some (c', frames)) :
    ∃ s', s.gateway_on_receive (some json) [] = some s' ∧ Agrees c' s' := by
  simp only [DiscoC.gateway_on_receive] at he
  simp only [gateway_on_receive, Option.bind_some]
  split at he
  · next hop =>
    obtain ⟨c₁, hdispatch, heq⟩ := Option.map_eq_some_iff.mp he
    obtain ⟨rfl, -⟩ := Prod.mk.inj heq
    obtain ⟨event, -, hevent⟩ := Option.bind_eq_some_iff.mp hdispatch
    rw [hop]
    exact ⟨_, rfl, event_handle_flags hevent ⟨rfl, h.active, h.heartbeat_active, h.exit⟩⟩
  · next hop =>
    obtain ⟨rfl, -⟩ := Prod.mk.inj (Option.some.inj he)
    rw [hop]
    exact ⟨_, hs.close_eq, h.success_login, h.active, rfl, h.exit⟩
  · next hop =>
    rw [hop]
    refine ⟨_, rfl, ?_⟩
    -- HELLO sets the interval too, which the thread model has no field for
    have hi := h.identify
    split at he
    · obtain ⟨rfl, -⟩ := Prod.mk.inj (Option.some.inj he)
      exact ⟨hi.success_login, hi.active, hi.heartbeat_active, hi.exit⟩
    · obtain ⟨rfl, -⟩ := Prod.mk.inj (Option.some.inj he)
      exact hi
  · next hop =>
    obtain ⟨rfl, -⟩ := Prod.mk.inj (Option.some.inj he)
    rw [hop]
    exact ⟨s, rfl, h⟩
  · next h0 h9 h10 h1 =>
    obtain ⟨rfl, -⟩ := Prod.mk.inj (Option.some.inj he)
    refine ⟨s, ?_, h⟩
    split
    · next hop => exact absurd hop h0
    · next hop => exact absurd hop h9
    · next hop => exact absurd hop h10
    · rfl

/-- **Refinement**: an event of the gateway model is one of the service
    thread, with the same flags. -/
theorem Agrees.step {c c' : GatewayClient} {s : ServiceThread} {frames : List Frame}
    (h : Agrees c s) (hs : ServiceInv s) {e : GatewayEvent}
    (he : gateway_step c e = some (c', frames)) :
    ∃ s', (match e with
      | .receive result => s.gateway_on_receive result []
      | .closed => s.websocket_closed
      | .reconnect => s.websocket_reconnect
      | .exit => s.websocket_exit) = some s' ∧ Agrees c' s' := by
  cases e with
  | receive result =>
    cases result with
    | none =>
      obtain ⟨rfl, -⟩ := Prod.mk.inj (Option.some.inj he)
      exact ⟨s, rfl, h⟩
    | some json => exact h.receive hs he
  | closed =>
    obtain ⟨rfl, -⟩ := Prod.mk.inj (Option.some.inj he)
    exact h.closed hs
  | reconnect =>
    obtain ⟨rfl, -⟩ := Prod.mk.inj (Option.some.inj he)
    exact ⟨_, hs.close_eq, h.closed_down⟩
  | exit =>
    obtain ⟨rfl, -⟩ := Prod.mk.inj (Option.some.inj he)
    exact ⟨_, hs.set_exit.close_eq, h.success_login, h.active, rfl, rfl⟩

end ServiceThread

end DiscoC
