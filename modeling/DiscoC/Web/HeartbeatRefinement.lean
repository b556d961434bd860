import DiscoC.Web.Heartbeat
import DiscoC.Web.WebsocketLife

/-! # The service thread among its heartbeat threads

  With the heartbeat threads in between, a handler of the service thread
  still does what it does on its own: what is left of it leads to a state
  that the service thread can be in alone (`reachable_completes`). So all
  that is known of the service thread alone holds between its handlers.
-/

namespace DiscoC

namespace GatewayThreads

/-! ### Handlers run to their end -/

/-- The service thread once it has done all that is left to do. -/
def completion (s : GatewayThreads) : Option ServiceThread :=
  s.todo.foldlM ServiceOp.run s.service

/-- The signal sets its flag. -/
def interrupted (s : ServiceThread) : ServiceThread := { s with sigterm_recv := true }

theorem run_pthread_join_interrupted (s : ServiceThread) :
    (interrupted s).pthread_join = s.pthread_join.map interrupted := by
  unfold ServiceThread.pthread_join
  show (s.client.heartbeat_thread.bind fun thread => _) = _
  cases s.client.heartbeat_thread with
  | none => rfl
  | some thread =>
    show (if thread ∈ unjoined s.log then _ else _) = Option.map _ (if _ then _ else _)
    by_cases hmem : thread ∈ unjoined s.log
    · rw [if_pos hmem, if_pos hmem]
      rfl
    · rw [if_neg hmem, if_neg hmem]
      rfl

/-- No access looks at the flag of the signal. -/
theorem run_interrupted (s : ServiceThread) (op : ServiceOp) :
    op.run (interrupted s) = (op.run s).map interrupted := by
  cases op with
  | close =>
    show (interrupted s).websocket_close = s.websocket_close.map interrupted
    unfold ServiceThread.websocket_close
    show (if s.client.heartbeat_active then _ else _) = Option.map _ (if _ then _ else _)
    by_cases hactive : s.client.heartbeat_active = true
    · rw [if_pos hactive, if_pos hactive]
      exact run_pthread_join_interrupted
        { s with client := { s.client with heartbeat_active := false } }
    · rw [if_neg hactive, if_neg hactive]
      rfl
  | join => exact run_pthread_join_interrupted s
  | _ => rfl

theorem foldlM_run_interrupted (ops : List ServiceOp) (s : ServiceThread) :
    ops.foldlM ServiceOp.run (interrupted s) = (ops.foldlM ServiceOp.run s).map interrupted := by
  induction ops generalizing s with
  | nil => rfl
  | cons op ops ih =>
    rw [List.foldlM_cons, List.foldlM_cons, run_interrupted]
    cases op.run s with
    | none => rfl
    | some t => exact ih t

theorem foldlM_run_close (s : ServiceThread) :
    [ServiceOp.close].foldlM ServiceOp.run s = s.websocket_close :=
  bind_pure s.websocket_close

theorem foldlM_run_exit (s : ServiceThread) :
    websocket_exit.foldlM ServiceOp.run s = s.websocket_exit :=
  bind_pure s.set_exit.websocket_close

/-- The calls of the event callbacks. -/
theorem foldlM_run_calls (calls : List ClientCall) (s : ServiceThread) :
    (calls.flatMap call).foldlM ServiceOp.run s = calls.foldlM ServiceThread.call s := by
  induction calls generalizing s with
  | nil => rfl
  | cons c calls ih =>
    have hone : (call c).foldlM ServiceOp.run s = s.call c := by
      cases c with
      | exit => exact foldlM_run_exit s
      | reconnect => exact foldlM_run_close s
    rw [List.flatMap_cons, List.foldlM_append, hone, List.foldlM_cons]
    congr 1
    funext t
    exact ih t

/-- A HELLO. -/
theorem foldlM_run_identify (s : ServiceThread) :
    (gateway_handle_identify s.client).foldlM ServiceOp.run s = some s.gateway_handle_identify := by
  unfold gateway_handle_identify ServiceThread.gateway_handle_identify
  by_cases hactive : (!s.client.heartbeat_active) = true
  · rw [if_pos hactive, if_pos hactive]
    rfl
  · rw [if_neg hactive, if_neg hactive]
    rfl

theorem foldlM_run_interval (interval : Option Int) (s : ServiceThread) :
    (interval.toList.map ServiceOp.HEARTBEAT_INTERVAL).foldlM ServiceOp.run s = some s := by
  cases interval with
  | none => rfl
  | some interval => rfl

theorem foldlM_run_receive (s : GatewayThreads) (result : Option CJson) (calls : List ClientCall) :
    (s.gateway_on_receive result calls).foldlM ServiceOp.run s.service =
      s.service.gateway_on_receive result calls := by
  cases result with
  | none => rfl
  | some json =>
    simp only [gateway_on_receive, ServiceThread.gateway_on_receive, Option.bind_some]
    generalize payload_op json = op
    split
    · exact foldlM_run_calls calls _
    · exact foldlM_run_close s.service
    · rw [List.foldlM_append, foldlM_run_identify]
      exact foldlM_run_interval (hello_interval json) _
    · rfl
    · rfl
    · -- the two functions tell apart the operations that matter to both
      next h0 h9 h10 _ _ =>
      split
      · exact absurd rfl h0
      · exact absurd rfl h9
      · exact absurd rfl h10
      · rfl

/-- `LWS_CALLBACK_CLIENT_CLOSED`. -/
theorem foldlM_run_closed (s : ServiceThread) :
    (websocket_closed s.client).foldlM ServiceOp.run s = s.websocket_closed := by
  unfold websocket_closed ServiceThread.websocket_closed
  show List.foldlM ServiceOp.run { s with link := false } _ = _
  by_cases hagain : (s.client.success_login && !s.client.exit) = true
  · rw [if_pos hagain]
    simp only [if_pos hagain]
    rfl
  · rw [if_neg hagain]
    simp only [if_neg hagain]
    by_cases hlogin : s.client.success_login = true
    · simp only [if_pos hlogin]
      rfl
    · simp only [if_neg hlogin]
      rfl

/-- **A handler on its own** does what the service thread does. -/
theorem foldlM_run_handler (s : GatewayThreads) {e : ServiceEvent} (he : e ≠ .sigterm) :
    (s.handler e).foldlM ServiceOp.run s.service = s.service.handle e := by
  cases e with
  | established => rfl
  | receive result calls => exact foldlM_run_receive s result calls
  | closed => exact foldlM_run_closed s.service
  | connection_error => rfl
  | sigterm => exact absurd rfl he
  | service_returns =>
    show List.foldlM ServiceOp.run _ (if _ then _ else _) = ServiceThread.gateway_event_loop _
    unfold ServiceThread.gateway_event_loop
    by_cases hterm : s.service.sigterm_recv = true
    · rw [if_pos hterm, if_pos hterm, List.foldlM_append, foldlM_run_exit]
      cases s.service.websocket_exit with
      | none => rfl
      | some t => rfl
    · rw [if_neg hterm, if_neg hterm]
      by_cases hactive : s.service.client.active = true
      · rw [if_pos hactive, if_pos hactive]
        rfl
      · rw [if_neg hactive, if_neg hactive]
        rfl
  | destroy =>
    show List.foldlM ServiceOp.run (s.service.act .context_destroyed) (_ ++ _) = _
    rw [List.foldlM_append]
    show _ = ServiceThread.websocket_destroy_client _
    unfold ServiceThread.websocket_destroy_client ServiceThread.lws_context_destroy
    -- the context takes the connection down, if there is one
    by_cases hlink : s.service.link = true
    · have hclosed := foldlM_run_closed (s.service.act .context_destroyed)
      have hlink' : (s.service.act .context_destroyed).link = true := hlink
      rw [if_pos hlink]
      simp only [if_pos hlink']
      show List.foldlM ServiceOp.run (s.service.act .context_destroyed)
        (websocket_closed s.service.client) >>= _ = _
      rw [show websocket_closed s.service.client =
        websocket_closed (s.service.act .context_destroyed).client from rfl, hclosed]
      cases (s.service.act .context_destroyed).websocket_closed with
      | none => rfl
      | some t => rfl
    · have hlink' : ¬ (s.service.act .context_destroyed).link = true := hlink
      rw [if_neg hlink]
      simp only [if_neg hlink']
      rfl

/-! ### One step -/

/-- What the service thread does next leads to where it led. -/
theorem service_step_completion {s s' : GatewayThreads} (h : s.service_step = some s') :
    s'.completion = s.completion := by
  unfold service_step at h
  split at h
  · cases h
  · next todo htodo =>
    obtain rfl := Option.some.inj h
    unfold completion start_close
    rw [htodo, List.foldlM_cons]
    show _ = s.service.websocket_close >>= _
    unfold ServiceThread.websocket_close
    by_cases hactive : s.service.client.heartbeat_active = true
    · rw [if_pos hactive, if_pos hactive]
      rfl
    · rw [if_neg hactive, if_neg hactive]
      rfl
  · next todo htodo =>
    split at h
    · obtain ⟨service, hservice, rfl⟩ := Option.map_eq_some_iff.mp h
      unfold completion
      rw [htodo, List.foldlM_cons]
      show _ = s.service.pthread_join >>= _
      rw [hservice]
      rfl
    · cases h
  · next op todo htodo =>
    obtain ⟨service, hservice, rfl⟩ := Option.map_eq_some_iff.mp h
    unfold completion
    rw [htodo, List.foldlM_cons, hservice]
    rfl

/-- A heartbeat thread changes nothing of the service thread. -/
theorem heartbeat_step_service {s s' : GatewayThreads} {i : Nat}
    (h : s.heartbeat_step i = some s') :
    s'.service = s.service ∧ s'.todo = s.todo ∧ s'.seq = s.seq ∧
      s'.HEARTBEAT_INTERVAL = s.HEARTBEAT_INTERVAL ∧ s'.clock = s.clock ∧
      ∃ pc, s'.threads = s.threads.set i pc := by
  unfold heartbeat_step at h
  split at h
  · cases h
  case h_9 =>
    split at h
    · obtain rfl := Option.some.inj h
      exact ⟨rfl, rfl, rfl, rfl, rfl, _, rfl⟩
    · cases h
  case h_10 => cases h
  all_goals
    obtain rfl := Option.some.inj h
    exact ⟨rfl, rfl, rfl, rfl, rfl, _, rfl⟩

/-- It sends one heartbeat at most. -/
theorem heartbeat_step_sent {s s' : GatewayThreads} {i : Nat} (h : s.heartbeat_step i = some s') :
    ∃ new, s'.sent = new ++ s.sent := by
  unfold heartbeat_step at h
  split at h
  · cases h
  case h_7 =>
    obtain rfl := Option.some.inj h
    exact ⟨[_], rfl⟩
  case h_9 =>
    split at h
    · obtain rfl := Option.some.inj h
      exact ⟨[], rfl⟩
    · cases h
  case h_10 => cases h
  all_goals
    obtain rfl := Option.some.inj h
    exact ⟨[], rfl⟩

theorem interrupted_completion (s : GatewayThreads) :
    completion { s with service := interrupted s.service } = s.completion.map interrupted :=
  foldlM_run_interrupted s.todo s.service

theorem event_step_eq {s s' : GatewayThreads} {e : ServiceEvent} (he : e ≠ .sigterm)
    (h : s.event_step e = some s') :
    s.todo = [] ∧ s.service.enabled e ∧ s' = { s with todo := s.handler e } := by
  unfold event_step at h
  split at h
  · exact absurd rfl he
  · split at h
    · next hen => exact ⟨hen.1, hen.2, (Option.some.inj h).symm⟩
    · cases h

/-- A sleep that is interrupted. -/
theorem interrupt_step_eq {s s' : GatewayThreads} {i : Nat} (h : s.interrupt_step i = some s') :
    ∃ t wake, s.threads[i]? = some (.sleep t wake) ∧
      s' = { s.set_thread i (.sleep t (min wake s.clock)) with
        service := interrupted s.service } := by
  unfold interrupt_step at h
  split at h
  · next t wake hpc => exact ⟨t, wake, hpc, (Option.some.inj h).symm⟩
  · cases h

theorem tick_eq {s s' : GatewayThreads} {clock : Nat} (h : s.exec (.tick clock) = some s') :
    s.clock ≤ clock ∧ s' = { s with clock } := by
  have h : (if s.clock ≤ clock then some { s with clock } else none) = some s' := h
  by_cases hle : s.clock ≤ clock
  · rw [if_pos hle] at h
    exact ⟨hle, (Option.some.inj h).symm⟩
  · rw [if_neg hle] at h
    cases h

/-! ### Refinement -/

/-- **Refinement**: with heartbeat threads in between, the service thread is
    always on its way to a state it could be in alone. -/
theorem reachable_completes {clock : Nat} {s : GatewayThreads}
    (h : (gateway_threads clock).Reachable s) :
    ∃ a, ServiceThread.service_system.Reachable a ∧ s.completion = some a := by
  refine System.Reachable.simulate (R := fun s a => s.completion = some a) ?_ ?_ h
  · intro s hs
    obtain rfl : s = start clock := hs
    exact ⟨_, rfl, rfl⟩
  · intro s l s' a ha hR hstep
    have hexec : s.exec l = some s' := hstep
    cases l with
    | event e =>
      right
      by_cases he : e = .sigterm
      · subst he
        obtain rfl := Option.some.inj hexec
        refine ⟨.sigterm, interrupted a, if_pos trivial, ?_⟩
        exact (interrupted_completion s).trans (by rw [hR]; rfl)
      · -- the handler has run to its end, so the event finds the thread alone
        obtain ⟨htodo, hen, rfl⟩ := event_step_eq he hexec
        have hservice : s.service = a := by
          unfold completion at hR
          rw [htodo] at hR
          exact Option.some.inj hR
        subst hservice
        obtain ⟨a', ha', -⟩ := (ServiceThread.reachable_lifeInv ha).step hen
        refine ⟨e, a', (if_pos hen).trans ha', ?_⟩
        exact (foldlM_run_handler s he).trans ha'
    | interrupt i =>
      right
      obtain ⟨t, wake, -, rfl⟩ := interrupt_step_eq hexec
      refine ⟨.sigterm, interrupted a, if_pos trivial, ?_⟩
      exact (interrupted_completion s).trans (by rw [hR]; rfl)
    | service => exact .inl ((service_step_completion hexec).trans hR)
    | heartbeat i =>
      obtain ⟨hservice, htodo, -⟩ := heartbeat_step_service hexec
      left
      unfold completion
      rw [hservice, htodo]
      exact hR
    | tick clock =>
      left
      obtain ⟨-, rfl⟩ := tick_eq hexec
      exact hR

end GatewayThreads

end DiscoC
