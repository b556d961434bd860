import DiscoC.Web.HeartbeatRefinement

/-! # The life of a heartbeat thread

  Seen from the service thread, a heartbeat thread goes through phases
  (`BeatPhase`). Each access of the service thread is allowed in some of them
  and leads to another one (`BeatPhase.next`); each handler consists of
  allowed accesses (`handler_allowed`). What holds of the threads in a phase
  (`InPhase`) is preserved by every step, so that there is one heartbeat
  thread at most, and none once the event loop has been left
  (`heartbeat_ok`).
-/

namespace DiscoC

/-! ### The phases of a heartbeat thread -/

/-- Where a heartbeat thread is in its life, seen from the service thread. -/
inductive BeatPhase where
  /-- There is none. -/
  | off
  /-- The flag is set, and the thread is about to be created. -/
  | starting
  /-- It runs. -/
  | on
  /-- It may end by itself, as the client is no longer active. -/
  | dying
  /-- The flag is cleared, and the thread is about to be joined. -/
  | closing
  deriving DecidableEq, Repr

/-- An access that has nothing to do with the heartbeat thread. -/
def ServiceOp.quiet : ServiceOp → Bool
  | .active _ => false
  | .heartbeat_active _ => false
  | .connect => false
  | .close => false
  | .create => false
  | .join => false
  | .place _ => false
  | _ => true

/-- The phase after an access, where the access is allowed. -/
def BeatPhase.next : BeatPhase → ServiceOp → Option BeatPhase
  | .off, .heartbeat_active true => some .starting
  | .off, .heartbeat_active false => some .off
  | .starting, .create => some .on
  | .on, .active true => some .on
  | .on, .active false => some .dying
  | .off, .active _ => some .off
  | .on, .connect => some .on
  | .off, .connect => some .off
  | .off, .close => some .off
  | .on, .close => some .off
  | .dying, .close => some .off
  | .closing, .join => some .off
  | .off, .place _ => some .off
  | .off, op => if op.quiet then some .off else none
  | .on, op => if op.quiet then some .on else none
  | .dying, op => if op.quiet then some .dying else none
  | _, _ => none

namespace GatewayThreads

/-! ### Phases -/

/-- The accesses `ops` are allowed, and lead from one phase between handlers
    to another one. -/
def AllowedFrom (p : BeatPhase) (ops : List ServiceOp) : Prop :=
  ∃ q, ops.foldlM BeatPhase.next p = some q ∧ (q = .off ∨ q = .on)

/-- The heartbeat thread `i` has been created and has not ended. -/
def Alive (s : GatewayThreads) (i : Nat) : Prop := ∃ pc, s.threads[i]? = some pc ∧ pc ≠ .ended

/-- What holds in a phase. -/
def InPhase (s : GatewayThreads) : BeatPhase → Prop
  | .off => s.service.client.heartbeat_active = false ∧ ∀ i, ¬ s.Alive i
  | .starting => s.service.client.heartbeat_active = true ∧ ∀ i, ¬ s.Alive i
  | .on => s.service.client.heartbeat_active = true ∧ s.service.client.active = true ∧
    ∃ i, s.service.client.heartbeat_thread = some i ∧ ∀ j, s.Alive j ↔ j = i
  | .dying => s.service.client.heartbeat_active = true ∧
    ∃ i, s.service.client.heartbeat_thread = some i ∧ i < s.threads.length ∧
      ∀ j, s.Alive j → j = i
  | .closing => s.service.client.heartbeat_active = false ∧
    ∃ i, s.service.client.heartbeat_thread = some i ∧ i < s.threads.length ∧
      ∀ j, s.Alive j → j = i

/-- The handler that runs is one that starts the heartbeat. -/
def Starts (todo : List ServiceOp) : Prop := .heartbeat_active true ∈ todo ∨ .create ∈ todo

/-- The invariant of the threads. -/
structure ThreadsInv (s : GatewayThreads) : Prop where
  count : s.threads.length = s.service.threads
  starts : Starts s.todo → s.service.client.active = true ∧ s.service.place = .event_loop ∧
    (∀ b, .active b ∉ s.todo) ∧ ∀ place, .place place ∉ s.todo
  phase : ∃ p, s.InPhase p ∧ AllowedFrom p s.todo ∧ (s.service.place ≠ .event_loop → p = .off)

/-! ### Phases of the handlers -/

theorem AllowedFrom.cons {p : BeatPhase} {op : ServiceOp} {ops : List ServiceOp} :
    AllowedFrom p (op :: ops) ↔ ∃ q, p.next op = some q ∧ AllowedFrom q ops := by
  unfold AllowedFrom
  rw [List.foldlM_cons]
  constructor
  · intro ⟨r, hr, hend⟩
    obtain ⟨q, hq, hr⟩ := Option.bind_eq_some_iff.mp hr
    exact ⟨q, hq, r, hr, hend⟩
  · intro ⟨q, hq, r, hr, hend⟩
    refine ⟨r, ?_, hend⟩
    show (p.next op).bind _ = _
    rw [hq]
    exact hr

theorem AllowedFrom.append {p q : BeatPhase} {ops ops' : List ServiceOp}
    (h : ops.foldlM BeatPhase.next p = some q) :
    AllowedFrom p (ops ++ ops') ↔ AllowedFrom q ops' := by
  unfold AllowedFrom
  rw [List.foldlM_append, h]
  rfl

theorem allowed_nil {p : BeatPhase} : AllowedFrom p [] ↔ p = .off ∨ p = .on := by
  unfold AllowedFrom
  show (∃ q, some p = some q ∧ _) ↔ _
  simp

/-- What the event callbacks call. -/
theorem allowed_calls (calls : List ClientCall) {p : BeatPhase} (hp : p = .off ∨ p = .on) :
    AllowedFrom p (calls.flatMap call) := by
  induction calls generalizing p with
  | nil => exact allowed_nil.mpr hp
  | cons c calls ih =>
    have hone : (call c).foldlM BeatPhase.next p = some .off := by
      rcases hp with rfl | rfl
      · cases c <;> rfl
      · cases c <;> rfl
    rw [List.flatMap_cons, AllowedFrom.append hone]
    exact ih (.inl rfl)

/-- A HELLO starts a thread only if there is none. -/
theorem allowed_identify {c : WebsocketClient} {p : BeatPhase} {ops : List ServiceOp}
    (hp : p = .off ∧ c.heartbeat_active = false ∨ p = .on ∧ c.heartbeat_active = true) :
    AllowedFrom p (gateway_handle_identify c ++ ops) ↔ AllowedFrom .on ops := by
  rcases hp with ⟨rfl, hactive⟩ | ⟨rfl, hactive⟩
  · exact AllowedFrom.append (by rw [gateway_handle_identify, hactive]; rfl)
  · exact AllowedFrom.append (by rw [gateway_handle_identify, hactive]; rfl)

theorem closed_phases (c : WebsocketClient) {p : BeatPhase} (hp : p = .off ∨ p = .on) :
    ∃ q, (websocket_closed c).foldlM BeatPhase.next p = some q ∧
      (q = .off ∨ p = .on ∧ q = .on) := by
  unfold websocket_closed
  by_cases hagain : (c.success_login && !c.exit) = true
  · rw [if_pos hagain]
    rcases hp with rfl | rfl
    · exact ⟨.off, rfl, .inl rfl⟩
    · exact ⟨.on, rfl, .inr ⟨rfl, rfl⟩⟩
  · rw [if_neg hagain]
    refine ⟨.off, ?_, .inl rfl⟩
    cases c.success_login
    · rcases hp with rfl | rfl <;> rfl
    · rcases hp with rfl | rfl <;> rfl

theorem receive_allowed {s : GatewayThreads} {p : BeatPhase} (hp : s.InPhase p)
    (hend : p = .off ∨ p = .on) (result : Option CJson) (calls : List ClientCall) :
    AllowedFrom p (s.gateway_on_receive result calls) := by
  have hflag : p = .off ∧ s.service.client.heartbeat_active = false ∨
      p = .on ∧ s.service.client.heartbeat_active = true := by
    rcases hend with rfl | rfl
    · exact .inl ⟨rfl, hp.1⟩
    · exact .inr ⟨rfl, hp.1⟩
  unfold gateway_on_receive
  split
  · exact allowed_nil.mpr hend
  · split
    · -- the login and the sequence id are not of interest
      have hquiet : ∀ seq, [ServiceOp.success_login true, .seq seq].foldlM BeatPhase.next p =
          some p := by
        intro seq
        rcases hend with rfl | rfl <;> rfl
      exact (AllowedFrom.append (hquiet _)).mpr (allowed_calls calls hend)
    · rcases hend with rfl | rfl <;> exact ⟨.off, rfl, .inl rfl⟩
    · rw [allowed_identify hflag]
      cases hello_interval _ with
      | none => exact ⟨.on, rfl, .inr rfl⟩
      | some interval => exact ⟨.on, rfl, .inr rfl⟩
    · rcases hend with rfl | rfl <;> exact ⟨_, rfl, by decide⟩
    · rcases hend with rfl | rfl <;> exact ⟨_, rfl, by decide⟩
    · exact allowed_nil.mpr hend

/-- **Each handler** is allowed in the phase that it finds. -/
theorem handler_allowed {s : GatewayThreads} {p : BeatPhase} {e : ServiceEvent}
    (hlife : ServiceThread.LifeInv s.service) (hen : s.service.enabled e) (hp : s.InPhase p)
    (hend : p = .off ∨ p = .on) : AllowedFrom p (s.handler e) := by
  cases e with
  | established => rcases hend with rfl | rfl <;> exact ⟨_, rfl, by decide⟩
  | receive result calls => exact receive_allowed hp hend result calls
  | closed =>
    obtain ⟨q, hq, hor⟩ := closed_phases s.service.client hend
    exact ⟨q, hq, hor.imp_right And.right⟩
  | connection_error => rcases hend with rfl | rfl <;> exact ⟨_, rfl, by decide⟩
  | sigterm => exact allowed_nil.mpr hend
  | service_returns =>
    show AllowedFrom p (if _ then _ else _)
    by_cases hterm : s.service.sigterm_recv = true
    · rw [if_pos hterm]
      rcases hend with rfl | rfl <;> exact ⟨_, rfl, by decide⟩
    · rw [if_neg hterm]
      by_cases hactive : s.service.client.active = true
      · rw [if_pos hactive]
        exact allowed_nil.mpr hend
      · -- an inactive client has no heartbeat thread left
        rw [if_neg hactive]
        have hbeat : s.service.client.heartbeat_active = false := by
          rcases (hlife.in_loop hen).2 with hl | ⟨-, -, hbeat, -⟩
          · exact absurd hl.active hactive
          · exact hbeat
        rcases hend with rfl | rfl
        · exact ⟨_, rfl, by decide⟩
        · rw [hp.1] at hbeat
          cases hbeat
  | destroy =>
    have hbeat := (hlife.after_loop hen).1
    have hoff : p = .off := by
      rcases hend with rfl | rfl
      · rfl
      · rw [hp.1] at hbeat
        cases hbeat
    subst hoff
    refine AllowedFrom.cons.mpr ⟨.off, rfl, ?_⟩
    by_cases hlink : s.service.link = true
    · rw [if_pos hlink]
      obtain ⟨q, hq, hor⟩ := closed_phases s.service.client (p := .off) (.inl rfl)
      have hq' : q = .off := by simpa using hor
      rw [AllowedFrom.append hq, hq']
      exact ⟨_, rfl, by decide⟩
    · rw [if_neg hlink]
      exact ⟨_, rfl, by decide⟩

theorem mem_calls {calls : List ClientCall} {op : ServiceOp} (h : op ∈ calls.flatMap call) :
    op = .exit ∨ op = .close := by
  obtain ⟨c, -, hop⟩ := List.mem_flatMap.mp h
  cases c with
  | exit => simpa [call, websocket_exit] using hop
  | reconnect => exact .inr (by simpa [call] using hop)

/-- Only a HELLO starts a thread, and it does nothing else to the flags. -/
theorem handler_starts {s : GatewayThreads} {e : ServiceEvent} (h : Starts (s.handler e)) :
    (∃ result calls, e = .receive result calls) ∧ (∀ b, .active b ∉ s.handler e) ∧
      ∀ place, .place place ∉ s.handler e := by
  cases e with
  | established => simp [Starts, handler] at h
  | receive result calls =>
    refine ⟨⟨result, calls, rfl⟩, ?_⟩
    show (∀ b, .active b ∉ s.gateway_on_receive result calls) ∧
      ∀ place, .place place ∉ s.gateway_on_receive result calls
    unfold gateway_on_receive
    split
    · simp
    · split
      · simp only [gateway_handle_dispatch, List.mem_cons, reduceCtorEq, false_or]
        exact ⟨fun b hmem => by simpa using mem_calls hmem,
          fun place hmem => by simpa using mem_calls hmem⟩
      · simp
      · unfold gateway_handle_identify gateway_send_heartbeat
        split <;> simp
      · simp [gateway_send_heartbeat]
      · simp
      · simp
  | closed =>
    have h : Starts (websocket_closed s.service.client) := h
    unfold websocket_closed Starts at h
    split at h
    · simp at h
    · split at h <;> simp at h
  | connection_error => simp [Starts, handler] at h
  | sigterm => simp [Starts, handler] at h
  | service_returns =>
    have h : Starts (if _ then _ else _) := h
    unfold Starts at h
    split at h
    · simp [websocket_exit] at h
    · split at h <;> simp at h
  | destroy =>
    have h : Starts (_ :: ((if _ then websocket_closed _ else []) ++ _)) := h
    unfold websocket_closed Starts at h
    split at h
    · split at h
      · simp at h
      · split at h <;> simp at h
    · simp at h

/-! ### Steps of the service thread -/

section steps

variable {s s' : GatewayThreads}

/-- A phase is a matter of the flags and of which threads are alive. -/
theorem InPhase.of_alive {p : BeatPhase} (hlen : s'.threads.length = s.threads.length)
    (halive : ∀ i, s'.Alive i ↔ s.Alive i)
    (hbeat : s'.service.client.heartbeat_active = s.service.client.heartbeat_active)
    (hactive : s'.service.client.active = s.service.client.active)
    (hthread : s'.service.client.heartbeat_thread = s.service.client.heartbeat_thread)
    (h : s.InPhase p) : s'.InPhase p := by
  cases p with
  | off => exact ⟨hbeat.trans h.1, fun i hi => h.2 i ((halive i).mp hi)⟩
  | starting => exact ⟨hbeat.trans h.1, fun i hi => h.2 i ((halive i).mp hi)⟩
  | on =>
    obtain ⟨i, hi, hone⟩ := h.2.2
    exact ⟨hbeat.trans h.1, hactive.trans h.2.1, i, hthread.trans hi,
      fun j => (halive j).trans (hone j)⟩
  | dying =>
    obtain ⟨i, hi, hlt, hone⟩ := h.2
    exact ⟨hbeat.trans h.1, i, hthread.trans hi, by rw [hlen]; exact hlt,
      fun j hj => hone j ((halive j).mp hj)⟩
  | closing =>
    obtain ⟨i, hi, hlt, hone⟩ := h.2
    exact ⟨hbeat.trans h.1, i, hthread.trans hi, by rw [hlen]; exact hlt,
      fun j hj => hone j ((halive j).mp hj)⟩

theorem InPhase.congr {p : BeatPhase} (hthreads : s'.threads = s.threads)
    (hbeat : s'.service.client.heartbeat_active = s.service.client.heartbeat_active)
    (hactive : s'.service.client.active = s.service.client.active)
    (hthread : s'.service.client.heartbeat_thread = s.service.client.heartbeat_thread)
    (h : s.InPhase p) : s'.InPhase p := by
  have halive : ∀ i, s'.Alive i ↔ s.Alive i := fun i => by rw [Alive, Alive, hthreads]
  exact h.of_alive (congrArg List.length hthreads) halive hbeat hactive hthread

/-- An interrupted sleep goes on or ends, but the thread does not. -/
theorem alive_interrupted {i : Nat} {t wake : Nat} (hpc : s.threads[i]? = some (.sleep t wake))
    (hthreads : s'.threads = s.threads.set i (.sleep t (min wake s.clock))) (j : Nat) :
    s'.Alive j ↔ s.Alive j := by
  unfold Alive
  rw [hthreads]
  by_cases hij : i = j
  · subst hij
    rw [List.getElem?_set_self (List.getElem?_eq_some_iff.mp hpc).1, hpc]
    exact iff_of_true ⟨_, rfl, nofun⟩ ⟨_, rfl, nofun⟩
  · rw [List.getElem?_set_ne hij]

/-- A thread that is the only one alive is not, once it has ended. -/
theorem none_alive {i : Nat} (hone : ∀ j, s.Alive j → j = i)
    (hended : s.threads[i]? = some .ended) : ∀ j, ¬ s.Alive j := by
  intro j hj
  obtain ⟨pc, hpc, hne⟩ := hj
  obtain rfl := hone j ⟨pc, hpc, hne⟩
  rw [hended] at hpc
  exact hne (Option.some.inj hpc).symm

/-- The created thread is the only one. -/
theorem alive_create (hnone : ∀ i, ¬ s.Alive i)
    (hthreads : s'.threads = s.threads ++ [.test_active 0]) (j : Nat) :
    s'.Alive j ↔ j = s.threads.length := by
  unfold Alive
  rw [hthreads]
  constructor
  · intro ⟨pc, hpc, hne⟩
    by_contra hj
    -- an older thread has ended
    have hlt : j < s.threads.length := by
      have hlen := (List.getElem?_eq_some_iff.mp hpc).1
      rw [List.length_append, List.length_singleton] at hlen
      omega
    rw [List.getElem?_append_left hlt] at hpc
    exact hnone j ⟨pc, hpc, hne⟩
  · rintro rfl
    exact ⟨.test_active 0, by simp, by simp⟩

theorem next_quiet {p q : BeatPhase} {op : ServiceOp} (hop : op.quiet = true)
    (hq : p.next op = some q) : q = p := by
  cases op with
  | active | heartbeat_active | connect | close | create | join | place => cases hop
  | _ => cases p <;> first | exact (Option.some.inj hq).symm | cases hq

theorem service_step_cons {op : ServiceOp} {ops : List ServiceOp} (htodo : s.todo = op :: ops)
    (hclose : op ≠ .close) (hjoin : op ≠ .join) (hs : s.service_step = some s') :
    ∃ service, op.run s.service = some service ∧
      s' = { s.share op with service, todo := ops } := by
  unfold service_step at hs
  rw [htodo] at hs
  split at hs
  · next heq => cases heq
  · next heq => exact absurd (List.cons.inj heq).1 hclose
  · next heq => exact absurd (List.cons.inj heq).1 hjoin
  · next heq =>
    obtain ⟨rfl, rfl⟩ := List.cons.inj heq
    obtain ⟨service, hservice, hs'⟩ := Option.map_eq_some_iff.mp hs
    exact ⟨service, hservice, hs'.symm⟩

theorem run_quiet {a a' : ServiceThread} {op : ServiceOp} (hop : op.quiet = true)
    (hrun : op.run a = some a') :
    a'.client.heartbeat_active = a.client.heartbeat_active ∧ a'.client.active = a.client.active ∧
      a'.client.heartbeat_thread = a.client.heartbeat_thread ∧ a'.threads = a.threads ∧
      a'.place = a.place := by
  cases op with
  | active | heartbeat_active | connect | close | create | join | place => cases hop
  | _ =>
    obtain rfl := Option.some.inj hrun
    exact ⟨rfl, rfl, rfl, rfl, rfl⟩

/-- `websocket_close`, with a thread or without. -/
theorem start_close_phase {p q : BeatPhase} {ops : List ServiceOp} (hp : s.InPhase p)
    (hq : p.next .close = some q) (hrest : AllowedFrom q ops) :
    ∃ p', (s.start_close ops).InPhase p' ∧ AllowedFrom p' (s.start_close ops).todo ∧
      (p = .off → p' = .off) := by
  unfold start_close
  cases p with
  | off =>
    rw [if_neg (by rw [hp.1]; simp)]
    obtain rfl : BeatPhase.off = q := Option.some.inj hq
    exact ⟨.off, hp, hrest, fun _ => rfl⟩
  | on =>
    rw [if_pos hp.1]
    obtain rfl : BeatPhase.off = q := Option.some.inj hq
    obtain ⟨i, hi, hone⟩ := hp.2.2
    obtain ⟨pc, hpc, -⟩ := (hone i).mpr rfl
    refine ⟨.closing, ⟨rfl, i, hi, (List.getElem?_eq_some_iff.mp hpc).1,
      fun j hj => (hone j).mp hj⟩, AllowedFrom.cons.mpr ⟨.off, rfl, hrest⟩, nofun⟩
  | dying =>
    rw [if_pos hp.1]
    obtain rfl : BeatPhase.off = q := Option.some.inj hq
    obtain ⟨i, hi, hlt, hone⟩ := hp.2
    exact ⟨.closing, ⟨rfl, i, hi, hlt, hone⟩, AllowedFrom.cons.mpr ⟨.off, rfl, hrest⟩, nofun⟩
  | starting => cases hq
  | closing => cases hq

theorem join_eq {ops : List ServiceOp} (htodo : s.todo = .join :: ops)
    (hs : s.service_step = some s') :
    s.joined = some .ended ∧ ∃ service, s.service.pthread_join = some service ∧
      s' = { s with service, todo := ops } := by
  unfold service_step at hs
  rw [htodo] at hs
  by_cases hjoined : s.joined = some .ended
  · simp only [hjoined, if_true] at hs
    obtain ⟨service, hservice, hs'⟩ := Option.map_eq_some_iff.mp hs
    exact ⟨hjoined, service, hservice, hs'.symm⟩
  · simp only [hjoined, if_false] at hs
    cases hs

theorem pthread_join_fields {a a' : ServiceThread} (h : a.pthread_join = some a') :
    a'.client = a.client ∧ a'.threads = a.threads ∧ a'.place = a.place := by
  obtain ⟨thread, -, hact⟩ := Option.bind_eq_some_iff.mp h
  by_cases hmem : thread ∈ unjoined a.log
  · rw [if_pos hmem] at hact
    rw [← Option.some.inj hact]
    exact ⟨rfl, rfl, rfl⟩
  · rw [if_neg hmem] at hact
    cases hact

/-- `pthread_join` returns once the thread has ended. -/
theorem join_phase {p q : BeatPhase} {service : ServiceThread} {ops : List ServiceOp}
    (hp : s.InPhase p) (hq : p.next .join = some q) (hjoined : s.joined = some .ended)
    (hrun : s.service.pthread_join = some service) :
    { s with service, todo := ops }.InPhase q ∧ q = .off := by
  cases p with
  | closing =>
    obtain rfl : BeatPhase.off = q := Option.some.inj hq
    obtain ⟨i, hi, -, hone⟩ := hp.2
    have hended : s.threads[i]? = some .ended := by
      rw [joined, hi] at hjoined
      exact hjoined
    obtain ⟨hclient, -⟩ := pthread_join_fields hrun
    refine ⟨⟨?_, none_alive hone hended⟩, rfl⟩
    show service.client.heartbeat_active = false
    rw [hclient]
    exact hp.1
  | off | starting | on | dying => cases hq

/-- The phase after any other access. -/
theorem access_phase {p q : BeatPhase} {op : ServiceOp} {service : ServiceThread}
    {ops : List ServiceOp} (hp : s.InPhase p) (hq : p.next op = some q)
    (hclose : op ≠ .close) (hjoin : op ≠ .join) (hrun : op.run s.service = some service)
    (hcount : s.threads.length = s.service.threads)
    (hactive : op = .create → s.service.client.active = true) :
    { s.share op with service, todo := ops }.InPhase q := by
  cases op with
  | close => exact absurd rfl hclose
  | join => exact absurd rfl hjoin
  | create =>
    obtain rfl := Option.some.inj hrun
    cases p with
    | starting =>
      obtain rfl : BeatPhase.on = q := Option.some.inj hq
      refine ⟨hp.1, hactive rfl, s.service.threads, rfl, fun j => ?_⟩
      rw [← hcount]
      exact alive_create hp.2 rfl j
    | off | on | dying | closing => cases hq
  | active b =>
    obtain rfl := Option.some.inj hrun
    cases p with
    | off =>
      obtain rfl : BeatPhase.off = q := Option.some.inj hq
      exact hp
    | on =>
      obtain ⟨i, hi, hone⟩ := hp.2.2
      cases b with
      | true =>
        obtain rfl : BeatPhase.on = q := Option.some.inj hq
        exact ⟨hp.1, rfl, i, hi, hone⟩
      | false =>
        -- from now on the thread may end by itself
        obtain rfl : BeatPhase.dying = q := Option.some.inj hq
        obtain ⟨pc, hpc, -⟩ := (hone i).mpr rfl
        exact ⟨hp.1, i, hi, (List.getElem?_eq_some_iff.mp hpc).1, fun j hj => (hone j).mp hj⟩
    | starting | dying | closing => cases hq
  | heartbeat_active b =>
    obtain rfl := Option.some.inj hrun
    cases p with
    | off =>
      cases b with
      | true =>
        obtain rfl : BeatPhase.starting = q := Option.some.inj hq
        exact ⟨rfl, hp.2⟩
      | false =>
        obtain rfl : BeatPhase.off = q := Option.some.inj hq
        exact ⟨rfl, hp.2⟩
    | starting | on | dying | closing => cases hq
  | connect =>
    obtain rfl := Option.some.inj hrun
    cases p with
    | off =>
      obtain rfl : BeatPhase.off = q := Option.some.inj hq
      exact hp
    | on =>
      obtain rfl : BeatPhase.on = q := Option.some.inj hq
      exact ⟨hp.1, rfl, hp.2.2⟩
    | starting | dying | closing => cases hq
  | place _ =>
    obtain rfl := Option.some.inj hrun
    cases p with
    | off =>
      obtain rfl : BeatPhase.off = q := Option.some.inj hq
      exact hp
    | starting | on | dying | closing => cases hq
  | _ =>
    obtain ⟨hbeat, hact, hthread, -⟩ := run_quiet rfl hrun
    obtain rfl := next_quiet rfl hq
    exact @InPhase.congr s _ _ rfl hbeat hact hthread hp

theorem run_count {op : ServiceOp} {service : ServiceThread} (hclose : op ≠ .close)
    (hjoin : op ≠ .join) (hrun : op.run s.service = some service) :
    (s.share op).threads.length + s.service.threads = s.threads.length + service.threads := by
  cases op with
  | close => exact absurd rfl hclose
  | join => exact absurd rfl hjoin
  | create =>
    obtain rfl := Option.some.inj hrun
    show (s.threads ++ [_]).length + _ = _ + (s.service.threads + 1)
    rw [List.length_append, List.length_singleton]
    omega
  | _ =>
    obtain rfl := Option.some.inj hrun
    rfl

/-- What an access that is none to `active` leaves of it. -/
theorem run_active {op : ServiceOp} {a a' : ServiceThread} (hclose : op ≠ .close)
    (hjoin : op ≠ .join) (hop : ∀ b, op ≠ .active b) (hrun : op.run a = some a')
    (hactive : a.client.active = true) : a'.client.active = true := by
  cases op with
  | close => exact absurd rfl hclose
  | join => exact absurd rfl hjoin
  | active b => exact absurd rfl (hop b)
  | connect =>
    obtain rfl := Option.some.inj hrun
    rfl
  | _ =>
    obtain rfl := Option.some.inj hrun
    exact hactive

theorem run_place {op : ServiceOp} {a a' : ServiceThread} (hclose : op ≠ .close)
    (hjoin : op ≠ .join) (hop : ∀ place, op ≠ .place place) (hrun : op.run a = some a') :
    a'.place = a.place := by
  cases op with
  | close => exact absurd rfl hclose
  | join => exact absurd rfl hjoin
  | place place => exact absurd rfl (hop place)
  | _ =>
    obtain rfl := Option.some.inj hrun
    rfl

theorem next_place {p q : BeatPhase} {place : ServicePlace} (hq : p.next (.place place) = some q) :
    q = .off := by
  cases p with
  | off => exact (Option.some.inj hq).symm
  | starting | on | dying | closing => cases hq

/-- Once the event loop has been left, nothing starts a thread. -/
theorem next_off {q : BeatPhase} {op : ServiceOp} (hop : op ≠ .heartbeat_active true)
    (hq : BeatPhase.off.next op = some q) : q = .off := by
  cases op with
  | heartbeat_active b =>
    cases b with
    | true => exact absurd rfl hop
    | false => exact (Option.some.inj hq).symm
  | create | join => cases hq
  | _ => exact (Option.some.inj hq).symm

theorem Starts.tail {op : ServiceOp} {ops : List ServiceOp} (h : Starts ops) :
    Starts (op :: ops) :=
  h.imp (List.mem_cons_of_mem op) (List.mem_cons_of_mem op)

/-- A thread that moves on is alive. It ends only on a flag that is cleared. -/
theorem heartbeat_step_alive {i : Nat} (hs : s.heartbeat_step i = some s') :
    s.Alive i ∧ ∃ pc, s'.threads = s.threads.set i pc ∧
      (pc = .ended → s.service.client.active = false ∨
        s.service.client.heartbeat_active = false) := by
  unfold GatewayThreads.heartbeat_step at hs
  split at hs
  · cases hs
  · next t hpc =>
    obtain rfl := Option.some.inj hs
    refine ⟨⟨_, hpc, by simp⟩, _, rfl, fun hend => .inl ?_⟩
    by_contra hactive
    rw [if_pos (by simpa using hactive)] at hend
    cases hend
  · next t hpc =>
    obtain rfl := Option.some.inj hs
    refine ⟨⟨_, hpc, by simp⟩, _, rfl, fun hend => .inr ?_⟩
    by_contra hactive
    rw [if_pos (by simpa using hactive)] at hend
    cases hend
  · next t hpc =>
    obtain rfl := Option.some.inj hs
    refine ⟨⟨_, hpc, by simp⟩, _, rfl, fun hend => ?_⟩
    split at hend <;> cases hend
  · next hpc =>
    obtain rfl := Option.some.inj hs
    exact ⟨⟨_, hpc, by simp⟩, _, rfl, nofun⟩
  · next hpc =>
    obtain rfl := Option.some.inj hs
    exact ⟨⟨_, hpc, by simp⟩, _, rfl, nofun⟩
  · next hpc =>
    obtain rfl := Option.some.inj hs
    exact ⟨⟨_, hpc, by simp⟩, _, rfl, nofun⟩
  · next hpc =>
    obtain rfl := Option.some.inj hs
    exact ⟨⟨_, hpc, by simp⟩, _, rfl, nofun⟩
  · next hpc =>
    split at hs
    · obtain rfl := Option.some.inj hs
      exact ⟨⟨_, hpc, by simp⟩, _, rfl, nofun⟩
    · cases hs
  · cases hs

namespace ThreadsInv

/-- What `starts` says of the rest. -/
theorem starts_tail (h : ThreadsInv s) {op : ServiceOp} {ops : List ServiceOp}
    (htodo : s.todo = op :: ops) (hstarts : Starts ops) :
    s.service.client.active = true ∧ s.service.place = .event_loop ∧
      (∀ b, .active b ≠ op ∧ .active b ∉ ops) ∧
      ∀ place, .place place ≠ op ∧ .place place ∉ ops := by
  obtain ⟨hactive, hplace, hno, hstay⟩ := h.starts (by rw [htodo]; exact hstarts.tail)
  rw [htodo] at hno hstay
  simp only [List.mem_cons, not_or] at hno hstay
  exact ⟨hactive, hplace, hno, hstay⟩

theorem closing (h : ThreadsInv s) {p : BeatPhase} {ops : List ServiceOp}
    (htodo : s.todo = .close :: ops) (hp : (s.start_close ops).InPhase p)
    (hrest : AllowedFrom p (s.start_close ops).todo)
    (hoff : s.service.place ≠ .event_loop → p = .off) : ThreadsInv (s.start_close ops) := by
  have hstarts : Starts (s.start_close ops).todo → Starts ops := by
    unfold start_close
    split
    · simp [Starts]
    · exact id
  have hmem : ∀ op, op ∈ (s.start_close ops).todo → op = .join ∨ op ∈ ops := by
    unfold start_close
    split
    · exact fun op hop => List.mem_cons.mp hop
    · exact fun op hop => .inr hop
  refine ⟨?_, fun hs => ?_, p, hp, hrest, fun hplace => hoff ?_⟩
  · unfold start_close
    split
    · exact h.count
    · exact h.count
  · obtain ⟨hactive, hloop, hno, hstay⟩ := h.starts_tail htodo (hstarts hs)
    refine ⟨?_, ?_, fun b hb => ?_, fun pl hpl => ?_⟩
    · unfold start_close
      split
      · exact hactive
      · exact hactive
    · unfold start_close
      split
      · exact hloop
      · exact hloop
    · rcases hmem _ hb with heq | hb
      · cases heq
      · exact (hno b).2 hb
    · rcases hmem _ hpl with heq | hpl
      · cases heq
      · exact (hstay pl).2 hpl
  · unfold start_close at hplace
    split at hplace
    · exact hplace
    · exact hplace

/-- **Step lemma** for the service thread. -/
theorem service_step (h : ThreadsInv s) (hs : s.service_step = some s') : ThreadsInv s' := by
  obtain ⟨p, hp, hallowed, hleft⟩ := h.phase
  cases htodo : s.todo with
  | nil =>
    unfold GatewayThreads.service_step at hs
    rw [htodo] at hs
    cases hs
  | cons op ops =>
    rw [htodo] at hallowed
    obtain ⟨q, hq, hrest⟩ := AllowedFrom.cons.mp hallowed
    by_cases hclose : op = .close
    · subst hclose
      obtain rfl : s.start_close ops = s' := by
        unfold GatewayThreads.service_step at hs
        rw [htodo] at hs
        exact Option.some.inj hs
      obtain ⟨p', hp', hrest', hoff⟩ := start_close_phase hp hq hrest
      exact h.closing htodo hp' hrest' fun hplace => hoff (hleft hplace)
    · by_cases hjoin : op = .join
      · subst hjoin
        obtain ⟨hjoined, service, hrun, rfl⟩ := join_eq htodo hs
        obtain ⟨hclient, hthreads, hplace⟩ := pthread_join_fields hrun
        obtain ⟨hq', hoff⟩ := join_phase hp hq hjoined hrun
        refine ⟨?_, fun hstarts => ?_, q, hq', hrest, fun _ => hoff⟩
        · show s.threads.length = service.threads
          rw [hthreads]
          exact h.count
        · obtain ⟨hactive, hloop, hno, hstay⟩ := h.starts_tail htodo hstarts
          exact ⟨hclient ▸ hactive, hplace.trans hloop, fun b => (hno b).2, fun pl => (hstay pl).2⟩
      · obtain ⟨service, hrun, rfl⟩ := service_step_cons htodo hclose hjoin hs
        refine ⟨?_, fun hstarts => ?_, q, ?_, hrest, fun hplace => ?_⟩
        · have hlen := run_count hclose hjoin hrun
          have hcount := h.count
          show (s.share op).threads.length = service.threads
          omega
        · obtain ⟨hactive, hloop, hno, hstay⟩ := h.starts_tail htodo hstarts
          have hactive' := run_active hclose hjoin (fun b heq => (hno b).1 heq.symm) hrun hactive
          have hsame := run_place hclose hjoin (fun pl heq => (hstay pl).1 heq.symm) hrun
          exact ⟨hactive', hsame.trans hloop, fun b => (hno b).2, fun pl => (hstay pl).2⟩
        · refine access_phase hp hq hclose hjoin hrun h.count fun hcreate => (h.starts ?_).1
          rw [htodo, hcreate]
          exact .inr List.mem_cons_self
        · -- the loop is left without a thread, and after that none is started
          by_cases hpl : ∃ pl, op = .place pl
          · obtain ⟨pl, rfl⟩ := hpl
            exact next_place hq
          · have hsame := run_place hclose hjoin (fun pl heq => hpl ⟨pl, heq⟩) hrun
            have hout : s.service.place ≠ .event_loop := fun hin => hplace (hsame.trans hin)
            have hp' := hleft hout
            subst hp'
            refine next_off (fun hop => hout (h.starts ?_).2.1) hq
            rw [htodo, hop]
            exact .inl List.mem_cons_self

/-- **Step lemma** for a heartbeat thread. -/
theorem heartbeat_step (h : ThreadsInv s) {i : Nat} (hs : s.heartbeat_step i = some s') :
    ThreadsInv s' := by
  obtain ⟨hservice, htodo, -⟩ := heartbeat_step_service hs
  obtain ⟨hi, pc, hthreads, hended⟩ := heartbeat_step_alive hs
  obtain ⟨p, hp, hallowed, hleft⟩ := h.phase
  refine ⟨?_, ?_, p, ?_, by rwa [htodo], by rwa [hservice]⟩
  · rw [hthreads, List.length_set, hservice]
    exact h.count
  · rw [htodo, hservice]
    exact h.starts
  · have halive : ∀ j, s'.Alive j → s.Alive j := by
      intro j ⟨pc', hpc', hne⟩
      by_cases hj : i = j
      · exact hj ▸ hi
      · rw [hthreads, List.getElem?_set_ne hj] at hpc'
        exact ⟨pc', hpc', hne⟩
    have hlen : s'.threads.length = s.threads.length := by rw [hthreads, List.length_set]
    -- a thread can move on only in the phases that have one
    cases p with
    | off => exact absurd hi (hp.2 i)
    | starting => exact absurd hi (hp.2 i)
    | on =>
      obtain ⟨thread, hthread, hone⟩ := hp.2.2
      have hcur : i = thread := (hone i).mp hi
      subst hcur
      refine ⟨by rw [hservice]; exact hp.1, by rw [hservice]; exact hp.2.1, i,
        by rw [hservice]; exact hthread, fun j => ⟨fun hj => (hone j).mp (halive j hj), ?_⟩⟩
      rintro rfl
      refine ⟨pc, ?_, fun hend => ?_⟩
      · obtain ⟨_, hget, -⟩ := hi
        rw [hthreads, List.getElem?_set_self (List.getElem?_eq_some_iff.mp hget).1]
      · rcases hended hend with hno | hno
        · rw [hp.2.1] at hno
          cases hno
        · rw [hp.1] at hno
          cases hno
    | dying =>
      obtain ⟨thread, hthread, hlt, hone⟩ := hp.2
      exact ⟨by rw [hservice]; exact hp.1, thread, by rw [hservice]; exact hthread,
        by rw [hlen]; exact hlt, fun j hj => hone j (halive j hj)⟩
    | closing =>
      obtain ⟨thread, hthread, hlt, hone⟩ := hp.2
      exact ⟨by rw [hservice]; exact hp.1, thread, by rw [hservice]; exact hthread,
        by rw [hlen]; exact hlt, fun j hj => hone j (halive j hj)⟩

/-- Between handlers there is a thread, or none. -/
theorem between (h : ThreadsInv s) (htodo : s.todo = []) :
    ∃ p, s.InPhase p ∧ (p = .off ∨ p = .on) ∧ (s.service.place ≠ .event_loop → p = .off) := by
  obtain ⟨p, hp, hallowed, hleft⟩ := h.phase
  rw [htodo] at hallowed
  exact ⟨p, hp, allowed_nil.mp hallowed, hleft⟩

/-- **Step lemma** for an event. -/
theorem event_step (h : ThreadsInv s) {e : ServiceEvent}
    (hlife : s.todo = [] → ServiceThread.LifeInv s.service) (hs : s.event_step e = some s') :
    ThreadsInv s' := by
  by_cases he : e = .sigterm
  · subst he
    obtain rfl := Option.some.inj hs
    obtain ⟨p, hp, hallowed, hleft⟩ := h.phase
    exact ⟨h.count, h.starts, p, @InPhase.congr s _ _ rfl rfl rfl rfl hp, hallowed, hleft⟩
  · obtain ⟨htodo, hen, rfl⟩ := event_step_eq he hs
    obtain ⟨p, hp, hend, hleft⟩ := h.between htodo
    refine ⟨h.count, fun hstarts => ?_, p, @InPhase.congr s _ _ rfl rfl rfl rfl hp,
      handler_allowed (hlife htodo) hen hp hend, hleft⟩
    obtain ⟨⟨result, calls, rfl⟩, hno, hstay⟩ := handler_starts hstarts
    -- a payload comes over a connection, on which the client is active
    exact ⟨((hlife htodo).linked hen.1 hen.2).active, hen.1, hno, hstay⟩

/-- **Step lemma** for a sleep that is interrupted. -/
theorem interrupt_step (h : ThreadsInv s) {i : Nat} (hs : s.interrupt_step i = some s') :
    ThreadsInv s' := by
  obtain ⟨t, wake, hpc, rfl⟩ := interrupt_step_eq hs
  obtain ⟨p, hp, hallowed, hleft⟩ := h.phase
  have hlen : (s.threads.set i (.sleep t (min wake s.clock))).length = s.threads.length :=
    List.length_set
  refine ⟨hlen.trans h.count, h.starts, p, ?_, hallowed, hleft⟩
  exact @InPhase.of_alive s _ _ hlen (alive_interrupted hpc rfl) rfl rfl rfl hp

end ThreadsInv

end steps

/-! ### Every interleaving -/

/-- **Run lemma**: the invariant of the threads holds in every interleaving. -/
theorem reachable_threads {clock : Nat} {s : GatewayThreads}
    (h : (gateway_threads clock).Reachable s) : ThreadsInv s := by
  refine System.Reachable.invariant (I := ThreadsInv) ?_ ?_ h
  · intro s hs
    obtain rfl : s = start clock := hs
    refine ⟨rfl, by simp [Starts, start], .off, ⟨rfl, ?_⟩, allowed_nil.mpr (.inl rfl), fun _ => rfl⟩
    rintro i ⟨pc, hpc, -⟩
    simp [start] at hpc
  · intro s l s' hreach ih hstep
    have hexec : s.exec l = some s' := hstep
    cases l with
    | event e =>
      refine ih.event_step (fun htodo => ?_) hexec
      -- a handler that is through leaves the service thread as it is alone
      obtain ⟨a, ha, hcomplete⟩ := reachable_completes hreach
      unfold completion at hcomplete
      rw [htodo] at hcomplete
      rw [Option.some.inj hcomplete]
      exact ServiceThread.reachable_lifeInv ha
    | interrupt i => exact ih.interrupt_step hexec
    | service => exact ih.service_step hexec
    | heartbeat i => exact ih.heartbeat_step hexec
    | tick clock =>
      obtain ⟨-, rfl⟩ := tick_eq hexec
      obtain ⟨p, hp, hallowed, hleft⟩ := ih.phase
      exact ⟨ih.count, ih.starts, p, @InPhase.congr s _ _ rfl rfl rfl rfl hp, hallowed, hleft⟩

/-- The service thread and its heartbeat threads get along. -/
structure HeartbeatOk (s : GatewayThreads) : Prop where
  /-- The handler that runs leads to a state of the service thread alone. -/
  completes : ∃ a, ServiceThread.service_system.Reachable a ∧ s.completion = some a
  /-- One heartbeat thread runs, or none: the one that would be joined. -/
  current : ∀ i, s.Alive i → s.service.client.heartbeat_thread = some i
  /-- Between handlers, one runs exactly when the flag is set. -/
  between : s.todo = [] → ((∃ i, s.Alive i) ↔ s.service.client.heartbeat_active = true)
  /-- None runs once the event loop has been left. -/
  left : s.service.place ≠ .event_loop → ∀ i, ¬ s.Alive i

/-- **One heartbeat at most**, in every interleaving of the service thread with
    its heartbeat threads. -/
theorem heartbeat_ok {clock : Nat} {s : GatewayThreads}
    (h : (gateway_threads clock).Reachable s) : HeartbeatOk s := by
  have hinv := reachable_threads h
  refine ⟨reachable_completes h, fun i hi => ?_, fun htodo => ?_, fun hplace => ?_⟩
  · obtain ⟨p, hp, -⟩ := hinv.phase
    cases p with
    | off => exact absurd hi (hp.2 i)
    | starting => exact absurd hi (hp.2 i)
    | on =>
      obtain ⟨thread, hthread, hone⟩ := hp.2.2
      rw [hthread, (hone i).mp hi]
    | dying =>
      obtain ⟨thread, hthread, -, hone⟩ := hp.2
      rw [hthread, hone i hi]
    | closing =>
      obtain ⟨thread, hthread, -, hone⟩ := hp.2
      rw [hthread, hone i hi]
  · obtain ⟨p, hp, hend, -⟩ := hinv.between htodo
    rcases hend with rfl | rfl
    · exact iff_of_false (fun ⟨i, hi⟩ => hp.2 i hi) (by rw [hp.1]; simp)
    · obtain ⟨thread, -, hone⟩ := hp.2.2
      exact iff_of_true ⟨thread, (hone thread).mpr rfl⟩ hp.1
  · obtain ⟨p, hp, -, hleft⟩ := hinv.phase
    obtain rfl := hleft hplace
    exact hp.2

/-- A HELLO, one round of the heartbeat thread, and an INVALID_SESSION whose
    handler waits for the thread. -/
def hello_and_invalid : List GatewayLabel :=
  [.event (.receive (some (.object [("op", .number 10)])) []), .service, .service, .service,
    .service, .heartbeat 0, .heartbeat 0, .heartbeat 0,
    .event (.receive (some (.object [("op", .number 9)])) []), .service, .service]

theorem heartbeat_ok_invalid : ∃ s, s.todo = [.join] ∧ s.threads = [.sleep 1 10000] ∧
    HeartbeatOk s := by
  obtain ⟨s, hs, htodo, hthreads⟩ : ∃ s : GatewayThreads,
      hello_and_invalid.foldlM exec (start 0) = some s ∧ s.todo = [.join] ∧
      s.threads = [.sleep 1 10000] := ⟨_, rfl, rfl, rfl⟩
  exact ⟨s, htodo, hthreads, heartbeat_ok ⟨_, System.run_ofFn_iff.mpr hs⟩⟩

end GatewayThreads

end DiscoC
