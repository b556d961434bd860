import Mathlib.Algebra.Ring.Nat
import DiscoC.Framework.Fairness
import DiscoC.Web.HeartbeatLife

/-! # Every handler returns

  A handler that closes the connection waits for the heartbeat thread. With
  the flag cleared, the thread is a bounded number of steps away from its end,
  one of them the end of a sleep. So no handler waits for ever, provided that
  each thread gets its turn and the time passes (`handlers_return`).
-/

namespace DiscoC

/-! ### How far there is to go -/

/-- The steps that are left to a heartbeat thread, once its flag is cleared. -/
def HeartbeatPc.left (clock : Nat) : HeartbeatPc → Nat
  | .ended => 0
  | .test_heartbeat_active _ => 1
  | .test_active _ => 2
  | .sleep _ wake => if wake ≤ clock then 3 else 4
  | .stamp => 5
  | .send _ _ => 6
  | .print _ _ => 7
  | .test_seq _ => 8
  | .compare _ => 9

/-- The weight of an access: a close may have to wait. -/
def ServiceOp.weight : ServiceOp → Nat
  | .close => 22
  | .join => 11
  | _ => 1

namespace GatewayThreads

/-- What the join is still waiting for. -/
def waits_for (s : GatewayThreads) : Nat :=
  if s.todo.head? = some .join then (s.joined.map (HeartbeatPc.left s.clock)).getD 0 else 0

/-- What is left of the handler. -/
def rank (s : GatewayThreads) : Nat := (s.todo.map ServiceOp.weight).sum + s.waits_for

/-- Who can move on. -/
inductive Helper where
  | service
  | heartbeat (i : Nat)
  /-- The clock has to reach `t`. -/
  | time (t : Nat)
  deriving DecidableEq

/-- The steps of a helper. -/
def Helper.steps : Helper → GatewayThreads → GatewayLabel → GatewayThreads → Prop
  | .service, _, l, _ => l = .service
  | .heartbeat i, _, l, _ => l = .heartbeat i
  | .time t, _, _, s' => t ≤ s'.clock

/-- Who helps the thread `i` at `pc` to its end. -/
def helper_of (clock i : Nat) : HeartbeatPc → Helper
  | .ended => .service
  | .sleep _ wake => if wake ≤ clock then .heartbeat i else .time wake
  | _ => .heartbeat i

/-- Who helps the handler on. -/
def helpful (s : GatewayThreads) : Helper :=
  if s.todo.head? = some .join then
    match s.service.client.heartbeat_thread, s.joined with
    | some i, some pc => helper_of s.clock i pc
    | _, _ => .service
  else .service

/-- Each thread gets its turn, and the time passes. -/
structure Fairly {clock : Nat} (e : (gateway_threads clock).Execution) : Prop where
  service : e.Fair Helper.service.steps
  heartbeat : ∀ i, e.Fair (Helper.heartbeat i).steps
  time : ∀ t, ∃ k, t ≤ (e.state k).clock

/-! ### The clock -/

theorem service_step_clock {s s' : GatewayThreads} (h : s.service_step = some s') :
    s'.clock = s.clock := by
  cases htodo : s.todo with
  | nil =>
    unfold service_step at h
    rw [htodo] at h
    cases h
  | cons op ops =>
    by_cases hclose : op = .close
    · subst hclose
      unfold service_step at h
      rw [htodo] at h
      obtain rfl := Option.some.inj h
      unfold start_close
      split
      · rfl
      · rfl
    · by_cases hjoin : op = .join
      · subst hjoin
        obtain ⟨-, service, -, rfl⟩ := join_eq htodo h
        rfl
      · obtain ⟨service, -, rfl⟩ := service_step_cons htodo hclose hjoin h
        cases op <;> rfl

theorem event_step_clock {s s' : GatewayThreads} {e : ServiceEvent}
    (h : s.event_step e = some s') : s'.clock = s.clock := by
  by_cases he : e = .sigterm
  · subst he
    obtain rfl := Option.some.inj h
    rfl
  · obtain ⟨-, -, rfl⟩ := event_step_eq he h
    rfl

/-- The clock does not go back. -/
theorem exec_clock {s s' : GatewayThreads} {l : GatewayLabel} (h : s.exec l = some s') :
    s.clock ≤ s'.clock := by
  cases l with
  | event e => exact (event_step_clock h).ge
  | interrupt i =>
    obtain ⟨t, wake, -, rfl⟩ := interrupt_step_eq h
    exact Nat.le_refl s.clock
  | service => exact (service_step_clock h).ge
  | heartbeat i =>
    obtain ⟨-, -, -, -, hclock, -⟩ := heartbeat_step_service h
    exact hclock.ge
  | tick c =>
    obtain ⟨hle, rfl⟩ := tick_eq h
    exact hle

theorem clock_mono {clock : Nat} (e : (gateway_threads clock).Execution) {k m : Nat} (h : k ≤ m) :
    (e.state k).clock ≤ (e.state m).clock := by
  induction m, h using Nat.le_induction with
  | base => exact le_rfl
  | succ m _ ih => exact ih.trans (exec_clock (e.step m))

/-- All helpers help in the end. -/
theorem Fairly.helps {clock : Nat} {e : (gateway_threads clock).Execution} (h : Fairly e)
    (helper : Helper) : e.Fair helper.steps := by
  cases helper with
  | service => exact h.service
  | heartbeat i => exact h.heartbeat i
  | time t =>
    intro k _
    obtain ⟨j, hj⟩ := h.time t
    exact ⟨max k j, le_max_left k j, hj.trans (clock_mono e (by omega))⟩

/-! ### Waiting for the thread -/

section waiting

variable {s s' : GatewayThreads}

/-- The handler waits for the one thread that may be alive. -/
theorem ThreadsInv.waiting (h : ThreadsInv s) {ops : List ServiceOp}
    (htodo : s.todo = .join :: ops) :
    s.service.client.heartbeat_active = false ∧ ∃ i pc, s.service.client.heartbeat_thread = some i ∧
      s.threads[i]? = some pc ∧ s.joined = some pc ∧ ∀ j, s.Alive j → j = i := by
  obtain ⟨p, hp, hallowed, -⟩ := h.phase
  rw [htodo] at hallowed
  obtain ⟨q, hq, -⟩ := AllowedFrom.cons.mp hallowed
  cases p with
  | closing =>
    obtain ⟨hbeat, i, hi, hlt, hone⟩ := hp
    refine ⟨hbeat, i, s.threads[i], hi, List.getElem?_eq_getElem hlt, ?_, hone⟩
    rw [joined, hi]
    exact List.getElem?_eq_getElem hlt
  | off | starting | on | dying => cases hq

theorem next_ne_closing {p q : BeatPhase} {op : ServiceOp} (hq : p.next op = some q) :
    q ≠ .closing := by
  rintro rfl
  cases p with
  | off =>
    cases op with
    | heartbeat_active b => cases b <;> cases hq
    | _ => cases hq
  | on =>
    cases op with
    | active b => cases b <;> cases hq
    | _ => cases hq
  | starting | dying | closing => cases op <;> cases hq

/-- Nothing but a close leads to a join. -/
theorem head_ne_join {q : BeatPhase} {ops : List ServiceOp} (hq : q ≠ .closing)
    (hallowed : AllowedFrom q ops) : ops.head? ≠ some .join := by
  cases ops with
  | nil => simp
  | cons op ops =>
    intro hop
    obtain rfl : op = .join := Option.some.inj hop
    obtain ⟨r, hr, -⟩ := AllowedFrom.cons.mp hallowed
    cases q with
    | closing => exact hq rfl
    | off | starting | on | dying => cases hr

/-- With the flag cleared, every step brings the thread nearer to its end. -/
theorem heartbeat_step_left {i : Nat} (hbeat : s.service.client.heartbeat_active = false)
    (hs : s.heartbeat_step i = some s') : ∃ pc pc', s.threads[i]? = some pc ∧
      s'.threads = s.threads.set i pc' ∧ pc'.left s.clock < pc.left s.clock := by
  unfold heartbeat_step at hs
  split at hs
  · cases hs
  · next t hpc =>
    obtain rfl := Option.some.inj hs
    refine ⟨_, _, hpc, rfl, ?_⟩
    split <;> simp [HeartbeatPc.left]
  · next t hpc =>
    obtain rfl := Option.some.inj hs
    refine ⟨_, _, hpc, rfl, ?_⟩
    simp [hbeat, HeartbeatPc.left]
  · next t hpc =>
    obtain rfl := Option.some.inj hs
    refine ⟨_, _, hpc, rfl, ?_⟩
    split
    · simp [HeartbeatPc.left]
    · simp only [HeartbeatPc.left]
      split <;> omega
  · next hpc =>
    obtain rfl := Option.some.inj hs
    exact ⟨_, _, hpc, rfl, by simp [HeartbeatPc.left]⟩
  · next hpc =>
    obtain rfl := Option.some.inj hs
    exact ⟨_, _, hpc, rfl, by simp [HeartbeatPc.left]⟩
  · next hpc =>
    obtain rfl := Option.some.inj hs
    exact ⟨_, _, hpc, rfl, by simp [HeartbeatPc.left]⟩
  · next hpc =>
    obtain rfl := Option.some.inj hs
    refine ⟨_, _, hpc, rfl, ?_⟩
    simp only [HeartbeatPc.left]
    split <;> omega
  · next t wake hpc =>
    split at hs
    · next hawake =>
      obtain rfl := Option.some.inj hs
      exact ⟨_, _, hpc, rfl, by simp [HeartbeatPc.left, hawake]⟩
    · cases hs
  · cases hs

/-- A thread that has not ended can move on, unless it sleeps. -/
theorem heartbeat_step_isSome {i : Nat} {pc : HeartbeatPc} (hpc : s.threads[i]? = some pc)
    (hended : pc ≠ .ended) (hawake : ∀ t wake, pc = .sleep t wake → wake ≤ s.clock) :
    ∃ s', s.heartbeat_step i = some s' := by
  unfold heartbeat_step
  rw [hpc]
  cases pc with
  | ended => exact absurd rfl hended
  | sleep t wake => exact ⟨_, if_pos (hawake t wake rfl)⟩
  | _ => exact ⟨_, rfl⟩

/-- The service thread can move on, unless it waits. -/
theorem service_step_isSome {a : ServiceThread} (hcomplete : s.completion = some a)
    {op : ServiceOp} {ops : List ServiceOp} (htodo : s.todo = op :: ops)
    (hjoin : op = .join → s.joined = some .ended) : ∃ s', s.service_step = some s' := by
  unfold completion at hcomplete
  rw [htodo, List.foldlM_cons] at hcomplete
  obtain ⟨service, hrun, -⟩ := Option.bind_eq_some_iff.mp hcomplete
  unfold service_step
  rw [htodo]
  split
  · next heq => cases heq
  · exact ⟨_, rfl⟩
  · next heq =>
    obtain ⟨rfl, rfl⟩ := List.cons.inj heq
    have hrun : s.service.pthread_join = some service := hrun
    rw [if_pos (hjoin rfl), hrun]
    exact ⟨_, rfl⟩
  · next heq =>
    obtain ⟨rfl, rfl⟩ := List.cons.inj heq
    rw [hrun]
    exact ⟨_, rfl⟩

/-- The helper, when the handler does not wait. -/
theorem helpful_of_ne_join (h : s.todo.head? ≠ some .join) : s.helpful = .service := by
  unfold helpful
  rw [if_neg h]

/-- The helper, when it does. -/
theorem helpful_of_waiting {ops : List ServiceOp} (htodo : s.todo = .join :: ops) {i : Nat}
    {pc : HeartbeatPc} (hi : s.service.client.heartbeat_thread = some i)
    (hpc : s.joined = some pc) : s.helpful = helper_of s.clock i pc := by
  unfold helpful
  rw [if_pos (by rw [htodo]; rfl), hi, hpc]

/-- The time is a help only until it has come. -/
theorem helpful_time {t : Nat} (h : s.helpful = .time t) : s.clock < t := by
  unfold helpful at h
  split at h
  · split at h
    · next pc _ _ =>
      cases pc with
      | sleep t' wake =>
        simp only [helper_of] at h
        split at h
        · cases h
        · obtain rfl := Helper.time.inj h
          omega
      | _ => cases h
    · cases h
  · cases h

theorem rank_of_waiting {ops : List ServiceOp} (htodo : s.todo = .join :: ops) {pc : HeartbeatPc}
    (hpc : s.joined = some pc) :
    s.rank = (ops.map ServiceOp.weight).sum + 11 + pc.left s.clock := by
  unfold rank waits_for
  rw [if_pos (by rw [htodo]; rfl), hpc, htodo, List.map_cons, List.sum_cons, Option.map_some,
    Option.getD_some, ServiceOp.weight]
  omega

theorem rank_of_ne_join (h : s.todo.head? ≠ some .join) :
    s.rank = (s.todo.map ServiceOp.weight).sum := by
  unfold rank waits_for
  rw [if_neg h, Nat.add_zero]

/-- A thread that has not ended can move on, or the time can. -/
theorem can_help_thread {clock i : Nat} {pc : HeartbeatPc} (hpc : s.threads[i]? = some pc)
    (hended : pc ≠ .ended) :
    System.Execution.Can (gateway_threads clock) (helper_of s.clock i pc).steps s := by
  by_cases hasleep : ∃ t wake, pc = .sleep t wake ∧ ¬ wake ≤ s.clock
  · -- the clock can reach the end of the sleep
    obtain ⟨t, wake, rfl, hwake⟩ := hasleep
    refine ⟨.tick wake, { s with clock := wake }, if_pos (by omega), ?_⟩
    rw [helper_of, if_neg hwake]
    exact Nat.le_refl wake
  · have hawake : ∀ t wake, pc = .sleep t wake → wake ≤ s.clock := by
      intro t wake heq
      by_contra hwake
      exact hasleep ⟨t, wake, heq, hwake⟩
    obtain ⟨s', hs'⟩ := heartbeat_step_isSome hpc hended hawake
    refine ⟨.heartbeat i, s', hs', ?_⟩
    cases pc with
    | ended => exact absurd rfl hended
    | sleep t wake =>
      rw [helper_of, if_pos (hawake t wake rfl)]
      rfl
    | _ => rfl

/-- **Nobody is stuck**: whoever has to move on for the handler can. -/
theorem can_help {clock : Nat} (h : (gateway_threads clock).Reachable s) (htodo : s.todo ≠ []) :
    System.Execution.Can (gateway_threads clock) s.helpful.steps s := by
  obtain ⟨a, -, hcomplete⟩ := reachable_completes h
  obtain ⟨op, ops, hops⟩ := List.exists_cons_of_ne_nil htodo
  by_cases hjoin : op = .join
  · subst hjoin
    obtain ⟨-, i, pc, hi, hpc, hjoined, -⟩ := (reachable_threads h).waiting hops
    rw [helpful_of_waiting hops hi hjoined]
    by_cases hended : pc = .ended
    · subst hended
      obtain ⟨s', hs'⟩ := service_step_isSome hcomplete hops fun _ => hjoined
      exact ⟨.service, s', hs', rfl⟩
    · exact can_help_thread hpc hended
  · rw [helpful_of_ne_join (by rw [hops]; simpa using hjoin)]
    obtain ⟨s', hs'⟩ := service_step_isSome hcomplete hops fun heq => absurd heq hjoin
    exact ⟨.service, s', hs', rfl⟩

/-- The service thread gets on. -/
theorem service_step_rank (h : ThreadsInv s) (hs : s.service_step = some s') :
    s'.rank < s.rank := by
  obtain ⟨p, hp, hallowed, -⟩ := h.phase
  cases htodo : s.todo with
  | nil =>
    unfold service_step at hs
    rw [htodo] at hs
    cases hs
  | cons op ops =>
    rw [htodo] at hallowed
    obtain ⟨q, hq, hrest⟩ := AllowedFrom.cons.mp hallowed
    have hhead := head_ne_join (next_ne_closing hq) hrest
    by_cases hclose : op = .close
    · subst hclose
      obtain rfl : s.start_close ops = s' := by
        unfold service_step at hs
        rw [htodo] at hs
        exact Option.some.inj hs
      have hold : s.rank = 22 + (ops.map ServiceOp.weight).sum := by
        rw [rank_of_ne_join (by rw [htodo]; simp), htodo, List.map_cons, List.sum_cons]
        rfl
      by_cases hbeat : s.service.client.heartbeat_active = true
      · -- the wait that begins is shorter than what a close weighs
        have htodo' : (s.start_close ops).todo = .join :: ops := by
          unfold start_close
          rw [if_pos hbeat]
        obtain ⟨-, i, pc, -, -, hjoined, -⟩ := (h.service_step hs).waiting htodo'
        rw [rank_of_waiting htodo' hjoined, hold]
        have hleft : pc.left (s.start_close ops).clock ≤ 9 := by
          cases pc with
          | sleep t wake =>
            simp only [HeartbeatPc.left]
            split <;> omega
          | _ => simp [HeartbeatPc.left]
        omega
      · have htodo' : (s.start_close ops).todo = ops := by
          unfold start_close
          rw [if_neg hbeat]
        rw [rank_of_ne_join (by rw [htodo']; exact hhead), hold, htodo']
        omega
    · by_cases hjoin : op = .join
      · subst hjoin
        obtain ⟨hjoined, service, -, rfl⟩ := join_eq htodo hs
        rw [rank_of_waiting htodo hjoined, rank_of_ne_join hhead]
        show (ops.map ServiceOp.weight).sum < _
        omega
      · obtain ⟨service, -, rfl⟩ := service_step_cons htodo hclose hjoin hs
        have hone : op.weight = 1 := by
          cases op with
          | close => exact absurd rfl hclose
          | join => exact absurd rfl hjoin
          | _ => rfl
        rw [rank_of_ne_join hhead, rank_of_ne_join (by rw [htodo]; simpa using hjoin), htodo,
          List.map_cons, List.sum_cons, hone]
        show (ops.map ServiceOp.weight).sum < _
        omega

/-- A heartbeat thread gets on with the end that is waited for. -/
theorem heartbeat_step_rank (h : ThreadsInv s) {i : Nat} (hs : s.heartbeat_step i = some s') :
    s'.rank < s.rank ∨ s'.rank = s.rank ∧ s.helpful = .service ∧ s'.helpful = .service := by
  obtain ⟨hservice, htodo, -, -, hclock, -⟩ := heartbeat_step_service hs
  by_cases hwait : ∃ ops, s.todo = .join :: ops
  · left
    obtain ⟨ops, hops⟩ := hwait
    obtain ⟨hbeat, j, pc, hj, hpc, hjoined, hone⟩ := h.waiting hops
    -- the thread that moves is the one that is waited for
    have hij : i = j := hone i (heartbeat_step_alive hs).1
    subst hij
    obtain ⟨pc₁, pc₂, hpc₁, hthreads, hlt⟩ := heartbeat_step_left hbeat hs
    obtain rfl : pc₁ = pc := Option.some.inj (hpc₁.symm.trans hpc)
    have hjoined' : s'.joined = some pc₂ := by
      unfold joined
      rw [hservice, hj, hthreads]
      exact List.getElem?_set_self (List.getElem?_eq_some_iff.mp hpc).1
    rw [rank_of_waiting hops hjoined, rank_of_waiting (htodo.trans hops) hjoined', hclock]
    omega
  · right
    have hhead : s.todo.head? ≠ some .join := by
      intro hhead
      obtain ⟨ops, hops⟩ := List.head?_eq_some_iff.mp hhead
      exact hwait ⟨ops, hops⟩
    have hhead' : s'.todo.head? ≠ some .join := by rwa [htodo]
    exact ⟨by rw [rank_of_ne_join hhead, rank_of_ne_join hhead', htodo],
      helpful_of_ne_join hhead, helpful_of_ne_join hhead'⟩

/-- As the time passes, the thread that is waited for may wake up. -/
theorem tick_rank (h : ThreadsInv s) {c : Nat} (hle : s.clock ≤ c) :
    rank { s with clock := c } < s.rank ∨
      rank { s with clock := c } = s.rank ∧ helpful { s with clock := c } = s.helpful ∧
        ¬ s.helpful.steps s (.tick c) { s with clock := c } := by
  by_cases hwait : ∃ ops, s.todo = .join :: ops
  · obtain ⟨ops, hops⟩ := hwait
    obtain ⟨-, i, pc, hi, -, hjoined, -⟩ := h.waiting hops
    rw [rank_of_waiting hops hjoined, helpful_of_waiting hops hi hjoined,
      @rank_of_waiting { s with clock := c } ops hops pc hjoined,
      @helpful_of_waiting { s with clock := c } ops hops i pc hi hjoined]
    cases pc with
    | sleep t wake =>
      by_cases hawake : wake ≤ s.clock
      · right
        have hawake' : wake ≤ c := by omega
        simp only [HeartbeatPc.left, helper_of, if_pos hawake, if_pos hawake']
        exact ⟨trivial, trivial, nofun⟩
      · by_cases hwakes : wake ≤ c
        · left
          simp only [HeartbeatPc.left, if_neg hawake, if_pos hwakes]
          omega
        · right
          simp only [HeartbeatPc.left, helper_of, if_neg hawake, if_neg hwakes]
          exact ⟨trivial, trivial, hwakes⟩
    | _ => exact .inr ⟨rfl, rfl, nofun⟩
  · right
    have hhead : s.todo.head? ≠ some .join := by
      intro hhead
      obtain ⟨ops, hops⟩ := List.head?_eq_some_iff.mp hhead
      exact hwait ⟨ops, hops⟩
    rw [rank_of_ne_join hhead, helpful_of_ne_join hhead,
      @rank_of_ne_join { s with clock := c } hhead, @helpful_of_ne_join { s with clock := c } hhead]
    exact ⟨rfl, rfl, nofun⟩

/-- A thread whose sleep is interrupted does not have to wait for the time. -/
theorem interrupt_step_rank (h : ThreadsInv s) {i : Nat} (hs : s.interrupt_step i = some s') :
    System.Execution.Progresses Helper.steps rank helpful s (.interrupt i) s' := by
  obtain ⟨t, wake, hpc, heq⟩ := interrupt_step_eq hs
  have htodo : s'.todo = s.todo := by rw [heq]; rfl
  have hclock : s'.clock = s.clock := by rw [heq]; rfl
  by_cases hwait : ∃ ops, s.todo = .join :: ops
  · obtain ⟨ops, hops⟩ := hwait
    obtain ⟨-, j, pc, hj, hpc₁, hjoined, hone⟩ := h.waiting hops
    -- the thread that sleeps is the one that is waited for
    obtain rfl : i = j := hone i ⟨_, hpc, nofun⟩
    obtain rfl : pc = .sleep t wake := Option.some.inj (hpc₁.symm.trans hpc)
    have hj' : s'.service.client.heartbeat_thread = some i := by rw [heq]; exact hj
    have hjoined' : s'.joined = some (.sleep t (min wake s.clock)) := by
      unfold joined
      rw [hj', heq]
      exact List.getElem?_set_self (List.getElem?_eq_some_iff.mp hpc).1
    unfold System.Execution.Progresses
    rw [rank_of_waiting hops hjoined, rank_of_waiting (htodo.trans hops) hjoined',
      helpful_of_waiting hops hj hjoined, helpful_of_waiting (htodo.trans hops) hj' hjoined',
      hclock]
    have hawake : min wake s.clock ≤ s.clock := Nat.min_le_right _ _
    simp only [HeartbeatPc.left, helper_of, if_pos hawake]
    by_cases hwake : wake ≤ s.clock
    · -- it was awake already
      rw [if_pos hwake, if_pos hwake]
      exact .inr ⟨rfl, rfl, nofun⟩
    · rw [if_neg hwake]
      exact .inl (by omega)
  · have hhead : s.todo.head? ≠ some .join := by
      intro hhead
      obtain ⟨ops, hops⟩ := List.head?_eq_some_iff.mp hhead
      exact hwait ⟨ops, hops⟩
    have hhead' : s'.todo.head? ≠ some .join := by rwa [htodo]
    right
    rw [rank_of_ne_join hhead, rank_of_ne_join hhead', helpful_of_ne_join hhead,
      helpful_of_ne_join hhead', htodo]
    exact ⟨rfl, rfl, nofun⟩

end waiting

/-! ### Every execution -/

/-- **Step lemma**: while a handler runs, each step helps it or leaves it alone. -/
theorem step_progresses {s s' : GatewayThreads} (h : ThreadsInv s) (htodo : s.todo ≠ [])
    {l : GatewayLabel} (hexec : s.exec l = some s') :
    System.Execution.Progresses Helper.steps rank helpful s l s' := by
  cases l with
  | event e =>
    by_cases he : e = .sigterm
    · subst he
      obtain rfl := Option.some.inj hexec
      refine .inr ⟨rfl, rfl, fun hhelp => ?_⟩
      -- a signal is no step of a thread, and takes no time
      cases hhelper : s.helpful with
      | service =>
        rw [hhelper] at hhelp
        cases hhelp
      | heartbeat i =>
        rw [hhelper] at hhelp
        cases hhelp
      | time t =>
        rw [hhelper] at hhelp
        exact absurd hhelp (Nat.not_le.mpr (helpful_time hhelper))
    · exact absurd (event_step_eq he hexec).1 htodo
  | interrupt i => exact interrupt_step_rank h hexec
  | service => exact .inl (service_step_rank h hexec)
  | heartbeat i =>
    rcases heartbeat_step_rank h hexec with hlt | ⟨hrank, hhelp, hhelp'⟩
    · exact .inl hlt
    · exact .inr ⟨hrank, hhelp'.trans hhelp.symm, by rw [hhelp]; exact nofun⟩
  | tick c =>
    obtain ⟨hle, rfl⟩ := tick_eq hexec
    exact tick_rank h hle

/-- **Every handler returns**, once each thread gets its turn and the time
    passes. -/
theorem handlers_return {clock : Nat} (e : (gateway_threads clock).Execution) (hfair : Fairly e)
    (k : Nat) : ∃ m, k ≤ m ∧ (e.state m).todo = [] := by
  refine System.Execution.eventually_of_rank (A := Helper.steps) (I := fun _ => True)
    (Q := fun s => s.todo = []) rank helpful hfair.helps trivial
    (fun _ _ _ _ _ => trivial) (fun m _ _ htodo => can_help (e.reachable m) htodo) ?_
  intro m _ _ htodo _
  exact step_progresses (reachable_threads (e.reachable m)) htodo (e.step m)

/-- Nothing but the time goes on once all handlers and threads are through. -/
theorem fairly_of_quiet {clock : Nat} (e : (gateway_threads clock).Execution) {n : Nat}
    {s : GatewayThreads} (htodo : s.todo = []) (hended : ∀ i, ¬ s.Alive i)
    (hquiet : ∀ k, e.state (n + k) = { s with clock := s.clock + k }) : Fairly e := by
  have hstate : ∀ k, n ≤ k → ∃ c, e.state k = { s with clock := c } := by
    intro k hk
    obtain ⟨j, rfl⟩ := Nat.exists_eq_add_of_le hk
    exact ⟨_, hquiet j⟩
  refine ⟨System.Execution.fair_of_not_can (n := n) ?_,
    fun i => System.Execution.fair_of_not_can (n := n) ?_, fun t => ⟨n + t, ?_⟩⟩
  · rintro k hk ⟨_, s', hstep, rfl⟩
    obtain ⟨c, hc⟩ := hstate k hk
    have hstep : (e.state k).service_step = some s' := hstep
    rw [hc] at hstep
    unfold service_step at hstep
    rw [htodo] at hstep
    cases hstep
  · rintro k hk ⟨_, s', hstep, rfl⟩
    obtain ⟨c, hc⟩ := hstate k hk
    have hstep : (e.state k).heartbeat_step i = some s' := hstep
    rw [hc] at hstep
    exact hended i (heartbeat_step_alive hstep).1
  · rw [hquiet t]
    show t ≤ s.clock + t
    omega

/-- The heartbeat thread wakes up and ends, and the handler returns. -/
def hello_and_joined : List GatewayLabel :=
  hello_and_invalid ++ [.tick 10000, .heartbeat 0, .heartbeat 0, .heartbeat 0, .service]

/-- A HELLO, and an INVALID_SESSION whose handler waits for the heartbeat
    thread. -/
theorem handlers_return_invalid : ∃ e : (gateway_threads 0).Execution, Fairly e ∧
    (∃ n, (e.state n).threads = [.ended]) ∧ ∀ k, ∃ m, k ≤ m ∧ (e.state m).todo = [] := by
  obtain ⟨s, hs, htodo, hthreads⟩ : ∃ s : GatewayThreads,
      hello_and_joined.foldlM exec (start 0) = some s ∧ s.todo = [] ∧ s.threads = [.ended] :=
    ⟨_, rfl, rfl, rfl⟩
  have hrun : (gateway_threads 0).Run _ s := System.run_ofFn_iff.mpr hs
  obtain ⟨e, he⟩ := @System.Execution.exists_of_run _ _ _ _ _ hrun
    (fun k => { s with clock := s.clock + k }) (fun k => .tick (s.clock + (k + 1))) rfl
    fun k => if_pos (Nat.add_le_add_left (Nat.le_succ k) _)
  have hended : ∀ i, ¬ s.Alive i := by
    rintro i ⟨pc, hpc, hne⟩
    rw [hthreads, List.getElem?_singleton] at hpc
    split at hpc
    · exact hne (Option.some.inj hpc).symm
    · cases hpc
  have hfair := fairly_of_quiet e htodo hended fun k => (he k).1
  refine ⟨e, hfair, ⟨hello_and_joined.length + 0, ?_⟩, handlers_return e hfair⟩
  rw [(he 0).1]
  exact hthreads

end GatewayThreads

end DiscoC
