import DiscoC.Utils.ThreadPoolProgress

/-! # Jobs that are due

  `request` queues its jobs for second 0. A signal wakes one worker, and a
  worker that takes a job leaves the rest of the queue to others. That is
  enough when every job is due as it is added (`AddsDue`): no worker goes
  into a timed wait, and as long as one sleeps, there is a worker on its way
  to the queue for each job in it (`Prompt`).

  So no wake-up is lost, whatever the order of the steps, and the pool gets
  through its work (`prompt_jobs_get_done`).
-/

namespace DiscoC

variable {J : Type} {n : Nat}

/-! ### The invariant -/

/-- Every job is due when it is added. -/
def AddsDue (s : PoolState J n) : PoolLabel J n → Prop
  | .add _ _ w _ => w < s.clock
  | _ => True

instance (s : PoolState J n) : ∀ lab, Decidable (AddsDue s lab)
  | .add _ _ w _ => inferInstanceAs (Decidable (w < s.clock))
  | .tick _ | .check _ _ _ | .wake _ | .finish _ | .destroy | .release =>
    inferInstanceAs (Decidable True)

/-- The worker is on its way to the queue. -/
def WorkerPc.comes : WorkerPc → Nat
  | .ready => 1
  | _ => 0

/-- The workers on their way to the queue. -/
def workers_coming (s : PoolState J n) : Nat := ∑ i, (s.workers i).comes

/-- All jobs of the queue `l` are due, and while a worker sleeps there is one
    on its way for each of them. -/
structure Prompt (s : PoolState J n) (tp : ThreadPool) (l : List (Nat × PrioEntry)) : Prop where
  up : PoolUp s tp l
  due : ∀ e ∈ l, e.2.2 < s.clock
  sleep_until : l ≠ [] → tp.sleep_until < s.clock
  never : l = [] → tp.sleep_until.tv_sec = -1
  untimed : ∀ i, (s.workers i).timed = false
  coming : (∃ i, s.workers i = .waiting) → l.length ≤ workers_coming s

theorem WorkerPc.waiting_of_waits {pc : WorkerPc} (hwaits : pc.waits = true)
    (htimed : pc.timed = false) : pc = .waiting := by
  cases pc with
  | waiting => rfl
  | timed_waiting d => cases htimed
  | _ => cases hwaits

/-- One worker moves on. -/
theorem workers_coming_set_worker {s : PoolState J n} {i : Fin n} {pc : WorkerPc} :
    workers_coming (s.set_worker i pc) + (s.workers i).comes = workers_coming s + pc.comes :=
  sum_set_worker WorkerPc.comes s i pc

/-- A worker that sleeps after another one has moved on has slept before. -/
theorem waiting_of_set_worker {s : PoolState J n} {i : Fin n} {pc : WorkerPc} (hpc : pc ≠ .waiting)
    (h : ∃ j, (s.set_worker i pc).workers j = .waiting) : ∃ j, s.workers j = .waiting := by
  obtain ⟨j, hj⟩ := h
  by_contra hnone
  have hnot : ∀ j, s.workers j ≠ .waiting := fun j hj => hnone ⟨j, hj⟩
  exact PoolState.forall_set_worker (P := fun pc => pc ≠ .waiting) hnot hpc j hj

/-- The new `sleep_until` of `t_pool_add_work` is past, too. -/
theorem sleep_until_add_lt {sleep_until w t : Timeval} {l : List (Nat × PrioEntry)}
    (hsleep : l ≠ [] → sleep_until < t) (hnever : l = [] → sleep_until.tv_sec = -1) (hw : w < t) :
    sleep_until_add sleep_until w < t := by
  by_cases hl : l = []
  · rw [sleep_until_add_empty (hnever hl)]
    exact hw
  · unfold sleep_until_add
    split
    · exact hw
    · exact hsleep hl

/-- A queue in which a job has been put is not empty. -/
theorem prio_insert_ne_nil (e : Nat × PrioEntry) (l : List (Nat × PrioEntry)) :
    prio_insert e l ≠ [] := by
  intro hnil
  have hlen := (prio_insert_perm e l).length_eq
  rw [hnil] at hlen
  cases hlen

/-- A job that is due is queued, and a worker that sleeps is woken. -/
theorem Prompt.add {s s' : PoolState J n} {tp tp' : ThreadPool} {l : List (Nat × PrioEntry)}
    (h : Prompt s tp l) {job : J} {w : Timeval} {woken : Option (Fin n)} {nodes : Store PrioNode}
    {queue : PrioQueue} (hw : w < s.clock) (hwoken : can_wake s.workers woken)
    (htp : tp' = tp.with_queue queue (sleep_until_add tp.sleep_until w))
    (hs' : s' = signal (s.pushed nodes tp' job w) woken)
    (hup : PoolUp s' tp' (prio_insert (s.nodes.next, (s.works.next, w)) l)) :
    Prompt s' tp' (prio_insert (s.nodes.next, (s.works.next, w)) l) := by
  have hperm := prio_insert_perm (s.nodes.next, (s.works.next, w)) l
  have hclock : s'.clock = s.clock := by
    subst hs'
    cases woken <;> rfl
  refine ⟨hup, ?_, fun _ => ?_, fun hnil => absurd hnil (prio_insert_ne_nil _ l), ?_, ?_⟩
  · intro e he
    rw [hclock]
    rcases List.mem_cons.mp (hperm.mem_iff.mp he) with rfl | he
    · exact hw
    · exact h.due e he
  · rw [hclock, htp]
    exact sleep_until_add_lt h.sleep_until h.never hw
  · subst hs'
    cases woken with
    | none => exact h.untimed
    | some i =>
      exact PoolState.forall_set_worker (P := fun pc => pc.timed = false)
        (s := s.pushed nodes tp' job w) h.untimed rfl
  · intro hwaiting
    rw [hperm.length_eq, List.length_cons]
    subst hs'
    cases woken with
    | none =>
      -- nobody sleeps, or the signal would have woken someone
      obtain ⟨j, hj⟩ := hwaiting
      have hj : s.workers j = .waiting := hj
      have hnot : (s.workers j).waits = false := hwoken j
      rw [hj] at hnot
      cases hnot
    | some i =>
      have hi : s.workers i = .waiting := WorkerPc.waiting_of_waits hwoken (h.untimed i)
      have hcoming := h.coming ⟨i, hi⟩
      have hsum := @workers_coming_set_worker _ _ (s.pushed nodes tp' job w) i .ready
      have hi' : ((s.pushed nodes tp' job w).workers i).comes = 0 := by
        show (s.workers i).comes = 0
        rw [hi]
        rfl
      have hsame : workers_coming (s.pushed nodes tp' job w) = workers_coming s := rfl
      have hready : WorkerPc.ready.comes = 1 := rfl
      show l.length + 1 ≤ workers_coming ((s.pushed nodes tp' job w).set_worker i .ready)
      omega

/-- **Step lemma**: the pool stays prompt. -/
theorem Prompt.step {s : PoolState J n} {tp : ThreadPool} {l : List (Nat × PrioEntry)}
    (h : Prompt s tp l) {lab : PoolLabel J n} (hen : enabled s lab) (hdue : AddsDue s lab)
    (hne : lab ≠ .destroy) : ∃ tp' l', Prompt (pool_step s lab) tp' l' := by
  obtain ⟨tp', l', hstep, hup⟩ := h.up.step lab hen hne
  refine ⟨tp', l', ?_⟩
  have hready : WorkerPc.ready.comes = 1 := rfl
  generalize hs' : pool_step s lab = s' at hstep hup ⊢
  cases hstep with
  | tick t hle =>
    exact ⟨hup, fun e he => (h.due e he).trans_le hle, fun hl => (h.sleep_until hl).trans_le hle,
      h.never, h.untimed, h.coming⟩
  | add by_worker job w woken nodes tp' queue hwoken _ _ htp =>
    have hcan : can_wake s.workers woken := by
      cases by_worker <;> exact hen.2
    exact h.add hdue hcan htp rfl hup
  | wait i t₁ t₂ pc hi hle hpc =>
    -- the queue is empty, or the worker would have taken a job
    obtain ⟨hmust, hwait⟩ := h.up.runs.wait_cases hpc hs'
    obtain rfl := h.up.runs.empty_of_must_wait (fun hl => (h.sleep_until hl).trans_le hen.2.1) hmust
    obtain rfl : pc = .waiting := by
      rcases hwait with rfl | ⟨hl, -⟩
      · rfl
      · exact absurd rfl hl
    exact ⟨hup, by simp, fun hl => absurd rfl hl, h.never,
      PoolState.forall_set_worker (P := fun pc => pc.timed = false) h.untimed rfl,
      fun _ => Nat.zero_le _⟩
  | pop i t₁ t₂ p w d l' tp' queue hi ht₁ ht₂ _ hl _ htp =>
    subst hl htp
    have hclock : s.clock ≤ t₂ := ht₁.trans ht₂
    have hrest : ∀ e ∈ l', e.2.2 < t₂ := fun e he =>
      (h.due e (List.mem_cons_of_mem _ he)).trans_le hclock
    refine ⟨hup, hrest, fun hl => ?_, fun hl => ?_,
      PoolState.forall_set_worker (P := fun pc => pc.timed = false) h.untimed rfl,
      fun hwaiting => ?_⟩
    · cases l' with
      | nil => exact absurd rfl hl
      | cons e l' => exact hrest e List.mem_cons_self
    · subst hl
      rfl
    · -- one job less, and one worker less on its way
      have hcoming := h.coming (@waiting_of_set_worker _ _ s i (.executing w) (by simp) hwaiting)
      have hsum := @workers_coming_set_worker _ _ s i (.executing w)
      have hrun : (WorkerPc.executing w).comes = 0 := rfl
      rw [hi] at hsum
      rw [List.length_cons] at hcoming
      show l'.length ≤ workers_coming (s.set_worker i (.executing w))
      omega
  | wake i hi =>
    have hpc : s.workers i = .waiting := WorkerPc.waiting_of_waits hi (h.untimed i)
    refine ⟨hup, h.due, h.sleep_until, h.never, ?_, fun _ => ?_⟩
    · rw [hpc]
      exact PoolState.forall_set_worker (P := fun pc => pc.timed = false) h.untimed rfl
    · have hcoming := h.coming ⟨i, hpc⟩
      have hsum := @workers_coming_set_worker _ _ s i (s.workers i).awake
      have hawake : (s.workers i).awake.comes = 1 := by
        rw [hpc]
        rfl
      have hasleep : (s.workers i).comes = 0 := by
        rw [hpc]
        rfl
      omega
  | finish i work hi =>
    refine ⟨hup, h.due, h.sleep_until, h.never,
      PoolState.forall_set_worker (P := fun pc => pc.timed = false) h.untimed rfl,
      fun hwaiting => ?_⟩
    have hcoming := h.coming (@waiting_of_set_worker _ _ s i .ready (by simp) hwaiting)
    have hsum := @workers_coming_set_worker _ _ s i .ready
    have hrun : (s.workers i).comes = 0 := by
      rw [hi]
      rfl
    show l.length ≤ workers_coming (s.set_worker i .ready)
    omega

/-! ### Runs -/

theorem Prompt.init (tv_usec : Int) (clock : Timeval) :
    ∃ tp, Prompt (t_pool_init n tv_usec clock : PoolState J n) tp [] := by
  obtain ⟨tp, hr⟩ := pool_runs_init (J := J) (n := n) tv_usec clock
  have htp : tp.sleep_until.tv_sec = -1 := by
    cases hr.pool
    rfl
  exact ⟨tp, ⟨hr, JobPool.conserved_empty, rfl⟩, by simp, fun hl => absurd rfl hl, fun _ => htp,
    fun _ => rfl, fun _ => Nat.zero_le _⟩

/-- **Run lemma**: as long as every job is due when it is added. -/
theorem reachable_prompt {s : PoolState J n}
    (h : ((pool_system J n).guarded AddsDue).Reachable s) (hup : s.destroyer = .not_called) :
    ∃ tp l, Prompt s tp l := by
  refine System.Reachable.invariant
    (I := fun s => s.destroyer = .not_called → ∃ tp l, Prompt s tp l) ?_ ?_ h hup
  · rintro s ⟨tv_usec, clock, rfl⟩ -
    obtain ⟨tp, hp⟩ := Prompt.init (J := J) (n := n) tv_usec clock
    exact ⟨tp, [], hp⟩
  · rintro s lab s' - ih ⟨hdue, hs⟩ hup'
    have hup : s.destroyer = .not_called := by
      by_contra hd
      exact destroyer_step hs hd hup'
    obtain ⟨tp, l, hp⟩ := ih hup
    have hne : lab ≠ .destroy := by
      rintro rfl
      rcases hp.up.runs.step hp.up.jobs.queued_nodup hup hs with ⟨-, hd⟩ | ⟨tp', l', hstep⟩
      · obtain ⟨_, _, hd', -⟩ := t_pool_destroy_spec hp.up.runs hp.up.jobs.queued_nodup
        rw [hd'] at hd
        cases Option.some.inj hd
        cases hup'
      · cases hstep
    obtain ⟨⟨-, hen⟩, rfl⟩ := hs
    exact hp.step hen hdue hne

/-- A prompt pool has no work for its workers to oversleep. -/
theorem Prompt.not_oversleeps {s : PoolState J n} {tp : ThreadPool} {l : List (Nat × PrioEntry)}
    (h : Prompt s tp l) : ¬ Oversleeps s := by
  intro hs
  obtain ⟨⟨tp', htp', hsize⟩, hwaiting, halert⟩ := oversleeps_iff.mp hs
  obtain rfl := Option.some.inj (h.up.runs.pool.symm.trans htp')
  have hnone : workers_coming s = 0 := by
    refine Finset.sum_eq_zero fun i _ => ?_
    have hi := halert i
    cases hpc : s.workers i with
    | ready =>
      rw [hpc] at hi
      cases hi
    | _ => rfl
  have hcoming := h.coming hwaiting
  rw [h.up.runs.holds.size] at hsize
  omega

/-- No worker waits for a time, and while one sleeps, there are as many on
    their way to the queue as it has jobs. -/
def WorkConserving (s : PoolState J n) : Prop :=
  (∀ i, (s.workers i).timed = false) ∧
    ∀ tp ∈ s.pool, (∃ i, s.workers i = .waiting) → tp.queue.size ≤ workers_coming s

/-- **No job is left to a sleeping worker**: in a run whose jobs are due when
    they are added, the pool is work-conserving until it is destroyed. -/
theorem due_jobs_are_served {s : PoolState J n}
    (h : ((pool_system J n).guarded AddsDue).Reachable s) (hup : s.destroyer = .not_called) :
    WorkConserving s ∧ ¬ Oversleeps s := by
  obtain ⟨tp, l, hp⟩ := reachable_prompt h hup
  refine ⟨⟨hp.untimed, fun tp' htp' hwaiting => ?_⟩, hp.not_oversleeps⟩
  obtain rfl := Option.some.inj (hp.up.runs.pool.symm.trans htp')
  rw [hp.up.runs.holds.size]
  exact hp.coming hwaiting

/-- Two workers sleep. A job that is due wakes one of them. -/
def due_queue : PoolState Unit 2 :=
  [.check worker_a ⟨1, 0⟩ ⟨1, 0⟩, .check worker_b ⟨1, 0⟩ ⟨1, 0⟩,
    .add none () ⟨0, 0⟩ (some worker_b)].foldl pool_step (t_pool_init 2 0 ⟨1, 0⟩)

theorem due_jobs_are_served_due_queue : WorkConserving due_queue ∧ ¬ Oversleeps due_queue :=
  due_jobs_are_served (System.reachable_foldl_guarded (.init (by exact ⟨0, ⟨1, 0⟩, rfl⟩))
    (by decide)) (by decide)

end DiscoC
