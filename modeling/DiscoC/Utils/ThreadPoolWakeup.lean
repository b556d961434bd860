import DiscoC.Utils.ThreadPoolInvariant

/-! # Who looks at the queue

  Only `t_pool_add_work` signals, and it wakes one worker. A worker that
  takes a job does not pass on the rest of the queue, and one that waits
  reads the clock a second time to choose its wait. Either may leave queued
  work to workers that sleep without a deadline (`Oversleeps`).

  A step leads there exactly when it is one of these two and no other worker
  is about to look at the queue or in a timed wait (`KeepsWatch`).
-/

namespace DiscoC

variable {J : Type} {n : Nat}

/-! ### Idle workers -/

/-- The worker has no job and may get one. -/
def WorkerPc.idle : WorkerPc → Bool
  | .ready => true
  | .waiting => true
  | .timed_waiting _ => true
  | _ => false

/-- An idle worker that comes back to the queue without a signal. -/
def WorkerPc.alert : WorkerPc → Bool
  | .ready => true
  | .timed_waiting _ => true
  | _ => false

theorem WorkerPc.alert_iff {pc : WorkerPc} :
    pc.alert = true ↔ pc.idle = true ∧ pc ≠ .waiting := by
  cases pc <;> simp [WorkerPc.alert, WorkerPc.idle]

theorem WorkerPc.alert_awake {pc : WorkerPc} (h : pc.waits = true) : pc.awake.alert = true := by
  cases pc with
  | waiting => rfl
  | timed_waiting t => rfl
  | _ => cases h

theorem WorkerPc.waits_awake (pc : WorkerPc) : pc.awake.waits = false := by
  cases pc <;> rfl

/-- Work is queued and a worker is idle, but every idle worker sleeps in
    `pthread_cond_wait`. -/
def Oversleeps (s : PoolState J n) : Prop :=
  (∃ tp ∈ s.pool, tp.queue.size ≠ 0) ∧ (∃ i, (s.workers i).idle = true) ∧
    ∀ i, (s.workers i).idle = true → s.workers i = .waiting

theorem oversleeps_iff {s : PoolState J n} :
    Oversleeps s ↔ (∃ tp ∈ s.pool, tp.queue.size ≠ 0) ∧ (∃ i, s.workers i = .waiting) ∧
      ∀ i, (s.workers i).alert = false := by
  constructor
  · rintro ⟨hqueue, ⟨i, hi⟩, hall⟩
    refine ⟨hqueue, ⟨i, hall i hi⟩, fun j => Bool.eq_false_iff.mpr fun halert => ?_⟩
    obtain ⟨hidle, hne⟩ := WorkerPc.alert_iff.mp halert
    exact hne (hall j hidle)
  · rintro ⟨hqueue, ⟨i, hi⟩, hall⟩
    refine ⟨hqueue, ⟨i, by rw [hi]; rfl⟩, fun j hidle => ?_⟩
    by_contra hne
    exact absurd (WorkerPc.alert_iff.mpr ⟨hidle, hne⟩) (by simp [hall j])

/-- A worker that comes back to the queue is enough. -/
theorem not_oversleeps_of_alert {s : PoolState J n} {i : Fin n}
    (h : (s.workers i).alert = true) : ¬ Oversleeps s := by
  intro hs
  have := (oversleeps_iff.mp hs).2.2 i
  rw [h] at this
  cases this

theorem not_oversleeps_of_awake {s : PoolState J n} (h : ∀ i, (s.workers i).waits = false) :
    ¬ Oversleeps s := by
  intro hs
  obtain ⟨i, hi⟩ := (oversleeps_iff.mp hs).2.1
  have := h i
  rw [hi] at this
  cases this

theorem not_oversleeps_set_worker {s : PoolState J n} {i : Fin n} {pc : WorkerPc}
    (h : pc.alert = true) : ¬ Oversleeps (s.set_worker i pc) :=
  not_oversleeps_of_alert (i := i) (by simpa [PoolState.set_worker] using h)

/-- What matters when the worker `i` moves on to a place where it does not
    come back by itself. -/
theorem oversleeps_set_worker {s : PoolState J n} {tp : ThreadPool} (hp : s.pool = some tp)
    {i : Fin n} {pc : WorkerPc} (hpc : pc.alert = false) :
    Oversleeps (s.set_worker i pc) ↔ tp.queue.size ≠ 0 ∧
      (pc = .waiting ∨ ∃ j, j ≠ i ∧ s.workers j = .waiting) ∧
      ∀ j, j ≠ i → (s.workers j).alert = false := by
  have hself : (s.set_worker i pc).workers i = pc := Function.update_self ..
  have hother : ∀ j, j ≠ i → (s.set_worker i pc).workers j = s.workers j :=
    fun j hj => Function.update_of_ne hj ..
  have hpool : (∃ tp ∈ (s.set_worker i pc).pool, tp.queue.size ≠ 0) ↔ tp.queue.size ≠ 0 := by
    simp [PoolState.set_worker, hp]
  -- a sleeper is the worker itself or another one; the alert are others
  rw [oversleeps_iff, hpool]
  refine and_congr_right fun _ => and_congr ?_ ?_
  · constructor
    · rintro ⟨j, hj⟩
      by_cases hji : j = i
      · subst hji
        exact .inl (hself.symm.trans hj)
      · exact .inr ⟨j, hji, (hother j hji).symm.trans hj⟩
    · rintro (rfl | ⟨j, hji, hj⟩)
      · exact ⟨i, hself⟩
      · exact ⟨j, (hother j hji).trans hj⟩
  · constructor
    · intro hall j hji
      rw [← hother j hji]
      exact hall j
    · intro hall j
      by_cases hji : j = i
      · subst hji
        rw [hself]
        exact hpc
      · rw [hother j hji]
        exact hall j hji

/-! ### The steps that leave work behind -/

/-- The worker `i` takes a job and leaves others in the queue while a worker
    sleeps without a deadline; or it finds the first job not due at `t₁`, but
    due when it chooses its wait at `t₂`. -/
def LeavesWork (s : PoolState J n) (tp : ThreadPool) (i : Fin n) (t₁ t₂ : Timeval) : Prop :=
  if must_wait tp t₁ then tp.queue.size ≠ 0 ∧ is_future t₂ tp.sleep_until = false
  else tp.stop = false ∧ 1 < tp.queue.size ∧ ∃ j, j ≠ i ∧ s.workers j = .waiting

/-- Whenever a worker leaves work behind, another one comes back to the queue
    by itself. -/
def KeepsWatch (s : PoolState J n) : PoolLabel J n → Prop
  | .check i t₁ t₂ => ∀ tp ∈ s.pool, LeavesWork s tp i t₁ t₂ →
      ∃ j, j ≠ i ∧ (s.workers j).alert = true
  | _ => True

instance (s : PoolState J n) (tp : ThreadPool) (i : Fin n) (t₁ t₂ : Timeval) :
    Decidable (LeavesWork s tp i t₁ t₂) := by
  unfold LeavesWork
  infer_instance

instance (s : PoolState J n) : ∀ lab, Decidable (KeepsWatch s lab)
  | .check i t₁ t₂ => inferInstanceAs (Decidable (∀ tp ∈ s.pool, LeavesWork s tp i t₁ t₂ →
      ∃ j, j ≠ i ∧ (s.workers j).alert = true))
  | .tick _ => inferInstanceAs (Decidable True)
  | .add _ _ _ _ => inferInstanceAs (Decidable True)
  | .wake _ => inferInstanceAs (Decidable True)
  | .finish _ => inferInstanceAs (Decidable True)
  | .destroy => inferInstanceAs (Decidable True)
  | .release => inferInstanceAs (Decidable True)

/-! ### Steps before `t_pool_destroy` -/

theorem KeepsWatch.check_iff {s : PoolState J n} {tp : ThreadPool} (hp : s.pool = some tp)
    {i : Fin n} {t₁ t₂ : Timeval} :
    ¬ KeepsWatch s (.check i t₁ t₂) ↔ LeavesWork s tp i t₁ t₂ ∧
      ∀ j, j ≠ i → (s.workers j).alert = false := by
  simp [KeepsWatch, hp]

/-- **Step lemma** for the locked section of a worker. -/
theorem PoolUp.check_oversleeps_iff {s : PoolState J n} {tp : ThreadPool}
    {l : List (Nat × PrioEntry)} (h : PoolUp s tp l) (i : Fin n) (t₁ t₂ : Timeval) :
    Oversleeps (pool_step s (.check i t₁ t₂)) ↔ ¬ KeepsWatch s (.check i t₁ t₂) := by
  rw [KeepsWatch.check_iff h.runs.pool, pool_step]
  cases hmust : must_wait tp t₁ with
  | true =>
    rw [check_waits h.runs.pool i t₂ hmust, Option.getD_some, LeavesWork, if_pos hmust]
    show Oversleeps (s.set_worker i _) ↔ _
    -- a timed wait is alert: it ends by itself
    by_cases htimed : (tp.queue.size > 0 && is_future t₂ tp.sleep_until) = true
    · rw [if_pos htimed]
      have hfuture : is_future t₂ tp.sleep_until = true := (Bool.and_eq_true_iff.mp htimed).2
      refine iff_of_false (not_oversleeps_set_worker rfl) ?_
      rintro ⟨⟨-, hlate⟩, -⟩
      rw [hfuture] at hlate
      cases hlate
    · rw [if_neg htimed, oversleeps_set_worker h.runs.pool rfl]
      simp only [Bool.and_eq_true, decide_eq_true_eq, not_and, Bool.not_eq_true] at htimed
      constructor
      · rintro ⟨hsize, -, hall⟩
        exact ⟨⟨hsize, htimed (Nat.pos_of_ne_zero hsize)⟩, hall⟩
      · rintro ⟨⟨hsize, -⟩, hall⟩
        exact ⟨hsize, .inl rfl, hall⟩
  | false =>
    -- the worker leaves with a job; what it leaves behind needs another
    obtain ⟨-, p, w, d, l', queue, rfl, hholds, hexec⟩ := h.runs.check_pops i t₂ hmust
    rw [hexec, Option.getD_some, LeavesWork, if_neg (by simp [hmust])]
    show Oversleeps ((s.popped p _).set_worker i _) ↔ _
    have hsize : tp.queue.size = queue.size + 1 := by
      rw [h.runs.holds.size, hholds.size, List.length_cons]
    rw [oversleeps_set_worker (s := s.popped p _) rfl rfl]
    simp only [ThreadPool.with_queue, PoolState.popped, h.runs.stop, hsize, true_and, reduceCtorEq,
      false_or, Nat.lt_add_left_iff_pos, Nat.pos_iff_ne_zero, and_assoc]

/-- **Step lemma**: as long as the pool is up, a step makes the workers
    oversleep exactly when it does not keep watch. -/
theorem PoolUp.oversleeps_iff {s : PoolState J n} {tp : ThreadPool}
    {l : List (Nat × PrioEntry)} (h : PoolUp s tp l) (hs : ¬ Oversleeps s) {lab : PoolLabel J n}
    (hen : enabled s lab) : Oversleeps (pool_step s lab) ↔ ¬ KeepsWatch s lab := by
  cases lab with
  | check i t₁ t₂ => exact h.check_oversleeps_iff i t₁ t₂
  | tick t => exact iff_of_false hs (not_not_intro trivial)
  | add by_worker job w woken =>
    refine iff_of_false ?_ (not_not_intro trivial)
    have hwoken : can_wake s.workers woken := by
      cases by_worker <;> exact hen.2
    obtain ⟨nodes, queue, hadd, -⟩ := t_pool_add_work_spec h.runs job w
    have hexec : exec s (.add by_worker job w woken) = _ := congrArg (Option.map _) hadd
    rw [pool_step, hexec]
    -- the signal wakes a sleeper, or there was none
    cases woken with
    | none => exact not_oversleeps_of_awake hwoken
    | some i => exact not_oversleeps_set_worker rfl
  | wake i =>
    exact iff_of_false (not_oversleeps_set_worker (WorkerPc.alert_awake hen))
      (not_not_intro trivial)
  | finish i =>
    refine iff_of_false ?_ (not_not_intro trivial)
    obtain ⟨tp', l', hstep, -⟩ := h.step (.finish i) hen (by simp)
    -- the worker that finishes is ready, hence alert
    generalize pool_step s (.finish i) = s' at hstep
    cases hstep with
    | finish i work hi => exact not_oversleeps_set_worker rfl
  | destroy =>
    refine iff_of_false ?_ (not_not_intro trivial)
    obtain ⟨nodes, works, hd, -⟩ := t_pool_destroy_spec h.runs h.jobs.queued_nodup
    have hexec : exec s (.destroy : PoolLabel J n) = _ := hd
    rw [pool_step, hexec]
    exact not_oversleeps_of_awake fun i => WorkerPc.waits_awake _
  | release =>
    have hd : s.destroyer = .waiting := hen.1
    rw [h.up] at hd
    cases hd

/-! ### Steps after it -/

/-- `t_pool_destroy` has woken every worker, and none goes back to sleep. -/
structure AllUp (s : PoolState J n) : Prop where
  awake : ∀ i, (s.workers i).waits = false
  stop : ∀ tp ∈ s.pool, tp.stop = true

theorem AllUp.set_worker {s : PoolState J n} (h : AllUp s) {i : Fin n} {pc : WorkerPc}
    (hpc : pc.waits = false) : AllUp (s.set_worker i pc) where
  awake := by
    intro j
    by_cases hj : j = i
    · subst hj
      simpa [PoolState.set_worker] using hpc
    · simpa [PoolState.set_worker, hj] using h.awake j
  stop := h.stop

/-- An item is added to the pool, and wakes nobody: all are awake. -/
theorem AllUp.add {s s' : PoolState J n} (h : AllUp s) {job : J} {w : Timeval}
    {woken : Option (Fin n)} (hwoken : can_wake s.workers woken)
    (hadd : t_pool_add_work s job w = some s') : AllUp (signal s' woken) := by
  simp only [t_pool_add_work, Option.bind_eq_bind, Option.bind_eq_some_iff,
    Option.some.injEq] at hadd
  obtain ⟨tp, hp, ⟨nodes, queue⟩, -, rfl⟩ := hadd
  cases woken with
  | none =>
    refine ⟨h.awake, ?_⟩
    rintro tp' ⟨⟩
    exact h.stop tp hp
  | some i => exact absurd hwoken (Bool.eq_false_iff.mp (h.awake i))

/-- A worker leaves its loop: the pool is there, since the step is no fault,
    and it is stopped. -/
theorem AllUp.check {s s' : PoolState J n} (h : AllUp s) {i : Fin n} {t₁ t₂ : Timeval}
    (hcheck : exec s (.check i t₁ t₂) = some s') : AllUp s' := by
  cases hp : s.pool with
  | none => simp [exec, thread_check, hp] at hcheck
  | some tp =>
    have hstop := h.stop tp hp
    rw [check_exits hp hstop] at hcheck
    cases hcheck
    have hleft : AllUp { s with pool := some { tp with thread_count := tp.thread_count - 1 } } :=
      ⟨h.awake, by rintro tp' ⟨⟩; exact hstop⟩
    have hset := @AllUp.set_worker _ _ _ hleft i .exited rfl
    exact ⟨hset.awake, hset.stop⟩

/-- **Step lemma**: once the pool is destroyed nobody sleeps again. -/
theorem AllUp.step {s s' : PoolState J n} {lab : PoolLabel J n} (h : AllUp s)
    (hd : s.destroyer ≠ .not_called) (hs : (pool_system J n).step s lab s') : AllUp s' := by
  obtain ⟨⟨-, hen⟩, rfl⟩ := hs
  rw [pool_step]
  cases hexec : exec s lab with
  | none => exact ⟨h.awake, h.stop⟩
  | some s' =>
    rw [Option.getD_some]
    cases lab with
    | tick t =>
      cases hexec
      exact ⟨h.awake, h.stop⟩
    | add by_worker job w woken =>
      have hwoken : can_wake s.workers woken := by
        cases by_worker <;> exact hen.2
      obtain ⟨s₁, hadd, rfl⟩ := Option.map_eq_some_iff.mp hexec
      exact h.add hwoken hadd
    | check i t₁ t₂ => exact h.check hexec
    | wake i => exact absurd hen (Bool.eq_false_iff.mp (h.awake i))
    | finish i =>
      obtain ⟨work, -, rfl⟩ := finish_cases hexec
      have hdone : AllUp (s.finished work) := ⟨h.awake, h.stop⟩
      exact hdone.set_worker rfl
    | destroy => exact absurd hen hd
    | release =>
      cases hexec
      exact ⟨h.awake, by rintro tp ⟨⟩⟩

theorem AllUp.keepsWatch {s : PoolState J n} (h : AllUp s) (lab : PoolLabel J n) :
    KeepsWatch s lab := by
  cases lab with
  | check i t₁ t₂ =>
    intro tp hp hleaves
    have hstop := h.stop tp hp
    simp [LeavesWork, must_wait, hstop] at hleaves
  | _ => trivial

/-! ### Runs -/

theorem reachable_allUp {s : PoolState J n} (h : (pool_system J n).Reachable s)
    (hd : s.destroyer ≠ .not_called) : AllUp s := by
  refine System.Reachable.invariant_from (A := fun s => s.destroyer ≠ .not_called) ?_ ?_ ?_ h hd
  · rintro s ⟨tv_usec, clock, rfl⟩ hd
    exact hd rfl
  · intro s lab s' hreach hup hs hd'
    have hup : s.destroyer = .not_called := Decidable.not_not.mp hup
    obtain ⟨tp, l, hp⟩ := reachable_up hreach hup
    rcases hp.runs.step hp.jobs.queued_nodup hup hs with ⟨rfl, hd⟩ | ⟨tp', l', hstep⟩
    · obtain ⟨nodes, works, hspec, -⟩ := t_pool_destroy_spec hp.runs hp.jobs.queued_nodup
      rw [hspec] at hd
      obtain rfl := Option.some.inj hd
      exact ⟨fun i => WorkerPc.waits_awake _, by rintro _ ⟨⟩; rfl⟩
    · exact absurd (hstep.destroyer.trans hup) hd'
  · exact fun s lab s' hup ih hs => ih.step hup hs

/-- A step from a state without oversleeping makes the workers oversleep
    exactly when it does not keep watch. -/
theorem oversleeps_step_iff {s s' : PoolState J n} {lab : PoolLabel J n}
    (h : (pool_system J n).Reachable s) (hn : ¬ Oversleeps s)
    (hs : (pool_system J n).step s lab s') : Oversleeps s' ↔ ¬ KeepsWatch s lab := by
  by_cases hup : s.destroyer = .not_called
  · obtain ⟨tp, l, hp⟩ := reachable_up h hup
    obtain ⟨⟨-, hen⟩, rfl⟩ := hs
    exact hp.oversleeps_iff hn hen
  · have hall := reachable_allUp h hup
    exact iff_of_false (not_oversleeps_of_awake (hall.step hup hs).awake)
      (not_not_intro (hall.keepsWatch lab))

/-- **No lost wake-up** in a run whose steps all keep watch; and a step that
    does not keep watch ends such a run in a lost wake-up. -/
theorem no_lost_wakeup {s : PoolState J n}
    (h : ((pool_system J n).guarded KeepsWatch).Reachable s) :
    ¬ Oversleeps s ∧
      ∀ lab s', (pool_system J n).step s lab s' → (Oversleeps s' ↔ ¬ KeepsWatch s lab) := by
  have hn : ¬ Oversleeps s := by
    refine System.Reachable.invariant (I := fun s => ¬ Oversleeps s) ?_ ?_ h
    · rintro s ⟨tv_usec, clock, rfl⟩
      exact not_oversleeps_of_awake fun _ => rfl
    · intro s lab s' hreach ih hs
      rw [oversleeps_step_iff hreach.of_guarded ih hs.2]
      exact not_not_intro hs.1
  exact ⟨hn, fun lab s' hs => oversleeps_step_iff h.of_guarded hn hs⟩

/-- The workers of a pool of two. -/
def worker_a : Fin 2 := ⟨0, Nat.zero_lt_two⟩
def worker_b : Fin 2 := ⟨1, Nat.one_lt_two⟩

/-- A job for second 100 wakes one of two workers, which goes into a timed
    wait; a job that is due wakes the other one, which takes it. -/
def watched_queue : PoolState Unit 2 :=
  [.check worker_a ⟨1, 0⟩ ⟨1, 0⟩, .check worker_b ⟨1, 0⟩ ⟨1, 0⟩,
    .add none () ⟨100, 0⟩ (some worker_a), .check worker_a ⟨1, 0⟩ ⟨1, 0⟩,
    .add none () ⟨0, 0⟩ (some worker_b), .check worker_b ⟨1, 0⟩ ⟨1, 0⟩].foldl pool_step
    (t_pool_init 2 0 ⟨1, 0⟩)

theorem no_lost_wakeup_watched : ¬ Oversleeps watched_queue :=
  (no_lost_wakeup (System.reachable_foldl_guarded (.init (by exact ⟨0, ⟨1, 0⟩, rfl⟩))
    (by decide))).1

/-- The same, but the second signal hits the worker in the timed wait: it
    takes the job that is due, and nobody waits for the other one. -/
def unwatched_queue : PoolState Unit 2 :=
  [.check worker_a ⟨1, 0⟩ ⟨1, 0⟩, .check worker_b ⟨1, 0⟩ ⟨1, 0⟩,
    .add none () ⟨100, 0⟩ (some worker_a), .check worker_a ⟨1, 0⟩ ⟨1, 0⟩,
    .add none () ⟨0, 0⟩ (some worker_a), .check worker_a ⟨1, 0⟩ ⟨1, 0⟩].foldl pool_step
    (t_pool_init 2 0 ⟨1, 0⟩)

theorem wakeup_lost : (pool_system Unit 2).Reachable unwatched_queue ∧
    unwatched_queue.workers worker_b = .waiting ∧ Oversleeps unwatched_queue := by
  refine ⟨System.reachable_foldl (init_reachable 0 ⟨1, 0⟩) (by decide), by decide, ?_⟩
  exact ⟨by decide, by decide, by decide⟩

end DiscoC
