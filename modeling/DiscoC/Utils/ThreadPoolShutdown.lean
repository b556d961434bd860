import Mathlib.Data.Fintype.Card
import DiscoC.Utils.ThreadPoolInvariant

/-! # Shutting the thread pool down

  `t_pool_destroy` frees the queue under the lock and then lets go of it
  until the workers are through. Two things can go wrong:

  * `prio_destroy_queue` stops before the last of two or more nodes, which
    is never freed.
  * A running job may still add work. The queue it adds to has lost its
    nodes but not its head pointer; and nobody frees what is added to a
    queue that was empty.

  Apart from these, the shutdown is clean (`shutdown_clean`).
-/

namespace DiscoC

variable {J : Type} {n : Nat}

/-! ### The pool on its way down -/

/-- The workers that are still in `thread_work_loop`. -/
def active_workers (s : PoolState J n) : Finset (Fin n) :=
  Finset.univ.filter fun i => s.workers i ≠ .exited

/-- `t_pool_destroy` has freed the queue; the workers finish their jobs. -/
structure PoolStops (s : PoolState J n) : Prop where
  no_fault : s.fault = false
  nodes : ∀ p, s.nodes.load p = none
  works : ∀ w, (s.works.load w).isSome ↔ ∃ i, s.running i = some w
  unique : ∀ i j w, s.running i = some w → s.running j = some w → i = j
  pool : (s.destroyer = .waiting ∧ ∃ tp, s.pool = some tp ∧ tp.stop = true ∧
      tp.thread_count = (active_workers s).card) ∨
    (s.destroyer = .returned ∧ s.pool = none ∧ ∀ i, s.workers i = .exited)

/-- The pool is destroyed with one job in the queue at most, and no job is
    added from then on. -/
def ShutsDown (s : PoolState J n) : PoolLabel J n → Prop
  | .destroy => ∀ tp ∈ s.pool, tp.queue.size ≤ 1
  | .add _ _ _ _ => ∀ tp ∈ s.pool, tp.stop = false
  | _ => True

instance (s : PoolState J n) : ∀ lab, Decidable (ShutsDown s lab)
  | .destroy => inferInstanceAs (Decidable (∀ tp ∈ s.pool, tp.queue.size ≤ 1))
  | .add _ _ _ _ => inferInstanceAs (Decidable (∀ tp ∈ s.pool, tp.stop = false))
  | .tick _ => inferInstanceAs (Decidable True)
  | .check _ _ _ => inferInstanceAs (Decidable True)
  | .wake _ => inferInstanceAs (Decidable True)
  | .finish _ => inferInstanceAs (Decidable True)
  | .release => inferInstanceAs (Decidable True)

/-- One node at most is freed in full. -/
theorem prio_freed_of_length_le {l : List (Nat × PrioEntry)} (h : l.length ≤ 1) :
    prio_freed l = l := by
  match l with
  | [] => rfl
  | [x] => rfl
  | x :: y :: l => simp at h

theorem mem_active_workers {s : PoolState J n} {i : Fin n} :
    i ∈ active_workers s ↔ s.workers i ≠ .exited := by
  rw [active_workers, Finset.mem_filter]
  exact and_iff_right (Finset.mem_univ i)

theorem active_workers_set_worker {s : PoolState J n} {i : Fin n} {pc : WorkerPc}
    (hi : s.workers i ≠ .exited) (hpc : pc ≠ .exited) :
    active_workers (s.set_worker i pc) = active_workers s := by
  ext j
  rw [mem_active_workers, mem_active_workers]
  by_cases hj : j = i
  · subst hj
    simp [PoolState.set_worker, hi, hpc]
  · simp [PoolState.set_worker, hj]

theorem active_workers_exit {s : PoolState J n} {i : Fin n} (hi : s.workers i ≠ .exited) :
    (active_workers (s.set_worker i .exited)).card + 1 = (active_workers s).card := by
  have herase : active_workers (s.set_worker i .exited) = (active_workers s).erase i := by
    ext j
    rw [Finset.mem_erase, mem_active_workers, mem_active_workers]
    by_cases hj : j = i
    · subst hj
      simp [PoolState.set_worker]
    · simp [PoolState.set_worker, hj]
  rw [herase]
  exact Finset.card_erase_add_one (mem_active_workers.mpr hi)

/-! ### Going down -/

/-- **`t_pool_destroy`** with one job in the queue at most. -/
theorem PoolRuns.destroy {s s' : PoolState J n} {tp : ThreadPool} {l : List (Nat × PrioEntry)}
    (hr : PoolRuns s tp l) (hj : (pool_jobs s l).Conserved) (hsize : tp.queue.size ≤ 1)
    (hd : t_pool_destroy s = some s') : PoolStops s' := by
  obtain ⟨nodes, works, hd', hnodes, hworks⟩ := t_pool_destroy_spec hr hj.queued_nodup
  rw [hd'] at hd
  cases Option.some.inj hd
  -- one node at most: the loop that frees them misses none
  rw [prio_freed_of_length_le (hr.holds.size ▸ hsize)] at hnodes
  have hrun := running_torn_down s nodes works tp
  exact {
    no_fault := hr.no_fault
    nodes := fun p => by
      show nodes.load p = none
      rw [hnodes]
      by_cases hp : p ∈ l.map Prod.fst
      · rw [if_pos hp]
      · rw [if_neg hp, ← Option.not_isSome_iff_eq_none, hr.nodes_live]
        exact hp
    works := fun w => by
      rw [hrun]
      show (works.load w).isSome ↔ _
      rw [hworks]
      by_cases hw : w ∈ queued_works l
      -- a queued item is freed, and no worker has it
      · rw [if_pos hw]
        simp only [Option.isSome_none, Bool.false_eq_true, false_iff, not_exists]
        exact fun i hi => hj.not_queued (w := i) hi hw
      · rw [if_neg hw, hr.works_live]
        simp [hw]
    unique := fun i j w hi hj' => by
      rw [hrun] at hi hj'
      exact hj.running_unique hi hj'
    pool := .inl ⟨rfl, _, rfl, rfl, by
      -- all workers are still in their loops, awake
      have hall : active_workers (s.torn_down nodes works tp) = Finset.univ :=
        Finset.filter_true_of_mem fun i _ h => hr.active i (WorkerPc.awake_eq_exited.mp h)
      rw [hall]
      simpa using hr.count⟩ }

/-- A worker that moves on with the work it has. -/
theorem PoolStops.set_worker {s : PoolState J n} (hs : PoolStops s) {i : Fin n} {pc : WorkerPc}
    (hwork : pc.work = (s.workers i).work) (hi : s.workers i ≠ .exited) (hpc : pc ≠ .exited) :
    PoolStops (s.set_worker i pc) where
  no_fault := hs.no_fault
  nodes := hs.nodes
  works := by
    rw [PoolState.running_set_worker_of_same hwork]
    exact hs.works
  unique := by
    rw [PoolState.running_set_worker_of_same hwork]
    exact hs.unique
  pool := by
    rw [active_workers_set_worker hi hpc]
    rcases hs.pool with h | ⟨_, _, hex⟩
    · exact .inl h
    · exact absurd (hex i) hi

/-- As long as a worker is in its loop, `t_pool_destroy` waits for it. -/
theorem PoolStops.waits {s : PoolState J n} (hs : PoolStops s) {i : Fin n}
    (hi : s.workers i ≠ .exited) : s.destroyer = .waiting ∧ ∃ tp, s.pool = some tp ∧
      tp.stop = true ∧ tp.thread_count = (active_workers s).card := by
  rcases hs.pool with h | ⟨-, -, hex⟩
  · exact h
  · exact absurd (hex i) hi

/-- No job is added: the pool is stopped, and without it no worker is left. -/
theorem PoolStops.not_added {s : PoolState J n} (hs : PoolStops s) {by_worker : Option (Fin n)}
    {job : J} {w : Timeval} {woken : Option (Fin n)}
    (hlab : ShutsDown s (.add by_worker job w woken)) :
    ¬ enabled s (.add by_worker job w woken) := by
  intro hen
  rcases hs.pool with ⟨-, tp, hpool, hstop, -⟩ | ⟨hd, -, hex⟩
  · have hrunning : tp.stop = false := hlab tp hpool
    rw [hstop] at hrunning
    cases hrunning
  · cases by_worker with
    | none =>
      have hup : s.destroyer = .not_called := hen.1
      rw [hd] at hup
      cases hup
    | some i =>
      have hwork : (s.workers i).work.isSome := hen.1
      rw [hex i] at hwork
      cases hwork

/-- A worker leaves its loop, and is counted out. -/
theorem PoolStops.exit {s : PoolState J n} {tp : ThreadPool} (hs : PoolStops s)
    (hd : s.destroyer = .waiting) (hstop : tp.stop = true)
    (hcount : tp.thread_count = (active_workers s).card) {i : Fin n} (hi : s.workers i = .ready) :
    PoolStops ({ s with
      pool := some { tp with thread_count := tp.thread_count - 1 } }.set_worker i .exited) := by
  have hrun : (s.set_worker i .exited).running = s.running :=
    PoolState.running_set_worker_of_same (by rw [hi]; rfl)
  -- the count of the threads goes down with the number of workers
  have hexit : (active_workers (s.set_worker i .exited)).card + 1 = (active_workers s).card :=
    active_workers_exit (by rw [hi]; simp)
  exact {
    no_fault := hs.no_fault
    nodes := hs.nodes
    works := fun w => (hs.works w).trans (by rw [← hrun]; rfl)
    unique := fun j k w hj hk =>
      hs.unique j k w ((congrFun hrun j).symm.trans hj) ((congrFun hrun k).symm.trans hk)
    pool := .inl ⟨hd, _, rfl, hstop, by
      show tp.thread_count - 1 = ((active_workers (s.set_worker i .exited)).card : Int)
      omega⟩ }

/-- A worker frees the work item it has executed. -/
theorem PoolStops.finished {s : PoolState J n} (hs : PoolStops s) {i : Fin n} {work : Nat}
    (hi : s.workers i = .executing work) :
    PoolStops ((s.finished work).set_worker i .ready) := by
  have hne : s.workers i ≠ .exited := by rw [hi]; simp
  have hrun : s.running i = some work := WorkerPc.work_eq_some.mpr hi
  have hact : active_workers ((s.finished work).set_worker i .ready) = active_workers s :=
    active_workers_set_worker (s := s.finished work) hne (by simp)
  exact {
    no_fault := hs.no_fault
    nodes := hs.nodes
    works := fun w => by
      rw [running_finished, JobPool.exists_update_none hrun fun j hj => hs.unique j i work hj hrun]
      show ((s.works.erase work).load w).isSome ↔ _
      rw [Store.load_erase]
      by_cases hw : w = work
      · simp [hw]
      · simpa [hw] using hs.works w
    unique := fun j k w hj hk =>
      hs.unique j k w (running_of_finished hj).2 (running_of_finished hk).2
    pool := by
      rw [hact]
      exact .inl (hs.waits hne) }

/-- With no worker left in its loop, `t_pool_destroy` frees the pool. -/
theorem PoolStops.release {s : PoolState J n} (hs : PoolStops s)
    (hidle : ∀ i, s.workers i = .exited) : PoolStops (t_pool_release s) where
  no_fault := hs.no_fault
  nodes := hs.nodes
  works := hs.works
  unique := hs.unique
  pool := .inr ⟨rfl, rfl, hidle⟩

/-- The count of the threads is right, so that at 0 all workers are gone. -/
theorem PoolStops.all_exited {s : PoolState J n} (hs : PoolStops s)
    (hcount : ∀ tp ∈ s.pool, tp.thread_count ≤ 0) (i : Fin n) : s.workers i = .exited := by
  by_contra hi
  obtain ⟨-, tp, hpool, -, hthreads⟩ := hs.waits hi
  have hpos : 0 < (active_workers s).card :=
    Finset.card_pos.mpr ⟨i, mem_active_workers.mpr hi⟩
  have hzero := hcount tp hpool
  omega

/-- **Step lemma**: on the way down no step is a fault. -/
theorem PoolStops.step {s s' : PoolState J n} {lab : PoolLabel J n} (hs : PoolStops s)
    (hlab : ShutsDown s lab) (hstep : (pool_system J n).step s lab s') : PoolStops s' := by
  obtain ⟨⟨-, hen⟩, rfl⟩ := hstep
  cases lab with
  | tick t => exact { hs with }
  | add by_worker job w woken => exact absurd hen (hs.not_added hlab)
  | check i t₁ t₂ =>
    obtain ⟨hi, -⟩ := hen
    obtain ⟨hd, tp, hpool, hstop, hcount⟩ := hs.waits (i := i) (by rw [hi]; simp)
    rw [pool_step, check_exits hpool hstop, Option.getD_some]
    exact { hs.exit hd hstop hcount hi with }
  | wake i =>
    have hwaits : (s.workers i).waits = true := hen
    have hne : s.workers i ≠ .exited := by
      intro h
      rw [h] at hwaits
      cases hwaits
    exact hs.set_worker (WorkerPc.work_awake _) hne fun h => hne (WorkerPc.awake_eq_exited.mp h)
  | finish i =>
    obtain ⟨work, hwork⟩ : ∃ work, s.running i = some work := Option.isSome_iff_exists.mp hen
    have hi : s.workers i = .executing work := WorkerPc.work_eq_some.mp hwork
    -- the work item of a worker is live, so that freeing it is no fault
    obtain ⟨v, hload⟩ := Option.isSome_iff_exists.mp ((hs.works work).mpr ⟨i, hwork⟩)
    rw [pool_step, finish_frees hi hload, Option.getD_some]
    exact hs.finished hi
  | destroy =>
    have hup : s.destroyer = .not_called := hen
    rcases hs.pool with ⟨hd, -⟩ | ⟨hd, -⟩
    · rw [hd] at hup
      cases hup
    · rw [hd] at hup
      cases hup
  | release => exact hs.release (hs.all_exited hen.2)

/-- **Run lemma**: a pool that is shut down in this way goes all the way. -/
theorem reachable_stops {s : PoolState J n}
    (h : ((pool_system J n).guarded ShutsDown).Reachable s) (hd : s.destroyer ≠ .not_called) :
    PoolStops s := by
  refine System.Reachable.invariant_from (A := fun s => s.destroyer ≠ .not_called) ?_ ?_ ?_ h hd
  · rintro s ⟨tv_usec, clock, rfl⟩ hd
    exact hd rfl
  · intro s lab s' hreach hup hs hd'
    have hup : s.destroyer = .not_called := Decidable.not_not.mp hup
    obtain ⟨tp, l, hr, hj, -⟩ := reachable_up hreach.of_guarded hup
    rcases hr.step hj.queued_nodup hup hs.2 with ⟨rfl, hd⟩ | ⟨tp', l', hstep⟩
    · exact hr.destroy hj (hs.1 tp hr.pool) hd
    · exact absurd (hstep.destroyer.trans hup) hd'
  · exact fun s lab s' _ ih hs => ih.step hs.1 hs.2

/-- No access to a freed block or to the freed pool, and no double free;
    once `t_pool_destroy` has torn the queue down, no node is left and no
    work item but those of running jobs; once it returns, none at all. -/
structure ShutdownSafe (s : PoolState J n) : Prop where
  no_fault : s.fault = false
  nodes : s.destroyer ≠ .not_called → s.nodes.live = []
  works : s.destroyer ≠ .not_called → ∀ w ∈ s.works.live, ∃ i, s.workers i = .executing w
  returned : s.destroyer = .returned → s.works.live = []

/-- **Shutdown is clean** in a run that destroys the pool with one job in the
    queue at most and adds none afterwards. -/
theorem shutdown_clean {s : PoolState J n}
    (h : ((pool_system J n).guarded ShutsDown).Reachable s) : ShutdownSafe s := by
  by_cases hup : s.destroyer = .not_called
  · obtain ⟨tp, l, hr, _⟩ := reachable_up h.of_guarded hup
    exact ⟨hr.no_fault, absurd hup, absurd hup, fun hret => by rw [hup] at hret; cases hret⟩
  · have hs := reachable_stops h hup
    have hworks : ∀ w ∈ s.works.live, ∃ i, s.workers i = .executing w := by
      intro w hw
      obtain ⟨i, hi⟩ := (hs.works w).mp (Option.isSome_iff_exists.mpr (Store.mem_live.mp hw))
      exact ⟨i, WorkerPc.work_eq_some.mp hi⟩
    refine ⟨hs.no_fault, fun _ => ?_, fun _ => hworks, fun hret => ?_⟩
    · refine List.eq_nil_iff_forall_not_mem.mpr fun p hp => ?_
      obtain ⟨v, hv⟩ := Store.mem_live.mp hp
      rw [hs.nodes] at hv
      cases hv
    · refine List.eq_nil_iff_forall_not_mem.mpr fun w hw => ?_
      obtain ⟨i, hi⟩ := hworks w hw
      -- when it returns no worker is left to have an item
      rcases hs.pool with ⟨hd, _⟩ | ⟨_, _, hex⟩
      · rw [hret] at hd
        cases hd
      · rw [hex i] at hi
        cases hi

/-- The worker of a pool of one. -/
def only_worker : Fin 1 := ⟨0, Nat.one_pos⟩

/-- The pool is destroyed while its one worker runs a job, with one more job
    in the queue. -/
def shutdown_of_one : PoolState Unit 1 :=
  [.add none () ⟨0, 0⟩ none, .add none () ⟨0, 0⟩ none, .check only_worker ⟨1, 0⟩ ⟨1, 0⟩, .destroy,
    .finish only_worker, .check only_worker ⟨1, 0⟩ ⟨1, 0⟩, .release].foldl pool_step
    (t_pool_init 1 0 ⟨1, 0⟩)

theorem shutdown_clean_of_one : ShutdownSafe shutdown_of_one :=
  shutdown_clean (System.reachable_foldl_guarded (.init (by exact ⟨0, ⟨1, 0⟩, rfl⟩)) (by decide))

/-- The pool is destroyed with two jobs in the queue. -/
def shutdown_of_two : PoolState Unit 1 :=
  [.add none () ⟨0, 0⟩ none, .add none () ⟨0, 0⟩ none, .destroy, .check only_worker ⟨1, 0⟩ ⟨1, 0⟩,
    .release].foldl pool_step (t_pool_init 1 0 ⟨1, 0⟩)

/-- The pool is destroyed with one job in the queue, and the running job adds
    another one. -/
def add_after_destroy : PoolState Unit 1 :=
  [.add none () ⟨0, 0⟩ none, .add none () ⟨0, 0⟩ none, .check only_worker ⟨1, 0⟩ ⟨1, 0⟩, .destroy,
    .add (some only_worker) () ⟨2, 0⟩ none].foldl pool_step (t_pool_init 1 0 ⟨1, 0⟩)

/-- In the first case the last node is never freed; in the second one
    `prio_push` reads a freed node. -/
theorem shutdown_unsafe :
    ((pool_system Unit 1).Reachable shutdown_of_two ∧ shutdown_of_two.destroyer = .returned ∧
      shutdown_of_two.nodes.live = [0] ∧ ¬ ShutdownSafe shutdown_of_two) ∧
    (pool_system Unit 1).Reachable add_after_destroy ∧ add_after_destroy.fault = true ∧
      ¬ ShutdownSafe add_after_destroy := by
  refine ⟨⟨System.reachable_foldl (init_reachable 0 ⟨1, 0⟩) (by decide), by decide, by decide, ?_⟩,
    System.reachable_foldl (init_reachable 0 ⟨1, 0⟩) (by decide), by decide, ?_⟩
  · exact fun h => absurd (h.nodes (by decide)) (by decide)
  · exact fun h => absurd h.no_fault (by decide)

end DiscoC
