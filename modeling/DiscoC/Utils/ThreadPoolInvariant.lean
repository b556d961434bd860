import DiscoC.Framework.JobPool
import DiscoC.Utils.ThreadPool

/-! # The thread pool conserves its jobs

  Until `t_pool_destroy` is called, the queue is a list of work items
  (`PoolRuns`), and each step of a thread is a step on that list
  (`PoolStep`). On the jobs alone it is a step of a `JobPool` or none
  (`PoolStep.job_step`), so that every job ever added is in the queue, with
  one worker, or executed.
-/

namespace DiscoC

variable {J : Type} {n : Nat}

/-! ### The pool as a list of work items -/

@[simp] theorem WorkerPc.work_eq_some {pc : WorkerPc} {work : Nat} :
    pc.work = some work ↔ pc = .executing work := by
  cases pc <;> simp [WorkerPc.work]

@[simp] theorem WorkerPc.work_awake (pc : WorkerPc) : pc.awake.work = pc.work := by
  cases pc <;> rfl

theorem WorkerPc.work_of_waits {pc : WorkerPc} (h : pc.waits = true) : pc.work = none := by
  cases pc <;> simp_all [WorkerPc.waits, WorkerPc.work]

theorem WorkerPc.awake_eq_exited {pc : WorkerPc} : pc.awake = .exited ↔ pc = .exited := by
  cases pc <;> simp [WorkerPc.awake]

/-- What each worker executes. -/
def PoolState.running (s : PoolState J n) : Fin n → Option Nat := fun i => (s.workers i).work

theorem PoolState.running_set_worker (s : PoolState J n) (i : Fin n) (pc : WorkerPc) :
    (s.set_worker i pc).running = Function.update s.running i pc.work := by
  funext j
  by_cases hj : j = i
  · subst hj
    simp [running, set_worker]
  · simp [running, set_worker, hj]

/-- A worker that moves on with the work it has. -/
theorem PoolState.running_set_worker_of_same {s : PoolState J n} {i : Fin n} {pc : WorkerPc}
    (h : pc.work = (s.workers i).work) : (s.set_worker i pc).running = s.running := by
  rw [running_set_worker, h]
  exact Function.update_eq_self i s.running

theorem running_signal {s : PoolState J n} {woken : Option (Fin n)}
    (h : ∀ i ∈ woken, (s.workers i).waits = true) : (signal s woken).running = s.running := by
  cases woken with
  | none => rfl
  | some i => exact PoolState.running_set_worker_of_same (WorkerPc.work_of_waits (h i rfl)).symm

/-- The work items of the queue. -/
def queued_works (l : List (Nat × PrioEntry)) : List Nat := l.map fun e => e.2.1

@[simp] theorem queued_works_nil : queued_works [] = [] := rfl

@[simp] theorem queued_works_cons (e : Nat × PrioEntry) (l : List (Nat × PrioEntry)) :
    queued_works (e :: l) = e.2.1 :: queued_works l := rfl

theorem queued_works_insert (e : Nat × PrioEntry) (l : List (Nat × PrioEntry)) :
    (queued_works (prio_insert e l)).Perm (e.2.1 :: queued_works l) :=
  (prio_insert_perm e l).map _

/-- The pool `tp` is up, and its queue is the list `l`. -/
structure PoolRuns (s : PoolState J n) (tp : ThreadPool) (l : List (Nat × PrioEntry)) : Prop where
  pool : s.pool = some tp
  stop : tp.stop = false
  count : tp.thread_count = n
  holds : QueueHolds s.nodes tp.queue l
  /-- No node is outside the queue. -/
  nodes_live : ∀ p, (s.nodes.load p).isSome ↔ p ∈ l.map Prod.fst
  /-- No work item is outside the queue and the workers. -/
  works_live : ∀ w, (s.works.load w).isSome ↔
    w ∈ queued_works l ∨ ∃ i, s.running i = some w
  /-- A node is due when its work item is. -/
  times : ∀ e ∈ l, ∃ work, s.works.load e.2.1 = some work ∧ work.wait_until = e.2.2
  active : ∀ i, s.workers i ≠ .exited
  added : ∀ w ∈ s.added, w < s.works.next
  no_fault : s.fault = false

/-- The jobs of the pool. -/
def pool_jobs (s : PoolState J n) (l : List (Nat × PrioEntry)) : JobPool (Fin n) Nat where
  added := s.added
  queued := queued_works l
  running := s.running
  executed := s.executed

/-- The pool with a new queue. -/
def ThreadPool.with_queue (tp : ThreadPool) (queue : PrioQueue) (sleep_until : Timeval) :
    ThreadPool :=
  { tp with queue, sleep_until }

/-- The state after `t_pool_add_work` has added an item. -/
def PoolState.pushed (s : PoolState J n) (nodes : Store PrioNode) (tp : ThreadPool) (job : J)
    (w : Timeval) : PoolState J n :=
  { s with
    nodes
    works := s.works.alloc { job, wait_until := w }
    pool := some tp
    added := s.works.next :: s.added }

/-- The state after `t_pool_pop_work` has freed the node `p`. -/
def PoolState.popped (s : PoolState J n) (p : Nat) (tp : ThreadPool) : PoolState J n :=
  { s with nodes := s.nodes.erase p, pool := some tp }

/-- The state after a worker has freed its work item. -/
def PoolState.finished (s : PoolState J n) (work : Nat) : PoolState J n :=
  { s with works := s.works.erase work, executed := work :: s.executed }

/-- The state after `t_pool_destroy` has torn down the queue. -/
def PoolState.torn_down (s : PoolState J n) (nodes : Store PrioNode) (works : Store (Work J))
    (tp : ThreadPool) : PoolState J n :=
  { s with
    nodes, works
    pool := some { tp with stop := true }
    workers := fun i => (s.workers i).awake
    destroyer := .waiting }

/-- The state at another time. -/
def PoolState.at_time (s : PoolState J n) (t : Timeval) : PoolState J n :=
  { s with clock := t }

theorem running_pushed {s : PoolState J n} {nodes : Store PrioNode} {tp : ThreadPool} {job : J}
    {w : Timeval} {woken : Option (Fin n)} (h : ∀ i ∈ woken, (s.workers i).waits = true) :
    (signal (s.pushed nodes tp job w) woken).running = s.running :=
  (running_signal h : (signal (s.pushed nodes tp job w) woken).running = _)

theorem running_torn_down (s : PoolState J n) (nodes : Store PrioNode) (works : Store (Work J))
    (tp : ThreadPool) : (s.torn_down nodes works tp).running = s.running := by
  funext i
  exact WorkerPc.work_awake (s.workers i)

theorem running_finished (s : PoolState J n) (work : Nat) (i : Fin n) :
    ((s.finished work).set_worker i .ready).running = Function.update s.running i none :=
  PoolState.running_set_worker _ i _

/-- What still runs when the worker `i` has finished ran before. -/
theorem running_of_finished {s : PoolState J n} {work w : Nat} {i j : Fin n}
    (h : ((s.finished work).set_worker i .ready).running j = some w) :
    j ≠ i ∧ s.running j = some w := by
  rw [running_finished, Function.update_apply] at h
  split at h
  next => cases h
  next hji => exact ⟨hji, h⟩

/-- The new `sleep_until` of `t_pool_pop_work`, when `l` is left. -/
def sleep_until_pop (sleep_until : Timeval) : List (Nat × PrioEntry) → Timeval
  | [] => { sleep_until with tv_sec := -1 }
  | e :: _ => e.2.2

/-! ### The functions on the list -/

theorem t_pool_add_work_spec {s : PoolState J n} {tp : ThreadPool} {l : List (Nat × PrioEntry)}
    (hr : PoolRuns s tp l) (job : J) (w : Timeval) :
    ∃ nodes queue, t_pool_add_work s job w =
        some (s.pushed nodes (tp.with_queue queue (sleep_until_add tp.sleep_until w)) job w) ∧
      QueueHolds nodes queue (prio_insert (s.nodes.next, (s.works.next, w)) l) ∧
      ∀ p, (nodes.load p).isSome ↔ p = s.nodes.next ∨ (s.nodes.load p).isSome := by
  obtain ⟨nodes, queue, hpush, hholds, _, hlive⟩ := prio_push_spec hr.holds s.works.next w
  refine ⟨nodes, queue, ?_, hholds, hlive⟩
  simp [t_pool_add_work, hr.pool, hpush, PoolState.pushed, ThreadPool.with_queue]

theorem t_pool_pop_work_spec {s : PoolState J n} {tp : ThreadPool} {p w : Nat} {t : Timeval}
    {l : List (Nat × PrioEntry)} (hr : PoolRuns s tp ((p, (w, t)) :: l)) :
    ∃ queue, t_pool_pop_work s =
        some (some w, s.popped p (tp.with_queue queue (sleep_until_pop tp.sleep_until l))) ∧
      QueueHolds (s.nodes.erase p) queue l := by
  obtain ⟨queue, hpop, hholds⟩ := prio_pop_cons hr.holds
  obtain ⟨v, hload, hv⟩ := hr.holds.chain.load_of_mem (List.mem_cons_self)
  obtain ⟨rfl, rfl⟩ := Prod.mk.inj hv
  have hnd := hr.holds.chain.nodup
  rw [List.map_cons, List.nodup_cons] at hnd
  have hchain : PrioSeg (s.nodes.erase p) queue.head l none := hholds.chain.frame_erase hnd.1
  refine ⟨queue, ?_, hchain, hholds.size⟩
  -- `sleep_until` is read from the new head, if there is one
  cases l with
  | nil =>
    have hhead : queue.head = none := hchain.eq_of_nil
    simp [t_pool_pop_work, sleep_until_head, hr.pool, hpop, hload, Store.free_of_live hload, hhead,
      sleep_until_pop, PoolState.popped, ThreadPool.with_queue]
  | cons e l =>
    obtain ⟨q, a⟩ := e
    obtain ⟨u, hhead, hloadq, rfl, _⟩ := hchain.inv_cons
    simp [t_pool_pop_work, sleep_until_head, hr.pool, hpop, hload, Store.free_of_live hload, hhead,
      hloadq, sleep_until_pop, PrioNode.entry, PoolState.popped, ThreadPool.with_queue]

/-- A worker that leaves the inner loop finds a node in the queue. -/
theorem PoolRuns.nonempty {s : PoolState J n} {tp : ThreadPool} {l : List (Nat × PrioEntry)}
    (hr : PoolRuns s tp l) {t : Timeval} (h : must_wait tp t = false) :
    is_future t tp.sleep_until = false ∧ ∃ p w d l', l = (p, (w, d)) :: l' := by
  simp only [must_wait, hr.stop, Bool.not_false, Bool.true_and, Bool.or_eq_false_iff,
    beq_eq_false_iff_ne, ne_eq] at h
  refine ⟨h.1, ?_⟩
  cases l with
  | nil => exact absurd hr.holds.size h.2
  | cons e l => exact ⟨e.1, e.2.1, e.2.2, l, rfl⟩

theorem destroy_works_spec {nodes : Store PrioNode} {l : List (Nat × PrioEntry)}
    {h : Option Nat} {works : Store (Work J)} {fuel : Nat} (hs : PrioSeg nodes h l none)
    (hlive : ∀ w ∈ queued_works l, (works.load w).isSome) (hnd : (queued_works l).Nodup)
    (hfuel : l.length ≤ fuel) :
    ∃ works', destroy_works nodes fuel works h = some works' ∧
      ∀ w, works'.load w = if w ∈ queued_works l then none else works.load w := by
  induction l generalizing h works fuel with
  | nil =>
    obtain rfl := hs.eq_of_nil
    exact ⟨works, by cases fuel <;> rfl, by simp⟩
  | cons e l ih =>
    obtain ⟨p, a⟩ := e
    obtain ⟨fuel, rfl⟩ := Nat.exists_eq_succ_of_ne_zero (Nat.ne_of_gt (Nat.zero_lt_of_lt hfuel))
    obtain ⟨v, rfl, hload, rfl, hrest⟩ := hs.inv_cons
    rw [queued_works_cons, List.nodup_cons] at hnd
    rw [queued_works_cons, List.forall_mem_cons] at hlive
    obtain ⟨u, hu⟩ := Option.isSome_iff_exists.mp hlive.1
    -- the other items are still live: no item is queued twice
    have hlive' : ∀ w ∈ queued_works l, ((works.erase v.data).load w).isSome := by
      intro w hw
      rw [Store.load_erase, if_neg (by rintro rfl; exact hnd.1 hw)]
      exact hlive.2 w hw
    obtain ⟨works', hloop, hload'⟩ := ih hrest hlive' hnd.2 (Nat.le_of_succ_le_succ hfuel)
    refine ⟨works', ?_, fun w => ?_⟩
    · have hfree : works.free v.data = some (works.erase v.data) := Store.free_of_live hu
      simp only [destroy_works, hload, hfree, Option.bind_eq_bind, Option.bind_some]
      exact hloop
    · rw [hload', Store.load_erase, queued_works_cons]
      simp only [List.mem_cons, PrioNode.entry]
      by_cases hw : w = v.data
      · simp [hw]
      · simp [hw]

/-- What `t_pool_destroy` does to a pool that is up. -/
theorem t_pool_destroy_spec {s : PoolState J n} {tp : ThreadPool} {l : List (Nat × PrioEntry)}
    (hr : PoolRuns s tp l) (hnd : (queued_works l).Nodup) :
    ∃ nodes works, t_pool_destroy s = some (s.torn_down nodes works tp) ∧
      (∀ p, nodes.load p = if p ∈ (prio_freed l).map Prod.fst then none else s.nodes.load p) ∧
      ∀ w, works.load w = if w ∈ queued_works l then none else s.works.load w := by
  obtain ⟨works, hworks, hwload⟩ := destroy_works_spec hr.holds.chain
    (fun w hw => (hr.works_live w).mpr (.inl hw)) hnd hr.holds.chain.length_le
  obtain ⟨nodes, hnodes, hnload⟩ := prio_destroy_queue_spec hr.holds
  refine ⟨nodes, works, ?_, hnload, hwload⟩
  simp [t_pool_destroy, hr.pool, hworks, hnodes, PoolState.torn_down]

/-! ### The steps on the list -/

/-- What a step before `t_pool_destroy` does. -/
inductive PoolStep (s : PoolState J n) (tp : ThreadPool) (l : List (Nat × PrioEntry)) :
    PoolLabel J n → PoolState J n → ThreadPool → List (Nat × PrioEntry) → Prop where
  | tick (t : Timeval) : s.clock ≤ t → PoolStep s tp l (.tick t) (s.at_time t) tp l
  | add (by_worker : Option (Fin n)) (job : J) (w : Timeval) (woken : Option (Fin n))
      (nodes : Store PrioNode) (tp' : ThreadPool) (queue : PrioQueue) :
      (∀ i ∈ woken, (s.workers i).waits = true) →
      QueueHolds nodes queue (prio_insert (s.nodes.next, (s.works.next, w)) l) →
      (∀ p, (nodes.load p).isSome ↔ p = s.nodes.next ∨ (s.nodes.load p).isSome) →
      tp' = tp.with_queue queue (sleep_until_add tp.sleep_until w) →
      PoolStep s tp l (.add by_worker job w woken) (signal (s.pushed nodes tp' job w) woken) tp'
        (prio_insert (s.nodes.next, (s.works.next, w)) l)
  | wait (i : Fin n) (t₁ t₂ : Timeval) (pc : WorkerPc) :
      s.workers i = .ready → s.clock ≤ t₂ → pc.waits = true →
      PoolStep s tp l (.check i t₁ t₂) ((s.set_worker i pc).at_time t₂) tp l
  | pop (i : Fin n) (t₁ t₂ : Timeval) (p w : Nat) (d : Timeval) (l' : List (Nat × PrioEntry))
      (tp' : ThreadPool) (queue : PrioQueue) :
      s.workers i = .ready → s.clock ≤ t₁ → t₁ ≤ t₂ → is_future t₁ tp.sleep_until = false →
      l = (p, (w, d)) :: l' → QueueHolds (s.nodes.erase p) queue l' →
      tp' = tp.with_queue queue (sleep_until_pop tp.sleep_until l') →
      PoolStep s tp l (.check i t₁ t₂)
        (((s.popped p tp').set_worker i (.executing w)).at_time t₂) tp' l'
  | wake (i : Fin n) : (s.workers i).waits = true →
      PoolStep s tp l (.wake i) (s.set_worker i (s.workers i).awake) tp l
  | finish (i : Fin n) (work : Nat) : s.workers i = .executing work →
      PoolStep s tp l (.finish i) ((s.finished work).set_worker i .ready) tp l

/-- A worker that must wait chooses its wait at the second time. -/
theorem check_waits {s : PoolState J n} {tp : ThreadPool} (hp : s.pool = some tp) (i : Fin n)
    {t₁ : Timeval} (t₂ : Timeval) (hmust : must_wait tp t₁ = true) :
    exec s (.check i t₁ t₂) = some ((s.set_worker i
      (if tp.queue.size > 0 && is_future t₂ tp.sleep_until then
        .timed_waiting (deadline tp.sleep_until) else .waiting)).at_time t₂) := by
  simp only [exec, thread_check, hp, Option.bind_eq_bind, Option.bind_some, if_pos hmust]
  by_cases htimed : (tp.queue.size > 0 && is_future t₂ tp.sleep_until) = true
  · rw [if_pos htimed, if_pos htimed]
    rfl
  · rw [if_neg htimed, if_neg htimed]
    rfl

/-- A worker that finds the pool stopped leaves. -/
theorem check_exits {s : PoolState J n} {tp : ThreadPool} (hp : s.pool = some tp)
    (hstop : tp.stop = true) (i : Fin n) (t₁ t₂ : Timeval) :
    exec s (.check i t₁ t₂) = some (({ s with
      pool := some { tp with thread_count := tp.thread_count - 1 } }.set_worker i
        .exited).at_time t₂) := by
  simp only [exec, thread_check, hp, Option.bind_eq_bind, Option.bind_some, must_wait, hstop,
    Bool.not_true, Bool.false_and, Bool.false_eq_true, if_false, if_true, Option.map_some]
  rfl

/-- A worker that executes a live work item finishes it. -/
theorem finish_frees {s : PoolState J n} {i : Fin n} {work : Nat} {v : Work J}
    (hi : s.workers i = .executing work) (hload : s.works.load work = some v) :
    exec s (.finish i) = some ((s.finished work).set_worker i .ready) := by
  simp only [exec, hi, thread_finish, Store.free_of_live hload, Option.bind_eq_bind,
    Option.bind_some]
  rfl

theorem finish_cases {s s' : PoolState J n} {i : Fin n} (h : exec s (.finish i) = some s') :
    ∃ work, s.workers i = .executing work ∧ s' = (s.finished work).set_worker i .ready := by
  cases hi : s.workers i with
  | executing work =>
    simp only [exec, hi, thread_finish, Option.bind_eq_bind, Option.bind_eq_some_iff,
      Option.some.injEq] at h
    obtain ⟨works, hfree, rfl⟩ := h
    cases Store.free_eq_some hfree
    exact ⟨work, rfl, rfl⟩
  | _ => simp [exec, hi] at h

/-- A worker that does not have to wait pops a job. -/
theorem PoolRuns.check_pops {s : PoolState J n} {tp : ThreadPool} {l : List (Nat × PrioEntry)}
    (hr : PoolRuns s tp l) (i : Fin n) {t₁ : Timeval} (t₂ : Timeval)
    (hmust : must_wait tp t₁ = false) :
    is_future t₁ tp.sleep_until = false ∧ ∃ p w d l' queue, l = (p, (w, d)) :: l' ∧
      QueueHolds (s.nodes.erase p) queue l' ∧
      exec s (.check i t₁ t₂) = some (((s.popped p
        (tp.with_queue queue (sleep_until_pop tp.sleep_until l'))).set_worker i
          (.executing w)).at_time t₂) := by
  obtain ⟨hfuture, p, w, d, l', rfl⟩ := hr.nonempty hmust
  obtain ⟨queue, hpop, hholds⟩ := t_pool_pop_work_spec hr
  refine ⟨hfuture, p, w, d, l', queue, rfl, hholds, ?_⟩
  simp only [exec, thread_check, hr.pool, Option.bind_eq_bind, Option.bind_some,
    hmust, hr.stop, Bool.false_eq_true, if_false, hpop, Option.map_some]
  rfl

/-- **Steps**: as long as the pool is up, no step is a fault. -/
theorem PoolRuns.step {s s' : PoolState J n} {tp : ThreadPool} {l : List (Nat × PrioEntry)}
    {lab : PoolLabel J n} (hr : PoolRuns s tp l) (hnd : (queued_works l).Nodup)
    (hup : s.destroyer = .not_called) (hs : (pool_system J n).step s lab s') :
    (lab = .destroy ∧ t_pool_destroy s = some s') ∨ ∃ tp' l', PoolStep s tp l lab s' tp' l' := by
  obtain ⟨⟨-, hen⟩, rfl⟩ := hs
  unfold pool_step
  cases lab with
  | tick t => exact .inr ⟨tp, l, .tick t hen⟩
  | add by_worker job w woken =>
    have hwoken : can_wake s.workers woken := by
      cases by_worker <;> exact hen.2
    obtain ⟨nodes, queue, hadd, hholds, hlive⟩ := t_pool_add_work_spec hr job w
    have hwaits : ∀ i ∈ woken, (s.workers i).waits = true := by
      rintro i rfl
      exact hwoken
    have hexec : exec s (.add by_worker job w woken) = _ := congrArg (Option.map _) hadd
    rw [hexec]
    exact .inr ⟨_, _, .add by_worker job w woken nodes _ queue hwaits hholds hlive rfl⟩
  | check i t₁ t₂ =>
    obtain ⟨hi, ht₁, ht₂⟩ := hen
    refine .inr ?_
    cases hmust : must_wait tp t₁ with
    | true =>
      rw [check_waits hr.pool i t₂ hmust]
      refine ⟨tp, l, .wait i t₁ t₂ _ hi (ht₁.trans ht₂) ?_⟩
      split <;> rfl
    | false =>
      obtain ⟨hfuture, p, w, d, l', queue, rfl, hholds, hexec⟩ := hr.check_pops i t₂ hmust
      rw [hexec]
      exact ⟨_, l', .pop i t₁ t₂ p w d l' _ queue hi ht₁ ht₂ hfuture rfl hholds rfl⟩
  | wake i => exact .inr ⟨tp, l, .wake i hen⟩
  | finish i =>
    obtain ⟨work, hwork⟩ := Option.isSome_iff_exists.mp hen
    have hi : s.workers i = .executing work := WorkerPc.work_eq_some.mp hwork
    -- a worker owns its work item, so that it is live
    obtain ⟨v, hload⟩ := Option.isSome_iff_exists.mp
      ((hr.works_live work).mpr (.inr ⟨i, by simp [PoolState.running, hi]⟩))
    rw [finish_frees hi hload]
    exact .inr ⟨tp, l, .finish i work hi⟩
  | destroy =>
    obtain ⟨nodes, works, hd, -⟩ := t_pool_destroy_spec hr hnd
    exact .inl ⟨rfl, by rw [exec, hd]; rfl⟩
  | release =>
    have hen : s.destroyer = .waiting := hen.1
    rw [hup] at hen
    cases hen

/-! ### The invariant -/

theorem active_set_worker {s : PoolState J n} (h : ∀ i, s.workers i ≠ .exited) {i : Fin n}
    {pc : WorkerPc} (hpc : pc ≠ .exited) (j : Fin n) : (s.set_worker i pc).workers j ≠ .exited := by
  by_cases hj : j = i
  · simp [hj, PoolState.set_worker, hpc]
  · simp [PoolState.set_worker, hj, h j]

/-- A worker that moves on with the work it has changes nothing else. -/
theorem PoolRuns.set_worker {s : PoolState J n} {tp : ThreadPool} {l : List (Nat × PrioEntry)}
    (hr : PoolRuns s tp l) {i : Fin n} {pc : WorkerPc} (hwork : pc.work = (s.workers i).work)
    (hpc : pc ≠ .exited) : PoolRuns (s.set_worker i pc) tp l where
  pool := hr.pool
  stop := hr.stop
  count := hr.count
  holds := hr.holds
  nodes_live := hr.nodes_live
  works_live := fun w => by
    rw [PoolState.running_set_worker_of_same hwork]
    exact hr.works_live w
  times := hr.times
  active := active_set_worker hr.active hpc
  added := hr.added
  no_fault := hr.no_fault

theorem PoolRuns.at_time {s : PoolState J n} {tp : ThreadPool} {l : List (Nat × PrioEntry)}
    (hr : PoolRuns s tp l) (t : Timeval) : PoolRuns (s.at_time t) tp l :=
  { hr with }

theorem PoolRuns.signal {s : PoolState J n} {tp : ThreadPool} {l : List (Nat × PrioEntry)}
    (hr : PoolRuns s tp l) {woken : Option (Fin n)}
    (h : ∀ i ∈ woken, (s.workers i).waits = true) : PoolRuns (DiscoC.signal s woken) tp l := by
  cases woken with
  | none => exact hr
  | some i => exact hr.set_worker (WorkerPc.work_of_waits (h i rfl)).symm (by simp)

/-- The new work item is queued. -/
theorem PoolRuns.pushed {s : PoolState J n} {tp tp' : ThreadPool} {l : List (Nat × PrioEntry)}
    (hr : PoolRuns s tp l) {job : J} {w : Timeval} {nodes : Store PrioNode} {queue : PrioQueue}
    {sleep_until : Timeval}
    (hholds : QueueHolds nodes queue (prio_insert (s.nodes.next, (s.works.next, w)) l))
    (hlive : ∀ p, (nodes.load p).isSome ↔ p = s.nodes.next ∨ (s.nodes.load p).isSome)
    (htp : tp' = tp.with_queue queue sleep_until) :
    PoolRuns (s.pushed nodes tp' job w) tp' (prio_insert (s.nodes.next, (s.works.next, w)) l) := by
  subst htp
  have hperm := prio_insert_perm (s.nodes.next, (s.works.next, w)) l
  exact {
    pool := rfl
    stop := hr.stop
    count := hr.count
    holds := hholds
    nodes_live := fun p => by
      rw [(hperm.map Prod.fst).mem_iff, List.map_cons, List.mem_cons, ← hr.nodes_live]
      exact hlive p
    works_live := fun v => by
      rw [(queued_works_insert _ l).mem_iff, List.mem_cons, or_assoc]
      show ((s.works.alloc { job, wait_until := w }).load v).isSome ↔
        _ ∨ _ ∨ ∃ i, s.running i = some v
      rw [← hr.works_live]
      exact Store.isSome_load_alloc s.works _ v
    times := fun e he => by
      rcases List.mem_cons.mp (hperm.mem_iff.mp he) with rfl | he
      · exact ⟨_, Store.load_alloc_next s.works _, rfl⟩
      · obtain ⟨work, hload, htime⟩ := hr.times e he
        exact ⟨work, Store.load_alloc_of_live hload _, htime⟩
    active := hr.active
    added := fun v hv => by
      show v < (s.works.alloc _).next
      rw [Store.next_alloc]
      rcases List.mem_cons.mp hv with rfl | hv
      · exact Nat.lt_succ_self _
      · exact Nat.lt_succ_of_lt (hr.added v hv)
    no_fault := hr.no_fault }

/-- The head of the queue goes to a worker. -/
theorem PoolRuns.popped {s : PoolState J n} {tp tp' : ThreadPool} {l : List (Nat × PrioEntry)}
    {p w : Nat} {d : Timeval} (hr : PoolRuns s tp ((p, (w, d)) :: l)) {i : Fin n}
    (hi : s.workers i = .ready) {queue : PrioQueue} {sleep_until : Timeval}
    (hholds : QueueHolds (s.nodes.erase p) queue l)
    (htp : tp' = tp.with_queue queue sleep_until) :
    PoolRuns ((s.popped p tp').set_worker i (.executing w)) tp' l := by
  subst htp
  have hnd := hr.holds.chain.nodup
  rw [List.map_cons, List.nodup_cons] at hnd
  exact {
    pool := rfl
    stop := hr.stop
    count := hr.count
    holds := hholds
    nodes_live := fun q => by
      show ((s.nodes.erase p).load q).isSome ↔ _
      rw [Store.load_erase]
      by_cases hq : q = p
      · subst hq
        simpa using hnd.1
      · simpa [hq] using hr.nodes_live q
    works_live := fun v => by
      rw [PoolState.running_set_worker]
      show (s.works.load v).isSome ↔ _ ∨ ∃ j, Function.update s.running i (some w) j = some v
      rw [hr.works_live, queued_works_cons, List.mem_cons]
      have hidle : s.running i = none := by simp [PoolState.running, hi, WorkerPc.work]
      rw [JobPool.exists_update_some hidle]
      tauto
    times := fun e he => hr.times e (List.mem_cons_of_mem _ he)
    active := active_set_worker hr.active (by simp)
    added := hr.added
    no_fault := hr.no_fault }

/-- The work item of a worker is freed. -/
theorem PoolRuns.finished {s : PoolState J n} {tp : ThreadPool} {l : List (Nat × PrioEntry)}
    (hr : PoolRuns s tp l) (hj : (pool_jobs s l).Conserved) {i : Fin n} {work : Nat}
    (hi : s.workers i = .executing work) :
    PoolRuns ((s.finished work).set_worker i .ready) tp l := by
  have hrun : s.running i = some work := by simp [PoolState.running, hi]
  have hnotq : work ∉ queued_works l := hj.not_queued (w := i) hrun
  exact {
    pool := hr.pool
    stop := hr.stop
    count := hr.count
    holds := hr.holds
    nodes_live := hr.nodes_live
    works_live := fun v => by
      rw [running_finished]
      show ((s.works.erase work).load v).isSome ↔ _
      rw [Store.load_erase,
        JobPool.exists_update_none hrun fun j hv => hj.running_unique hv hrun]
      by_cases hv : v = work
      · subst hv
        simpa using hnotq
      · simpa [hv] using hr.works_live v
    times := fun e he => by
      obtain ⟨u, hload, htime⟩ := hr.times e he
      refine ⟨u, ?_, htime⟩
      show (s.works.erase work).load _ = _
      rw [Store.load_erase, if_neg, hload]
      rintro rfl
      exact hnotq (List.mem_map.mpr ⟨e, he, rfl⟩)
    active := active_set_worker hr.active (by simp)
    added := fun v hv => by
      show v < (s.works.erase work).next
      rw [Store.next_erase]
      exact hr.added v hv
    no_fault := hr.no_fault }

/-- **Step lemma**: the pool stays up. -/
theorem PoolStep.runs {s s' : PoolState J n} {tp tp' : ThreadPool} {l l' : List (Nat × PrioEntry)}
    {lab : PoolLabel J n} (hstep : PoolStep s tp l lab s' tp' l') (hr : PoolRuns s tp l)
    (hj : (pool_jobs s l).Conserved) : PoolRuns s' tp' l' := by
  cases hstep with
  | tick t _ => exact hr.at_time t
  | add by_worker job w woken nodes tp' queue hwoken hholds hlive htp =>
    exact (hr.pushed hholds hlive htp).signal hwoken
  | wait i t₁ t₂ pc hi _ hpc =>
    have hwork : pc.work = (s.workers i).work := by rw [WorkerPc.work_of_waits hpc, hi]; rfl
    exact (hr.set_worker hwork (by rintro rfl; cases hpc)).at_time t₂
  | pop i t₁ t₂ p w d l' tp' queue hi _ _ _ hl hholds htp =>
    subst hl
    exact (hr.popped hi hholds htp).at_time t₂
  | wake i hi =>
    refine hr.set_worker (WorkerPc.work_awake _) fun h => ?_
    exact hr.active i (WorkerPc.awake_eq_exited.mp h)
  | finish i work hi => exact hr.finished hj hi

/-! ### Steps that leave the destroyer alone -/

theorem t_pool_add_work_destroyer {s s' : PoolState J n} {job : J} {w : Timeval}
    (h : t_pool_add_work s job w = some s') : s'.destroyer = s.destroyer := by
  simp only [t_pool_add_work, Option.bind_eq_bind, Option.bind_eq_some_iff, Prod.exists,
    Option.some.injEq] at h
  obtain ⟨_, _, _, _, _, rfl⟩ := h
  rfl

theorem t_pool_pop_work_destroyer {s s' : PoolState J n} {work : Option Nat}
    (h : t_pool_pop_work s = some (work, s')) : s'.destroyer = s.destroyer := by
  simp only [t_pool_pop_work, Option.bind_eq_bind, Option.bind_eq_some_iff, Prod.exists] at h
  obtain ⟨_, _, node, _, _, h⟩ := h
  cases node with
  | none =>
    cases h
    rfl
  | some node =>
    simp only [Option.bind_eq_some_iff, Option.some.injEq, Prod.mk.injEq] at h
    obtain ⟨_, _, _, _, _, _, -, rfl⟩ := h
    rfl

theorem thread_check_destroyer {s s' : PoolState J n} {i : Fin n} {t₁ t₂ : Timeval}
    (h : thread_check s i t₁ t₂ = some s') : s'.destroyer = s.destroyer := by
  simp only [thread_check, Option.bind_eq_bind, Option.bind_eq_some_iff] at h
  obtain ⟨tp, _, h⟩ := h
  split at h
  · split at h <;> (cases h; rfl)
  · split at h
    · cases h
      rfl
    · simp only [Option.bind_eq_some_iff, Prod.exists, Option.some.injEq] at h
      obtain ⟨_, s₁, hpop, _, rfl, rfl⟩ := h
      exact (t_pool_pop_work_destroyer hpop : s₁.destroyer = s.destroyer)

theorem check_destroyer {s s' : PoolState J n} {i : Fin n} {t₁ t₂ : Timeval}
    (hs : (pool_system J n).step s (.check i t₁ t₂) s') : s'.destroyer = s.destroyer := by
  obtain ⟨-, rfl⟩ := hs
  rw [pool_step]
  cases hexec : exec s (.check i t₁ t₂) with
  | none => rfl
  | some s' =>
    obtain ⟨s₁, hcheck, rfl⟩ := Option.map_eq_some_iff.mp hexec
    exact (thread_check_destroyer hcheck : s₁.destroyer = s.destroyer)

theorem PoolStep.destroyer {s s' : PoolState J n} {tp tp' : ThreadPool}
    {l l' : List (Nat × PrioEntry)} {lab : PoolLabel J n}
    (hstep : PoolStep s tp l lab s' tp' l') : s'.destroyer = s.destroyer := by
  cases hstep with
  | add by_worker job w woken nodes tp' queue => cases woken <;> rfl
  | _ => rfl

/-- Once `t_pool_destroy` is called, it stays so. -/
theorem destroyer_step {s s' : PoolState J n} {lab : PoolLabel J n}
    (hs : (pool_system J n).step s lab s') (hd : s.destroyer ≠ .not_called) :
    s'.destroyer ≠ .not_called := by
  obtain ⟨⟨-, hen⟩, rfl⟩ := hs
  rw [pool_step]
  cases hexec : exec s lab with
  | none => exact hd
  | some s' =>
    rw [Option.getD_some]
    cases lab with
    | tick t =>
      cases hexec
      exact hd
    | add by_worker job w woken =>
      obtain ⟨s₁, hadd, rfl⟩ := Option.map_eq_some_iff.mp hexec
      rw [← t_pool_add_work_destroyer hadd] at hd
      cases woken <;> exact hd
    | check i t₁ t₂ =>
      obtain ⟨s₁, hcheck, rfl⟩ := Option.map_eq_some_iff.mp hexec
      rwa [← thread_check_destroyer hcheck] at hd
    | wake i =>
      cases hexec
      exact hd
    | finish i =>
      obtain ⟨work, -, rfl⟩ := finish_cases hexec
      exact hd
    | destroy => exact absurd hen hd
    | release =>
      cases hexec
      simp [t_pool_release]

/-! ### The jobs -/

/-- **Refinement**: on the jobs, a step is one of the job pool or none. -/
theorem PoolStep.job_step {s s' : PoolState J n} {tp tp' : ThreadPool}
    {l l' : List (Nat × PrioEntry)} {lab : PoolLabel J n} (hstep : PoolStep s tp l lab s' tp' l')
    (hr : PoolRuns s tp l) :
    pool_jobs s' l' = pool_jobs s l ∨
      ∃ e, (JobPool.system (Fin n) Nat).step (pool_jobs s l) e (pool_jobs s' l') := by
  cases hstep with
  | tick t _ => exact .inl rfl
  | add by_worker job w woken nodes tp' queue hwoken =>
    -- the new item is one that was never added: addresses are not reused
    refine .inr ⟨.add s.works.next, fun h => Nat.lt_irrefl _ (hr.added _ h), ?_⟩
    have hq : (queued_works (prio_insert (s.nodes.next, (s.works.next, w)) l) : Multiset Nat) =
        s.works.next ::ₘ (queued_works l : Multiset Nat) :=
      Multiset.coe_eq_coe.mpr (queued_works_insert _ l)
    rw [pool_jobs, hq, running_pushed hwoken]
    cases woken <;> rfl
  | wait i t₁ t₂ pc hi _ hpc =>
    have hwork : pc.work = (s.workers i).work := by rw [WorkerPc.work_of_waits hpc, hi]; rfl
    have hrun : ((s.set_worker i pc).at_time t₂).running = s.running :=
      PoolState.running_set_worker_of_same hwork
    rw [pool_jobs, hrun]
    exact .inl rfl
  | pop i t₁ t₂ p w d l' tp' queue hi _ _ _ hl _ _ =>
    subst hl
    -- the head of the queue goes to an idle worker
    refine .inr ⟨.take i w, ?_, ?_, ?_⟩
    · show (s.workers i).work = none
      rw [hi]
      rfl
    · exact List.mem_cons_self
    · have hq : (queued_works l' : Multiset Nat) =
          (queued_works ((p, (w, d)) :: l') : Multiset Nat).erase w := by
        rw [queued_works_cons, Multiset.coe_erase, List.erase_cons_head]
      have hrun : (((s.popped p tp').set_worker i (.executing w)).at_time t₂).running =
          Function.update s.running i (some w) := PoolState.running_set_worker _ i _
      rw [pool_jobs, hq, hrun]
      rfl
  | wake i hi =>
    have hrun : (s.set_worker i (s.workers i).awake).running = s.running :=
      PoolState.running_set_worker_of_same (WorkerPc.work_awake _)
    rw [pool_jobs, hrun]
    exact .inl rfl
  | finish i work hi =>
    refine .inr ⟨.done i work, ?_, ?_⟩
    · show (s.workers i).work = some work
      rw [hi]
      rfl
    · rw [pool_jobs, running_finished]
      rfl

/-- The pool is up, and no job is lost. -/
structure PoolUp (s : PoolState J n) (tp : ThreadPool) (l : List (Nat × PrioEntry)) : Prop where
  runs : PoolRuns s tp l
  jobs : (pool_jobs s l).Conserved
  up : s.destroyer = .not_called

/-- **Step lemma**: any step but `t_pool_destroy` leaves the pool up. -/
theorem PoolUp.step {s : PoolState J n} {tp : ThreadPool} {l : List (Nat × PrioEntry)}
    (h : PoolUp s tp l) (lab : PoolLabel J n) (hen : enabled s lab) (hlab : lab ≠ .destroy) :
    ∃ tp' l', PoolStep s tp l lab (pool_step s lab) tp' l' ∧ PoolUp (pool_step s lab) tp' l' := by
  have hs : (pool_system J n).step s lab (pool_step s lab) := ⟨⟨h.runs.no_fault, hen⟩, rfl⟩
  rcases h.runs.step h.jobs.queued_nodup h.up hs with ⟨rfl, -⟩ | ⟨tp', l', hstep⟩
  · exact absurd rfl hlab
  · refine ⟨tp', l', hstep, hstep.runs h.runs h.jobs, ?_, hstep.destroyer.trans h.up⟩
    rcases hstep.job_step h.runs with heq | ⟨e, he⟩
    · rw [heq]
      exact h.jobs
    · exact h.jobs.step he

/-- `s` refines the job pool `a` until the pool is destroyed. -/
def RefinesJobs (s : PoolState J n) (a : JobPool (Fin n) Nat) : Prop :=
  s.destroyer = .not_called → ∃ tp l, PoolRuns s tp l ∧ a = pool_jobs s l

theorem pool_runs_init (tv_usec : Int) (clock : Timeval) :
    ∃ tp, PoolRuns (t_pool_init n tv_usec clock : PoolState J n) tp [] :=
  ⟨_, {
    pool := rfl
    stop := rfl
    count := rfl
    holds := ⟨.nil none, rfl⟩
    nodes_live := by simp [t_pool_init]
    works_live := by simp [t_pool_init, PoolState.running, WorkerPc.work]
    times := by simp
    active := by simp [t_pool_init]
    added := by simp [t_pool_init]
    no_fault := rfl }⟩

/-- **Refinement**: every reachable state has the jobs of a job pool. -/
theorem reachable_refines {s : PoolState J n} (h : (pool_system J n).Reachable s) :
    ∃ a, (JobPool.system (Fin n) Nat).Reachable a ∧ RefinesJobs s a := by
  refine System.Reachable.simulate ?_ ?_ h
  · rintro s ⟨tv_usec, clock, rfl⟩
    obtain ⟨tp, hr⟩ := pool_runs_init (J := J) tv_usec clock
    exact ⟨JobPool.empty, rfl, fun _ => ⟨tp, [], hr, rfl⟩⟩
  · intro s lab s' a ha href hs
    by_cases hup : s.destroyer = .not_called
    · obtain ⟨tp, l, hr, rfl⟩ := href hup
      have hj := JobPool.reachable_conserved ha
      rcases hr.step (hj.queued_nodup) hup hs with ⟨-, hd⟩ | ⟨tp', l', hstep⟩
      · obtain ⟨_, _, hd', -⟩ := t_pool_destroy_spec hr hj.queued_nodup
        rw [hd'] at hd
        -- `t_pool_destroy` ends the refinement
        exact .inl fun hup' => by cases Option.some.inj hd; cases hup'
      · have hr' := hstep.runs hr hj
        rcases hstep.job_step hr with heq | ⟨e, he⟩
        · exact .inl fun _ => ⟨tp', l', hr', heq.symm⟩
        · exact .inr ⟨e, _, he, fun _ => ⟨tp', l', hr', rfl⟩⟩
    · refine .inl fun hup' => absurd hup' ?_
      exact destroyer_step hs hup

/-- The pool is up in every state before `t_pool_destroy`. -/
theorem reachable_up {s : PoolState J n} (h : (pool_system J n).Reachable s)
    (hup : s.destroyer = .not_called) : ∃ tp l, PoolUp s tp l := by
  obtain ⟨a, ha, href⟩ := reachable_refines h
  obtain ⟨tp, l, hr, rfl⟩ := href hup
  exact ⟨tp, l, hr, JobPool.reachable_conserved ha, hup⟩

/-! ### The jobs of a run -/

/-- The job that a step hands to `t_pool_add_work`. -/
def PoolLabel.added : PoolLabel J n → Option (Work J)
  | .add _ job wait_until _ => some { job, wait_until }
  | _ => none

/-- The jobs that a run adds, in order. -/
def jobs_added (ls : List (PoolLabel J n)) : List (Work J) :=
  ls.filterMap PoolLabel.added

/-- The work item at `k` is that of the `k`-th job that the run has added. -/
structure AddsRecorded (ls : List (PoolLabel J n)) (s : PoolState J n) : Prop where
  next : s.works.next = (jobs_added ls).length
  added : s.added.Perm (List.range s.works.next)
  works : ∀ w v, s.works.load w = some v → (jobs_added ls)[w]? = some v

namespace AddsRecorded
variable {ls : List (PoolLabel J n)} {s s' : PoolState J n} {lab : PoolLabel J n}

/-- A step that adds no job. -/
theorem keep (h : AddsRecorded ls s) (hlab : lab.added = none)
    (hnext : s'.works.next = s.works.next) (hadded : s'.added = s.added)
    (hworks : ∀ w v, s'.works.load w = some v → s.works.load w = some v) :
    AddsRecorded (ls ++ [lab]) s' := by
  have hjobs : jobs_added (ls ++ [lab]) = jobs_added ls := by
    simp [jobs_added, hlab]
  refine ⟨?_, ?_, ?_⟩
  · rw [hjobs, hnext]
    exact h.next
  · rw [hadded, hnext]
    exact h.added
  · intro w v hload
    rw [hjobs]
    exact h.works w v (hworks w v hload)

/-- The job of a step is stored behind those before. -/
theorem add (h : AddsRecorded ls s) {v : Work J} (hlab : lab.added = some v)
    (hworks : s'.works = s.works.alloc v) (hadded : s'.added = s.works.next :: s.added) :
    AddsRecorded (ls ++ [lab]) s' := by
  have hjobs : jobs_added (ls ++ [lab]) = jobs_added ls ++ [v] := by
    simp [jobs_added, hlab]
  refine ⟨?_, ?_, ?_⟩
  · rw [hjobs, hworks, Store.next_alloc, h.next, List.length_append]
    rfl
  · rw [hadded, hworks, Store.next_alloc, List.range_succ]
    exact (h.added.cons _).trans (List.perm_append_singleton _ _).symm
  · intro w u hload
    rw [hworks, Store.load_alloc] at hload
    rw [hjobs]
    by_cases hw : w = s.works.next
    · rw [if_pos hw] at hload
      rw [hw, h.next, List.getElem?_concat_length, hload]
    · rw [if_neg hw] at hload
      have hjob := h.works w u hload
      rw [List.getElem?_append_left (List.getElem?_eq_some_iff.mp hjob).1]
      exact hjob

/-- **Step lemma.** -/
theorem step {tp tp' : ThreadPool} {l l' : List (Nat × PrioEntry)} (h : AddsRecorded ls s)
    (hstep : PoolStep s tp l lab s' tp' l') : AddsRecorded (ls ++ [lab]) s' := by
  cases hstep with
  | add by_worker job w woken nodes tp' queue =>
    exact h.add rfl (by cases woken <;> rfl) (by cases woken <;> rfl)
  | finish i work =>
    refine h.keep rfl (Store.next_erase s.works work) rfl fun w v hload => ?_
    have hload : (s.works.erase work).load w = some v := hload
    rw [Store.load_erase] at hload
    by_cases hw : w = work
    · rw [if_pos hw] at hload
      cases hload
    · rw [if_neg hw] at hload
      exact hload
  | _ => exact h.keep rfl rfl rfl fun _ _ hload => hload

end AddsRecorded

/-- **Run lemma**, until the pool is destroyed. -/
theorem run_adds_recorded {ls : List (PoolLabel J n)} {s : PoolState J n}
    (h : (pool_system J n).Run ls s) (hup : s.destroyer = .not_called) : AddsRecorded ls s := by
  refine System.Run.invariant
    (I := fun ls s => s.destroyer = .not_called → AddsRecorded ls s) ?_ ?_ h hup
  · intro s hs _
    obtain ⟨tv_usec, clock, rfl⟩ := hs
    exact ⟨rfl, .refl _, fun w v hload => absurd hload (by simp [t_pool_init])⟩
  · intro ls lab s s' hrun ih hs hup'
    have hup : s.destroyer = .not_called := by
      by_contra hd
      exact destroyer_step hs hd hup'
    obtain ⟨tp, l, hpool⟩ := reachable_up ⟨ls, hrun⟩ hup
    rcases hpool.runs.step hpool.jobs.queued_nodup hup hs with hdestroy | ⟨tp', l', hstep⟩
    · -- only `t_pool_destroy` is no such step
      obtain ⟨_, _, hd, -⟩ := t_pool_destroy_spec hpool.runs hpool.jobs.queued_nodup
      rw [hd] at hdestroy
      cases Option.some.inj hdestroy.2
      cases hup'
    · exact (ih hup).step hstep

/-- The jobs that the run `ls` has added are those in the queue, those with a
    worker and those executed, each of them once; the `k`-th of them is the
    work item `k`, as it was added. A worker that leaves the inner loop of
    `thread_work_loop` without `stop` pops a job. -/
def ExecutesExactlyOnce (ls : List (PoolLabel J n)) (s : PoolState J n) : Prop :=
  ∃ tp l, s.pool = some tp ∧ QueueHolds s.nodes tp.queue l ∧
    (List.range (jobs_added ls).length : Multiset Nat) =
      (queued_works l : Multiset Nat) + ∑ i, JobPool.held (s.workers i).work +
        (s.executed : Multiset Nat) ∧
    (∀ w, w ∈ queued_works l ∨ (∃ i, (s.workers i).work = some w) →
      (s.works.load w).isSome = true ∧ s.works.load w = (jobs_added ls)[w]?) ∧
    ∀ t, must_wait tp t = false → tp.stop = false →
      ∃ work s', t_pool_pop_work s = some (some work, s')

/-- **No job is lost and none is executed twice** before `t_pool_destroy`. -/
theorem executes_exactly_once {ls : List (PoolLabel J n)} {s : PoolState J n}
    (h : (pool_system J n).Run ls s) (hup : s.destroyer = .not_called) :
    ExecutesExactlyOnce ls s := by
  obtain ⟨tp, l, hr, hj, -⟩ := reachable_up ⟨ls, h⟩ hup
  have hadds := run_adds_recorded h hup
  refine ⟨tp, l, hr.pool, hr.holds, ?_, ?_, ?_⟩
  · rw [← hadds.next, ← Multiset.coe_eq_coe.mpr hadds.added]
    exact hj.parts
  · intro w hw
    have hlive := (hr.works_live w).mpr hw
    obtain ⟨v, hload⟩ := Option.isSome_iff_exists.mp hlive
    rw [hload, hadds.works w v hload]
    exact ⟨rfl, rfl⟩
  · intro t ht _
    obtain ⟨_, p, w, d, l', rfl⟩ := hr.nonempty ht
    obtain ⟨queue, hpop, _⟩ := t_pool_pop_work_spec hr
    exact ⟨w, _, hpop⟩

/-- Two jobs are added. The first of them goes to a worker and adds the
    second. -/
def two_jobs : List (PoolLabel Unit 2) :=
  [.add none () ⟨0, 0⟩ none, .check 0 ⟨1, 0⟩ ⟨1, 0⟩, .add (some 0) () ⟨7, 0⟩ none]

theorem executes_exactly_once_two_jobs : ∃ s, ExecutesExactlyOnce two_jobs s := by
  have hinit : (pool_system Unit 2).Run [] (t_pool_init 2 0 ⟨1, 0⟩) :=
    .start ⟨0, ⟨1, 0⟩, rfl⟩
  have hrun : (pool_system Unit 2).Run two_jobs _ := hinit.foldl (by decide)
  exact ⟨_, executes_exactly_once hrun (by decide)⟩

end DiscoC
