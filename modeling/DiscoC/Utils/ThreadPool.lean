import Mathlib.Logic.Function.Basic
import DiscoC.Framework.System
import DiscoC.Utils.PrioQueue

/-! # The thread pool

  Model of `utils/t_pool.c`. `n` workers run `thread_work_loop` on one pool;
  producers and running jobs call `t_pool_add_work`; one thread calls
  `t_pool_destroy`.

  What a thread does between taking and releasing `tp->lock` is one step.
  So is a wake-up of a thread that waits on `work_cond`: it may come from a
  signal, from the deadline of a timed wait, or from nowhere. A woken
  thread has left the condition variable but not yet taken the lock.

  Work items and queue nodes live on heaps of their own. An access to a
  freed block or to a freed pool is a fault, and so is a call through the
  null pointer.
-/

namespace DiscoC

/-! ### Data -/

/-- `struct timespec`. -/
@[ext] structure Timespec where
  tv_sec : Int
  tv_nsec : Int
  deriving DecidableEq, Repr

/-- `t_work_t`. The job is its function together with the argument. -/
structure Work (J : Type) where
  job : J
  wait_until : Timeval
  deriving DecidableEq, Repr

/-- `t_pool_t`. -/
structure ThreadPool where
  queue : PrioQueue
  /-- amount of active threads -/
  thread_count : Int
  /-- bool is threads should stop -/
  stop : Bool
  sleep_until : Timeval
  deriving DecidableEq, Repr

/-- Where a worker is in `thread_work_loop`. -/
inductive WorkerPc where
  /-- About to take the lock and test the loop conditions. -/
  | ready
  /-- In `pthread_cond_wait`. -/
  | waiting
  /-- In `pthread_cond_timedwait`. -/
  | timed_waiting (wait_until : Timespec)
  /-- In `work->func`. -/
  | executing (work : Nat)
  /-- Out of the loop. -/
  | exited
  deriving DecidableEq, Repr

/-- Where the thread that destroys the pool is. -/
inductive DestroyPc where
  | not_called
  /-- In `t_pool_wait`. -/
  | waiting
  | returned
  deriving DecidableEq, Repr

/-- A program state. `pool` is `none` once the pool is freed. -/
structure PoolState (J : Type) (n : Nat) where
  nodes : Store PrioNode
  works : Store (Work J)
  pool : Option ThreadPool
  clock : Timeval
  workers : Fin n → WorkerPc
  destroyer : DestroyPc
  /-- An access went wrong. -/
  fault : Bool
  /-- Every work item ever added. -/
  added : List Nat
  /-- The work items that have been executed. -/
  executed : List Nat

section model

variable {J : Type} {n : Nat}

/-- One worker moves on. -/
def PoolState.set_worker (s : PoolState J n) (i : Fin n) (pc : WorkerPc) : PoolState J n :=
  { s with workers := Function.update s.workers i pc }

/-- `WorkerPc.waits pc`: the worker sleeps on `work_cond`. -/
def WorkerPc.waits : WorkerPc → Bool
  | .waiting => true
  | .timed_waiting _ => true
  | _ => false

/-- A worker that leaves `work_cond`. -/
def WorkerPc.awake : WorkerPc → WorkerPc
  | .waiting => .ready
  | .timed_waiting _ => .ready
  | pc => pc

/-- The work item a worker executes. -/
def WorkerPc.work : WorkerPc → Option Nat
  | .executing work => some work
  | _ => none

/-! ### The functions of the pool -/

/-- `is_future`, at the time `a`. -/
def is_future (a t : Timeval) : Bool :=
  a.tv_sec < t.tv_sec || (a.tv_sec == t.tv_sec && a.tv_usec ≤ t.tv_usec)

/-- The deadline `thread_work_loop` computes from `sleep_until`. -/
def deadline (sleep_until : Timeval) : Timespec :=
  let tv_nsec := sleep_until.tv_usec * 1000
  if 1000000000 < tv_nsec then
    { tv_sec := sleep_until.tv_sec + 1, tv_nsec := tv_nsec - 1000000000 }
  else { tv_sec := sleep_until.tv_sec, tv_nsec }

/-- `t_pool_init`. The microseconds of `sleep_until` are left as they are. -/
def t_pool_init (n : Nat) (tv_usec : Int) (clock : Timeval) : PoolState J n where
  nodes := .empty
  works := .empty
  pool := some
    { queue := prio_init, thread_count := n, stop := false,
      sleep_until := { tv_sec := -1, tv_usec } }
  clock := clock
  workers := fun _ => .ready
  destroyer := .not_called
  fault := false
  added := []
  executed := []

/-- The new `sleep_until` of `t_pool_add_work`. -/
def sleep_until_add (sleep_until wait_until : Timeval) : Timeval :=
  if sleep_until.tv_sec == -1 || sleep_until.tv_sec > wait_until.tv_sec ||
      (sleep_until.tv_sec == wait_until.tv_sec && sleep_until.tv_usec > wait_until.tv_usec) then
    wait_until
  else sleep_until

/-- `t_pool_add_work`, up to the signal. -/
def t_pool_add_work (s : PoolState J n) (job : J) (wait_until : Timeval) :
    Option (PoolState J n) := do
  let work := s.works.next
  let works := s.works.alloc { job, wait_until }
  let tp ← s.pool
  let (nodes, queue) ← prio_push s.nodes tp.queue work wait_until
  let sleep_until := sleep_until_add tp.sleep_until wait_until
  some { s with
    nodes, works, pool := some { tp with queue, sleep_until }, added := work :: s.added }

/-- `pthread_cond_signal`: it wakes the worker `woken`. -/
def signal (s : PoolState J n) : Option (Fin n) → PoolState J n
  | some i => s.set_worker i .ready
  | none => s

/-- The new `sleep_until` of `t_pool_pop_work`. -/
def sleep_until_head (nodes : Store PrioNode) (queue : PrioQueue) (sleep_until : Timeval) :
    Option Timeval :=
  match queue.head with
  | some head => (nodes.load head).map PrioNode.wait_until
  | none => some { sleep_until with tv_sec := -1 }

/-- `t_pool_pop_work`: the work item of the head node, or the null pointer. -/
def t_pool_pop_work (s : PoolState J n) : Option (Option Nat × PoolState J n) := do
  let tp ← s.pool
  let (node, queue) ← prio_pop s.nodes tp.queue
  match node with
  | none => some (none, s)
  | some node => do
    let v ← s.nodes.load node
    let nodes ← s.nodes.free node
    let sleep_until ← sleep_until_head nodes queue tp.sleep_until
    some (some v.data, { s with nodes, pool := some { tp with queue, sleep_until } })

/-- The condition of the inner loop, at the time `t`. -/
def must_wait (tp : ThreadPool) (t : Timeval) : Bool :=
  !tp.stop && (is_future t tp.sleep_until || tp.queue.size == 0)

/-- The locked section of `thread_work_loop`, from taking the lock to the
    next wait or to its release. It reads the clock at `t₁`, and a second
    time at `t₂` before a wait. -/
def thread_check (s : PoolState J n) (i : Fin n) (t₁ t₂ : Timeval) : Option (PoolState J n) := do
  let tp ← s.pool
  if must_wait tp t₁ then
    if tp.queue.size > 0 && is_future t₂ tp.sleep_until then
      some (s.set_worker i (.timed_waiting (deadline tp.sleep_until)))
    else some (s.set_worker i .waiting)
  else if tp.stop then
    some ({ s with pool := some { tp with thread_count := tp.thread_count - 1 } }.set_worker i
      .exited)
  else do
    let (work, s) ← t_pool_pop_work s
    let work ← work
    some (s.set_worker i (.executing work))

/-- `free(work)`, once `work->func` has returned. -/
def thread_finish (s : PoolState J n) (i : Fin n) (work : Nat) : Option (PoolState J n) := do
  let works ← s.works.free work
  some ({ s with works, executed := work :: s.executed }.set_worker i .ready)

/-- The loop of `t_pool_destroy` that frees the work items of the queue. -/
def destroy_works (nodes : Store PrioNode) : Nat → Store (Work J) → Option Nat →
    Option (Store (Work J))
  | _, works, none => some works
  | 0, _, some _ => none
  | fuel + 1, works, some cur => do
    let prev ← nodes.load cur
    let works ← works.free prev.data
    destroy_works nodes fuel works prev.next

/-- `t_pool_destroy`, up to `t_pool_wait`. -/
def t_pool_destroy (s : PoolState J n) : Option (PoolState J n) := do
  let tp ← s.pool
  let works ← destroy_works s.nodes s.nodes.next s.works tp.queue.head
  let nodes ← prio_destroy_queue s.nodes tp.queue
  some
    { s with
      nodes, works
      pool := some { tp with stop := true }
      workers := fun i => (s.workers i).awake
      destroyer := .waiting }

/-- The end of `t_pool_destroy`, when `t_pool_wait` has found no thread. -/
def t_pool_release (s : PoolState J n) : PoolState J n :=
  { s with pool := none, destroyer := .returned }

/-! ### The system -/

/-- The steps of the threads. -/
inductive PoolLabel (J : Type) (n : Nat) where
  /-- Time passes. -/
  | tick (t : Timeval)
  /-- `t_pool_add_work`, from a running job or from another thread. -/
  | add (by_worker : Option (Fin n)) (job : J) (wait_until : Timeval) (woken : Option (Fin n))
  /-- A worker goes through its locked section. -/
  | check (i : Fin n) (t₁ t₂ : Timeval)
  /-- A worker wakes up. -/
  | wake (i : Fin n)
  /-- A job returns. -/
  | finish (i : Fin n)
  /-- `t_pool_destroy` is called. -/
  | destroy
  /-- `t_pool_destroy` returns. -/
  | release

/-- A signal wakes one of the workers that wait, if there is one. -/
def can_wake (workers : Fin n → WorkerPc) : Option (Fin n) → Prop
  | some i => (workers i).waits = true
  | none => ∀ i, (workers i).waits = false

/-- What a step needs apart from the pool: threads call only what their
    place in the program lets them call, and the clock does not go back. -/
def enabled (s : PoolState J n) : PoolLabel J n → Prop
  | .tick t => s.clock ≤ t
  | .add none _ _ woken => s.destroyer = .not_called ∧ can_wake s.workers woken
  | .add (some i) _ _ woken => (s.workers i).work.isSome ∧ can_wake s.workers woken
  | .check i t₁ t₂ => s.workers i = .ready ∧ s.clock ≤ t₁ ∧ t₁ ≤ t₂
  | .wake i => (s.workers i).waits = true
  | .finish i => (s.workers i).work.isSome
  | .destroy => s.destroyer = .not_called
  | .release => s.destroyer = .waiting ∧ ∀ tp ∈ s.pool, tp.thread_count ≤ 0

/-- What a step does. `none` stands for a fault. -/
def exec (s : PoolState J n) : PoolLabel J n → Option (PoolState J n)
  | .tick t => some { s with clock := t }
  | .add _ job wait_until woken =>
    (t_pool_add_work s job wait_until).map fun s => signal s woken
  | .check i t₁ t₂ => (thread_check s i t₁ t₂).map fun s => { s with clock := t₂ }
  | .wake i => some (s.set_worker i (s.workers i).awake)
  | .finish i =>
    match s.workers i with
    | .executing work => thread_finish s i work
    | _ => none
  | .destroy => t_pool_destroy s
  | .release => some (t_pool_release s)

/-- A step, with its outcome. -/
def pool_step (s : PoolState J n) (l : PoolLabel J n) : PoolState J n :=
  (exec s l).getD { s with fault := true }

/-- The pool with its threads. A fault ends the run. -/
def pool_system (J : Type) (n : Nat) : System (PoolState J n) (PoolLabel J n) :=
  .ofEnabled (fun s => ∃ tv_usec clock, s = t_pool_init n tv_usec clock)
    (fun s l => s.fault = false ∧ enabled s l) pool_step

theorem init_reachable (tv_usec : Int) (clock : Timeval) :
    (pool_system J n).Reachable (t_pool_init n tv_usec clock) :=
  .init ⟨tv_usec, clock, rfl⟩

instance (workers : Fin n → WorkerPc) : ∀ woken, Decidable (can_wake workers woken)
  | some i => inferInstanceAs (Decidable ((workers i).waits = true))
  | none => inferInstanceAs (Decidable (∀ i, (workers i).waits = false))

instance (s : PoolState J n) : ∀ l, Decidable (enabled s l)
  | .tick t => inferInstanceAs (Decidable (s.clock ≤ t))
  | .add none _ _ woken => inferInstanceAs (Decidable
      (s.destroyer = .not_called ∧ can_wake s.workers woken))
  | .add (some i) _ _ woken => inferInstanceAs (Decidable
      ((s.workers i).work.isSome ∧ can_wake s.workers woken))
  | .check i t₁ t₂ => inferInstanceAs (Decidable
      (s.workers i = .ready ∧ s.clock ≤ t₁ ∧ t₁ ≤ t₂))
  | .wake i => inferInstanceAs (Decidable ((s.workers i).waits = true))
  | .finish i => inferInstanceAs (Decidable ((s.workers i).work.isSome = true))
  | .destroy => inferInstanceAs (Decidable (s.destroyer = .not_called))
  | .release => inferInstanceAs (Decidable
      (s.destroyer = .waiting ∧ ∀ tp ∈ s.pool, tp.thread_count ≤ 0))

end model

end DiscoC
