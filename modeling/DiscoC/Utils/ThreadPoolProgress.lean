import Mathlib.Order.Filter.AtTopBot.Basic
import Mathlib.Order.Filter.Finite
import DiscoC.Framework.Fairness
import DiscoC.Utils.ThreadPoolDeadline
import DiscoC.Utils.ThreadPoolShutdown
import DiscoC.Utils.ThreadPoolWakeup

/-! # The pool gets through its work

  What the threads of the pool do in the end, when jobs return, each worker
  gets the lock at some time, and a timed wait ends after its deadline
  (`PoolFairly`). An infinite run has no fault: a fault ends it.

  * Once `t_pool_destroy` is called, it returns (`destroy_returns`). The
    count of the threads goes down with the workers, and no worker sleeps.
  * If no more jobs are added, all that were added are executed
    (`jobs_get_done`), provided that the steps keep watch. After the last
    deadline no worker goes to sleep before the queue is empty.
-/

namespace DiscoC

variable {J : Type} {n : Nat}

/-! ### Who helps -/

/-- The deadline of a timed wait has come. -/
def Timespec.passed (d : Timespec) (t : Timeval) : Prop :=
  d.tv_sec < t.tv_sec ∨ d.tv_sec = t.tv_sec ∧ d.tv_nsec ≤ t.tv_usec * 1000

theorem Timespec.passed.mono {d : Timespec} {t t' : Timeval} (h : d.passed t) (hle : t ≤ t') :
    d.passed t' := by
  unfold Timespec.passed at *
  rw [Timeval.le_iff] at hle
  omega

/-- `WorkerPc.timed pc`: the worker is in `pthread_cond_timedwait`. -/
def WorkerPc.timed : WorkerPc → Bool
  | .timed_waiting _ => true
  | _ => false

/-- Who can move on. -/
inductive PoolHelper (n : Nat) where
  | check (i : Fin n)
  | finish (i : Fin n)
  /-- The end of a timed wait. -/
  | timeout (i : Fin n)
  | release

/-- The steps of a helper. -/
def PoolHelper.steps : PoolHelper n → PoolState J n → PoolLabel J n → PoolState J n → Prop
  | .check i, _, lab, _ => ∃ t₁ t₂, lab = .check i t₁ t₂
  | .finish i, _, lab, _ => lab = .finish i
  | .timeout i, s, lab, _ =>
    lab = .wake i ∧ ∃ d, s.workers i = .timed_waiting d ∧ d.passed s.clock
  | .release, _, lab, _ => lab = .release

/-- Each thread gets its turn, jobs return, and the time passes. -/
structure PoolFairly (e : (pool_system J n).Execution) : Prop where
  helps : ∀ helper : PoolHelper n, e.Fair helper.steps
  time : ∀ t k, ∃ m, k ≤ m ∧ t ≤ (e.state m).clock

/-- The first worker at a place like this. -/
def find_worker (workers : Fin n → WorkerPc) (p : WorkerPc → Bool) : Option (Fin n) :=
  (List.finRange n).find? fun i => p (workers i)

theorem find_worker_some {workers : Fin n → WorkerPc} {p : WorkerPc → Bool} {i : Fin n}
    (h : find_worker workers p = some i) : p (workers i) = true :=
  @List.find?_some _ (fun i => p (workers i)) i _ h

theorem find_worker_none {workers : Fin n → WorkerPc} {p : WorkerPc → Bool}
    (h : find_worker workers p = none) (i : Fin n) : p (workers i) = false :=
  Bool.eq_false_iff.mpr (List.find?_eq_none.mp h i (List.mem_finRange i))

/-- Who helps the workers on: jobs come first, then those that look for
    some, and then those that sleep until a deadline. -/
def helpful (workers : Fin n → WorkerPc) : PoolHelper n :=
  match find_worker workers fun pc => pc.work.isSome with
  | some i => .finish i
  | none =>
    match find_worker workers fun pc => pc == .ready with
    | some i => .check i
    | none =>
      match find_worker workers WorkerPc.timed with
      | some i => .timeout i
      | none => .release

theorem helpful_cases (workers : Fin n → WorkerPc) :
    (∃ i, helpful workers = .finish i ∧ (workers i).work.isSome = true) ∨
    (∃ i, helpful workers = .check i ∧ workers i = .ready) ∨
    (∃ i d, helpful workers = .timeout i ∧ workers i = .timed_waiting d) ∨
    helpful workers = .release ∧
      ∀ i, (workers i).work.isSome = false ∧ (workers i).alert = false := by
  unfold helpful
  cases hrun : find_worker workers fun pc => pc.work.isSome with
  | some i => exact .inl ⟨i, rfl, find_worker_some hrun⟩
  | none =>
    cases hready : find_worker workers fun pc => pc == .ready with
    | some i => exact .inr (.inl ⟨i, rfl, beq_iff_eq.mp (find_worker_some hready)⟩)
    | none =>
      cases htimed : find_worker workers WorkerPc.timed with
      | some i =>
        have hi := find_worker_some htimed
        cases hpc : workers i with
        | timed_waiting d => exact .inr (.inr (.inl ⟨i, d, rfl, hpc⟩))
        | _ =>
          rw [hpc] at hi
          cases hi
      | none =>
        refine .inr (.inr (.inr ⟨rfl, fun i => ⟨find_worker_none hrun i, ?_⟩⟩))
        have hi := find_worker_none hready i
        have hi' := find_worker_none htimed i
        cases hpc : workers i with
        | ready =>
          rw [hpc] at hi
          cases hi
        | timed_waiting d =>
          rw [hpc] at hi'
          cases hi'
        | _ => rfl

/-- While a job runs, the others do not change who helps. -/
theorem helpful_of_running {workers workers' : Fin n → WorkerPc}
    (hwork : ∀ i, (workers' i).work = (workers i).work)
    (hrun : ∃ i, (workers i).work.isSome = true) :
    helpful workers' = helpful workers ∧ ∃ i, helpful workers = .finish i := by
  have hfind : find_worker workers' (fun pc => pc.work.isSome) =
      find_worker workers fun pc => pc.work.isSome := by
    unfold find_worker
    simp only [hwork]
  cases hfirst : find_worker workers fun pc => pc.work.isSome with
  | none =>
    obtain ⟨i, hi⟩ := hrun
    have hnone := find_worker_none hfirst i
    rw [hi] at hnone
    cases hnone
  | some i =>
    have hfinish : helpful workers = .finish i := by
      unfold helpful
      rw [hfirst]
    refine ⟨?_, i, hfinish⟩
    rw [hfinish]
    unfold helpful
    rw [hfind, hfirst]

theorem not_steps_tick (helper : PoolHelper n) (s s' : PoolState J n) (t : Timeval) :
    ¬ helper.steps s (.tick t) s' := by
  cases helper with
  | check i =>
    rintro ⟨_, _, h⟩
    cases h
  | timeout i =>
    rintro ⟨h, -⟩
    cases h
  | _ => exact nofun

theorem not_steps_add (helper : PoolHelper n) (s s' : PoolState J n) (by_worker : Option (Fin n))
    (job : J) (w : Timeval) (woken : Option (Fin n)) :
    ¬ helper.steps s (.add by_worker job w woken) s' := by
  cases helper with
  | check i =>
    rintro ⟨_, _, h⟩
    cases h
  | timeout i =>
    rintro ⟨h, -⟩
    cases h
  | _ => exact nofun

/-- A step that is enabled can be taken, if it is one of the helper's. -/
theorem can_of_enabled {s : PoolState J n} {l : PoolLabel J n} {helper : PoolHelper n}
    (hfault : s.fault = false) (hen : enabled s l) (hsteps : helper.steps s l (pool_step s l)) :
    System.Execution.Can (pool_system J n) helper.steps s :=
  ⟨l, _, ⟨⟨hfault, hen⟩, rfl⟩, hsteps⟩

/-- An infinite run has no fault. -/
theorem no_fault_along (e : (pool_system J n).Execution) (m : Nat) : (e.state m).fault = false :=
  (e.step m).1.1

theorem exec_along (e : (pool_system J n).Execution) (m : Nat) :
    enabled (e.state m) (e.label m) ∧ exec (e.state m) (e.label m) = some (e.state (m + 1)) := by
  obtain ⟨⟨-, hen⟩, heq⟩ := e.step m
  have hfault := no_fault_along e (m + 1)
  refine ⟨hen, ?_⟩
  rw [heq] at hfault ⊢
  unfold pool_step at *
  cases hexec : exec (e.state m) (e.label m) with
  | none =>
    rw [hexec] at hfault
    cases hfault
  | some s' => rfl

theorem PoolState.set_worker_self (s : PoolState J n) (i : Fin n) (pc : WorkerPc) :
    (s.set_worker i pc).workers i = pc :=
  Function.update_self ..

theorem PoolState.set_worker_of_ne (s : PoolState J n) {i j : Fin n} (h : j ≠ i) (pc : WorkerPc) :
    (s.set_worker i pc).workers j = s.workers j :=
  Function.update_of_ne h ..

/-- What is true of all workers, when one moves on. -/
theorem PoolState.forall_set_worker {P : WorkerPc → Prop} {s : PoolState J n} {i : Fin n}
    {pc : WorkerPc} (h : ∀ j, P (s.workers j)) (hpc : P pc) (j : Fin n) :
    P ((s.set_worker i pc).workers j) := by
  by_cases hji : j = i
  · subst hji
    rw [s.set_worker_self]
    exact hpc
  · rw [s.set_worker_of_ne hji]
    exact h j

/-- What all workers count for, when one moves on. -/
theorem sum_set_worker (weight : WorkerPc → Nat) (s : PoolState J n) (i : Fin n) (pc : WorkerPc) :
    ∑ j, weight ((s.set_worker i pc).workers j) + weight (s.workers i) =
      ∑ j, weight (s.workers j) + weight pc := by
  rw [← Finset.add_sum_erase Finset.univ (fun j => weight (s.workers j)) (Finset.mem_univ i),
    ← Finset.add_sum_erase Finset.univ (fun j => weight ((s.set_worker i pc).workers j))
      (Finset.mem_univ i)]
  have hrest : ∑ j ∈ Finset.univ.erase i, weight ((s.set_worker i pc).workers j) =
      ∑ j ∈ Finset.univ.erase i, weight (s.workers j) :=
    Finset.sum_congr rfl fun j hj => by rw [s.set_worker_of_ne (Finset.ne_of_mem_erase hj)]
  rw [s.set_worker_self, hrest]
  omega

/-! ### The pool on its way down -/

/-- `t_pool_destroy` has woken all workers, and the pool counts those that
    are still in their loops. -/
structure PoolDown (s : PoolState J n) : Prop where
  up : AllUp s
  count : ∀ tp ∈ s.pool, tp.thread_count = (active_workers s).card
  /-- The pool is there until `t_pool_destroy` returns. -/
  pool : s.destroyer ≠ .returned → s.pool.isSome = true

theorem not_waits_of_up {s : PoolState J n} (h : AllUp s) {woken : Option (Fin n)}
    (hwoken : can_wake s.workers woken) : woken = none := by
  cases woken with
  | none => rfl
  | some i => exact absurd hwoken (Bool.eq_false_iff.mp (h.awake i))

/-- A job that is added on the way down. -/
theorem add_cases {s s' : PoolState J n} {job : J} {w : Timeval}
    (h : t_pool_add_work s job w = some s') : s'.workers = s.workers ∧
      ∃ tp tp', s.pool = some tp ∧ s'.pool = some tp' ∧ tp'.thread_count = tp.thread_count := by
  simp only [t_pool_add_work, Option.bind_eq_bind, Option.bind_eq_some_iff,
    Option.some.injEq] at h
  obtain ⟨tp, htp, ⟨nodes, queue⟩, -, rfl⟩ := h
  exact ⟨rfl, tp, _, htp, rfl, rfl⟩

/-- A worker that looks at a stopped pool leaves. -/
theorem PoolDown.check_cases {s s' : PoolState J n} (h : PoolDown s) {i : Fin n} {t₁ t₂ : Timeval}
    (hexec : exec s (.check i t₁ t₂) = some s') : ∃ tp, s.pool = some tp ∧
      s' = ({ s with
        pool := some { tp with thread_count := tp.thread_count - 1 } }.set_worker i
          .exited).at_time t₂ := by
  cases hp : s.pool with
  | none => simp [exec, thread_check, hp] at hexec
  | some tp =>
    rw [check_exits hp (h.up.stop tp hp)] at hexec
    exact ⟨tp, rfl, (Option.some.inj hexec).symm⟩

/-- **Step lemma**: the count stays right. -/
theorem PoolDown.step {s s' : PoolState J n} {lab : PoolLabel J n} (h : PoolDown s)
    (hd : s.destroyer ≠ .not_called) (hs : (pool_system J n).step s lab s') : PoolDown s' := by
  have hup := h.up.step hd hs
  obtain ⟨⟨-, hen⟩, rfl⟩ := hs
  unfold pool_step at *
  cases hexec : exec s lab with
  | none => exact ⟨⟨h.up.awake, h.up.stop⟩, h.count, h.pool⟩
  | some s' =>
    rw [hexec, Option.getD_some] at hup
    rw [Option.getD_some]
    cases lab with
    | tick t =>
      obtain rfl := Option.some.inj hexec
      exact ⟨hup, h.count, h.pool⟩
    | add by_worker job w woken =>
      have hwoken : can_wake s.workers woken := by
        cases by_worker <;> exact hen.2
      obtain rfl := not_waits_of_up h.up hwoken
      obtain ⟨s₁, hadd, rfl⟩ := Option.map_eq_some_iff.mp hexec
      obtain ⟨hworkers, tp, tp', htp, htp', hcount⟩ := add_cases hadd
      refine ⟨hup, ?_, fun _ => ?_⟩
      · intro tp'' htp''
        obtain rfl := Option.some.inj (htp'.symm.trans htp'')
        have hactive : active_workers s₁ = active_workers s := by
          unfold active_workers
          rw [hworkers]
        show tp'.thread_count = (active_workers s₁).card
        rw [hcount, hactive]
        exact h.count tp htp
      · show s₁.pool.isSome = true
        rw [htp']
        rfl
    | check i t₁ t₂ =>
      obtain ⟨hi, -⟩ := hen
      obtain ⟨tp, htp, rfl⟩ := h.check_cases hexec
      refine ⟨hup, ?_, fun _ => rfl⟩
      rintro tp' ⟨⟩
      have hexit : (active_workers (s.set_worker i .exited)).card + 1 = (active_workers s).card :=
        active_workers_exit (by rw [hi]; exact nofun)
      have hcount := h.count tp htp
      show tp.thread_count - 1 = ((active_workers (s.set_worker i .exited)).card : Int)
      omega
    | wake i => exact absurd hen (Bool.eq_false_iff.mp (h.up.awake i))
    | finish i =>
      obtain ⟨work, hi, rfl⟩ := finish_cases hexec
      have hactive : active_workers ((s.finished work).set_worker i .ready) = active_workers s :=
        active_workers_set_worker (s := s.finished work)
          (by rw [PoolState.finished, hi]; exact nofun) nofun
      refine ⟨hup, ?_, h.pool⟩
      rw [hactive]
      exact h.count
    | destroy => exact absurd hen hd
    | release =>
      obtain rfl := Option.some.inj hexec
      exact ⟨hup, nofun, fun hne => absurd rfl hne⟩

/-- **Run lemma**: the count is right from `t_pool_destroy` on. -/
theorem reachable_down {s : PoolState J n} (h : (pool_system J n).Reachable s)
    (hd : s.destroyer ≠ .not_called) : PoolDown s := by
  refine System.Reachable.invariant_from (A := fun s => s.destroyer ≠ .not_called) ?_ ?_ ?_ h hd
  · rintro s ⟨tv_usec, clock, rfl⟩ hd
    exact hd rfl
  · intro s lab s' hreach hup hs hd'
    have hallUp := reachable_allUp (hreach.step hs) hd'
    have hup : s.destroyer = .not_called := Decidable.not_not.mp hup
    obtain ⟨tp, l, hp⟩ := reachable_up hreach hup
    rcases hp.runs.step hp.jobs.queued_nodup hup hs with ⟨rfl, hd⟩ | ⟨tp', l', hstep⟩
    · obtain ⟨nodes, works, hspec, -⟩ := t_pool_destroy_spec hp.runs hp.jobs.queued_nodup
      rw [hspec] at hd
      obtain rfl := Option.some.inj hd
      refine ⟨hallUp, ?_, fun _ => rfl⟩
      rintro _ ⟨⟩
      -- all workers are still in their loops
      have hall : active_workers (s.torn_down nodes works tp) = Finset.univ :=
        Finset.filter_true_of_mem fun i _ h => hp.runs.active i (WorkerPc.awake_eq_exited.mp h)
      rw [hall, Finset.card_univ, Fintype.card_fin]
      exact hp.runs.count
    · exact absurd (hstep.destroyer.trans hup) hd'
  · exact fun s lab s' hup ih hs => ih.step hup hs

/-! ### `t_pool_destroy` returns -/

/-- The steps a worker is away from leaving. -/
def WorkerPc.to_exit : WorkerPc → Nat
  | .exited => 0
  | .executing _ => 2
  | _ => 1

/-- What is left of the shutdown. -/
def exits_left (s : PoolState J n) : Nat := ∑ i, (s.workers i).to_exit

/-- Someone can move on until `t_pool_destroy` returns. -/
theorem PoolDown.can_help {s : PoolState J n} (h : PoolDown s) (hfault : s.fault = false)
    (hd : s.destroyer = .waiting) :
    System.Execution.Can (pool_system J n) (helpful s.workers).steps s := by
  rcases helpful_cases s.workers with
    ⟨i, hhelp, hi⟩ | ⟨i, hhelp, hi⟩ | ⟨i, d, -, hi⟩ | ⟨hhelp, hall⟩
  · rw [hhelp]
    exact can_of_enabled (l := .finish i) hfault hi rfl
  · rw [hhelp]
    exact can_of_enabled (l := .check i s.clock s.clock) hfault ⟨hi, le_rfl, le_rfl⟩ ⟨_, _, rfl⟩
  · have hawake := h.up.awake i
    rw [hi] at hawake
    cases hawake
  · -- no worker is left
    have hexited : ∀ i, s.workers i = .exited := by
      intro i
      obtain ⟨hwork, halert⟩ := hall i
      have hawake := h.up.awake i
      cases hpc : s.workers i with
      | exited => rfl
      | ready =>
        rw [hpc] at halert
        cases halert
      | executing work =>
        rw [hpc] at hwork
        cases hwork
      | waiting =>
        rw [hpc] at hawake
        cases hawake
      | timed_waiting d =>
        rw [hpc] at hawake
        cases hawake
    have hnone : (active_workers s).card = 0 :=
      Finset.card_eq_zero.mpr (Finset.filter_eq_empty_iff.mpr fun i _ hi => hi (hexited i))
    rw [hhelp]
    refine can_of_enabled (l := .release) hfault ⟨hd, fun tp htp => ?_⟩ rfl
    have hcount := h.count tp htp
    omega

/-- **Step lemma**: on the way down a worker comes nearer to its end, or
    nothing changes for the workers. -/
theorem PoolDown.step_progresses {s s' : PoolState J n} {lab : PoolLabel J n} (h : PoolDown s)
    (hd : s.destroyer = .waiting) (hen : enabled s lab) (hexec : exec s lab = some s')
    (hret : s'.destroyer ≠ .returned) :
    System.Execution.Progresses PoolHelper.steps exits_left (fun s => helpful s.workers)
      s lab s' := by
  cases lab with
  | tick t =>
    obtain rfl := Option.some.inj hexec
    exact .inr ⟨rfl, rfl, not_steps_tick _ _ _ _⟩
  | add by_worker job w woken =>
    have hwoken : can_wake s.workers woken := by
      cases by_worker <;> exact hen.2
    obtain rfl := not_waits_of_up h.up hwoken
    obtain ⟨s₁, hadd, rfl⟩ := Option.map_eq_some_iff.mp hexec
    have hworkers : (signal s₁ none).workers = s.workers := (add_cases hadd).1
    refine .inr ⟨?_, ?_, not_steps_add _ _ _ _ _ _ _⟩
    · unfold exits_left
      rw [hworkers]
    · show helpful (signal s₁ none).workers = _
      rw [hworkers]
  | check i t₁ t₂ =>
    obtain ⟨hi, -⟩ := hen
    obtain ⟨tp, -, rfl⟩ := h.check_cases hexec
    left
    have hsum := sum_set_worker WorkerPc.to_exit s i .exited
    rw [hi] at hsum
    have hone : WorkerPc.ready.to_exit = 1 := rfl
    have hzero : WorkerPc.exited.to_exit = 0 := rfl
    show ∑ j, ((s.set_worker i .exited).workers j).to_exit < ∑ j, (s.workers j).to_exit
    omega
  | wake i => exact absurd hen (Bool.eq_false_iff.mp (h.up.awake i))
  | finish i =>
    obtain ⟨work, hi, rfl⟩ := finish_cases hexec
    left
    have hsum := sum_set_worker WorkerPc.to_exit s i .ready
    rw [hi] at hsum
    have htwo : (WorkerPc.executing work).to_exit = 2 := rfl
    have hone : WorkerPc.ready.to_exit = 1 := rfl
    show ∑ j, ((s.set_worker i .ready).workers j).to_exit < ∑ j, (s.workers j).to_exit
    omega
  | destroy =>
    rw [show s.destroyer = .not_called from hen] at hd
    cases hd
  | release =>
    obtain rfl := Option.some.inj hexec
    exact absurd rfl hret

/-- **`t_pool_destroy` returns**, once it is called. -/
theorem destroy_returns (e : (pool_system J n).Execution) (hfair : PoolFairly e) {k : Nat}
    (hd : (e.state k).destroyer ≠ .not_called) :
    ∃ m, k ≤ m ∧ (e.state m).destroyer = .returned := by
  have hwaiting : ∀ m, (e.state m).destroyer ≠ .not_called →
      (e.state m).destroyer ≠ .returned → (e.state m).destroyer = .waiting := by
    intro m hcalled hret
    cases hdm : (e.state m).destroyer with
    | not_called => exact absurd hdm hcalled
    | waiting => rfl
    | returned => exact absurd hdm hret
  refine System.Execution.eventually_of_rank (A := PoolHelper.steps)
    (I := fun s => s.destroyer ≠ .not_called) (Q := fun s => s.destroyer = .returned)
    exits_left (fun s => helpful s.workers) hfair.helps hd ?_ ?_ ?_
  · exact fun m _ hI _ _ => destroyer_step (e.step m) hI
  · intro m _ hI hret
    exact (reachable_down (e.reachable m) hI).can_help (no_fault_along e m) (hwaiting m hI hret)
  · intro m _ hI hret hret'
    obtain ⟨hen, hexec⟩ := exec_along e m
    exact (reachable_down (e.reachable m) hI).step_progresses (hwaiting m hI hret) hen hexec hret'

/-! ### Draining the queue -/

instance : Nonempty Timeval := ⟨⟨0, 0⟩⟩

/-- A job that is due before `T`, and whose deadline comes before. -/
def DueBefore (T t : Timeval) : Prop := t < T ∧ (deadline t).passed T

theorem eventually_dueBefore (t : Timeval) : ∀ᶠ T in Filter.atTop, DueBefore T t := by
  refine Filter.eventually_atTop.mpr ⟨⟨t.tv_sec + 2, 0⟩, fun T hT => ?_⟩
  rw [Timeval.le_iff] at hT
  have hlate : t.tv_sec + 2 ≤ T.tv_sec := by
    rcases hT with hlt | ⟨heq, -⟩
    · exact hlt.le
    · exact heq.le
  refine ⟨Timeval.lt_iff.mpr (.inl (by omega)), .inl ?_⟩
  unfold deadline
  dsimp only
  split
  · show t.tv_sec + 1 < T.tv_sec
    omega
  · show t.tv_sec < T.tv_sec
    omega

theorem eventually_passed (d : Timespec) : ∀ᶠ T in Filter.atTop, d.passed T := by
  refine Filter.eventually_atTop.mpr ⟨⟨d.tv_sec + 1, 0⟩, fun T hT => .inl ?_⟩
  rw [Timeval.le_iff] at hT
  have hlate : d.tv_sec + 1 ≤ T.tv_sec := by
    rcases hT with hlt | ⟨heq, -⟩
    · exact hlt.le
    · exact heq.le
  omega

/-- The pool is up with the queue `l`, and nothing has to wait longer than
    until `T`. -/
structure Drains (T : Timeval) (s : PoolState J n) (tp : ThreadPool) (l : List (Nat × PrioEntry)) :
    Prop where
  up : PoolUp s tp l
  due : ∀ e ∈ l, DueBefore T e.2.2
  sleep_until : l ≠ [] → DueBefore T tp.sleep_until
  timed : ∀ i d, s.workers i = .timed_waiting d → d.passed T

/-- In every state all waiting ends at some time. -/
theorem PoolUp.drains {s : PoolState J n} {tp : ThreadPool} {l : List (Nat × PrioEntry)}
    (h : PoolUp s tp l) : ∃ T, Drains T s tp l := by
  have hdue : ∀ᶠ T in Filter.atTop, ∀ e ∈ l, DueBefore T e.2.2 :=
    (Filter.eventually_all_finite (List.finite_toSet l)).mpr fun e _ => eventually_dueBefore e.2.2
  have htimed : ∀ᶠ T in Filter.atTop, ∀ i d, s.workers i = .timed_waiting d → d.passed T := by
    refine Filter.eventually_all.mpr fun i => ?_
    cases hpc : s.workers i with
    | timed_waiting d =>
      filter_upwards [eventually_passed d] with T hT d' heq
      cases heq
      exact hT
    | _ => exact Filter.Eventually.of_forall fun _ _ => nofun
  obtain ⟨T, hT⟩ := (hdue.and (htimed.and (eventually_dueBefore tp.sleep_until))).exists
  exact ⟨T, h, hT.1, fun _ => hT.2.2, hT.2.1⟩

/-- A worker goes to sleep only where it must, until the deadline it has read. -/
theorem PoolRuns.wait_cases {s : PoolState J n} {tp : ThreadPool} {l : List (Nat × PrioEntry)}
    (h : PoolRuns s tp l) {i : Fin n} {t₁ t₂ : Timeval} {pc : WorkerPc} (hpc : pc.waits = true)
    (hstep : pool_step s (.check i t₁ t₂) = (s.set_worker i pc).at_time t₂) :
    must_wait tp t₁ = true ∧
      (pc = .waiting ∨ l ≠ [] ∧ pc = .timed_waiting (deadline tp.sleep_until)) := by
  have hi : (pool_step s (.check i t₁ t₂)).workers i = pc := by
    rw [hstep]
    exact s.set_worker_self i pc
  cases hmust : must_wait tp t₁ with
  | true =>
    rw [pool_step, check_waits h.pool i t₂ hmust, Option.getD_some] at hi
    have hi := (s.set_worker_self i _).symm.trans hi
    refine ⟨rfl, ?_⟩
    split at hi
    · next htimed =>
      right
      simp only [Bool.and_eq_true, decide_eq_true_eq, h.holds.size] at htimed
      exact ⟨List.length_pos_iff.mp htimed.1, hi.symm⟩
    · exact .inl hi.symm
  | false =>
    obtain ⟨-, p, w, d, l', queue, -, -, hexec⟩ := h.check_pops i t₂ hmust
    rw [pool_step, hexec, Option.getD_some] at hi
    rw [← (PoolState.set_worker_self _ i _).symm.trans hi] at hpc
    cases hpc

/-- Neither `t_pool_add_work` nor `t_pool_destroy`. -/
def PoolLabel.calm : PoolLabel J n → Prop
  | .add _ _ _ _ => False
  | .destroy => False
  | _ => True

/-- The timed waits, after one worker has moved on. -/
theorem timed_set_worker {T : Timeval} {s : PoolState J n} {i : Fin n} {pc : WorkerPc}
    (h : ∀ i d, s.workers i = .timed_waiting d → d.passed T)
    (hpc : ∀ d, pc = .timed_waiting d → d.passed T) :
    ∀ j d, (s.set_worker i pc).workers j = .timed_waiting d → d.passed T :=
  PoolState.forall_set_worker (P := fun pc => ∀ d, pc = .timed_waiting d → d.passed T) h hpc

/-- **Step lemma**: without new jobs, no wait gets longer. -/
theorem Drains.step {T : Timeval} {s : PoolState J n} {tp : ThreadPool}
    {l : List (Nat × PrioEntry)} (h : Drains T s tp l) {lab : PoolLabel J n}
    (hen : enabled s lab) (hcalm : lab.calm) :
    ∃ tp' l', PoolStep s tp l lab (pool_step s lab) tp' l' ∧
      Drains T (pool_step s lab) tp' l' := by
  have hne : lab ≠ .destroy := by
    rintro rfl
    exact hcalm
  obtain ⟨tp', l', hstep, hup⟩ := h.up.step lab hen hne
  refine ⟨tp', l', hstep, ?_⟩
  generalize hs' : pool_step s lab = s' at hstep hup ⊢
  cases hstep with
  | tick t _ => exact ⟨hup, h.due, h.sleep_until, h.timed⟩
  | add => exact hcalm.elim
  | wait i t₁ t₂ pc hi _ hpc =>
    obtain ⟨-, hwait⟩ := h.up.runs.wait_cases hpc hs'
    refine ⟨hup, h.due, h.sleep_until, timed_set_worker h.timed fun d heq => ?_⟩
    rcases hwait with rfl | ⟨hl, rfl⟩
    · cases heq
    · cases heq
      exact (h.sleep_until hl).2
  | pop i t₁ t₂ p w d l' tp' queue hi _ _ _ hl _ htp =>
    subst hl htp
    refine ⟨hup, fun e he => h.due e (List.mem_cons_of_mem _ he), fun hl => ?_,
      @timed_set_worker _ _ _ (s.popped p _) _ _ h.timed nofun⟩
    -- the new head says until when
    cases l' with
    | nil => exact absurd rfl hl
    | cons e l' => exact h.due e (List.mem_cons_of_mem _ List.mem_cons_self)
  | wake i hi =>
    refine ⟨hup, h.due, h.sleep_until, timed_set_worker h.timed fun d heq => ?_⟩
    have hawake := WorkerPc.waits_awake (s.workers i)
    rw [heq] at hawake
    cases hawake
  | finish i work hi =>
    exact ⟨hup, h.due, h.sleep_until, @timed_set_worker _ _ _ (s.finished work) _ _ h.timed nofun⟩

/-! ### All jobs are executed -/

/-- The worker has a job. -/
def WorkerPc.busy : WorkerPc → Nat
  | .executing _ => 1
  | _ => 0

/-- The worker sleeps on `work_cond`. -/
def WorkerPc.asleep : WorkerPc → Nat
  | .waiting => 1
  | .timed_waiting _ => 1
  | _ => 0

/-- The jobs in the queue. -/
def queue_size (s : PoolState J n) : Nat := (s.pool.map fun tp => tp.queue.size).getD 0

/-- What is left to do. Workers that sleep count only as long as there is
    a job for them. -/
def jobs_left (s : PoolState J n) : Nat :=
  2 * queue_size s + ∑ i, (s.workers i).busy +
    if queue_size s = 0 then 0 else ∑ i, (s.workers i).asleep

/-- No job is queued or running. -/
def AllDone (s : PoolState J n) : Prop :=
  queue_size s = 0 ∧ ∀ i, (s.workers i).work.isSome = false

theorem PoolRuns.queue_size {s : PoolState J n} {tp : ThreadPool} {l : List (Nat × PrioEntry)}
    (h : PoolRuns s tp l) : queue_size s = l.length := by
  unfold DiscoC.queue_size
  rw [h.pool, ← h.holds.size]
  rfl

/-- With the queue empty, someone runs what is left. -/
theorem exists_running {s : PoolState J n} (hleft : ¬ AllDone s) (hsize : queue_size s = 0) :
    ∃ i, (s.workers i).work.isSome = true := by
  by_contra hnone
  refine hleft ⟨hsize, fun i => Bool.eq_false_iff.mpr fun hi => hnone ⟨i, hi⟩⟩

/-- No worker has to wait while a job is queued and `sleep_until` is past. -/
theorem PoolRuns.empty_of_must_wait {s : PoolState J n} {tp : ThreadPool}
    {l : List (Nat × PrioEntry)} (h : PoolRuns s tp l) {t : Timeval}
    (hdue : l ≠ [] → tp.sleep_until < t) (hmust : must_wait tp t = true) : l = [] := by
  by_contra hl
  have hpast : is_future t tp.sleep_until = false :=
    Bool.eq_false_iff.mpr fun hfuture => not_le.mpr (hdue hl) (is_future_iff.mp hfuture)
  have hsize : (tp.queue.size == 0) = false := by
    rw [h.holds.size]
    exact beq_eq_false_iff_ne.mpr (List.length_pos_iff.mpr hl).ne'
  unfold must_wait at hmust
  rw [hpast, hsize] at hmust
  simp at hmust

/-- That is so from `T` on. -/
theorem Drains.empty_of_must_wait {T : Timeval} {s : PoolState J n} {tp : ThreadPool}
    {l : List (Nat × PrioEntry)} (h : Drains T s tp l) {t : Timeval} (ht : T ≤ t)
    (hmust : must_wait tp t = true) : l = [] :=
  h.up.runs.empty_of_must_wait (fun hl => (h.sleep_until hl).1.trans_le ht) hmust

/-- A worker that is not done with the queue can be helped: if none looks at
    it or has a deadline, the workers oversleep. -/
theorem Drains.can_help {T : Timeval} {s : PoolState J n} {tp : ThreadPool}
    {l : List (Nat × PrioEntry)} (h : Drains T s tp l) (hT : T ≤ s.clock) (hn : 0 < n)
    (hwatch : ¬ Oversleeps s) (hleft : ¬ AllDone s) :
    System.Execution.Can (pool_system J n) (helpful s.workers).steps s := by
  have hfault := h.up.runs.no_fault
  rcases helpful_cases s.workers with
    ⟨i, hhelp, hi⟩ | ⟨i, hhelp, hi⟩ | ⟨i, d, hhelp, hi⟩ | ⟨-, hall⟩
  · rw [hhelp]
    exact can_of_enabled (l := .finish i) hfault hi rfl
  · rw [hhelp]
    exact can_of_enabled (l := .check i s.clock s.clock) hfault ⟨hi, le_rfl, le_rfl⟩ ⟨_, _, rfl⟩
  · rw [hhelp]
    have hpassed := (h.timed i d hi).mono hT
    refine can_of_enabled (l := .wake i) hfault ?_ ⟨rfl, d, hi, hpassed⟩
    show (s.workers i).waits = true
    rw [hi]
    rfl
  · exfalso
    have hsize : queue_size s ≠ 0 := fun hzero => hleft ⟨hzero, fun i => (hall i).1⟩
    refine hwatch (oversleeps_iff.mpr
      ⟨⟨tp, h.up.runs.pool, ?_⟩, ⟨⟨0, hn⟩, ?_⟩, fun i => (hall i).2⟩)
    · rw [h.up.runs.queue_size, ← h.up.runs.holds.size] at hsize
      exact hsize
    · -- a worker without a job that is not alert and has not left
      obtain ⟨hwork, halert⟩ := hall ⟨0, hn⟩
      have hactive := h.up.runs.active ⟨0, hn⟩
      cases hpc : s.workers ⟨0, hn⟩ with
      | waiting => rfl
      | executing work =>
        rw [hpc] at hwork
        cases hwork
      | exited => exact absurd hpc hactive
      | ready =>
        rw [hpc] at halert
        cases halert
      | timed_waiting d =>
        rw [hpc] at halert
        cases halert

/-- Where the queue is empty, a worker that goes to sleep or wakes up changes
    nothing. -/
theorem progresses_of_same_work {s s' : PoolState J n} {lab : PoolLabel J n} (hleft : ¬ AllDone s)
    (hsize : queue_size s = 0) (hpool : s'.pool = s.pool)
    (hwork : ∀ i, (s'.workers i).work = (s.workers i).work) (hlab : ∀ i, lab ≠ .finish i) :
    System.Execution.Progresses PoolHelper.steps jobs_left (fun s => helpful s.workers)
      s lab s' := by
  obtain ⟨hsame, i, hfinish⟩ := helpful_of_running hwork (exists_running hleft hsize)
  refine .inr ⟨?_, hsame, ?_⟩
  · have hsize' : queue_size s' = queue_size s := by
      unfold queue_size
      rw [hpool]
    have hbusy : ∀ j, (s'.workers j).busy = (s.workers j).busy := by
      have hcount : ∀ pc : WorkerPc, pc.busy = pc.work.elim 0 fun _ => 1 := by
        intro pc
        cases pc <;> rfl
      intro j
      rw [hcount, hcount, hwork]
    unfold jobs_left
    rw [hsize', if_pos hsize, if_pos hsize, Finset.sum_congr rfl fun j _ => hbusy j]
  · show ¬ (helpful s.workers).steps s lab s'
    rw [hfinish]
    exact hlab i

/-- **Step lemma**: from `T` on each step gets the jobs nearer to their end,
    or changes nothing for the workers. -/
theorem Drains.step_progresses {T : Timeval} {s : PoolState J n} {tp : ThreadPool}
    {l : List (Nat × PrioEntry)} (h : Drains T s tp l) (hT : T ≤ s.clock) {lab : PoolLabel J n}
    (hen : enabled s lab) (hcalm : lab.calm) (hleft : ¬ AllDone s) :
    System.Execution.Progresses PoolHelper.steps jobs_left (fun s => helpful s.workers)
      s lab (pool_step s lab) := by
  obtain ⟨tp', l', hstep, hup⟩ := h.step hen hcalm
  have hrunning : ∀ work, (WorkerPc.executing work).busy = 1 ∧
      (WorkerPc.executing work).asleep = 0 := fun _ => ⟨rfl, rfl⟩
  have hready : WorkerPc.ready.busy = 0 ∧ WorkerPc.ready.asleep = 0 := ⟨rfl, rfl⟩
  have hsize := h.up.runs.queue_size
  have hsize' := hup.up.runs.queue_size
  generalize hs' : pool_step s lab = s' at hstep hsize'
  cases hstep with
  | tick t _ => exact .inr ⟨rfl, rfl, not_steps_tick _ _ _ _⟩
  | add => exact hcalm.elim
  | wait i t₁ t₂ pc hi _ hpc =>
    obtain ⟨hmust, -⟩ := h.up.runs.wait_cases hpc hs'
    obtain rfl := h.empty_of_must_wait (hT.trans hen.2.1) hmust
    refine progresses_of_same_work hleft hsize rfl ?_ nofun
    have hwork : pc.work = (s.workers i).work := by rw [WorkerPc.work_of_waits hpc, hi]; rfl
    exact fun j => congrFun (PoolState.running_set_worker_of_same hwork) j
  | pop i t₁ t₂ p w d l' tp' queue hi _ _ _ hl _ htp =>
    subst hl
    left
    have hbusy := sum_set_worker WorkerPc.busy s i (.executing w)
    have hasleep := sum_set_worker WorkerPc.asleep s i (.executing w)
    rw [hi, hready.1, (hrunning w).1] at hbusy
    rw [hi, hready.2, (hrunning w).2] at hasleep
    rw [List.length_cons] at hsize
    unfold jobs_left
    rw [hsize, hsize', if_neg (Nat.succ_ne_zero _)]
    show 2 * l'.length + ∑ j, ((s.set_worker i (.executing w)).workers j).busy +
      (if l'.length = 0 then 0
        else ∑ j, ((s.set_worker i (.executing w)).workers j).asleep) < _
    split
    · omega
    · omega
  | wake i hi =>
    by_cases hl : l = []
    · subst hl
      refine progresses_of_same_work hleft hsize rfl ?_ nofun
      exact fun j =>
        congrFun (PoolState.running_set_worker_of_same (WorkerPc.work_awake (s.workers i))) j
    · left
      have hbusy := sum_set_worker WorkerPc.busy s i (s.workers i).awake
      have hasleep := sum_set_worker WorkerPc.asleep s i (s.workers i).awake
      have hone : (s.workers i).busy = 0 ∧ (s.workers i).asleep = 1 ∧
          (s.workers i).awake = .ready := by
        cases hpc : s.workers i with
        | waiting => exact ⟨rfl, rfl, rfl⟩
        | timed_waiting d => exact ⟨rfl, rfl, rfl⟩
        | _ =>
          rw [hpc] at hi
          cases hi
      rw [hone.2.2, hone.1, hready.1] at hbusy
      rw [hone.2.2, hone.2.1, hready.2] at hasleep
      have hne : l.length ≠ 0 := (List.length_pos_iff.mpr hl).ne'
      unfold jobs_left
      rw [hsize, hsize', if_neg hne, if_neg hne, hone.2.2]
      omega
  | finish i work hi =>
    left
    have hbusy := sum_set_worker WorkerPc.busy s i .ready
    have hasleep := sum_set_worker WorkerPc.asleep s i .ready
    rw [hi, hready.1, (hrunning work).1] at hbusy
    rw [hi, hready.2, (hrunning work).2] at hasleep
    unfold jobs_left
    rw [hsize, hsize']
    show 2 * l.length + ∑ j, ((s.set_worker i .ready).workers j).busy +
      (if l.length = 0 then 0 else ∑ j, ((s.set_worker i .ready).workers j).asleep) < _
    split
    · omega
    · omega

theorem PoolStep.clock_le {s s' : PoolState J n} {tp tp' : ThreadPool}
    {l l' : List (Nat × PrioEntry)} {lab : PoolLabel J n} (h : PoolStep s tp l lab s' tp' l') :
    s.clock ≤ s'.clock := by
  cases h with
  | tick t ht => exact ht
  | add by_worker job w woken nodes tp' queue => cases woken <;> exact le_rfl
  | wait i t₁ t₂ pc _ ht _ => exact ht
  | pop i t₁ t₂ p w d l' tp' queue _ ht₁ ht₂ => exact ht₁.trans ht₂
  | wake => exact le_rfl
  | finish => exact le_rfl

theorem PoolStep.added_of_calm {s s' : PoolState J n} {tp tp' : ThreadPool}
    {l l' : List (Nat × PrioEntry)} {lab : PoolLabel J n} (h : PoolStep s tp l lab s' tp' l')
    (hcalm : lab.calm) : s'.added = s.added := by
  cases h with
  | add => exact hcalm.elim
  | _ => rfl

/-- **Run lemma**: without new jobs, waiting ends at `T` for good. -/
theorem drains_along (e : (pool_system J n).Execution) {T : Timeval} {k : Nat} {tp : ThreadPool}
    {l : List (Nat × PrioEntry)} (h : Drains T (e.state k) tp l)
    (hcalm : ∀ m, k ≤ m → (e.label m).calm) {m : Nat} (hm : k ≤ m) :
    (e.state m).added = (e.state k).added ∧ ∃ tp l, Drains T (e.state m) tp l := by
  induction m, hm using Nat.le_induction with
  | base => exact ⟨rfl, tp, l, h⟩
  | succ m hm ih =>
    obtain ⟨hadded, tp, l, hdrains⟩ := ih
    obtain ⟨⟨-, hen⟩, heq⟩ := e.step m
    obtain ⟨tp', l', hstep, hdrains'⟩ := hdrains.step hen (hcalm m hm)
    rw [heq]
    exact ⟨(hstep.added_of_calm (hcalm m hm)).trans hadded, tp', l', hdrains'⟩

/-- As long as all steps keep watch, the workers never oversleep. -/
theorem never_oversleeps (e : (pool_system J n).Execution)
    (hwatch : ∀ m, KeepsWatch (e.state m) (e.label m)) (m : Nat) : ¬ Oversleeps (e.state m) := by
  induction m with
  | zero =>
    obtain ⟨tv_usec, clock, hinit⟩ := e.init
    rw [hinit]
    exact not_oversleeps_of_awake fun _ => rfl
  | succ m ih =>
    rw [oversleeps_step_iff (e.reachable m) ih (e.step m)]
    exact not_not_intro (hwatch m)

/-- Once no job is queued or running, all that were added are executed. -/
theorem PoolUp.executed_of_allDone {s : PoolState J n} {tp : ThreadPool}
    {l : List (Nat × PrioEntry)} (h : PoolUp s tp l) (hdone : AllDone s) :
    s.executed.Perm s.added := by
  have hl : l = [] := List.length_eq_zero_iff.mp (h.runs.queue_size.symm.trans hdone.1)
  subst hl
  have hidle : (pool_jobs s []).in_work = 0 := by
    refine Finset.sum_eq_zero fun i _ => ?_
    have hnone : s.running i = none := Option.not_isSome_iff_eq_none.mp (by
      show ¬ (s.workers i).work.isSome = true
      rw [hdone.2 i]
      exact nofun)
    show JobPool.held (s.running i) = 0
    rw [hnone]
    rfl
  have hparts := h.jobs.parts
  rw [hidle] at hparts
  have hparts : (s.added : Multiset Nat) = 0 + 0 + (s.executed : Multiset Nat) := hparts
  rw [zero_add, zero_add] at hparts
  exact (Multiset.coe_eq_coe.mp hparts).symm

/-- The pool gets through its work, unless the workers oversleep. -/
theorem eventually_allDone (e : (pool_system J n).Execution) (hn : 0 < n) (hfair : PoolFairly e)
    (hwatch : ∀ m, ¬ Oversleeps (e.state m)) {k : Nat}
    (hup : (e.state k).destroyer = .not_called) (hcalm : ∀ m, k ≤ m → (e.label m).calm) :
    ∃ m, k ≤ m ∧ AllDone (e.state m) ∧ (e.state m).executed.Perm (e.state k).added := by
  obtain ⟨tp, l, hp⟩ := reachable_up (e.reachable k) hup
  obtain ⟨T, hT⟩ := hp.drains
  obtain ⟨j, hkj, hj⟩ := hfair.time T k
  obtain ⟨m, hm, hdone⟩ := @System.Execution.eventually_of_rank _ _ _ _ _ _ e PoolHelper.steps
    (fun s => T ≤ s.clock) AllDone _ jobs_left (fun s => helpful s.workers) hfair.helps j hj
    (fun m hm hI _ _ => by
      obtain ⟨-, tp, l, hdrains⟩ := drains_along e hT hcalm (hkj.trans hm)
      obtain ⟨⟨-, hen⟩, heq⟩ := e.step m
      obtain ⟨tp', l', hstep, -⟩ := hdrains.step hen (hcalm m (hkj.trans hm))
      show T ≤ (e.state (m + 1)).clock
      rw [heq]
      exact le_trans hI hstep.clock_le)
    (fun m hm hI hleft => by
      obtain ⟨-, tp, l, hdrains⟩ := drains_along e hT hcalm (hkj.trans hm)
      exact hdrains.can_help hI hn (hwatch m) hleft)
    (fun m hm hI hleft _ => by
      obtain ⟨-, tp, l, hdrains⟩ := drains_along e hT hcalm (hkj.trans hm)
      obtain ⟨⟨-, hen⟩, heq⟩ := e.step m
      rw [heq]
      exact hdrains.step_progresses hI hen (hcalm m (hkj.trans hm)) hleft)
  obtain ⟨hadded, tp, l, hdrains⟩ := drains_along e hT hcalm (hkj.trans hm)
  refine ⟨m, hkj.trans hm, hdone, ?_⟩
  rw [← hadded]
  exact hdrains.up.executed_of_allDone hdone

/-- **All jobs get done**: if from `k` on no job is added and the pool is not
    destroyed, each job that the first `k` steps have added has been executed
    at some time. -/
theorem jobs_get_done (e : (pool_system J n).Execution) (hn : 0 < n) (hfair : PoolFairly e)
    (hwatch : ∀ m, KeepsWatch (e.state m) (e.label m)) {k : Nat}
    (hup : (e.state k).destroyer = .not_called) (hcalm : ∀ m, k ≤ m → (e.label m).calm) :
    ∃ m, k ≤ m ∧
      (e.state m).executed.Perm (List.range (jobs_added (e.labels k)).length) := by
  obtain ⟨m, hm, -, hperm⟩ :=
    eventually_allDone e hn hfair (never_oversleeps e hwatch) hup hcalm
  have hadds := run_adds_recorded (e.run k) hup
  rw [← hadds.next]
  exact ⟨m, hm, hperm.trans hadds.added⟩

/-! ### Two executions -/

/-- The time goes on. -/
def PoolState.later (s : PoolState J n) (k : Nat) : PoolState J n :=
  s.at_time ⟨s.clock.tv_sec + k, s.clock.tv_usec⟩

/-- The time passes. -/
theorem time_of_later {clock : Nat → Timeval} {k : Nat} {s : PoolState J n}
    (he : ∀ m, clock (k + m) = (s.later m).clock) (t : Timeval) (j : Nat) :
    ∃ m, j ≤ m ∧ t ≤ clock m := by
  refine ⟨k + (j + (t.tv_sec - s.clock.tv_sec + 1).toNat), by omega, ?_⟩
  rw [he, Timeval.le_iff]
  left
  show t.tv_sec < s.clock.tv_sec + _
  push_cast
  omega

/-- A run goes on for ever while the time passes. -/
theorem exists_later {s : PoolState J n} {P : PoolState J n → PoolLabel J n → Prop}
    (h : ((pool_system J n).guarded P).Reachable s) (hfault : s.fault = false)
    (hP : ∀ s t, P s (.tick t)) : ∃ (e : ((pool_system J n).guarded P).Execution) (k : Nat),
      ∀ m, e.state (k + m) = s.later m ∧ ∃ t, e.label (k + m) = .tick t := by
  obtain ⟨ls, hrun⟩ := h
  obtain ⟨e, he⟩ := @System.Execution.exists_of_run _ _ _ _ _ hrun s.later
    (fun m => .tick ⟨s.clock.tv_sec + (m + 1), s.clock.tv_usec⟩)
    (by
      unfold PoolState.later
      simp [PoolState.at_time])
    (fun m => by
      refine ⟨hP _ _, ⟨hfault, ?_⟩, ?_⟩
      · show (⟨s.clock.tv_sec + m, s.clock.tv_usec⟩ : Timeval) ≤ _
        rw [Timeval.le_iff]
        left
        show s.clock.tv_sec + m < s.clock.tv_sec + (m + 1)
        omega
      · show s.later (m + 1) = _
        unfold PoolState.later
        rw [Int.natCast_succ]
        rfl)
  exact ⟨e, ls.length, fun m => ⟨(he m).1, _, (he m).2⟩⟩

/-- That is fair once all workers sleep without a deadline or have left. -/
theorem fairly_of_later {e : (pool_system J n).Execution} {k : Nat} {s : PoolState J n}
    (hworkers : ∀ i, s.workers i = .waiting ∨ s.workers i = .exited)
    (hd : s.destroyer ≠ .waiting) (he : ∀ m, e.state (k + m) = s.later m) : PoolFairly e := by
  have hstate : ∀ m, k ≤ m → ∃ t, e.state m = s.at_time t := by
    intro m hm
    obtain ⟨j, rfl⟩ := Nat.exists_eq_add_of_le hm
    exact ⟨_, he j⟩
  refine ⟨fun helper => System.Execution.fair_of_not_can (n := k) ?_, fun t j => ?_⟩
  · rintro m hm ⟨lab, s', ⟨⟨-, hen⟩, -⟩, hsteps⟩
    obtain ⟨t, ht⟩ := hstate m hm
    rw [ht] at hen hsteps
    cases helper with
    | check i =>
      obtain ⟨t₁, t₂, rfl⟩ := hsteps
      have hi : s.workers i = .ready := hen.1
      rcases hworkers i with hw | hw
      · rw [hi] at hw
        cases hw
      · rw [hi] at hw
        cases hw
    | finish i =>
      obtain rfl := hsteps
      have hi : (s.workers i).work.isSome = true := hen
      rcases hworkers i with hw | hw
      · rw [hw] at hi
        cases hi
      · rw [hw] at hi
        cases hi
    | timeout i =>
      obtain ⟨-, d, hi, -⟩ := hsteps
      have hi : s.workers i = .timed_waiting d := hi
      rcases hworkers i with hw | hw
      · rw [hi] at hw
        cases hw
      · rw [hi] at hw
        cases hw
    | release =>
      obtain rfl := hsteps
      exact hd hen.1
  · have hclock : ∀ m, (e.state (k + m)).clock = (s.later m).clock := fun m =>
      congrArg PoolState.clock (he m)
    exact @time_of_later _ _ (fun m => (e.state m).clock) k s hclock t j

/-- `t_pool_destroy` is called while the one worker runs a job. -/
theorem destroy_returns_of_one : ∃ (e : (pool_system Unit 1).Execution) (k : Nat), PoolFairly e ∧
    (e.state k).destroyer ≠ .not_called ∧ ∃ m, k ≤ m ∧ (e.state m).destroyer = .returned := by
  have hreach : ((pool_system Unit 1).guarded ShutsDown).Reachable shutdown_of_one :=
    System.reachable_foldl_guarded (.init (by exact ⟨0, ⟨1, 0⟩, rfl⟩)) (by decide)
  obtain ⟨e, k, he⟩ := exists_later hreach (by decide) fun _ _ => trivial
  have hfair : PoolFairly e.of_guarded :=
    fairly_of_later (by decide) (by decide) fun m => (he m).1
  have hd : (e.of_guarded.state k).destroyer ≠ .not_called := by
    have hk : e.of_guarded.state (k + 0) = _ := (he 0).1
    rw [Nat.add_zero] at hk
    rw [hk]
    decide
  exact ⟨e.of_guarded, k, hfair, hd, destroy_returns e.of_guarded hfair hd⟩

/-- A job that is executed, after which the worker goes to sleep. -/
def one_job_done : PoolState Unit 1 :=
  [.add none () ⟨0, 0⟩ none, .check only_worker ⟨1, 0⟩ ⟨1, 0⟩, .finish only_worker,
    .check only_worker ⟨1, 0⟩ ⟨1, 0⟩].foldl pool_step (t_pool_init 1 0 ⟨1, 0⟩)

theorem jobs_get_done_one_job : ∃ (e : (pool_system Unit 1).Execution) (k : Nat), PoolFairly e ∧
    (jobs_added (e.labels k)).length = 1 ∧ ∃ m, k ≤ m ∧
      (e.state m).executed.Perm (List.range (jobs_added (e.labels k)).length) := by
  have hreach : ((pool_system Unit 1).guarded KeepsWatch).Reachable one_job_done :=
    System.reachable_foldl_guarded (.init (by exact ⟨0, ⟨1, 0⟩, rfl⟩)) (by decide)
  obtain ⟨e, k, he⟩ := exists_later hreach (by decide) fun _ _ => trivial
  have hfair : PoolFairly e.of_guarded :=
    fairly_of_later (by decide) (by decide) fun m => (he m).1
  have hk : e.of_guarded.state (k + 0) = _ := (he 0).1
  rw [Nat.add_zero] at hk
  have hup : (e.of_guarded.state k).destroyer = .not_called := by
    rw [hk]
    decide
  have hcalm : ∀ m, k ≤ m → (e.of_guarded.label m).calm := by
    intro m hm
    obtain ⟨j, rfl⟩ := Nat.exists_eq_add_of_le hm
    obtain ⟨-, t, ht⟩ := he j
    show (e.label (k + j)).calm
    rw [ht]
    trivial
  refine ⟨e.of_guarded, k, hfair, ?_, jobs_get_done e.of_guarded Nat.one_pos hfair
    (fun m => (e.step m).1) hup hcalm⟩
  have hnext := (run_adds_recorded (e.of_guarded.run k) hup).next
  rw [← hnext, hk]
  rfl

end DiscoC
