import DiscoC.Utils.ThreadPoolInvariant

/-! # When jobs run

  A worker tests `sleep_until` but pops the head of the queue. Both are the
  earliest time of the queue as long as the queue is sorted (`Timely`).

  `prio_push` puts every new node before the last one, so it keeps the
  queue sorted exactly when the new node is due no later than the last one
  (`prio_insert_sorted_iff`). As long as every job added is, no job runs
  early (`no_job_early`). A later job added to a nonempty queue may run
  early (`job_popped_early`).
-/

namespace DiscoC

variable {J : Type} {n : Nat}

/-! ### Sorted queues -/

/-- The nodes are ordered by their time. -/
def Sorted (l : List (Nat × PrioEntry)) : Prop :=
  l.Pairwise fun a b => a.2.2 ≤ b.2.2

/-- A time no later than that of the last node, if there is one. -/
def InOrder (w : Timeval) (l : List (Nat × PrioEntry)) : Prop :=
  ∀ e ∈ l.getLast?, w ≤ e.2.2

instance (w : Timeval) (l : List (Nat × PrioEntry)) : Decidable (InOrder w l) :=
  inferInstanceAs (Decidable (∀ e ∈ l.getLast?, w ≤ e.2.2))

theorem inOrder_cons_cons {w : Timeval} {x y : Nat × PrioEntry} {l : List (Nat × PrioEntry)} :
    InOrder w (x :: y :: l) ↔ InOrder w (y :: l) := by
  rw [InOrder, List.getLast?_cons_cons]
  rfl

theorem Sorted.last_le {x : Nat × PrioEntry} {l : List (Nat × PrioEntry)} (h : Sorted (x :: l)) :
    InOrder x.2.2 (x :: l) := by
  intro e he
  rcases List.mem_cons.mp (List.mem_of_getLast? he) with rfl | he
  · exact le_rfl
  · exact (List.pairwise_cons.mp h).1 e he

/-- **`prio_push`** keeps a sorted queue sorted exactly when the new node is
    due no later than the last one. -/
theorem prio_insert_sorted_iff (e : Nat × PrioEntry) {l : List (Nat × PrioEntry)}
    (h : Sorted l) : Sorted (prio_insert e l) ↔ InOrder e.2.2 l := by
  induction l using prio_insert.induct (e := e) with
  | case1 => simp [prio_insert, Sorted, InOrder]
  | case2 x => simp [prio_insert, Sorted, InOrder]
  | case3 x y l hdue ih =>
    obtain ⟨hx, htail⟩ := List.pairwise_cons.mp h
    -- the node goes further back: the question is about the rest
    rw [prio_insert, if_pos hdue, inOrder_cons_cons, ← ih htail]
    constructor
    · exact fun hs => (List.pairwise_cons.mp hs).2
    · intro hs
      refine List.pairwise_cons.mpr ⟨fun z hz => ?_, hs⟩
      rcases List.mem_cons.mp ((prio_insert_perm e _).mem_iff.mp hz) with rfl | hz
      · exact due_by_iff.mp hdue
      · exact hx z hz
  | case4 x y l hdue =>
    -- the node goes to the front, before all that are due later
    have hlt : e.2.2 ≤ x.2.2 := le_of_lt (lt_of_not_ge fun hle => hdue (due_by_iff.mpr hle))
    rw [prio_insert, if_neg hdue]
    constructor
    · exact fun _ z hz => hlt.trans (h.last_le z hz)
    · refine fun _ => List.pairwise_cons.mpr ⟨fun z hz => ?_, h⟩
      rcases List.mem_cons.mp hz with rfl | hz
      · exact hlt
      · exact hlt.trans ((List.pairwise_cons.mp h).1 z hz)

/-! ### The time to sleep until -/

theorem is_future_iff {a t : Timeval} : is_future a t = true ↔ a ≤ t := by
  simp [is_future, Timeval.le_iff]

theorem sleep_until_add_empty {s w : Timeval} (h : s.tv_sec = -1) : sleep_until_add s w = w := by
  simp [sleep_until_add, h]

/-- With jobs in the queue, `t_pool_add_work` takes the earlier time. -/
theorem sleep_until_add_of_nonneg {s w : Timeval} (h : 0 ≤ s.tv_sec) :
    sleep_until_add s w = min s w := by
  have hne : (s.tv_sec == -1) = false := by simp; omega
  have hcond : (s.tv_sec == -1 || s.tv_sec > w.tv_sec ||
      (s.tv_sec == w.tv_sec && s.tv_usec > w.tv_usec)) = true ↔ w < s := by
    rw [Timeval.lt_iff]
    simp [hne]
    omega
  by_cases hlt : w < s
  · rw [sleep_until_add, if_pos (hcond.mpr hlt), min_eq_right hlt.le]
  · rw [sleep_until_add, if_neg fun hc => hlt (hcond.mp hc), min_eq_left (not_lt.mp hlt)]

/-- `sleep_until` is the time of the head, or has -1 seconds. -/
def SleepsUntil (sleep_until : Timeval) : List (Nat × PrioEntry) → Prop
  | [] => sleep_until.tv_sec = -1
  | e :: _ => sleep_until = e.2.2

/-- `t_pool_add_work` follows the head of the queue. -/
theorem SleepsUntil.insert {s : Timeval} {l : List (Nat × PrioEntry)} (h : SleepsUntil s l)
    (hpos : ∀ e ∈ l, 0 ≤ e.2.2.tv_sec) (e : Nat × PrioEntry) (hord : InOrder e.2.2 l) :
    SleepsUntil (sleep_until_add s e.2.2) (prio_insert e l) := by
  match l with
  | [] => exact sleep_until_add_empty h
  | [x] =>
    obtain rfl : s = x.2.2 := h
    rw [sleep_until_add_of_nonneg (hpos x List.mem_cons_self)]
    exact min_eq_right (hord x rfl)
  | x :: y :: l =>
    obtain rfl : s = x.2.2 := h
    rw [sleep_until_add_of_nonneg (hpos x List.mem_cons_self), prio_insert]
    split
    · next hdue => exact min_eq_left (due_by_iff.mp hdue)
    · next hdue => exact min_eq_right (le_of_lt (lt_of_not_ge fun hle => hdue (due_by_iff.mpr hle)))

theorem SleepsUntil.pop (s : Timeval) (l : List (Nat × PrioEntry)) :
    SleepsUntil (sleep_until_pop s l) l := by
  cases l with
  | nil => rfl
  | cons e l => rfl

/-- In a sorted queue, that is the least time. -/
theorem SleepsUntil.isLeast {s : Timeval} {l : List (Nat × PrioEntry)} (h : SleepsUntil s l)
    (hsort : Sorted l) (hne : l ≠ []) : IsLeast {t | ∃ e ∈ l, e.2.2 = t} s := by
  obtain ⟨x, l, rfl⟩ := List.exists_cons_of_ne_nil hne
  obtain rfl : s = x.2.2 := h
  refine ⟨⟨x, List.mem_cons_self, rfl⟩, ?_⟩
  rintro t ⟨e, he, rfl⟩
  rcases List.mem_cons.mp he with rfl | he
  · exact le_rfl
  · exact (List.pairwise_cons.mp hsort).1 e he

theorem SleepsUntil.empty_iff {s : Timeval} {l : List (Nat × PrioEntry)} (h : SleepsUntil s l)
    (hpos : ∀ e ∈ l, 0 ≤ e.2.2.tv_sec) : s.tv_sec = -1 ↔ l = [] := by
  cases l with
  | nil => exact ⟨fun _ => rfl, fun _ => h⟩
  | cons x l =>
    obtain rfl : s = x.2.2 := h
    have := hpos x List.mem_cons_self
    simp
    omega

/-! ### The invariant -/

/-- The queue is sorted, `sleep_until` follows it, and no job has been
    taken early. -/
structure Timely (s : PoolState J n) (tp : ThreadPool) (l : List (Nat × PrioEntry)) : Prop where
  sorted : Sorted l
  sleeps : SleepsUntil tp.sleep_until l
  nonneg : ∀ e ∈ l, 0 ≤ e.2.2.tv_sec
  due : ∀ i work, s.running i = some work →
    ∃ v, s.works.load work = some v ∧ v.wait_until ≤ s.clock

/-- No job is added behind the last one of the queue. Every time is that of
    a clock, or 0. -/
def AddsInOrder (s : PoolState J n) : PoolLabel J n → Prop
  | .add _ _ w _ =>
    0 ≤ w.tv_sec ∧ ∀ tp l, s.pool = some tp → QueueHolds s.nodes tp.queue l → InOrder w l
  | _ => True

/-- The jobs of the workers are due after a step that starts no other one. -/
theorem Timely.due_of_running {s s' : PoolState J n} {tp : ThreadPool}
    {l : List (Nat × PrioEntry)} (h : Timely s tp l) (hclock : s.clock ≤ s'.clock)
    (hrun : ∀ i work, s'.running i = some work → s.running i = some work)
    (hload : ∀ i work v, s'.running i = some work → s.works.load work = some v →
      s'.works.load work = some v) :
    ∀ i work, s'.running i = some work →
      ∃ v, s'.works.load work = some v ∧ v.wait_until ≤ s'.clock := by
  intro i work hi
  obtain ⟨v, hv, hdue⟩ := h.due i work (hrun i work hi)
  exact ⟨v, hload i work v hi hv, hdue.trans hclock⟩

/-- A job added in order goes to the end of the queue or before it. -/
theorem Timely.pushed {s : PoolState J n} {tp : ThreadPool} {l : List (Nat × PrioEntry)}
    (ht : Timely s tp l) {job : J} {w : Timeval} (hpos : 0 ≤ w.tv_sec) (hin : InOrder w l)
    {nodes : Store PrioNode} {queue : PrioQueue} {woken : Option (Fin n)}
    (hwoken : ∀ i ∈ woken, (s.workers i).waits = true) :
    Timely (signal (s.pushed nodes
        (tp.with_queue queue (sleep_until_add tp.sleep_until w)) job w) woken)
      (tp.with_queue queue (sleep_until_add tp.sleep_until w))
      (prio_insert (s.nodes.next, (s.works.next, w)) l) where
  sorted := (prio_insert_sorted_iff _ ht.sorted).mpr hin
  sleeps := ht.sleeps.insert ht.nonneg (s.nodes.next, (s.works.next, w)) hin
  nonneg := by
    intro e he
    rcases List.mem_cons.mp ((prio_insert_perm _ l).mem_iff.mp he) with rfl | he
    · exact hpos
    · exact ht.nonneg e he
  due := by
    refine ht.due_of_running ?_ ?_ ?_
    · cases woken <;> exact le_rfl
    · intro i work hi
      rwa [running_pushed hwoken] at hi
    · intro i work v _ hv
      -- the new work item does not take the place of a live one
      have hv' := Store.load_alloc_of_live hv { job, wait_until := w }
      cases woken <;> exact hv'

/-- The head of the queue is taken when its time has passed. -/
theorem Timely.popped {s : PoolState J n} {tp : ThreadPool} {l : List (Nat × PrioEntry)}
    {p w : Nat} {d t₁ t₂ : Timeval} (hr : PoolRuns s tp ((p, (w, d)) :: l))
    (ht : Timely s tp ((p, (w, d)) :: l)) (hle₁ : s.clock ≤ t₁) (hle₂ : t₁ ≤ t₂)
    (hfuture : is_future t₁ tp.sleep_until = false) (queue : PrioQueue) (i : Fin n) :
    Timely (((s.popped p (tp.with_queue queue (sleep_until_pop tp.sleep_until l))).set_worker i
        (.executing w)).at_time t₂)
      (tp.with_queue queue (sleep_until_pop tp.sleep_until l)) l where
  sorted := (List.pairwise_cons.mp ht.sorted).2
  sleeps := SleepsUntil.pop _ l
  nonneg := fun e he => ht.nonneg e (List.mem_cons_of_mem _ he)
  due := by
    intro j work hj
    have hrun : Function.update s.running i (some w) j = some work :=
      (congrFun (PoolState.running_set_worker _ i _) j).symm.trans hj
    by_cases hji : j = i
    · -- the job just taken is that of the head, for which the pool slept
      rw [hji, Function.update_self] at hrun
      obtain rfl := Option.some.inj hrun
      obtain ⟨v, hv, hwait⟩ := hr.times _ List.mem_cons_self
      have hsleep : tp.sleep_until = d := ht.sleeps
      have hlt : d < t₁ := by
        rw [← hsleep]
        exact lt_of_not_ge fun hge => by simp [is_future_iff.mpr hge] at hfuture
      exact ⟨v, hv, hwait.le.trans (hlt.le.trans hle₂)⟩
    · rw [Function.update_of_ne hji] at hrun
      obtain ⟨v, hv, hdue⟩ := ht.due j work hrun
      exact ⟨v, hv, hdue.trans (hle₁.trans hle₂)⟩

/-- Freeing a work item leaves those of the other workers. -/
theorem Timely.finished {s : PoolState J n} {tp : ThreadPool} {l : List (Nat × PrioEntry)}
    (ht : Timely s tp l) (hj : (pool_jobs s l).Conserved) {i : Fin n} {work : Nat}
    (hi : s.workers i = .executing work) : Timely ((s.finished work).set_worker i .ready) tp l := by
  have hwork : s.running i = some work := WorkerPc.work_eq_some.mpr hi
  refine ⟨ht.sorted, ht.sleeps, ht.nonneg,
    ht.due_of_running le_rfl (fun j v hv => (running_of_finished hv).2) ?_⟩
  intro j v u hv hu
  obtain ⟨hji, hv'⟩ := running_of_finished hv
  show (s.works.erase work).load v = some u
  rw [Store.load_erase, if_neg, hu]
  rintro rfl
  exact hji (hj.running_unique hv' hwork)

/-- **Step lemma**: the queue stays sorted and no job is taken early. -/
theorem PoolStep.timely {s s' : PoolState J n} {tp tp' : ThreadPool}
    {l l' : List (Nat × PrioEntry)} {lab : PoolLabel J n} (hstep : PoolStep s tp l lab s' tp' l')
    (hr : PoolRuns s tp l) (hj : (pool_jobs s l).Conserved) (ht : Timely s tp l)
    (hord : AddsInOrder s lab) : Timely s' tp' l' := by
  cases hstep with
  | tick t hle =>
    refine ⟨ht.sorted, ht.sleeps, ht.nonneg, ?_⟩
    exact ht.due_of_running hle (fun _ _ h => h) fun _ _ _ _ h => h
  | add by_worker job w woken nodes tp' queue hwoken hholds hlive htp =>
    subst htp
    exact ht.pushed hord.1 (hord.2 tp l hr.pool hr.holds) hwoken
  | wait i t₁ t₂ pc hi hle hpc =>
    -- a worker that waits has no job
    refine ⟨ht.sorted, ht.sleeps, ht.nonneg, ht.due_of_running hle ?_ fun _ _ _ _ h => h⟩
    intro j work hj
    have hwork : pc.work = (s.workers i).work := by rw [WorkerPc.work_of_waits hpc, hi]; rfl
    rwa [← PoolState.running_set_worker_of_same hwork]
  | pop i t₁ t₂ p w d l' tp' queue hi hle₁ hle₂ hfuture hl hholds htp =>
    subst hl htp
    exact ht.popped hr hle₁ hle₂ hfuture queue i
  | wake i hi =>
    refine ⟨ht.sorted, ht.sleeps, ht.nonneg, ht.due_of_running le_rfl ?_ fun _ _ _ _ h => h⟩
    intro j work hj
    rwa [← PoolState.running_set_worker_of_same (WorkerPc.work_awake (s.workers i))]
  | finish i work hi => exact ht.finished hj hi

/-- **Run lemma**: as long as jobs are added in order. -/
theorem reachable_timely {s : PoolState J n}
    (h : ((pool_system J n).guarded AddsInOrder).Reachable s) (hup : s.destroyer = .not_called) :
    ∃ tp l, PoolRuns s tp l ∧ Timely s tp l := by
  refine System.Reachable.invariant
    (I := fun s => s.destroyer = .not_called → ∃ tp l, PoolRuns s tp l ∧ Timely s tp l) ?_ ?_ h hup
  · rintro s ⟨tv_usec, clock, rfl⟩ -
    obtain ⟨tp, hr⟩ := pool_runs_init (J := J) (n := n) tv_usec clock
    refine ⟨tp, [], hr, ⟨List.Pairwise.nil, ?_, by simp, ?_⟩⟩
    · cases hr.pool
      rfl
    · intro i work hi
      cases hi
  · intro s lab s' hreach ih hs hup'
    have hup : s.destroyer = .not_called := by
      by_contra hd
      exact destroyer_step hs.2 hd hup'
    obtain ⟨tp, l, hr, ht⟩ := ih hup
    obtain ⟨tp₁, l₁, hr₁, hj, -⟩ := reachable_up hreach.of_guarded hup
    obtain rfl := Option.some.inj (hr.pool.symm.trans hr₁.pool)
    -- both invariants speak of the same queue: the heap holds one list
    obtain rfl := hr.holds.chain.unique hr₁.holds.chain
    rcases hr.step hj.queued_nodup hup hs.2 with ⟨-, hd⟩ | ⟨tp', l', hstep⟩
    · obtain ⟨_, _, hd', -⟩ := t_pool_destroy_spec hr hj.queued_nodup
      rw [hd'] at hd
      cases Option.some.inj hd
      cases hup'
    · -- any step but `t_pool_destroy`
      exact ⟨tp', l', hstep.runs hr hj, hstep.timely hr hj ht hs.1⟩

/-- A worker takes a job only after its time, and `sleep_until` is the least
    time of the queue, with -1 seconds exactly when there is none. -/
def RunsOnTime (s : PoolState J n) : Prop :=
  (∀ i t₁ t₂ s' work, (pool_system J n).step s (.check i t₁ t₂) s' →
    s'.workers i = .executing work →
    ∃ v, s'.works.load work = some v ∧ v.wait_until ≤ s'.clock) ∧
  ∃ tp l, s.pool = some tp ∧ QueueHolds s.nodes tp.queue l ∧
    (∀ e ∈ l, ∃ v, s.works.load e.2.1 = some v ∧ v.wait_until = e.2.2) ∧
    (tp.sleep_until.tv_sec = -1 ↔ l = []) ∧
    (l ≠ [] → IsLeast {t | ∃ e ∈ l, e.2.2 = t} tp.sleep_until)

/-- **No job runs early** in a run that adds its jobs in order. -/
theorem no_job_early {s : PoolState J n}
    (h : ((pool_system J n).guarded AddsInOrder).Reachable s) (hup : s.destroyer = .not_called) :
    RunsOnTime s := by
  constructor
  · intro i t₁ t₂ s' work hs hi
    have hup' : s'.destroyer = .not_called := (check_destroyer hs).trans hup
    have hord : AddsInOrder s (.check i t₁ t₂) := trivial
    obtain ⟨tp, l, _, ht⟩ := reachable_timely (h.step ⟨hord, hs⟩) hup'
    exact ht.due i work (by simp [PoolState.running, hi])
  · obtain ⟨tp, l, hr, ht⟩ := reachable_timely h hup
    exact ⟨tp, l, hr.pool, hr.holds, hr.times, ht.sleeps.empty_iff ht.nonneg,
      ht.sleeps.isLeast ht.sorted⟩

/-- The heap holds one list of nodes only. -/
theorem adds_in_order {s : PoolState J n} {tp : ThreadPool} {l : List (Nat × PrioEntry)}
    (hpool : s.pool = some tp) (hq : QueueHolds s.nodes tp.queue l)
    {by_worker : Option (Fin n)} {job : J} {w : Timeval} {woken : Option (Fin n)}
    (hw : 0 ≤ w.tv_sec) (h : InOrder w l) : AddsInOrder s (.add by_worker job w woken) := by
  refine ⟨hw, fun tp' l' hpool' hq' => ?_⟩
  obtain rfl := Option.some.inj (hpool.symm.trans hpool')
  rw [← hq.chain.unique hq'.chain]
  exact h

/-- A worker waits, and is woken for a job for second 3. A job for second 2 is
    added before it. -/
def two_in_order : PoolState Unit 1 :=
  [.check 0 ⟨2, 0⟩ ⟨2, 0⟩, .add none () ⟨3, 0⟩ (some 0), .add none () ⟨2, 0⟩ none].foldl pool_step
    (t_pool_init 1 0 ⟨2, 0⟩)

theorem two_in_order_holds : QueueHolds two_in_order.nodes ⟨some 1, 2⟩
    [(1, (1, ⟨2, 0⟩)), (0, (0, ⟨3, 0⟩))] :=
  ⟨.of_load (v := PrioNode.mk 1 ⟨2, 0⟩ (some 0)) rfl rfl
    (.of_load (v := PrioNode.mk 0 ⟨3, 0⟩ none) rfl rfl (.nil none)), rfl⟩

/-- One more job for second 3 is then the last one. -/
theorem no_job_early_third :
    RunsOnTime (pool_step two_in_order (.add none () ⟨3, 0⟩ none)) := by
  refine no_job_early ?_ (by decide)
  have h₀ : ((pool_system Unit 1).guarded AddsInOrder).Reachable (t_pool_init 1 0 ⟨2, 0⟩) :=
    .init ⟨0, ⟨2, 0⟩, rfl⟩
  have hcheck : AddsInOrder (t_pool_init 1 0 ⟨2, 0⟩ : PoolState Unit 1)
      (.check 0 ⟨2, 0⟩ ⟨2, 0⟩) := trivial
  have h₁ := h₀.step ⟨hcheck, by decide, rfl⟩
  -- the first job is added to an empty queue, and the others before its end
  have hfirst : AddsInOrder (pool_step (t_pool_init 1 0 ⟨2, 0⟩) (.check 0 ⟨2, 0⟩ ⟨2, 0⟩))
      (.add none () ⟨3, 0⟩ (some 0)) :=
    adds_in_order rfl ⟨.nil _, rfl⟩ (by decide) (by simp [InOrder])
  have h₂ := h₁.step ⟨hfirst, by decide, rfl⟩
  have hsecond : AddsInOrder (pool_step (pool_step (t_pool_init 1 0 ⟨2, 0⟩)
      (.check 0 ⟨2, 0⟩ ⟨2, 0⟩)) (.add none () ⟨3, 0⟩ (some 0))) (.add none () ⟨2, 0⟩ none) :=
    adds_in_order (l := [(0, (0, ⟨3, 0⟩))]) rfl
      ⟨.of_load (v := PrioNode.mk 0 ⟨3, 0⟩ none) rfl rfl (.nil none), rfl⟩ (by decide) (by decide)
  have h₃ := h₂.step ⟨hsecond, by decide, rfl⟩
  exact h₃.step ⟨adds_in_order rfl two_in_order_holds (by decide) (by decide), by decide, rfl⟩

/-- At second 5, a job is queued that is due, and behind it one for
    second 100. -/
def early_queue : PoolState Unit 1 :=
  [.add none () ⟨0, 0⟩ none, .add none () ⟨100, 0⟩ none].foldl pool_step
    (t_pool_init 1 0 ⟨5, 0⟩)

/-- A worker then takes the job for second 100. -/
theorem job_popped_early :
    (pool_system Unit 1).Reachable early_queue ∧ early_queue.destroyer = .not_called ∧
      ¬ RunsOnTime early_queue := by
  refine ⟨System.reachable_foldl (init_reachable 0 ⟨5, 0⟩) (by decide), by decide, ?_⟩
  rintro ⟨hpop, -⟩
  obtain ⟨v, hload, hdue⟩ :=
    hpop 0 ⟨5, 0⟩ ⟨5, 0⟩ (pool_step early_queue (.check 0 ⟨5, 0⟩ ⟨5, 0⟩)) 1 ⟨by decide, rfl⟩
      (by decide)
  have hlate : (pool_step early_queue (.check 0 ⟨5, 0⟩ ⟨5, 0⟩)).works.load 1 =
      some ⟨(), ⟨100, 0⟩⟩ := by decide
  rw [hlate] at hload
  obtain rfl := Option.some.inj hload
  exact absurd hdue (by decide)

end DiscoC
