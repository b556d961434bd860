import DiscoC.Utils.ThreadPoolInvariant
import DiscoC.Web.Request

/-! # Who owns a request

  The workers of the pool run `request_t_pool` on request nodes of a shared
  heap. The parts of an execution before and after `t_pool_add_work` are
  separate steps, so another worker may take a node that has been queued
  again before the first one has cleaned up.

  Where an access is undefined, the program may end there or go on. It ends
  there in any case if a response cannot be decoded.

  The cleanup reads `files_n` in any case. A worker that has queued its
  node again therefore touches a node it no longer owns; and after a 429
  that does not tell when to try again, nobody owns the node. When neither
  happens, every node has a single owner (`single_owner`).
-/

namespace DiscoC

variable {n : Nat}

/-! ### The system -/

/-- Where a worker is in `request_t_pool`, with its node. -/
inductive RequestPc where
  /-- Not in `request_t_pool`. -/
  | outside
  /-- At the beginning. -/
  | attempt (node : Nat)
  /-- At the call of `t_pool_add_work`. -/
  | requeue (node : Nat) (wait_until : Timeval)
  /-- At the first cleanup, after the attempt. -/
  | cleanup (node : Nat) (left : Attempt)
  /-- At the end. -/
  | finalise (node : Nat) (response : Option (Option String))
  /-- About to return. -/
  | returned
  deriving DecidableEq, Repr

/-- The node a worker owns: from when it takes it out of the queue to when
    it queues or frees it. -/
def RequestPc.owned : RequestPc → Option Nat
  | .attempt node => some node
  | .requeue node _ => some node
  | .cleanup _ (.requeue _) => none
  | .cleanup node _ => some node
  | .finalise node _ => some node
  | _ => none

/-- The pool, the request nodes, and the workers in `request_t_pool`. -/
structure RequestPool (n : Nat) where
  /-- The pool; its jobs are the addresses of request nodes. -/
  pool : PoolState Nat n
  requests : Store RequestNode
  pc : Fin n → RequestPc
  /-- A worker has accessed a node that it did not own. -/
  foreign : Bool
  /-- The program has ended at an undefined access. -/
  halted : Bool
  /-- The nodes that have been finalised. -/
  finalised : List Nat

/-- The steps of the threads. Where one of them meets an undefined access,
    `goes_on` says if it goes on. -/
inductive RequestLabel (n : Nat) where
  | tick (t : Timeval)
  | check (i : Fin n) (t₁ t₂ : Timeval)
  | wake (i : Fin n)
  /-- A thread calls `request`. -/
  | request (by_worker : Option (Fin n)) (url : String) (content : Option String)
      (request_type : RequestType) (token : String) (rc : Option CallbackType)
      (files : List String) (woken : Option (Fin n))
  /-- A worker makes an attempt. -/
  | attempt (i : Fin n) (goes_on : Bool) (t : Transfer)
  /-- A worker queues its node again. -/
  | requeue (i : Fin n) (woken : Option (Fin n))
  | cleanup (i : Fin n)
  /-- A worker ends a request; `client` is the client as it is then. -/
  | finalise (i : Fin n) (goes_on : Bool) (client : Client)
  /-- `request_t_pool` returns. -/
  | finish (i : Fin n)

namespace RequestPool

/-- A worker moves on. -/
def set_pc (s : RequestPool n) (i : Fin n) (pc : RequestPc) : RequestPool n :=
  { s with pc := Function.update s.pc i pc }

/-- A worker accesses fields of `node`. -/
def touch (s : RequestPool n) (i : Fin n) (node : Nat) : RequestPool n :=
  if (s.pc i).owned = some node then s else { s with foreign := true }

/-- An access to a freed node. -/
def crash (s : RequestPool n) : RequestPool n :=
  { s with pool := { s.pool with fault := true }, foreign := true }

/-- The program ends. -/
def halt (s : RequestPool n) : RequestPool n := { s with halted := true }

/-- A step of the pool. -/
def pool_step (s : RequestPool n) (l : PoolLabel Nat n) : RequestPool n :=
  { s with pool := DiscoC.pool_step s.pool l }

end RequestPool

/-- The argument of the work item a worker executes. -/
def work_arg {J : Type} (s : PoolState J n) (i : Fin n) : Option J :=
  (s.running i).bind fun work => (s.works.load work).map Work.job

/-- The state before any request. -/
def request_init (n : Nat) (tv_usec : Int) (clock : Timeval) : RequestPool n where
  pool := t_pool_init n tv_usec clock
  requests := .empty
  pc := fun _ => .outside
  foreign := false
  halted := false
  finalised := []

section steps

variable (cJSON_Parse : Option String → Option CJson)

/-- The end of a request gets through. It may go on after `response` has been
    read unassigned, and after a store behind `message_array`. -/
def gets_through (goes_on : Bool) (client : Client) (n : RequestNode)
    (response : Option (Option String)) : Bool :=
  let res_json := (response.getD none).bind fun memory => cJSON_Parse (some memory)
  (response.isSome || goes_on) &&
    match n.rc with
    | some type =>
      match handle_callback client type res_json with
      | some handled => goes_on || handled.stores.all fun store => decide (store.1 < store.2)
      | none => false
    | none => true

/-- Where a step is possible. -/
def request_enabled (s : RequestPool n) : RequestLabel n → Prop
  | .tick t => enabled s.pool (.tick t)
  | .check i t₁ t₂ => enabled s.pool (.check i t₁ t₂)
  | .wake i => enabled s.pool (.wake i)
  | .request by_worker _ _ _ _ _ _ woken =>
    enabled s.pool (.add by_worker s.requests.next { tv_sec := 0, tv_usec := 0 } woken)
  | .attempt i _ _ => ∃ node, s.pc i = .attempt node
  | .requeue i woken => ∃ node wait_until, s.pc i = .requeue node wait_until ∧
      enabled s.pool (.add (some i) node wait_until woken)
  | .cleanup i => ∃ node left, s.pc i = .cleanup node left
  | .finalise i _ _ => ∃ node response, s.pc i = .finalise node response
  | .finish i => s.pc i = .returned ∧ enabled s.pool (.finish i)

instance : ∀ pc : RequestPc, Decidable (∃ node, pc = .attempt node)
  | .attempt node => .isTrue ⟨node, rfl⟩
  | .outside | .requeue _ _ | .cleanup _ _ | .finalise _ _ | .returned => .isFalse (by simp)

instance : ∀ pc : RequestPc, Decidable (∃ node left, pc = .cleanup node left)
  | .cleanup node left => .isTrue ⟨node, left, rfl⟩
  | .outside | .attempt _ | .requeue _ _ | .finalise _ _ | .returned => .isFalse (by simp)

instance : ∀ pc : RequestPc, Decidable (∃ node response, pc = .finalise node response)
  | .finalise node response => .isTrue ⟨node, response, rfl⟩
  | .outside | .attempt _ | .requeue _ _ | .cleanup _ _ | .returned => .isFalse (by simp)

instance (P : Nat → Timeval → Prop) [∀ node w, Decidable (P node w)] :
    ∀ pc : RequestPc, Decidable (∃ node w, pc = .requeue node w ∧ P node w)
  | .requeue node w => decidable_of_iff (P node w) (by simp)
  | .outside | .attempt _ | .cleanup _ _ | .finalise _ _ | .returned => .isFalse (by simp)

instance (s : RequestPool n) : ∀ l, Decidable (request_enabled s l)
  | .tick t => inferInstanceAs (Decidable (enabled s.pool (.tick t)))
  | .check i t₁ t₂ => inferInstanceAs (Decidable (enabled s.pool (.check i t₁ t₂)))
  | .wake i => inferInstanceAs (Decidable (enabled s.pool (.wake i)))
  | .request by_worker _ _ _ _ _ _ woken => inferInstanceAs (Decidable
      (enabled s.pool (.add by_worker s.requests.next { tv_sec := 0, tv_usec := 0 } woken)))
  | .attempt i _ _ => inferInstanceAs (Decidable (∃ node, s.pc i = .attempt node))
  | .requeue i woken => inferInstanceAs (Decidable (∃ node w, s.pc i = .requeue node w ∧
      enabled s.pool (.add (some i) node w woken)))
  | .cleanup i => inferInstanceAs (Decidable (∃ node left, s.pc i = .cleanup node left))
  | .finalise i _ _ =>
    inferInstanceAs (Decidable (∃ node response, s.pc i = .finalise node response))
  | .finish i => inferInstanceAs (Decidable (s.pc i = .returned ∧ enabled s.pool (.finish i)))

/-- What a step does. -/
def request_step (s : RequestPool n) : RequestLabel n → RequestPool n
  | .tick t => s.pool_step (.tick t)
  | .check i t₁ t₂ =>
    let s := s.pool_step (.check i t₁ t₂)
    match work_arg s.pool i with
    | some node => s.set_pc i (.attempt node)
    | none => s
  | .wake i => s.pool_step (.wake i)
  | .request by_worker url content request_type token rc files woken =>
    let node := s.requests.next
    { s.pool_step (.add by_worker node { tv_sec := 0, tv_usec := 0 } woken) with
      requests := s.requests.alloc (request url content request_type token rc files) }
  | .attempt i goes_on t =>
    match s.pc i with
    | .attempt node =>
      match s.requests.load node with
      | some v =>
        -- with files, list heads are appended to that have not been set
        if v.files ≠ [] ∧ goes_on = false then s.halt
        else
          let (m, left) := request_attempt cJSON_Parse v t
          let s := { s.touch i node with requests := s.requests.put node m }
          match left with
          | .requeue wait_until => s.set_pc i (.requeue node wait_until)
          | left => s.set_pc i (.cleanup node left)
      | none => s.crash
    | _ => s
  | .requeue i woken =>
    match s.pc i with
    | .requeue node wait_until =>
      (s.pool_step (.add (some i) node wait_until woken)).set_pc i
        (.cleanup node (.requeue wait_until))
    | _ => s
  | .cleanup i =>
    match s.pc i with
    | .cleanup node left =>
      match s.requests.load node with
      | some v =>
        let s := { s.touch i node with requests := s.requests.put node (cleaned_up v) }
        match left with
        | .sent response => s.set_pc i (.finalise node response)
        | _ => s.set_pc i .returned
      | none => s.crash
    | _ => s
  | .finalise i goes_on client =>
    match s.pc i with
    | .finalise node response =>
      match s.requests.load node with
      | some v =>
        if gets_through cJSON_Parse goes_on client v response then
          { s.touch i node with
            requests := s.requests.erase node, finalised := node :: s.finalised }.set_pc i .returned
        else s.halt
      | none => s.crash
    | _ => s
  | .finish i => (s.pool_step (.finish i)).set_pc i .outside

/-- The workers and the requests, until `t_pool_destroy` is called or the
    program ends. -/
def request_system (n : Nat) : System (RequestPool n) (RequestLabel n) :=
  .ofEnabled (fun s => ∃ tv_usec clock, s = request_init n tv_usec clock)
    (fun s l => (s.pool.fault = false ∧ s.halted = false) ∧ request_enabled s l)
    (request_step cJSON_Parse)

end steps

/-! ### Ownership -/

/-- The request nodes of the queue. -/
def queued_jobs {J : Type} (s : PoolState J n) (l : List (Nat × PrioEntry)) : List J :=
  l.filterMap fun e => (s.works.load e.2.1).map Work.job

/-- Every request node is owned once: by the queue, by one worker, or by
    nobody, once it is finalised and freed. Workers access the nodes they
    own only. -/
structure SingleOwner (s : RequestPool n) : Prop where
  owners : ∃ tp l, s.pool.pool = some tp ∧ QueueHolds s.pool.nodes tp.queue l ∧
    Multiset.range s.requests.next =
      (queued_jobs s.pool l : Multiset Nat) + ∑ i, JobPool.held (s.pc i).owned +
        (s.finalised : Multiset Nat)
  freed : ∀ r < s.requests.next, s.requests.load r = none ↔ r ∈ s.finalised
  executes : ∀ i r, (s.pc i).owned = some r → work_arg s.pool i = some r
  own_access : s.foreign = false
  no_fault : s.pool.fault = false

/-- The transfer of an attempt is not to be repeated. -/
def NotRetried : RequestPool n → RequestLabel n → Prop
  | _, .attempt _ _ t => is_transient t.http = false ∧ t.http ≠ 429
  | _, _ => True

instance (s : RequestPool n) : ∀ l, Decidable (NotRetried s l)
  | .attempt _ _ t => inferInstanceAs (Decidable (is_transient t.http = false ∧ t.http ≠ 429))
  | .tick _ | .check _ _ _ | .wake _ | .request _ _ _ _ _ _ _ _ | .requeue _ _ | .cleanup _
  | .finalise _ _ _ | .finish _ => inferInstanceAs (Decidable True)

/-! ### The jobs of the queue -/

section pool

variable {J : Type} {s s' : PoolState J n} {tp tp' : ThreadPool} {l l' : List (Nat × PrioEntry)}

theorem queued_jobs_congr (h : ∀ w ∈ queued_works l, s'.works.load w = s.works.load w) :
    queued_jobs s' l = queued_jobs s l :=
  List.filterMap_congr fun e he => by
    rw [h e.2.1 (List.mem_map.mpr ⟨e, he, rfl⟩)]

theorem work_arg_congr {i : Fin n} (hrun : s'.running i = s.running i)
    (h : ∀ w, s.running i = some w → s'.works.load w = s.works.load w) :
    work_arg s' i = work_arg s i := by
  rw [work_arg, work_arg, hrun]
  cases hi : s.running i with
  | none => rfl
  | some w => simp only [Option.bind_some, h w hi]

/-- The work items of the queue and of the workers are live. -/
theorem PoolRuns.load_ne_next (hr : PoolRuns s tp l) {w : Nat}
    (h : w ∈ queued_works l ∨ ∃ i, s.running i = some w) : w ≠ s.works.next := by
  obtain ⟨v, hv⟩ := Option.isSome_iff_exists.mp ((hr.works_live w).mpr h)
  exact Nat.ne_of_lt (Store.load_lt hv)

/-- `t_pool_add_work` queues its job and changes no other one. -/
theorem PoolStep.add_jobs {by_worker : Option (Fin n)} {job : J} {w : Timeval}
    {woken : Option (Fin n)} (hstep : PoolStep s tp l (.add by_worker job w woken) s' tp' l')
    (hr : PoolRuns s tp l) :
    (queued_jobs s' l').Perm (job :: queued_jobs s l) ∧ s'.running = s.running ∧
      ∀ i, work_arg s' i = work_arg s i := by
  cases hstep with
  | add _ _ _ _ nodes tp' queue hwoken hholds hlive htp =>
    have hworks : (signal (s.pushed nodes tp' job w) woken).works =
        s.works.alloc { job, wait_until := w } := by
      cases woken <;> rfl
    have hrun : (signal (s.pushed nodes tp' job w) woken).running = s.running :=
      running_pushed hwoken
    -- the new item takes an address that no queued or running one has
    have hload : ∀ v, v ∈ queued_works l ∨ (∃ i, s.running i = some v) →
        (signal (s.pushed nodes tp' job w) woken).works.load v = s.works.load v := by
      intro v hv
      rw [hworks, Store.load_alloc, if_neg (hr.load_ne_next hv)]
    refine ⟨?_, hrun, fun i => ?_⟩
    · refine ((prio_insert_perm _ l).filterMap _).trans ?_
      rw [List.filterMap_cons]
      simp only [hworks, Store.load_alloc_next, Option.map_some]
      refine List.Perm.cons job (List.Perm.of_eq ?_)
      exact List.filterMap_congr fun e he => by
        rw [← hworks, hload e.2.1 (.inl (List.mem_map.mpr ⟨e, he, rfl⟩))]
    · exact work_arg_congr (congrFun hrun i) fun v hv => hload v (.inr ⟨i, hv⟩)

/-- Nothing happens to the jobs while time passes or a worker wakes up. -/
theorem PoolStep.quiet_jobs {lab : PoolLabel J n} (hstep : PoolStep s tp l lab s' tp' l')
    (hlab : (∃ t, lab = .tick t) ∨ ∃ i, lab = .wake i) :
    l' = l ∧ s'.works = s.works ∧ s'.running = s.running := by
  cases hstep with
  | tick t _ => exact ⟨rfl, rfl, rfl⟩
  | wake i hi =>
    exact ⟨rfl, rfl, PoolState.running_set_worker_of_same (WorkerPc.work_awake _)⟩
  | _ => simp at hlab

/-- A worker that goes through its locked section waits, or takes the job at
    the head of the queue. -/
theorem PoolStep.check_jobs {i : Fin n} {t₁ t₂ : Timeval}
    (hstep : PoolStep s tp l (.check i t₁ t₂) s' tp' l') (hr : PoolRuns s tp l) :
    s.running i = none ∧ s'.works = s.works ∧
      ((l' = l ∧ s'.running = s.running) ∨
        ∃ w job, queued_jobs s l = job :: queued_jobs s' l' ∧ work_arg s' i = some job ∧
          s'.running = Function.update s.running i (some w)) := by
  cases hstep with
  -- it stays with no job, whichever wait it entered
  | wait _ _ _ pc hi _ hpc =>
    have hidle : s.running i = none := by rw [PoolState.running, hi]; rfl
    have hwork : pc.work = (s.workers i).work := by rw [WorkerPc.work_of_waits hpc, hi]; rfl
    exact ⟨hidle, rfl, .inl ⟨rfl, PoolState.running_set_worker_of_same hwork⟩⟩
  | pop _ _ _ p w d l' tp' queue hi _ _ _ hl _ _ =>
    subst hl
    have hidle : s.running i = none := by rw [PoolState.running, hi]; rfl
    have hrun : (((s.popped p tp').set_worker i (.executing w)).at_time t₂).running =
        Function.update s.running i (some w) := PoolState.running_set_worker _ i _
    -- the popped work item is live, so it still has its job
    obtain ⟨v, hload, _⟩ := hr.times (p, (w, d)) List.mem_cons_self
    refine ⟨hidle, rfl, .inr ⟨w, v.job, ?_, ?_, hrun⟩⟩
    · have hjob : (s.works.load (p, (w, d)).2.1).map Work.job = some v.job := by rw [hload]; rfl
      rw [queued_jobs, List.filterMap_cons, hjob]
      rfl
    · rw [work_arg, hrun, Function.update_self]
      show (s.works.load w).map Work.job = _
      rw [hload]
      rfl

/-- A worker that is through with its job frees its own work item only. -/
theorem PoolStep.finish_jobs {i : Fin n} (hstep : PoolStep s tp l (.finish i) s' tp' l')
    (hj : (pool_jobs s l).Conserved) :
    l' = l ∧ queued_jobs s' l = queued_jobs s l ∧
      s'.running = Function.update s.running i none ∧
      ∀ j, j ≠ i → work_arg s' j = work_arg s j := by
  cases hstep with
  | finish _ work hi =>
    have hwork : s.running i = some work := by rw [PoolState.running, hi]; rfl
    have hrun : ((s.finished work).set_worker i .ready).running =
        Function.update s.running i none := PoolState.running_set_worker _ i _
    have hload : ∀ w, w ≠ work → (s.works.erase work).load w = s.works.load w := fun w hw => by
      rw [Store.load_erase, if_neg hw]
    -- the erased item is neither queued nor run by a second worker
    refine ⟨rfl, queued_jobs_congr fun w hw => hload w ?_, hrun, fun j hji => ?_⟩
    · rintro rfl
      exact hj.not_queued (w := i) hwork hw
    · refine work_arg_congr (by rw [hrun, Function.update_of_ne hji]) fun w hw => hload w ?_
      rintro rfl
      exact hji (hj.running_unique hw hwork)

end pool

/-! ### The invariant -/

/-- A worker in `request_t_pool` that will not queue its node again. -/
def RequestPc.Straight : RequestPc → Prop
  | .requeue _ _ => False
  | .cleanup _ left => ∃ response, left = .sent response
  | _ => True

/-- The request nodes as jobs. -/
def request_jobs (s : RequestPool n) (l : List (Nat × PrioEntry)) : JobPool (Fin n) Nat where
  added := Multiset.range s.requests.next
  queued := queued_jobs s.pool l
  running := fun i => (s.pc i).owned
  executed := s.finalised

/-- Request nodes are jobs too, and the workers keep to their own. -/
structure OwnerInv (s : RequestPool n) (tp : ThreadPool) (l : List (Nat × PrioEntry)) : Prop where
  pool : PoolUp s.pool tp l
  owners : (request_jobs s l).Conserved
  straight : ∀ i, (s.pc i).Straight
  outside : ∀ i, s.pc i = .outside ↔ s.pool.running i = none
  executes : ∀ i r, (s.pc i).owned = some r → work_arg s.pool i = some r
  live : ∀ r, (s.requests.load r).isSome ↔ r < s.requests.next ∧ r ∉ s.finalised
  own_access : s.foreign = false

variable {s : RequestPool n} {tp tp' : ThreadPool} {l l' : List (Nat × PrioEntry)}

/-- An owned node is live. -/
theorem OwnerInv.load {i : Fin n} {r : Nat} (h : OwnerInv s tp l) (hi : (s.pc i).owned = some r) :
    ∃ v, s.requests.load r = some v := by
  refine Option.isSome_iff_exists.mp ((h.live r).mpr ⟨?_, ?_⟩)
  · exact Multiset.mem_range.mp (h.owners.running_added (w := i) hi)
  · exact h.owners.not_executed (w := i) hi

/-- A step of the pool that moves no job. -/
theorem OwnerInv.quiet {p : PoolState Nat n} (h : OwnerInv s tp l) (hp : PoolUp p tp' l)
    (hworks : p.works = s.pool.works) (hrun : p.running = s.pool.running) :
    OwnerInv { s with pool := p } tp' l where
  pool := hp
  owners := by
    have hq : queued_jobs p l = queued_jobs s.pool l :=
      queued_jobs_congr fun w _ => by rw [hworks]
    rw [request_jobs, hq]
    exact h.owners
  straight := h.straight
  outside := fun i => by
    rw [h.outside]
    show _ ↔ p.running i = none
    rw [hrun]
  executes := fun i r hi => by
    show work_arg p i = some r
    rw [work_arg_congr (congrFun hrun i) fun w _ => by rw [hworks]]
    exact h.executes i r hi
  live := h.live
  own_access := h.own_access

theorem owned_set_pc (s : RequestPool n) (i : Fin n) (pc : RequestPc) :
    (fun j => ((s.set_pc i pc).pc j).owned) =
      Function.update (fun j => (s.pc j).owned) i pc.owned := by
  funext j
  by_cases hj : j = i
  · subst hj
    simp [RequestPool.set_pc]
  · simp [RequestPool.set_pc, hj]

theorem straight_set_pc {i : Fin n} {pc : RequestPc} (h : ∀ j, (s.pc j).Straight)
    (hpc : pc.Straight) (j : Fin n) : ((s.set_pc i pc).pc j).Straight := by
  by_cases hj : j = i
  · simpa [RequestPool.set_pc, hj] using hpc
  · simpa [RequestPool.set_pc, hj] using h j

theorem outside_set_pc {i : Fin n} {pc : RequestPc} {running : Fin n → Option Nat}
    (h : ∀ j, j ≠ i → (s.pc j = .outside ↔ running j = none))
    (hpc : pc = .outside ↔ running i = none) (j : Fin n) :
    (s.set_pc i pc).pc j = .outside ↔ running j = none := by
  by_cases hj : j = i
  · subst hj
    simpa [RequestPool.set_pc] using hpc
  · simpa [RequestPool.set_pc, hj] using h j hj

theorem executes_set_pc {i : Fin n} {pc : RequestPc} {work : Fin n → Option Nat}
    (h : ∀ j r, j ≠ i → (s.pc j).owned = some r → work j = some r)
    (hpc : ∀ r, pc.owned = some r → work i = some r) (j : Fin n) (r : Nat)
    (hown : ((s.set_pc i pc).pc j).owned = some r) : work j = some r := by
  by_cases hj : j = i
  · subst hj
    exact hpc r (by simpa [RequestPool.set_pc] using hown)
  · exact h j r hj (by simpa [RequestPool.set_pc, hj] using hown)

/-- Nothing changes hands when the program ends. -/
theorem OwnerInv.halt (h : OwnerInv s tp l) : OwnerInv s.halt tp l where
  pool := h.pool
  owners := h.owners
  straight := h.straight
  outside := h.outside
  executes := h.executes
  live := h.live
  own_access := h.own_access

/-- A worker that moves on in `request_t_pool` with the node it owns. -/
theorem OwnerInv.set_pc (h : OwnerInv s tp l) {i : Fin n} {pc : RequestPc}
    (hown : pc.owned = (s.pc i).owned) (hstraight : pc.Straight)
    (hout : pc = .outside ↔ s.pc i = .outside) : OwnerInv (s.set_pc i pc) tp l where
  pool := h.pool
  owners := by
    -- the same owners in another list of program counters
    have howned := owned_set_pc s i pc
    rw [hown, Function.update_eq_self] at howned
    rw [request_jobs, howned]
    exact h.owners
  straight := straight_set_pc h.straight hstraight
  outside := outside_set_pc (fun j _ => h.outside j) (hout.trans (h.outside i))
  executes := executes_set_pc (fun j r _ => h.executes j r) fun r hr =>
    h.executes i r (hown ▸ hr)
  live := h.live
  own_access := h.own_access

/-- A worker that writes to the node it owns. -/
theorem OwnerInv.put (h : OwnerInv s tp l) {r : Nat} {v : RequestNode}
    (hload : s.requests.load r = some v) (m : RequestNode) :
    OwnerInv { s with requests := s.requests.put r m } tp l where
  pool := h.pool
  owners := by
    rw [request_jobs, Store.next_put]
    exact h.owners
  straight := h.straight
  outside := h.outside
  executes := h.executes
  live := fun q => by
    -- a write keeps every node where it is
    rw [Store.load_put hload, Store.next_put, ← h.live]
    split
    · next heq => simp [heq, hload]
    · rfl
  own_access := h.own_access

/-- `request` queues a new node. -/
theorem OwnerInv.request (h : OwnerInv s tp l) {by_worker : Option (Fin n)} {w : Timeval}
    {woken : Option (Fin n)} {p : PoolState Nat n}
    (hstep : PoolStep s.pool tp l (.add by_worker s.requests.next w woken) p tp' l')
    (hp : PoolUp p tp' l') (v : RequestNode) :
    OwnerInv { s with pool := p, requests := s.requests.alloc v } tp' l' := by
  obtain ⟨hperm, hrun, harg⟩ := hstep.add_jobs h.pool.runs
  exact {
    pool := hp
    owners := by
      have hadd := h.owners.add (k := s.requests.next) Multiset.notMem_range_self
      have hq : (queued_jobs p l' : Multiset Nat) =
          s.requests.next ::ₘ (queued_jobs s.pool l : Multiset Nat) := Multiset.coe_eq_coe.mpr hperm
      rw [request_jobs, hq, Store.next_alloc, Multiset.range_succ]
      exact hadd
    straight := h.straight
    outside := fun i => by
      rw [h.outside]
      show _ ↔ p.running i = none
      rw [hrun]
    executes := fun i r hi => (harg i).trans (h.executes i r hi)
    live := fun r => by
      rw [Store.load_alloc, Store.next_alloc]
      by_cases hr : r = s.requests.next
      · subst hr
        -- a finalised node was added before, so the new one is not among them
        have hnew : s.requests.next ∉ s.finalised := fun hmem => by
          have hadded : s.requests.next ∈ (request_jobs s l).added := by
            rw [h.owners.parts]
            exact Multiset.mem_add.mpr (.inr hmem)
          exact Multiset.notMem_range_self hadded
        simp [hnew]
      · rw [if_neg hr, h.live]
        constructor
        · exact fun hlive => ⟨Nat.lt_succ_of_lt hlive.1, hlive.2⟩
        · exact fun hlive => ⟨Nat.lt_of_le_of_ne (Nat.le_of_lt_succ hlive.1) hr, hlive.2⟩
    own_access := h.own_access }

/-- A worker is in the code of the pool exactly when it has no work item, also
    after it has got one or has finished it. -/
theorem OwnerInv.outside_running (h : OwnerInv s tp l) {i : Fin n} {p : PoolState Nat n}
    {pc : RequestPc} {work : Option Nat} (hrun : p.running = Function.update s.pool.running i work)
    (hpc : pc = .outside ↔ work = none) (j : Fin n) :
    ({ s with pool := p }.set_pc i pc).pc j = .outside ↔ p.running j = none := by
  refine outside_set_pc (s := { s with pool := p }) (fun j hj => ?_) ?_ j
  · show s.pc j = .outside ↔ p.running j = none
    rw [hrun, Function.update_of_ne hj]
    exact h.outside j
  · show _ ↔ p.running i = none
    rw [hrun, Function.update_self]
    exact hpc

/-- A worker takes the node at the head of the queue. -/
theorem OwnerInv.take (h : OwnerInv s tp l) {i : Fin n} {w r : Nat} {p : PoolState Nat n}
    (hp : PoolUp p tp' l') (hidle : s.pool.running i = none) (hworks : p.works = s.pool.works)
    (hqueue : queued_jobs s.pool l = r :: queued_jobs p l') (harg : work_arg p i = some r)
    (hrun : p.running = Function.update s.pool.running i (some w)) :
    OwnerInv ({ s with pool := p }.set_pc i (.attempt r)) tp' l' := by
  have hout : s.pc i = .outside := (h.outside i).mpr hidle
  exact {
    pool := hp
    owners := by
      -- in the jobs, `take` moves `r` from the queue to worker `i`
      have hmem : r ∈ (request_jobs s l).queued := by
        show r ∈ queued_jobs s.pool l
        rw [hqueue]
        exact List.mem_cons_self
      have htake := h.owners.take (w := i) (show (s.pc i).owned = none by rw [hout]; rfl) hmem
      have hq : (queued_jobs p l' : Multiset Nat) =
          (queued_jobs s.pool l : Multiset Nat).erase r := by
        rw [hqueue, Multiset.coe_erase, List.erase_cons_head]
      have hjobs : request_jobs ({ s with pool := p }.set_pc i (.attempt r)) l' =
          (request_jobs s l).take i r :=
        JobPool.ext rfl hq (owned_set_pc { s with pool := p } i (.attempt r)) rfl
      rw [hjobs]
      exact htake
    straight := straight_set_pc (s := { s with pool := p }) h.straight trivial
    outside := h.outside_running hrun (iff_of_false nofun nofun)
    executes := by
      refine executes_set_pc (s := { s with pool := p }) (fun j q hj hown => ?_) fun q hq => ?_
      · -- the other workers execute what they did
        refine Eq.trans (work_arg_congr ?_ fun v _ => ?_) (h.executes j q hown)
        · exact (congrFun hrun j).trans (Function.update_of_ne hj _ _)
        · exact congrArg (Store.load · v) hworks
      · exact harg.trans hq
    live := h.live
    own_access := h.own_access }

/-- A worker frees the node it owns. -/
theorem OwnerInv.free (h : OwnerInv s tp l) {i : Fin n} {r : Nat}
    (hown : (s.pc i).owned = some r) :
    OwnerInv ({ s with requests := s.requests.erase r, finalised := r :: s.finalised }.set_pc i
      .returned) tp l := by
  have hrunning : s.pool.running i ≠ none := fun hidle => by
    rw [(h.outside i).mpr hidle] at hown
    cases hown
  exact {
    pool := h.pool
    owners := by
      -- in the jobs, `done` moves `r` from worker `i` to the executed ones
      have hjobs : request_jobs (({ s with
          requests := s.requests.erase r, finalised := r :: s.finalised } : RequestPool n).set_pc i
            .returned) l = (request_jobs s l).done i r :=
        JobPool.ext (congrArg Multiset.range (Store.next_erase _ _)) rfl
          (owned_set_pc _ i .returned) rfl
      rw [hjobs]
      exact h.owners.done (w := i) hown
    straight := straight_set_pc h.straight trivial
    outside := outside_set_pc (fun j _ => h.outside j) (iff_of_false nofun hrunning)
    executes := executes_set_pc (fun j q _ => h.executes j q) nofun
    live := fun q => by
      show ((s.requests.erase r).load q).isSome ↔
        q < (s.requests.erase r).next ∧ q ∉ r :: s.finalised
      rw [Store.load_erase, Store.next_erase, List.mem_cons, not_or]
      by_cases hq : q = r
      · simp [hq]
      · simpa [hq] using h.live q
    own_access := h.own_access }

/-- A worker leaves `request_t_pool`. -/
theorem OwnerInv.finish (h : OwnerInv s tp l) {i : Fin n} {p : PoolState Nat n}
    (hi : s.pc i = .returned) (hp : PoolUp p tp' l)
    (hqueue : queued_jobs p l = queued_jobs s.pool l)
    (hrun : p.running = Function.update s.pool.running i none)
    (harg : ∀ j, j ≠ i → work_arg p j = work_arg s.pool j) :
    OwnerInv ({ s with pool := p }.set_pc i .outside) tp' l where
  pool := hp
  owners := by
    -- a returned worker owned no node, so none changes its owner
    have howned := owned_set_pc { s with pool := p } i .outside
    have hsame : (RequestPc.outside).owned = (s.pc i).owned := by rw [hi]; rfl
    rw [hsame] at howned
    have hjobs : request_jobs ({ s with pool := p }.set_pc i .outside) l = request_jobs s l :=
      JobPool.ext rfl (congrArg Multiset.ofList hqueue)
        (howned.trans (Function.update_eq_self i fun j => (s.pc j).owned)) rfl
    rw [hjobs]
    exact h.owners
  straight := straight_set_pc (s := { s with pool := p }) h.straight trivial
  outside := h.outside_running hrun (iff_of_true rfl rfl)
  executes := executes_set_pc (s := { s with pool := p })
    (fun j q hj hown => (harg j hj).trans (h.executes j q hown)) nofun
  live := h.live
  own_access := h.own_access

/-! ### Runs -/

theorem RequestPool.touch_owned {i : Fin n} {r : Nat} (h : (s.pc i).owned = some r) :
    s.touch i r = s :=
  if_pos h

/-- An attempt whose transfer is not to be repeated ends the request. -/
theorem request_attempt_not_retried (cJSON_Parse : Option String → Option CJson)
    (v : RequestNode) {t : Transfer} (ht : is_transient t.http = false) (h429 : t.http ≠ 429) :
    ∃ m response, request_attempt cJSON_Parse v t = (m, .sent response) := by
  have h429' : (t.http == 429) = false := by simpa using h429
  by_cases h : 5 ≤ v.iteration
  · exact ⟨v, none, if_pos h⟩
  · refine ⟨{ v with res := some t.res, http := some t.http }, some t.memory, ?_⟩
    simp only [request_attempt, if_neg h, h429', ht, Bool.false_eq_true, if_false, ite_self]

/-- **Step lemma**: a worker that does not try again keeps to its own. -/
theorem OwnerInv.step {cJSON_Parse : Option String → Option CJson} (h : OwnerInv s tp l)
    {lab : RequestLabel n} (hlab : NotRetried s lab) (hen : request_enabled s lab) :
    ∃ tp' l', OwnerInv (request_step cJSON_Parse s lab) tp' l' := by
  cases lab with
  | tick t =>
    obtain ⟨tp', l', hstep, hp⟩ := h.pool.step (.tick t) hen (by simp)
    obtain ⟨rfl, hworks, hrun⟩ := hstep.quiet_jobs (.inl ⟨t, rfl⟩)
    exact ⟨tp', _, h.quiet hp hworks hrun⟩
  | wake i =>
    obtain ⟨tp', l', hstep, hp⟩ := h.pool.step (.wake i) hen (by simp)
    obtain ⟨rfl, hworks, hrun⟩ := hstep.quiet_jobs (.inr ⟨i, rfl⟩)
    exact ⟨tp', _, h.quiet hp hworks hrun⟩
  | check i t₁ t₂ =>
    obtain ⟨tp', l', hstep, hp⟩ := h.pool.step (.check i t₁ t₂) hen (by simp)
    obtain ⟨hidle, hworks, ⟨rfl, hrun⟩ | ⟨w, r, hqueue, harg, hrun⟩⟩ :=
      hstep.check_jobs h.pool.runs
    · have hnone : work_arg (pool_step s.pool (.check i t₁ t₂)) i = none := by
        rw [work_arg, hrun, hidle]
        rfl
      refine ⟨tp', l', ?_⟩
      simp only [request_step, RequestPool.pool_step, hnone]
      exact h.quiet hp hworks hrun
    · refine ⟨tp', l', ?_⟩
      simp only [request_step, RequestPool.pool_step, harg]
      exact h.take hp hidle hworks hqueue harg hrun
  | request by_worker url content request_type token rc files woken =>
    obtain ⟨tp', l', hstep, hp⟩ := h.pool.step (.add by_worker _ _ woken) hen (by simp)
    exact ⟨tp', l', h.request hstep hp _⟩
  | attempt i goes_on t =>
    obtain ⟨r, hi⟩ := hen
    have hown : (s.pc i).owned = some r := by rw [hi]; rfl
    obtain ⟨v, hload⟩ := h.load hown
    obtain ⟨m, response, hattempt⟩ := request_attempt_not_retried cJSON_Parse v hlab.1 hlab.2
    refine ⟨tp, l, ?_⟩
    simp only [request_step, hi, hload, hattempt, RequestPool.touch_owned hown]
    split
    · exact h.halt
    · refine (h.put hload m).set_pc ?_ ⟨response, rfl⟩ ?_
      · rw [hown]
        rfl
      · simp [hi]
  | requeue i woken =>
    -- ruled out by the guard: no attempt so far asked for another
    obtain ⟨r, w, hi, -⟩ := hen
    have := h.straight i
    rw [hi] at this
    exact this.elim
  | cleanup i =>
    obtain ⟨r, left, hi⟩ := hen
    obtain ⟨response, rfl⟩ : ∃ response, left = .sent response := by
      have := h.straight i
      rwa [hi] at this
    have hown : (s.pc i).owned = some r := by rw [hi]; rfl
    obtain ⟨v, hload⟩ := h.load hown
    refine ⟨tp, l, ?_⟩
    simp only [request_step, hi, hload, RequestPool.touch_owned hown]
    refine (h.put hload (cleaned_up v)).set_pc ?_ trivial ?_
    · rw [hown]
      rfl
    · simp [hi]
  | finalise i goes_on client =>
    obtain ⟨r, response, hi⟩ := hen
    have hown : (s.pc i).owned = some r := by rw [hi]; rfl
    obtain ⟨v, hload⟩ := h.load hown
    refine ⟨tp, l, ?_⟩
    simp only [request_step, hi, hload, RequestPool.touch_owned hown]
    split
    · exact h.free hown
    · exact h.halt
  | finish i =>
    obtain ⟨hi, hen⟩ := hen
    obtain ⟨tp', l', hstep, hp⟩ := h.pool.step (.finish i) hen (by simp)
    obtain ⟨rfl, hqueue, hrun, harg⟩ := hstep.finish_jobs h.pool.jobs
    exact ⟨tp', _, h.finish hi hp hqueue hrun harg⟩

theorem OwnerInv.init (n : Nat) (tv_usec : Int) (clock : Timeval) :
    ∃ tp, OwnerInv (request_init n tv_usec clock) tp [] := by
  obtain ⟨tp, hr⟩ := pool_runs_init (J := Nat) (n := n) tv_usec clock
  have hjobs : (JobPool.empty : JobPool (Fin n) Nat).Conserved := JobPool.conserved_empty
  exact ⟨tp, {
    pool := ⟨hr, hjobs, rfl⟩
    owners := hjobs
    straight := fun _ => trivial
    outside := fun _ => iff_of_true rfl rfl
    executes := fun i r hi => by cases hi
    live := by simp [request_init]
    own_access := rfl }⟩

/-- **Every request has a single owner** in a run that repeats no attempt. -/
theorem single_owner {cJSON_Parse : Option String → Option CJson} {s : RequestPool n}
    (h : ((request_system cJSON_Parse n).guarded NotRetried).Reachable s) : SingleOwner s := by
  obtain ⟨tp, l, hinv⟩ : ∃ tp l, OwnerInv s tp l := by
    refine System.Reachable.invariant (I := fun s => ∃ tp l, OwnerInv s tp l) ?_ ?_ h
    · rintro s ⟨tv_usec, clock, rfl⟩
      obtain ⟨tp, hinv⟩ := OwnerInv.init n tv_usec clock
      exact ⟨tp, [], hinv⟩
    · rintro s lab s' - ⟨tp, l, hinv⟩ ⟨hlab, ⟨-, hen⟩, rfl⟩
      exact hinv.step hlab hen
  exact {
    owners := ⟨tp, l, hinv.pool.runs.pool, hinv.pool.runs.holds, hinv.owners.parts⟩
    freed := fun r hr => by
      rw [← Option.not_isSome_iff_eq_none, hinv.live]
      simp [hr]
    executes := hinv.executes
    own_access := hinv.own_access
    no_fault := hinv.pool.runs.no_fault }

/-- The workers of a pool of two. -/
def first_worker : Fin 2 := ⟨0, Nat.zero_lt_two⟩

def second_worker : Fin 2 := ⟨1, Nat.one_lt_two⟩

/-- A worker takes a new request and makes it, with the status `http`. -/
def first_attempt (http : Int) (rest : List (RequestLabel 2)) : RequestPool 2 :=
  (.request none "u" none .REQUEST_GET "t" none [] none :: .check first_worker ⟨1, 0⟩ ⟨1, 0⟩ ::
    .attempt first_worker false { res := 0, http, memory := none, now := ⟨1, 0⟩ } :: rest).foldl
      (request_step fun _ => none) (request_init 2 0 ⟨1, 0⟩)

/-- A request that is answered at once. -/
def answered_request : RequestPool 2 :=
  first_attempt 200
    [.cleanup first_worker, .finalise first_worker false (.init 10 10 10), .finish first_worker]

theorem single_owner_answered : SingleOwner answered_request :=
  single_owner (System.reachable_foldl_guarded (.init (by exact ⟨0, ⟨1, 0⟩, rfl⟩)) (by decide))

/-- A request that is answered by a 503. Its worker queues it again for
    second 2, and another worker makes it and frees it, before the first one
    cleans up. -/
def requeued_request : RequestPool 2 :=
  first_attempt 503
    [.requeue first_worker none, .check second_worker ⟨3, 0⟩ ⟨3, 0⟩,
      .attempt second_worker false { res := 0, http := 200, memory := none, now := ⟨3, 0⟩ },
      .cleanup second_worker, .finalise second_worker false (.init 10 10 10), .cleanup first_worker]

/-- The first worker then reads the freed node. -/
theorem requeued_request_not_owned :
    (request_system (fun _ => none) 2).Reachable requeued_request ∧
      requeued_request.requests.load 0 = none ∧ requeued_request.pool.fault = true ∧
      ¬ SingleOwner requeued_request := by
  have hinit : (request_system (fun _ => none) 2).Reachable (request_init 2 0 ⟨1, 0⟩) :=
    .init ⟨0, ⟨1, 0⟩, rfl⟩
  refine ⟨System.reachable_foldl hinit (by decide), by decide, by decide, fun h => ?_⟩
  exact absurd h.own_access (by decide)

end DiscoC
