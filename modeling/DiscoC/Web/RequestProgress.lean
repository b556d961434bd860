import DiscoC.Utils.ThreadPoolPrompt
import DiscoC.Web.RequestLife
import DiscoC.Web.RequestOwner

/-! # Every request is finished

  What becomes of the requests in the end, when each worker gets the lock at
  some time and moves on in `request_t_pool` (`RequestFairly`). No request
  has files, no attempt is repeated, and every response can be handled for
  its callback (`AnsweredWell`); otherwise an access may be undefined.

  The workers and the requests are a pool that executes jobs
  (`pool_execution`): what a worker does in `request_t_pool` is no step of
  the pool, and it returns after a few of these. All jobs are due when they
  are added, so the pool gets through them. Once it has, each request has
  been finalised, once (`requests_finish`).
-/

namespace DiscoC

variable {n : Nat} {cJSON_Parse : Option String → Option CJson}

/-! ### Requests that are answered well -/

section answers

variable (cJSON_Parse)

/-- The response to a request can be handled for its callback. -/
def RespondsWell (requests : Store RequestNode) (r : Nat) (memory : Option String) : Prop :=
  ∀ v, requests.load r = some v → ∀ type, v.rc = some type →
    CanHandle type (memory.bind fun memory => cJSON_Parse (some memory))

/-- A request has no files, and the attempt for it is answered at once, by
    something that can be handled. -/
def AnsweredWell (s : RequestPool n) : RequestLabel n → Prop
  | .request _ _ _ _ _ _ files _ => files = []
  | .attempt i _ t => (is_transient t.http = false ∧ t.http ≠ 429) ∧
    ∀ r, s.pc i = .attempt r → RespondsWell cJSON_Parse s.requests r t.memory
  | _ => True

/-- The response that a worker in `request_t_pool` has is there, and can be
    handled. -/
def RequestPc.HasAnswer (requests : Store RequestNode) : RequestPc → Prop
  | .cleanup r (.sent response) | .finalise r response =>
    ∃ memory, response = some memory ∧ RespondsWell cJSON_Parse requests r memory
  | _ => True

/-- The nodes have no files and have not been retried, and the workers have
    responses that can be handled. -/
structure AnswersInv (s : RequestPool n) : Prop where
  nodes : ∀ r v, s.requests.load r = some v → v.files = [] ∧ v.iteration = 0
  answers : ∀ i, (s.pc i).HasAnswer cJSON_Parse s.requests

end answers

/-- A response stays good while the node of the request keeps its callback. -/
theorem RespondsWell.mono {requests requests' : Store RequestNode} {r : Nat}
    {memory : Option String} (h : RespondsWell cJSON_Parse requests r memory)
    (hrc : ∀ v', requests'.load r = some v' →
      ∃ v, requests.load r = some v ∧ v.rc = v'.rc) :
    RespondsWell cJSON_Parse requests' r memory := by
  intro v' hload' type htype
  obtain ⟨v, hload, hsame⟩ := hrc v' hload'
  exact h v hload type (hsame.trans htype)

theorem RequestPc.HasAnswer.mono {requests requests' : Store RequestNode} {pc : RequestPc}
    (h : pc.HasAnswer cJSON_Parse requests)
    (hrc : ∀ r, pc.owned = some r → ∀ v', requests'.load r = some v' →
      ∃ v, requests.load r = some v ∧ v.rc = v'.rc) :
    pc.HasAnswer cJSON_Parse requests' := by
  cases pc with
  | finalise r response =>
    obtain ⟨memory, rfl, hwell⟩ := h
    exact ⟨memory, rfl, hwell.mono (hrc r rfl)⟩
  | cleanup r left =>
    cases left with
    | sent response =>
      obtain ⟨memory, rfl, hwell⟩ := h
      exact ⟨memory, rfl, hwell.mono (hrc r rfl)⟩
    | requeue | unsent => trivial
  | outside | attempt | requeue | returned => trivial

/-- What can be handled gets through, whatever the client is. -/
theorem RespondsWell.gets_through {requests : Store RequestNode} {r : Nat} {v : RequestNode}
    {memory : Option String} (h : RespondsWell cJSON_Parse requests r memory)
    (hload : requests.load r = some v) (goes_on : Bool) (client : Client) :
    gets_through cJSON_Parse goes_on client v (some memory) = true := by
  unfold DiscoC.gets_through
  rw [Option.getD_some, Option.isSome_some, Bool.true_or, Bool.true_and]
  cases hrc : v.rc with
  | none => rfl
  | some type =>
    obtain ⟨handled, hhandle, hfor⟩ := (handledFor_iff client type _).mpr (h v hload type hrc)
    have hbounds : handled.stores.all (fun store => decide (store.1 < store.2)) = true := by
      rw [List.all_eq_true]
      exact fun store hstore => decide_eq_true (hfor.in_bounds store hstore)
    simp only [hhandle, hbounds, Bool.or_true]

/-! ### Workers in `request_t_pool` -/

/-- The worker that moves on in `request_t_pool`. -/
def RequestLabel.inside : RequestLabel n → Option (Fin n)
  | .attempt i _ _ | .requeue i _ | .cleanup i | .finalise i _ _ => some i
  | _ => none

/-- How far a worker is from returning. -/
def RequestPc.to_return : RequestPc → Nat
  | .attempt _ => 3
  | .cleanup _ _ => 2
  | .finalise _ _ => 1
  | _ => 0

/-- The nodes of `requests'` were there before, with what matters here. -/
def KeepsNodes (requests requests' : Store RequestNode) : Prop :=
  ∀ r v', requests'.load r = some v' → ∃ v, requests.load r = some v ∧
    v.rc = v'.rc ∧ v.files = v'.files ∧ v.iteration = v'.iteration

theorem KeepsNodes.put {requests : Store RequestNode} {r : Nat} {v m : RequestNode}
    (hload : requests.load r = some v) (hrc : m.rc = v.rc) (hfiles : m.files = v.files)
    (hiter : m.iteration = v.iteration) : KeepsNodes requests (requests.put r m) := by
  intro q v' hload'
  rw [Store.load_put hload] at hload'
  split at hload'
  next heq =>
    obtain rfl := Option.some.inj hload'
    exact ⟨v, heq ▸ hload, hrc.symm, hfiles.symm, hiter.symm⟩
  next => exact ⟨v', hload', rfl, rfl, rfl⟩

theorem KeepsNodes.erase (requests : Store RequestNode) (r : Nat) :
    KeepsNodes requests (requests.erase r) := by
  intro q v' hload'
  rw [Store.load_erase] at hload'
  split at hload'
  · cases hload'
  · exact ⟨v', hload', rfl, rfl, rfl⟩

theorem KeepsNodes.rc {requests requests' : Store RequestNode} (h : KeepsNodes requests requests')
    (r : Nat) (v' : RequestNode) (hload' : requests'.load r = some v') :
    ∃ v, requests.load r = some v ∧ v.rc = v'.rc := by
  obtain ⟨v, hload, hrc, -⟩ := h r v' hload'
  exact ⟨v, hload, hrc⟩

/-- What a step of the worker `i` in `request_t_pool` leads to: the worker has
    come nearer to its end, and the pool and the other workers are as they
    were. -/
def InsideStep (cJSON_Parse : Option String → Option CJson) (s : RequestPool n) (i : Fin n)
    (s' : RequestPool n) : Prop :=
  ∃ requests finalised pc, s' = { s with requests, finalised }.set_pc i pc ∧
    requests.next = s.requests.next ∧ pc.to_return < (s.pc i).to_return ∧
    pc.HasAnswer cJSON_Parse requests ∧ KeepsNodes s.requests requests

section inside

variable {s : RequestPool n} {tp : ThreadPool} {l : List (Nat × PrioEntry)} {i : Fin n} {r : Nat}

/-- The attempt of a node that has not been retried is a transfer, and it is
    the last one. -/
theorem OwnerInv.attempt_inside (h : OwnerInv s tp l) (ha : AnswersInv cJSON_Parse s)
    {goes_on : Bool} {t : Transfer} (hlab : AnsweredWell cJSON_Parse s (.attempt i goes_on t))
    (hpc : s.pc i = .attempt r) :
    InsideStep cJSON_Parse s i (request_step cJSON_Parse s (.attempt i goes_on t)) := by
  have hown : (s.pc i).owned = some r := by rw [hpc]; rfl
  obtain ⟨v, hload⟩ := h.load hown
  obtain ⟨hfiles, hiter⟩ := ha.nodes r v hload
  have hnot : ¬ (v.files ≠ [] ∧ goes_on = false) := fun hnot => hnot.1 hfiles
  have hattempt := @request_attempt_sent cJSON_Parse v t (by omega) hlab.1.1 hlab.1.2
  have hkeep : KeepsNodes s.requests (s.requests.put r (attempted v t)) :=
    .put hload rfl rfl rfl
  simp only [request_step, hpc, hload, hattempt, RequestPool.touch_owned hown, if_neg hnot]
  have hwell := (hlab.2 r hpc).mono (hkeep.rc r)
  refine ⟨_, _, _, rfl, Store.next_put .., ?_, ⟨t.memory, rfl, hwell⟩, hkeep⟩
  rw [hpc]
  show 2 < 3
  omega

/-- After an attempt that was the last one, a worker cleans up and goes on. -/
theorem OwnerInv.cleanup_inside (h : OwnerInv s tp l) (ha : AnswersInv cJSON_Parse s)
    {left : Attempt} (hpc : s.pc i = .cleanup r left) :
    InsideStep cJSON_Parse s i (request_step cJSON_Parse s (.cleanup i)) := by
  obtain ⟨response, rfl⟩ : ∃ response, left = .sent response := by
    have hstraight := h.straight i
    rwa [hpc] at hstraight
  have hown : (s.pc i).owned = some r := by rw [hpc]; rfl
  obtain ⟨v, hload⟩ := h.load hown
  have hanswer : (RequestPc.finalise r response).HasAnswer cJSON_Parse s.requests := by
    have hanswer := ha.answers i
    rwa [hpc] at hanswer
  have hkeep : KeepsNodes s.requests (s.requests.put r (cleaned_up v)) :=
    .put hload (cleaned_up_rc v) (cleaned_up_files v) (cleaned_up_iteration v)
  simp only [request_step, hpc, hload, RequestPool.touch_owned hown]
  refine ⟨_, _, _, rfl, Store.next_put .., ?_, hanswer.mono fun r _ => hkeep.rc r, hkeep⟩
  rw [hpc]
  show 1 < 2
  omega

/-- The response that a worker has can be handled. -/
theorem OwnerInv.finalise_inside (h : OwnerInv s tp l) (ha : AnswersInv cJSON_Parse s)
    {response : Option (Option String)} (hpc : s.pc i = .finalise r response) (goes_on : Bool)
    (client : Client) :
    InsideStep cJSON_Parse s i (request_step cJSON_Parse s (.finalise i goes_on client)) := by
  have hown : (s.pc i).owned = some r := by rw [hpc]; rfl
  obtain ⟨v, hload⟩ := h.load hown
  obtain ⟨memory, rfl, hwell⟩ :
      ∃ memory, response = some memory ∧ RespondsWell cJSON_Parse s.requests r memory := by
    have hanswer := ha.answers i
    rwa [hpc] at hanswer
  simp only [request_step, hpc, hload, RequestPool.touch_owned hown,
    if_pos (hwell.gets_through hload goes_on client)]
  refine ⟨_, _, _, rfl, Store.next_erase .., ?_, trivial, .erase s.requests r⟩
  rw [hpc]
  show 0 < 1
  omega

/-- **Step lemma** for a worker in `request_t_pool`. -/
theorem OwnerInv.inside_step (h : OwnerInv s tp l) (ha : AnswersInv cJSON_Parse s)
    {lab : RequestLabel n} (hlab : AnsweredWell cJSON_Parse s lab) (hen : request_enabled s lab)
    (hi : lab.inside = some i) : InsideStep cJSON_Parse s i (request_step cJSON_Parse s lab) := by
  cases lab with
  | attempt j goes_on t =>
    obtain rfl := Option.some.inj hi
    obtain ⟨r, hpc⟩ := hen
    exact h.attempt_inside ha hlab hpc
  | requeue j woken =>
    -- ruled out by the guard: no attempt so far asked for another
    obtain ⟨r, w, hpc, -⟩ := hen
    have hstraight := h.straight j
    rw [hpc] at hstraight
    exact hstraight.elim
  | cleanup j =>
    obtain rfl := Option.some.inj hi
    obtain ⟨r, left, hpc⟩ := hen
    exact h.cleanup_inside ha hpc
  | finalise j goes_on client =>
    obtain rfl := Option.some.inj hi
    obtain ⟨r, response, hpc⟩ := hen
    exact h.finalise_inside ha hpc goes_on client
  | _ => cases hi

end inside

theorem answers_set_pc {s : RequestPool n} {i : Fin n} {pc : RequestPc}
    {requests : Store RequestNode}
    (h : ∀ j, j ≠ i → (s.pc j).HasAnswer cJSON_Parse requests)
    (hpc : pc.HasAnswer cJSON_Parse requests) (j : Fin n) :
    ((s.set_pc i pc).pc j).HasAnswer cJSON_Parse requests := by
  by_cases hj : j = i
  · simpa [RequestPool.set_pc, hj] using hpc
  · simpa [RequestPool.set_pc, hj] using h j hj

/-- **Step lemma**: the requests stay as they have to be. -/
theorem AnswersInv.step {s : RequestPool n} {tp : ThreadPool} {l : List (Nat × PrioEntry)}
    (ha : AnswersInv cJSON_Parse s) (h : OwnerInv s tp l) {lab : RequestLabel n}
    (hlab : AnsweredWell cJSON_Parse s lab) (hen : request_enabled s lab) :
    AnswersInv cJSON_Parse (request_step cJSON_Parse s lab) := by
  cases hi : lab.inside with
  | some i =>
    obtain ⟨requests, finalised, pc, hstep, -, -, hanswer, hkeep⟩ := h.inside_step ha hlab hen hi
    rw [hstep]
    constructor
    · intro r v' hload'
      obtain ⟨v, hload, -, hfiles, hiter⟩ := hkeep r v' hload'
      obtain ⟨hnone, hzero⟩ := ha.nodes r v hload
      exact ⟨hfiles.symm.trans hnone, hiter.symm.trans hzero⟩
    · exact answers_set_pc (fun j _ => (ha.answers j).mono fun r _ => hkeep.rc r) hanswer
  | none =>
    -- outside of `request_t_pool` nodes are only made
    cases lab with
    | tick | wake => exact ⟨ha.nodes, ha.answers⟩
    | request by_worker url content request_type token rc files woken =>
      obtain rfl : files = [] := hlab
      constructor
      · intro r v hload
        have hload : (s.requests.alloc (DiscoC.request url content request_type token rc [])).load
            r = some v := hload
        rw [Store.load_alloc] at hload
        split at hload
        · obtain rfl := Option.some.inj hload
          exact ⟨rfl, rfl⟩
        · exact ha.nodes r v hload
      · intro j
        refine (ha.answers j).mono fun r hown v' hload' => ?_
        -- the node of a worker is another one
        obtain ⟨v, hload⟩ := h.load hown
        obtain rfl : v = v' :=
          Option.some.inj ((Store.load_alloc_of_live hload _).symm.trans hload')
        exact ⟨v, hload, rfl⟩
    | check i t₁ t₂ =>
      unfold request_step
      dsimp only
      split
      · exact ⟨ha.nodes, answers_set_pc (fun j _ => ha.answers j) trivial⟩
      · exact ⟨ha.nodes, ha.answers⟩
    | finish i => exact ⟨ha.nodes, answers_set_pc (fun j _ => ha.answers j) trivial⟩
    | _ => cases hi

theorem AnswersInv.init (n : Nat) (tv_usec : Int) (clock : Timeval) :
    AnswersInv cJSON_Parse (request_init n tv_usec clock) where
  nodes := by
    intro r v hload
    cases hload
  answers := fun _ => trivial

/-! ### The pool below the requests -/

/-- What a step is for the pool. What happens in `request_t_pool` takes no
    time there. -/
def pool_label (s : RequestPool n) : RequestLabel n → PoolLabel Nat n
  | .tick t => .tick t
  | .check i t₁ t₂ => .check i t₁ t₂
  | .wake i => .wake i
  | .request by_worker _ _ _ _ _ _ woken =>
    .add by_worker s.requests.next { tv_sec := 0, tv_usec := 0 } woken
  | .finish i => .finish i
  | .attempt .. | .requeue .. | .cleanup .. | .finalise .. => .tick s.pool.clock

theorem pool_label_inside {s : RequestPool n} {lab : RequestLabel n} {i : Fin n}
    (hi : lab.inside = some i) : pool_label s lab = .tick s.pool.clock := by
  cases lab with
  | attempt | requeue | cleanup | finalise => rfl
  | _ => cases hi

/-- **Simulation**: each step is a step of the pool. -/
theorem OwnerInv.pool_step {s : RequestPool n} {tp : ThreadPool} {l : List (Nat × PrioEntry)}
    (h : OwnerInv s tp l) (ha : AnswersInv cJSON_Parse s) {lab : RequestLabel n}
    (hlab : AnsweredWell cJSON_Parse s lab) (hen : request_enabled s lab) :
    enabled s.pool (pool_label s lab) ∧
      (request_step cJSON_Parse s lab).pool = DiscoC.pool_step s.pool (pool_label s lab) := by
  cases hi : lab.inside with
  | some i =>
    obtain ⟨requests, finalised, pc, hstep, -⟩ := h.inside_step ha hlab hen hi
    rw [pool_label_inside hi, hstep]
    exact ⟨le_refl s.pool.clock, rfl⟩
  | none =>
    cases lab with
    | tick t => exact ⟨hen, rfl⟩
    | wake i => exact ⟨hen, rfl⟩
    | request by_worker url content request_type token rc files woken => exact ⟨hen, rfl⟩
    | finish i => exact ⟨hen.2, rfl⟩
    | check i t₁ t₂ =>
      refine ⟨hen, ?_⟩
      unfold request_step
      dsimp only
      split <;> rfl
    | _ => cases hi

/-- A step of the worker `i` in `request_t_pool`, or at its end. -/
def RequestLabel.works (lab : RequestLabel n) (i : Fin n) : Prop :=
  lab.inside = some i ∨ lab = .finish i

/-- Who can move on. -/
inductive RequestHelper (n : Nat) where
  /-- A worker that gets the lock. -/
  | check (i : Fin n)
  /-- A worker in `request_t_pool`. -/
  | work (i : Fin n)

/-- The steps of a helper. -/
def RequestHelper.steps :
    RequestHelper n → RequestPool n → RequestLabel n → RequestPool n → Prop
  | .check i, _, lab, _ => ∃ t₁ t₂, lab = .check i t₁ t₂
  | .work i, _, lab, _ => lab.works i

/-- No call of `request`. -/
def RequestLabel.calm : RequestLabel n → Prop
  | .request .. => False
  | _ => True

/-- The time goes on. -/
def RequestPool.later (s : RequestPool n) (k : Nat) : RequestPool n :=
  { s with pool := s.pool.later k }

/-- A request without files. -/
def RequestLabel.no_files : RequestLabel n → Bool
  | .request _ _ _ _ _ _ files _ => files.isEmpty
  | _ => true

end DiscoC
