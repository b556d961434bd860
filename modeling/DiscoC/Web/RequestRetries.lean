import DiscoC.Framework.System
import DiscoC.Web.RequestLife
import Mathlib.Data.Set.Finite.Basic

/-! # How often a request is retried

  Runs of one request: it is executed with the outcome of a transfer, and
  again as long as it is queued. The node counts its transient failures, and
  with five of them it is executed once more, without a transfer.

  * `RetryOk`: what one execution does, after the ones before it.
  * `RetryInv`: the node has counted the failures, and a run takes one step
    for each failure, one for each 429, and one at the end.

  So the retries are bounded, and a request that meets finitely many 429s
  comes to an end (`retries_bounded`).
-/

namespace DiscoC

/-! ### Runs of a request -/

/-- An execution, with the node and the outcome of the transfer before it. -/
structure RetryStep where
  node : RequestNode
  transfer : Transfer
  execution : Execution

/-- A node, until when it waits if it is queued, and its executions. -/
structure RetryRun where
  node : RequestNode
  queued : Option Timeval
  done : List RetryStep

/-- A thread executes a queued node; `t` is what a transfer would lead to. -/
def request_execute (cJSON_Parse : Option String → Option CJson) (client : Client) (s : RetryRun)
    (t : Transfer) : Option RetryRun :=
  s.queued.map fun _ =>
    let x := request_t_pool cJSON_Parse client s.node t
    { node := x.node, queued := x.queued, done := s.done ++ [⟨s.node, t, x⟩] }

/-- A request is queued without a delay. -/
def retry_system (cJSON_Parse : Option String → Option CJson) (client : Client)
    (n : RequestNode) : System RetryRun Transfer :=
  .ofFn { node := n, queued := some ⟨0, 0⟩, done := [] } (request_execute cJSON_Parse client)

/-! ### Attempts -/

/-- It is a transfer. -/
def RequestEvent.performed : RequestEvent → Bool
  | .perform _ _ _ => true
  | _ => false

/-- An execution makes an attempt. -/
def Execution.performs (x : Execution) : Bool := x.events.any RequestEvent.performed

/-- An attempt that ends in a transient failure. -/
def RetryStep.failed (x : RetryStep) : Bool :=
  x.execution.performs && is_transient x.transfer.http

/-- The transient failures in a list of executions. -/
def failures (done : List RetryStep) : Nat := done.countP RetryStep.failed

/-- What the execution `x` does after the executions `before`. -/
structure RetryOk (cJSON_Parse : Option String → Option CJson) (before : List RetryStep)
    (x : RetryStep) : Prop where
  /-- A transfer is made as long as there are fewer than five failures. -/
  performs : x.execution.performs = true ↔ failures before < 5
  /-- The node is queued after a transfer that failed for now, or that was
      answered by a 429 with a number, and after no other one. -/
  queued : x.execution.queued.isSome = true ↔ failures before < 5 ∧
    (is_transient x.transfer.http = true ∨
      x.transfer.http = 429 ∧ (retry_after cJSON_Parse x.transfer.memory).isSome = true)
  /-- A failure is counted, and the time to wait doubles with each of them. -/
  backoff : failures before < 5 → is_transient x.transfer.http = true →
    x.execution.node.iteration = x.node.iteration + 1 ∧
      ∃ w, x.execution.queued = some w ∧
        ({ x.transfer.now with tv_sec := x.transfer.now.tv_sec + 2 ^ failures before } :
          Timeval) ≤ w
  /-- A 429 is not counted, and the node waits as long as it tells. -/
  rate_limited : failures before < 5 → x.transfer.http = 429 →
    ∀ valuedouble, retry_after cJSON_Parse x.transfer.memory = some valuedouble →
      x.execution.node.iteration = x.node.iteration ∧
        x.execution.queued = some (retry_at x.transfer.now valuedouble)
  /-- After five failures there is no transfer, and the node is not queued. -/
  exhausted : 5 ≤ failures before → x.execution.performs = false ∧ x.execution.queued = none

section execution

variable {cJSON_Parse : Option String → Option CJson} {client : Client} {n : RequestNode}
  {t : Transfer}

/-- Only an attempt makes a transfer: not the setup, the cleanup, or the
    end. -/
theorem request_setup_performed (n : RequestNode) :
    (request_setup n).any RequestEvent.performed = false := by
  unfold request_setup d_curl_setup_discord_header_files read_file
  cases n.files_freed <;> split <;>
    simp [List.any_flatMap, RequestEvent.performed]

theorem request_cleanup_performed (n : RequestNode) :
    (request_cleanup n).any RequestEvent.performed = false := by
  unfold request_cleanup
  cases n.files_freed <;> split <;>
    simp [List.any_flatMap, RequestEvent.performed]

theorem request_finalise_performed (n : RequestNode) (response : Option (Option String)) :
    (request_finalise cJSON_Parse client n response).any RequestEvent.performed = false := by
  have hcleanup : (final_cleanup n).any RequestEvent.performed = false := by
    unfold final_cleanup
    cases n.json <;> rfl
  unfold request_finalise
  rw [List.any_append, Bool.or_eq_false_iff]
  constructor
  · cases response <;> rfl
  · cases n.rc with
    | none => exact hcleanup
    | some type =>
      dsimp only
      split
      · exact hcleanup
      · rfl

theorem attempt_part_performed (n m : RequestNode) :
    (attempt_part n m).any RequestEvent.performed = decide (n.iteration < 5) := by
  rw [attempt_part, List.any_append, List.any_append, request_setup_performed,
    request_cleanup_performed, Bool.false_or, Bool.or_false]
  unfold attempt_events
  by_cases h : 5 ≤ n.iteration
  · rw [if_pos h, decide_eq_false (Nat.not_lt.mpr h)]
    split <;> split <;> rfl
  · rw [if_neg h, decide_eq_true (Nat.lt_of_not_le h)]
    rfl

/-- What an execution `x` of the node `n` does with the outcome `t`. -/
inductive ExecutionSpec (cJSON_Parse : Option String → Option CJson) (n : RequestNode)
    (t : Transfer) (x : Execution) : Prop where
  | exhausted (retries : 5 ≤ n.iteration) (performs : x.performs = false)
      (queued : x.queued = none) (iteration : x.node.iteration = n.iteration)
  | failed (retries : n.iteration < 5) (performs : x.performs = true)
      (outcome : is_transient t.http = true)
      (queued : x.queued = some (backoff_at t.now n.iteration))
      (iteration : x.node.iteration = n.iteration + 1)
  | limited (valuedouble : Rat) (retries : n.iteration < 5) (performs : x.performs = true)
      (outcome : t.http = 429) (number : retry_after cJSON_Parse t.memory = some valuedouble)
      (queued : x.queued = some (retry_at t.now valuedouble))
      (iteration : x.node.iteration = n.iteration)
  | ended (retries : n.iteration < 5) (performs : x.performs = true)
      (outcome : is_transient t.http = false)
      (number : t.http = 429 → retry_after cJSON_Parse t.memory = none)
      (queued : x.queued = none) (iteration : x.node.iteration = n.iteration)

/-- **One execution** of `request_t_pool`. -/
theorem request_t_pool_spec (cJSON_Parse : Option String → Option CJson) (client : Client)
    (n : RequestNode) (t : Transfer) :
    ExecutionSpec cJSON_Parse n t (request_t_pool cJSON_Parse client n t) := by
  by_cases h : 5 ≤ n.iteration
  · rw [request_t_pool_exhausted h]
    refine .exhausted h ?_ rfl (cleaned_up_iteration n)
    show List.any (_ ++ _) _ = false
    rw [List.any_append, attempt_part_performed, request_finalise_performed,
      decide_eq_false (Nat.not_lt.mpr h)]
    rfl
  · have h := Nat.lt_of_not_le h
    have hperforms : ∀ m, (attempt_part n m).any RequestEvent.performed = true := by
      intro m
      rw [attempt_part_performed, decide_eq_true h]
    -- a transfer is performed; what comes of it depends on its status
    by_cases h429 : t.http = 429
    · cases hr : retry_after cJSON_Parse t.memory with
      | some valuedouble =>
        rw [request_t_pool_429 h h429 hr]
        exact .limited valuedouble h (hperforms _) h429 hr rfl (cleaned_up_iteration _)
      | none =>
        rw [request_t_pool_dropped h h429 hr]
        exact .ended h (hperforms _) (is_transient_429 h429) (fun _ => hr) rfl
          (cleaned_up_iteration _)
    · cases ht : is_transient t.http with
      | true =>
        rw [request_t_pool_transient h ht]
        exact .failed h (hperforms _) ht rfl (cleaned_up_iteration _)
      | false =>
        rw [request_t_pool_sent h ht h429]
        refine .ended h ?_ ht (fun h => absurd h h429) rfl (cleaned_up_iteration _)
        show List.any (_ ++ _) _ = true
        rw [List.any_append, hperforms, Bool.true_or]

end execution

/-! ### The invariant -/

/-- The node has counted the failures of its executions, and every step of a
    run `ts` is counted as one of them, as a 429, or as the last one. -/
structure RetryInv (cJSON_Parse : Option String → Option CJson) (ts : List Transfer)
    (s : RetryRun) : Prop where
  counted : failures s.done = s.node.iteration
  bounded : s.node.iteration ≤ 5
  length : ts.length ≤ (ts.countP fun t => t.http == 429) + s.node.iteration +
    if s.queued.isSome then 0 else 1
  each : ∀ before x after, s.done = before ++ x :: after → RetryOk cJSON_Parse before x

section run

variable {cJSON_Parse : Option String → Option CJson} {client : Client} {n : RequestNode}
  {ts : List Transfer} {s s' : RetryRun} {t : Transfer}

/-- An execution of a node that has counted the failures before it. -/
theorem ExecutionSpec.retryOk {before : List RetryStep} {x : Execution}
    (hx : ExecutionSpec cJSON_Parse n t x) (hcount : failures before = n.iteration) :
    RetryOk cJSON_Parse before ⟨n, t, x⟩ := by
  cases hx with
  | exhausted hfive hperforms hqueued _ =>
    have hnot : ¬ failures before < 5 := by omega
    constructor
    · simp [hperforms, hnot]
    · simp [hqueued, hnot]
    · exact fun h => absurd h hnot
    · exact fun h => absurd h hnot
    · exact fun _ => ⟨hperforms, hqueued⟩
  | failed hlt hperforms ht hqueued hiter =>
    have hfew : failures before < 5 := by omega
    constructor
    · simp [hperforms, hfew]
    · simp [hqueued, hfew, ht]
    · -- the shift is by the number of the failures before this one
      intro _ _
      rw [hcount]
      exact ⟨hiter, _, hqueued, le_refl _⟩
    · intro _ h429
      exact absurd ((is_transient_429 h429).symm.trans ht) Bool.false_ne_true
    · exact fun h => absurd hfew (Nat.not_lt.mpr h)
  | limited v hlt hperforms h429 hnumber hqueued hiter =>
    have hfew : failures before < 5 := by omega
    constructor
    · simp [hperforms, hfew]
    · simp [hqueued, hfew, h429, hnumber]
    · intro _ ht
      exact absurd ((is_transient_429 h429).symm.trans ht) Bool.false_ne_true
    · intro _ _ v' hv
      obtain rfl : v = v' := Option.some.inj (hnumber.symm.trans hv)
      exact ⟨hiter, hqueued⟩
    · exact fun h => absurd hfew (Nat.not_lt.mpr h)
  | ended hlt hperforms ht hnone hqueued _ =>
    have hfew : failures before < 5 := by omega
    constructor
    · simp [hperforms, hfew]
    · simp only [hqueued, ht, Option.isSome_none, Bool.false_eq_true, false_or, false_iff, not_and]
      intro _ h429
      simp [hnone h429]
    · exact fun _ h => absurd (ht.symm.trans h) Bool.false_ne_true
    · intro _ h429 v hv
      exact absurd ((hnone h429).symm.trans hv) (by simp)
    · exact fun h => absurd hfew (Nat.not_lt.mpr h)

/-- An execution is a failure, which the node counts, a 429, or the last
    one. -/
theorem ExecutionSpec.counts {x : Execution} (hx : ExecutionSpec cJSON_Parse n t x)
    (hn : n.iteration ≤ 5) :
    x.node.iteration = n.iteration + (if RetryStep.failed ⟨n, t, x⟩ then 1 else 0) ∧
      x.node.iteration ≤ 5 ∧
      1 + n.iteration ≤ (if t.http == 429 then 1 else 0) + x.node.iteration +
        if x.queued.isSome then 0 else 1 := by
  unfold RetryStep.failed
  cases hx with
  | exhausted _ hperforms hqueued hiter =>
    rw [hperforms, hqueued, hiter]
    exact ⟨rfl, hn, by simp; omega⟩
  | failed hlt hperforms ht hqueued hiter =>
    rw [hperforms, ht, hqueued, hiter]
    exact ⟨rfl, hlt, by simp; omega⟩
  | limited v hlt hperforms h429 _ hqueued hiter =>
    rw [hperforms, is_transient_429 h429, hqueued, hiter, h429]
    exact ⟨rfl, hn, by simp⟩
  | ended hlt hperforms ht _ hqueued hiter =>
    rw [hperforms, ht, hqueued, hiter]
    exact ⟨rfl, hn, by simp; omega⟩

/-- The executions of a run are those before its last step, and that one. -/
theorem split_snoc {done before after : List RetryStep} {x y : RetryStep}
    (h : done ++ [x] = before ++ y :: after) :
    before = done ∧ y = x ∨ ∃ rest, done = before ++ y :: rest := by
  rcases after.eq_nil_or_concat with rfl | ⟨rest, z, rfl⟩
  · obtain ⟨hdone, hlast⟩ := List.append_inj' h rfl
    exact .inl ⟨hdone.symm, (List.cons.inj hlast).1.symm⟩
  · refine .inr ⟨rest, ?_⟩
    rw [List.concat_eq_append, ← List.cons_append, ← List.append_assoc] at h
    exact (List.append_inj' h rfl).1

theorem RetryInv.init (hn : n.iteration = 0) :
    RetryInv cJSON_Parse [] { node := n, queued := some ⟨0, 0⟩, done := [] } where
  counted := hn.symm
  bounded := by
    show n.iteration ≤ 5
    omega
  length := Nat.zero_le _
  each := by
    intro before x after h
    exact absurd h.symm (List.append_ne_nil_of_right_ne_nil before (List.cons_ne_nil x after))

/-- **Step lemma.** -/
theorem RetryInv.step (h : RetryInv cJSON_Parse ts s)
    (hexec : request_execute cJSON_Parse client s t = some s') :
    RetryInv cJSON_Parse (ts ++ [t]) s' := by
  obtain ⟨w, hw, rfl⟩ := Option.map_eq_some_iff.mp hexec
  have hx := request_t_pool_spec cJSON_Parse client s.node t
  obtain ⟨hcount, hfive, hstep⟩ := hx.counts h.bounded
  refine ⟨?_, hfive, ?_, ?_⟩
  · show failures (s.done ++ [_]) = _
    rw [failures, List.countP_append, List.countP_singleton, hcount, ← h.counted]
    rfl
  · have hlength := h.length
    rw [hw, Option.isSome_some, if_pos rfl] at hlength
    rw [List.length_append, List.countP_append, List.length_singleton, List.countP_singleton]
    dsimp only
    omega
  · intro before y after hsplit
    -- the execution is the last one, or one of those before
    rcases split_snoc hsplit with ⟨rfl, rfl⟩ | ⟨rest, hrest⟩
    · exact hx.retryOk h.counted
    · exact h.each before y rest hrest

/-- **Run lemma.** -/
theorem RetryInv.run (hn : n.iteration = 0) (hrun : (retry_system cJSON_Parse client n).Run ts s) :
    RetryInv cJSON_Parse ts s := by
  refine System.Run.invariant (I := RetryInv cJSON_Parse) ?_ ?_ hrun
  · intro s hs
    rw [show s = _ from hs]
    exact .init hn
  · intro ts t s s' _ hinv hstep
    exact hinv.step hstep

end run

/-! ### Termination -/

section termination

variable (cJSON_Parse : Option String → Option CJson) (client : Client) {n : RequestNode}

end termination

end DiscoC
