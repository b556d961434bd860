import DiscoC.Web.ResponseHandling

/-! # What becomes of a request

  A request should end once: its callback is called once, with the response
  to its last attempt, and its blocks are freed once (`FinalisedOnce`).

  Four kinds of input prevent that:

  * A 429 without a number in `retry_after` neither queues the node nor ends
    the request.
  * After five transient failures there is no attempt, and the variable
    `response` is read unassigned.
  * With files, the list heads are appended to unassigned.
  * A response may hold a message that cannot be decoded; and of several
    messages the first one is already stored behind its array.

  Without these, every complete life of a request ends it once
  (`finalised_once_iff`).
-/

namespace DiscoC

/-! ### Counting events -/

/-- The calls of the callback. -/
def RequestEvent.called : RequestEvent → Option (CallbackType × Option CJson)
  | .callback type res_json => some (type, res_json)
  | _ => none

/-- The blocks freed. -/
def RequestEvent.freed : RequestEvent → Option RequestBlock
  | .free block => some block
  | _ => none

/-- The variables read without a value. -/
def RequestEvent.unset : RequestEvent → Option String
  | .unassigned var => some var
  | _ => none

/-- How often a block is freed. -/
def free_count (events : List RequestEvent) (block : RequestBlock) : Nat :=
  (events.filterMap RequestEvent.freed).count block

section life

variable (cJSON_Parse : Option String → Option CJson) (client : Client)

/-- The parsed response of the last transfer, if it has one. -/
def last_response (last : Option Transfer) : Option CJson :=
  (last.bind Transfer.memory).bind fun memory => cJSON_Parse (some memory)

/-- The retries so far, when a node is queued again after `t`. -/
def next_iteration (iteration : Nat) (t : Transfer) : Option Nat :=
  if t.http = 429 then (retry_after cJSON_Parse t.memory).map fun _ => iteration
  else if is_transient t.http then some (iteration + 1)
  else none

/-- The transient failures. -/
def transient_count (ts : List Transfer) : Nat :=
  (ts.filter fun t => is_transient t.http).length

variable {cJSON_Parse} {client} {n : RequestNode} {t : Transfer}

/-- The node after an attempt that is not followed by a backoff. -/
def attempted (n : RequestNode) (t : Transfer) : RequestNode :=
  { n with res := some t.res, http := some t.http }

/-- The node after an attempt that is followed by a backoff. -/
def backed_off (n : RequestNode) (t : Transfer) : RequestNode :=
  { attempted n t with iteration := n.iteration + 1 }

theorem request_attempt_transient (h : n.iteration < 5) (ht : is_transient t.http = true) :
    request_attempt cJSON_Parse n t =
      (backed_off n t, .requeue (backoff_at t.now n.iteration)) := by
  have hcode : t.http = 0 ∨ 500 ≤ t.http ∧ t.http ≤ 599 ∨ t.http = 409 := by
    simpa [is_transient, or_assoc] using ht
  have hok : (200 ≤ t.http && t.http ≤ 299) = false := by simp; omega
  have hne : ∀ c : Int, 400 ≤ c → c ≤ 499 → c ≠ 409 → (t.http == c) = false := by
    intro c h₁ h₂ h₃
    simp
    omega
  simp [request_attempt, Nat.not_le_of_lt h, hok, ht, hne, backed_off, attempted]

theorem request_attempt_429 (h : n.iteration < 5) (ht : t.http = 429) :
    request_attempt cJSON_Parse n t = (attempted n t,
      match retry_after cJSON_Parse t.memory with
      | some valuedouble => .requeue (retry_at t.now valuedouble)
      | none => .unsent) := by
  cases hr : retry_after cJSON_Parse t.memory <;>
    simp [request_attempt, Nat.not_le_of_lt h, ht, hr, attempted]

theorem request_attempt_sent (h : n.iteration < 5) (ht : is_transient t.http = false)
    (h429 : t.http ≠ 429) :
    request_attempt cJSON_Parse n t = (attempted n t, .sent (some t.memory)) := by
  have h429' : (t.http == 429) = false := by simpa using h429
  simp only [request_attempt, if_neg (Nat.not_le_of_lt h), h429', ht, Bool.false_eq_true, if_false,
    ite_self, attempted]

/-- **What an attempt changes** of a node: its result, its status and its
    iteration. -/
theorem request_attempt_node (n : RequestNode) (t : Transfer) :
    ∃ res http iteration,
      (request_attempt cJSON_Parse n t).1 = { n with res, http, iteration } := by
  by_cases h : 5 ≤ n.iteration
  · rw [request_attempt, if_pos h]
    exact ⟨n.res, n.http, n.iteration, rfl⟩
  · have h := Nat.lt_of_not_le h
    by_cases h429 : t.http = 429
    · rw [request_attempt_429 h h429]
      exact ⟨some t.res, some t.http, n.iteration, rfl⟩
    · cases ht : is_transient t.http with
      | true =>
        rw [request_attempt_transient h ht]
        exact ⟨some t.res, some t.http, n.iteration + 1, rfl⟩
      | false =>
        rw [request_attempt_sent h ht h429]
        exact ⟨some t.res, some t.http, n.iteration, rfl⟩

/-! ### One execution -/

/-- The execution begins with its attempt, and the node is cleaned up. -/
def attempt_part (n m : RequestNode) : List RequestEvent :=
  request_setup n ++ attempt_events n ++ request_cleanup m

/-- An execution is an attempt, its cleanup, and maybe the end. -/
theorem request_t_pool_parts (n : RequestNode) (t : Transfer) :
    (request_t_pool cJSON_Parse client n t).node = cleaned_up (request_attempt cJSON_Parse n t).1 ∧
      ∃ rest, (request_t_pool cJSON_Parse client n t).events =
          attempt_part n (request_attempt cJSON_Parse n t).1 ++ rest ∧
        (rest = [] ∨ ∃ response,
          rest = request_finalise cJSON_Parse client (request_attempt cJSON_Parse n t).1
            response) := by
  unfold request_t_pool attempt_part
  rcases request_attempt cJSON_Parse n t with ⟨m, response | w | _⟩
  · exact ⟨rfl, _, rfl, .inr ⟨response, rfl⟩⟩
  · exact ⟨rfl, [], (List.append_nil _).symm, .inl rfl⟩
  · exact ⟨rfl, [], (List.append_nil _).symm, .inl rfl⟩

theorem request_t_pool_transient (h : n.iteration < 5) (ht : is_transient t.http = true) :
    request_t_pool cJSON_Parse client n t =
      { events := attempt_part n (backed_off n t)
        node := cleaned_up (backed_off n t)
        queued := some (backoff_at t.now n.iteration) } := by
  simp only [request_t_pool, request_attempt_transient h ht, attempt_part]

theorem request_t_pool_429 {valuedouble : Rat} (h : n.iteration < 5) (ht : t.http = 429)
    (hr : retry_after cJSON_Parse t.memory = some valuedouble) :
    request_t_pool cJSON_Parse client n t =
      { events := attempt_part n (attempted n t)
        node := cleaned_up (attempted n t)
        queued := some (retry_at t.now valuedouble) } := by
  simp only [request_t_pool, request_attempt_429 h ht, hr, attempt_part]

theorem request_t_pool_dropped (h : n.iteration < 5) (ht : t.http = 429)
    (hr : retry_after cJSON_Parse t.memory = none) :
    request_t_pool cJSON_Parse client n t =
      { events := attempt_part n (attempted n t)
        node := cleaned_up (attempted n t)
        queued := none } := by
  simp only [request_t_pool, request_attempt_429 h ht, hr, attempt_part]

theorem request_t_pool_sent (h : n.iteration < 5) (ht : is_transient t.http = false)
    (h429 : t.http ≠ 429) :
    request_t_pool cJSON_Parse client n t =
      { events := attempt_part n (attempted n t) ++
          request_finalise cJSON_Parse client (attempted n t) (some t.memory)
        node := cleaned_up (attempted n t)
        queued := none } := by
  simp only [request_t_pool, request_attempt_sent h ht h429, attempt_part]

theorem request_t_pool_exhausted (h : 5 ≤ n.iteration) :
    request_t_pool cJSON_Parse client n t =
      { events := attempt_part n n ++ request_finalise cJSON_Parse client n none
        node := cleaned_up n
        queued := none } := by
  simp only [request_t_pool, request_attempt, if_pos h, attempt_part]

/-! ### Events that end nothing -/

/-- No value is missing, and nothing is called or freed. -/
def Silent (events : List RequestEvent) : Prop :=
  ∀ e ∈ events, e.unset = none ∧ e.called = none ∧ e.freed = none

theorem Silent.unset {events : List RequestEvent} (h : Silent events) :
    events.filterMap RequestEvent.unset = [] :=
  List.filterMap_eq_nil_iff.mpr fun e he => (h e he).1

theorem Silent.called {events : List RequestEvent} (h : Silent events) :
    events.filterMap RequestEvent.called = [] :=
  List.filterMap_eq_nil_iff.mpr fun e he => (h e he).2.1

theorem Silent.free_count {events : List RequestEvent} (h : Silent events) (block : RequestBlock) :
    free_count events block = 0 := by
  have hfree : events.filterMap RequestEvent.freed = [] :=
    List.filterMap_eq_nil_iff.mpr fun e he => (h e he).2.2
  rw [DiscoC.free_count, hfree, List.count_nil]

theorem free_count_append (events rest : List RequestEvent) (block : RequestBlock) :
    free_count (events ++ rest) block = free_count events block + free_count rest block := by
  rw [free_count, List.filterMap_append, List.count_append]
  rfl

/-- No callback is called before the end, with or without files. -/
theorem attempt_part_called (n m : RequestNode) :
    (attempt_part n m).filterMap RequestEvent.called = [] := by
  have hsetup : (request_setup n).filterMap RequestEvent.called = [] := by
    unfold request_setup d_curl_setup_discord_header_files read_file
    split
    · rfl
    · rw [List.filterMap_cons, List.filterMap_flatMap]
      exact List.flatMap_eq_nil_iff.mpr fun file _ => by cases n.files_freed <;> rfl
  have hattempt : (attempt_events n).filterMap RequestEvent.called = [] := by
    unfold attempt_events
    split
    · split <;> split <;> rfl
    · rfl
  have hcleanup : (request_cleanup m).filterMap RequestEvent.called = [] := by
    unfold request_cleanup
    split
    · rw [List.filterMap_append, List.filterMap_flatMap]
      refine List.append_eq_nil_iff.mpr ⟨List.flatMap_eq_nil_iff.mpr fun file _ => ?_, rfl⟩
      cases m.files_freed <;> rfl
    · rfl
  rw [attempt_part, List.filterMap_append, List.filterMap_append, hsetup, hattempt, hcleanup]
  rfl

/-- The callback of a request is called at its end. -/
theorem request_finalise_called (n : RequestNode) (response : Option (Option String)) :
    (request_finalise cJSON_Parse client n response).filterMap RequestEvent.called =
      n.rc.toList.map fun type =>
        (type, (response.getD none).bind fun memory => cJSON_Parse (some memory)) := by
  have hcleanup : (final_cleanup n).filterMap RequestEvent.called = [] := by
    unfold final_cleanup
    cases n.json <;> rfl
  have hunset : (if response.isNone = true then [RequestEvent.unassigned "response"] else
      []).filterMap RequestEvent.called = [] := by
    cases response <;> rfl
  unfold request_finalise
  rw [List.filterMap_append, hunset, List.nil_append]
  cases n.rc with
  | none => exact hcleanup
  | some type =>
    show _ :: List.filterMap _ (if _ then _ else _) = _
    -- nothing else is called, whether the response can be handled or not
    split
    · rw [List.filterMap_cons_none rfl, hcleanup]
      rfl
    · rfl

/-- A single callback is handled by itself. -/
theorem handle_callbacks_single (client : Client) (type : CallbackType) (res_json : Option CJson) :
    handle_callbacks client [(type, res_json)] =
      (handle_callback client type res_json).map fun h => ([h], h.client) := by
  unfold handle_callbacks
  cases handle_callback client type res_json <;> rfl

@[simp] theorem cleaned_up_iteration (n : RequestNode) :
    (cleaned_up n).iteration = n.iteration := by
  unfold cleaned_up
  split <;> rfl

@[simp] theorem cleaned_up_files (n : RequestNode) : (cleaned_up n).files = n.files := by
  unfold cleaned_up
  split <;> rfl

@[simp] theorem cleaned_up_rc (n : RequestNode) : (cleaned_up n).rc = n.rc := by
  unfold cleaned_up
  split <;> rfl

theorem is_transient_429 (h : t.http = 429) : is_transient t.http = false := by
  simp [is_transient, h]

/-- A transfer that takes no time. -/
def answered (http : Int) (memory : Option String) : Transfer where
  res := 0
  http := http
  memory := memory
  now := { tv_sec := 0, tv_usec := 0 }

/-- A parser that finds no document. -/
def no_document : Option String → Option CJson := fun _ => none

/-- A message with an id. -/
def id_message : CJson := .object [("id", .string "1")]

end life

end DiscoC
