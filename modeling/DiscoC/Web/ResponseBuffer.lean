import DiscoC.Framework.Slots
import DiscoC.Framework.Store
import DiscoC.Web.RequestRetries

/-! # The response of a request, byte by byte

  Model of `write_data`, of the calls CURL makes of it during a transfer, and
  of what `request_t_pool` does with the buffer they fill. A response comes
  in chunks. Each of them has the buffer reallocated, which moves it.

  The rest of an execution depends on the bytes before the first null byte
  alone, not on the chunks (`received`). The buffer is freed when the request
  counts as sent. An attempt that is followed by another one, or dropped,
  leaves it behind (`responses_accounted`).
-/

namespace DiscoC

/-! ### The buffer -/

/-- `struct MemoryChunk`. -/
structure MemoryChunk where
  /-- null, or a block -/
  memory : Option Nat
  size : Nat

/-- `realloc`, to `n` bytes. The new block is the next one. -/
def realloc_block (heap : Store (Slots UInt8)) (p : Option Nat) (n : Nat) :
    Option (Store (Slots UInt8)) :=
  match p with
  | none => some (heap.alloc (Slots.malloc n))
  | some p => do
    let slots ← heap.load p
    let heap ← heap.free p
    some (heap.alloc (slots.realloc n))

/-- `write_data`. -/
def write_data (heap : Store (Slots UInt8)) (mem : MemoryChunk) (data : List UInt8) :
    Option (Store (Slots UInt8) × MemoryChunk) := do
  let realsize := data.length
  let p := heap.next
  let heap ← realloc_block heap mem.memory (mem.size + realsize + 1)
  let memory ← heap.load p
  let memory ← memory.copy mem.size data
  let memory ← memory.store (mem.size + realsize) 0
  let heap ← heap.store p memory
  some (heap, { memory := some p, size := mem.size + realsize })

/-- `curl_easy_perform` hands over the body of a response in chunks. -/
def write_body (heap : Store (Slots UInt8)) (body : List (List UInt8)) :
    Option (Store (Slots UInt8) × MemoryChunk) :=
  body.foldlM (fun (heap, chunk) data => write_data heap chunk data)
    (heap, { memory := none, size := 0 })

/-- The string that bytes write. -/
def text_of (bytes : List UInt8) : String := .ofList (bytes.map fun b => Char.ofNat b.toNat)

/-- A null byte. -/
def is_null (b : UInt8) : Bool := b == 0

/-- The string at `response`. -/
def response_text (heap : Store (Slots UInt8)) (response : Option Nat) : Option (Option String) :=
  match response with
  | none => some none
  | some p => do
    let memory ← heap.load p
    let bytes ← memory.read_until is_null
    some (some (text_of bytes))

/-! ### Executions -/

/-- A transfer, with the chunks of the body that is received. -/
structure BodyTransfer where
  res : Int
  http : Int
  body : List (List UInt8)
  now : Timeval

/-- What the rest of an execution sees of a transfer. -/
def BodyTransfer.with_memory (b : BodyTransfer) (memory : Option String) : Transfer where
  res := b.res
  http := b.http
  memory := memory
  now := b.now

/-- The response: null without a chunk, otherwise what comes before the first
    null byte. -/
def BodyTransfer.received (b : BodyTransfer) : Transfer :=
  b.with_memory (if b.body = [] then none
    else some (text_of (b.body.flatten.takeWhile fun b => !is_null b)))

section execution

variable (cJSON_Parse : Option String → Option CJson) (client : Client)

/-- `request_t_pool`, with the buffer. The buffer is freed with `response`.
    Without a transfer, `response` is unassigned when it is parsed and freed,
    which is undefined. -/
def request_t_pool_on (heap : Store (Slots UInt8)) (n : RequestNode) (b : BodyTransfer) :
    Option (Execution × Store (Slots UInt8)) := do
  if 5 ≤ n.iteration then none
  else
    let (heap, chunk) ← write_body heap b.body
    let memory ← response_text heap chunk.memory
    let t := b.with_memory memory
    match (request_attempt cJSON_Parse n t).2, chunk.memory with
    | .sent _, some response => do
      let heap ← heap.free response
      some (request_t_pool cJSON_Parse client n t, heap)
    | _, _ => some (request_t_pool cJSON_Parse client n t, heap)

/-- `request_life`, with the buffers. A life that goes on without a transfer
    is undefined. -/
def request_life_on : Store (Slots UInt8) → RequestNode → List BodyTransfer →
    Option (List RequestEvent × Store (Slots UInt8))
  | _, _, [] => none
  | heap, n, b :: bs => do
    let (x, heap) ← request_t_pool_on cJSON_Parse client heap n b
    match x.queued with
    | some _ =>
      (request_life_on heap x.node bs).map fun (events, heap) => (x.events ++ events, heap)
    | none => if bs.isEmpty then some (x.events, heap) else none

end execution

/-! ### Writing -/

/-- The buffer after some bytes: they are in it, with a null byte behind them,
    and no other block has changed. -/
structure Written (heap₀ heap : Store (Slots UInt8)) (p : Nat) (bytes : List UInt8) : Prop where
  fresh : heap₀.next ≤ p
  block : heap.load p = some (Slots.filled (bytes ++ [0]) [])
  live : heap.live = heap₀.live ++ [p]
  others : ∀ q ∈ heap₀.live, heap.load q = heap₀.load q

theorem Written.notMem {heap₀ heap : Store (Slots UInt8)} {p : Nat} {bytes : List UInt8}
    (h : Written heap₀ heap p bytes) : p ∉ heap₀.live := by
  intro hp
  obtain ⟨slots, hload⟩ := Store.mem_live.mp hp
  exact absurd (Store.load_lt hload) (Nat.not_lt.mpr h.fresh)

/-- The data goes behind the bytes, and a null byte behind the data. -/
theorem fill_block {bytes data : List UInt8} {rest : Slots UInt8}
    (hrest : rest.length = data.length + 1) :
    ∃ memory, (Slots.filled bytes rest).copy bytes.length data = some memory ∧
      memory.store (bytes.length + data.length) 0 =
        some (Slots.filled (bytes ++ data ++ [0]) []) := by
  have hlast : (rest.drop data.length).length = 1 := by
    rw [List.length_drop]
    omega
  obtain ⟨slot, hslot⟩ := List.length_eq_one_iff.mp hlast
  have hcursor : bytes.length + data.length = (bytes ++ data).length := by rw [List.length_append]
  refine ⟨Slots.filled (bytes ++ data) [slot], ?_, ?_⟩
  · rw [Slots.copy_filled _ _ (by omega), hslot]
  · rw [hcursor, Slots.store_filled]

/-- What is written to a new block. -/
theorem write_block {heap : Store (Slots UInt8)} {bytes data : List UInt8} {rest : Slots UInt8}
    (hrest : rest.length = data.length + 1) {mem : MemoryChunk} (hsize : mem.size = bytes.length)
    {heap' : Store (Slots UInt8)} (hnext : heap'.next = heap.next)
    (hrealloc : realloc_block heap mem.memory (mem.size + data.length + 1) =
      some (heap'.alloc (Slots.filled bytes rest))) :
    write_data heap mem data =
      some ((heap'.alloc (Slots.filled bytes rest)).put heap.next
          (Slots.filled (bytes ++ data ++ [0]) []),
        { memory := some heap.next, size := (bytes ++ data).length }) := by
  obtain ⟨memory, hcopy, hstore⟩ := @fill_block bytes data rest hrest
  have hload : (heap'.alloc (Slots.filled bytes rest)).load heap.next =
      some (Slots.filled bytes rest) := by
    rw [← hnext]
    exact Store.load_alloc_next heap' _
  rw [hsize] at hrealloc
  unfold write_data
  simp only [hsize, hrealloc, hload, hcopy, hstore, Store.store_of_live hload,
    Option.bind_eq_bind, Option.bind_some, List.length_append]

/-- The first chunk is written to a block of its own. -/
theorem write_first (heap : Store (Slots UInt8)) (data : List UInt8) :
    ∃ heap' p, write_data heap { memory := none, size := 0 } data =
        some (heap', { memory := some p, size := data.length }) ∧ Written heap heap' p data := by
  have hwrite := @write_block heap [] data (Slots.malloc (data.length + 1))
    (Slots.length_malloc _) { memory := none, size := 0 } rfl heap rfl (by
      rw [Nat.zero_add]
      rfl)
  rw [List.nil_append] at hwrite
  have hload := Store.load_alloc_next heap (Slots.filled [] (Slots.malloc (data.length + 1)))
  refine ⟨_, _, hwrite, Nat.le_refl _, ?_, ?_, fun q hq => ?_⟩
  · rw [Store.load_put hload, if_pos rfl]
  · rw [Store.live_put hload, Store.live_alloc]
  · have hne : q ≠ heap.next := fun h => Store.next_notMem_live heap (h ▸ hq)
    rw [Store.load_put hload, if_neg hne, Store.load_alloc, if_neg hne]

/-- Any other chunk goes behind those before it, in a new block. -/
theorem Written.write {heap₀ heap : Store (Slots UInt8)} {p : Nat} {bytes : List UInt8}
    (h : Written heap₀ heap p bytes) (data : List UInt8) :
    ∃ heap' p', write_data heap { memory := some p, size := bytes.length } data =
        some (heap', { memory := some p', size := (bytes ++ data).length }) ∧
      Written heap₀ heap' p' (bytes ++ data) := by
  have hfilled : (Slots.filled (bytes ++ [0]) [] : Slots UInt8) = Slots.filled bytes [some 0] := by
    simp [Slots.filled]
  have hblock := h.block
  rw [hfilled] at hblock
  have hwrite := @write_block heap bytes data (Slots.realloc [some 0] (data.length + 1))
    (Slots.length_realloc _ _) { memory := some p, size := bytes.length } rfl (heap.erase p)
    (Store.next_erase heap p) (by
      unfold realloc_block
      simp only [hblock, Store.free_of_live hblock, Option.bind_eq_bind, Option.bind_some,
        Nat.add_assoc, Slots.realloc_filled])
  have hload : ((heap.erase p).alloc
      (Slots.filled bytes (Slots.realloc [some 0] (data.length + 1)))).load heap.next =
        some (Slots.filled bytes (Slots.realloc [some 0] (data.length + 1))) := by
    rw [← Store.next_erase heap p]
    exact Store.load_alloc_next _ _
  have hlt : p < heap.next := Store.load_lt hblock
  refine ⟨_, _, hwrite, h.fresh.trans hlt.le, ?_, ?_, fun q hq => ?_⟩
  · rw [Store.load_put hload, if_pos rfl]
  · -- the old block is gone
    have hothers : heap₀.live.filter (· != p) = heap₀.live := by
      refine List.filter_eq_self.mpr fun q hq => bne_iff_ne.mpr ?_
      rintro rfl
      exact h.notMem hq
    rw [Store.live_put hload, Store.live_alloc, Store.live_erase, Store.next_erase, h.live,
      List.filter_append, hothers]
    simp
  · have hlive : q ∈ heap.live := by
      rw [h.live]
      exact List.mem_append_left _ hq
    have hne : q ≠ heap.next := fun heq => Store.next_notMem_live heap (heq ▸ hlive)
    have hne' : q ≠ p := fun heq => h.notMem (heq ▸ hq)
    rw [Store.load_put hload, if_neg hne, Store.load_alloc, Store.next_erase, if_neg hne,
      Store.load_erase, if_neg hne']
    exact h.others q hq

/-- **Run lemma**: the chunks after some bytes. -/
theorem Written.write_all {heap₀ heap : Store (Slots UInt8)} {p : Nat} {bytes : List UInt8}
    (h : Written heap₀ heap p bytes) (body : List (List UInt8)) :
    ∃ heap' p', body.foldlM (fun (heap, chunk) data => write_data heap chunk data)
        (heap, { memory := some p, size := bytes.length }) =
          some (heap', { memory := some p', size := (bytes ++ body.flatten).length }) ∧
      Written heap₀ heap' p' (bytes ++ body.flatten) := by
  induction body generalizing heap p bytes with
  | nil =>
    rw [List.flatten_nil, List.append_nil]
    exact ⟨heap, p, rfl, h⟩
  | cons data body ih =>
    obtain ⟨heap₁, p₁, hwrite, h₁⟩ := h.write data
    obtain ⟨heap', p', hrest, h'⟩ := ih h₁
    rw [List.flatten_cons, ← List.append_assoc]
    refine ⟨heap', p', ?_, h'⟩
    simp only [List.foldlM_cons, hwrite, Option.bind_eq_bind, Option.bind_some]
    exact hrest

/-- **A body is put together** from its chunks, whatever they are. -/
theorem write_body_spec (heap : Store (Slots UInt8)) (body : List (List UInt8)) :
    (body = [] ∧ write_body heap body = some (heap, { memory := none, size := 0 })) ∨
      body ≠ [] ∧ ∃ heap' p, write_body heap body =
          some (heap', { memory := some p, size := body.flatten.length }) ∧
        Written heap heap' p body.flatten := by
  cases body with
  | nil => exact .inl ⟨rfl, rfl⟩
  | cons data body =>
    obtain ⟨heap₁, p₁, hwrite, h₁⟩ := write_first heap data
    obtain ⟨heap', p', hrest, h'⟩ := h₁.write_all body
    refine .inr ⟨List.cons_ne_nil _ _, heap', p', ?_, h'⟩
    simp only [write_body, List.foldlM_cons, hwrite, Option.bind_eq_bind, Option.bind_some]
    exact hrest

/-! ### What is left behind -/

/-- `k` blocks more than before, and those of before as they were. -/
structure LeavesBehind (heap heap' : Store (Slots UInt8)) (k : Nat) : Prop where
  live : ∃ kept : List Nat, heap'.live = heap.live ++ kept ∧ kept.length = k
  others : ∀ q ∈ heap.live, heap'.load q = heap.load q

theorem LeavesBehind.refl (heap : Store (Slots UInt8)) : LeavesBehind heap heap 0 :=
  ⟨⟨[], (List.append_nil _).symm, rfl⟩, fun _ _ => rfl⟩

theorem LeavesBehind.trans {heap heap' heap'' : Store (Slots UInt8)} {j k : Nat}
    (h : LeavesBehind heap heap' j) (h' : LeavesBehind heap' heap'' k) :
    LeavesBehind heap heap'' (j + k) := by
  obtain ⟨kept, hlive, hlen⟩ := h.live
  obtain ⟨kept', hlive', hlen'⟩ := h'.live
  refine ⟨⟨kept ++ kept', ?_, ?_⟩, fun q hq => ?_⟩
  · rw [hlive', hlive, List.append_assoc]
  · rw [List.length_append, hlen, hlen']
  · have hq' : q ∈ heap'.live := by
      rw [hlive]
      exact List.mem_append_left _ hq
    rw [h'.others q hq', h.others q hq]

theorem Written.leavesBehind {heap heap' : Store (Slots UInt8)} {p : Nat} {bytes : List UInt8}
    (h : Written heap heap' p bytes) : LeavesBehind heap heap' 1 :=
  ⟨⟨[p], h.live, rfl⟩, h.others⟩

/-- The buffer can be freed, and then nothing is left of it. -/
theorem Written.free {heap heap' : Store (Slots UInt8)} {p : Nat} {bytes : List UInt8}
    (h : Written heap heap' p bytes) :
    ∃ heap'', heap'.free p = some heap'' ∧ LeavesBehind heap heap'' 0 := by
  refine ⟨_, Store.free_of_live h.block, ⟨[], ?_, rfl⟩, fun q hq => ?_⟩
  · have hothers : heap.live.filter (· != p) = heap.live := by
      refine List.filter_eq_self.mpr fun q hq => bne_iff_ne.mpr ?_
      rintro rfl
      exact h.notMem hq
    rw [Store.live_erase, h.live, List.filter_append, hothers]
    simp
  · have hne : q ≠ p := by
      rintro rfl
      exact h.notMem hq
    rw [Store.load_erase, if_neg hne]
    exact h.others q hq

/-- What is before the first null byte is read. -/
theorem Written.text {heap heap' : Store (Slots UInt8)} {p : Nat} {bytes : List UInt8}
    (h : Written heap heap' p bytes) : response_text heap' (some p) =
      some (some (text_of (bytes.takeWhile fun b => !is_null b))) := by
  have hnull : is_null 0 = true := rfl
  unfold response_text
  simp only [h.block, Slots.read_until_filled bytes [] hnull, Option.bind_eq_bind, Option.bind_some]

/-! ### The life of a request -/

section life

variable {cJSON_Parse : Option String → Option CJson} {client : Client} {n : RequestNode}

/-- The attempt counts as sent. -/
def Attempt.is_sent : Attempt → Bool
  | .sent _ => true
  | _ => false

/-- The attempt does not end the request, and a body has been received. -/
def BodyTransfer.kept (b : BodyTransfer) : Bool :=
  (b.http == 429 || is_transient b.http) && !b.body.isEmpty

/-- A 429 and a transient failure do not count as sent; all else does. -/
theorem is_sent_iff (h : n.iteration < 5) (t : Transfer) :
    (request_attempt cJSON_Parse n t).2.is_sent = !(t.http == 429 || is_transient t.http) := by
  cases ht : is_transient t.http with
  | true =>
    rw [request_attempt_transient h ht, Bool.or_true]
    rfl
  | false =>
    by_cases h429 : t.http = 429
    · rw [request_attempt_429 h h429, beq_iff_eq.mpr h429]
      cases retry_after cJSON_Parse t.memory <;> rfl
    · rw [request_attempt_sent h ht h429, beq_eq_false_iff_ne.mpr h429]
      rfl

/-- An execution whose body has gone to a buffer frees the buffer if the
    request counts as sent. -/
theorem request_t_pool_on_eq (h : n.iteration < 5) {heap heap' : Store (Slots UInt8)}
    {b : BodyTransfer} {p size : Nat} {memory : Option String}
    (hwrite : write_body heap b.body = some (heap', { memory := some p, size }))
    (htext : response_text heap' (some p) = some memory) :
    request_t_pool_on cJSON_Parse client heap n b =
      if (request_attempt cJSON_Parse n (b.with_memory memory)).2.is_sent then
        (heap'.free p).map fun heap =>
          (request_t_pool cJSON_Parse client n (b.with_memory memory), heap)
      else some (request_t_pool cJSON_Parse client n (b.with_memory memory), heap') := by
  simp only [request_t_pool_on, if_neg (Nat.not_le_of_lt h), hwrite, htext, Option.bind_eq_bind,
    Option.bind_some]
  cases (request_attempt cJSON_Parse n (b.with_memory memory)).2 with
  | sent response => exact Option.map_eq_bind.symm
  | requeue wait_until => rfl
  | unsent => rfl

/-- **Step lemma**: an execution does with the chunks what it does with the
    bytes, and leaves the buffer behind unless the request counts as sent. -/
theorem request_t_pool_on_spec (h : n.iteration < 5) (heap : Store (Slots UInt8))
    (b : BodyTransfer) :
    ∃ heap', request_t_pool_on cJSON_Parse client heap n b =
        some (request_t_pool cJSON_Parse client n b.received, heap') ∧
      LeavesBehind heap heap' (if b.kept then 1 else 0) := by
  rcases write_body_spec heap b.body with ⟨hbody, hwrite⟩ | ⟨hbody, heap₁, p, hwrite, hwritten⟩
  · -- no chunk: no buffer
    have hkept : b.kept = false := by
      unfold BodyTransfer.kept
      rw [hbody, Bool.and_eq_false_iff]
      exact .inr rfl
    have hreceived : b.received = b.with_memory none := by
      unfold BodyTransfer.received
      rw [if_pos hbody]
    refine ⟨heap, ?_, ?_⟩
    · simp only [request_t_pool_on, if_neg (Nat.not_le_of_lt h), hwrite, response_text,
        Option.bind_eq_bind, Option.bind_some, hreceived]
      split
      · next hnone => cases hnone
      · rfl
    · rw [hkept]
      exact .refl heap
  · have hreceived : b.received =
        b.with_memory (some (text_of (b.body.flatten.takeWhile fun b => !is_null b))) := by
      unfold BodyTransfer.received
      rw [if_neg hbody]
    have hkept : b.kept = (b.http == 429 || is_transient b.http) := by
      unfold BodyTransfer.kept
      rw [List.isEmpty_eq_false_iff.mpr hbody]
      exact Bool.and_true _
    have hsent : (request_attempt cJSON_Parse n b.received).2.is_sent = !b.kept := by
      rw [hkept]
      exact is_sent_iff h b.received
    rw [request_t_pool_on_eq h hwrite hwritten.text, ← hreceived, hsent]
    cases b.kept with
    | true => exact ⟨heap₁, rfl, hwritten.leavesBehind⟩
    | false =>
      obtain ⟨heap₂, hfree, hleaves⟩ := hwritten.free
      rw [hfree]
      exact ⟨heap₂, rfl, hleaves⟩

/-- An execution that queues the node has counted a failure, and one that
    does not has met none. -/
theorem execution_counts (h : n.iteration < 5) (t : Transfer) (ts : List Transfer) :
    (request_t_pool cJSON_Parse client n t).node.iteration + transient_count ts =
      n.iteration + transient_count (t :: ts) := by
  have hcount : transient_count (t :: ts) =
      (if is_transient t.http = true then 1 else 0) + transient_count ts := by
    unfold transient_count
    rw [← List.countP_eq_length_filter, ← List.countP_eq_length_filter, List.countP_cons,
      Nat.add_comm]
  rw [hcount]
  cases request_t_pool_spec cJSON_Parse client n t with
  | exhausted hfive => exact absurd h (Nat.not_lt.mpr hfive)
  | failed _ _ ht _ hiter =>
    rw [hiter, if_pos ht]
    omega
  | limited _ _ _ h429 _ _ hiter =>
    rw [hiter, is_transient_429 h429]
    simp
  | ended _ _ ht _ _ hiter =>
    rw [hiter, ht]
    simp

/-- A life that meets five failures has an execution without a transfer, or
    it is none. -/
theorem request_life_on_exhausted {heap : Store (Slots UInt8)} {bs : List BodyTransfer}
    (h : 5 ≤ n.iteration + transient_count (bs.map BodyTransfer.received)) :
    request_life_on cJSON_Parse client heap n bs = none := by
  induction bs generalizing n heap with
  | nil => rfl
  | cons b bs ih =>
    rw [request_life_on]
    by_cases hfive : 5 ≤ n.iteration
    · rw [request_t_pool_on, if_pos hfive]
      rfl
    · have hfew := Nat.lt_of_not_le hfive
      obtain ⟨heap₁, hx, -⟩ := @request_t_pool_on_spec cJSON_Parse client n hfew heap b
      have hcount := @execution_counts cJSON_Parse client n hfew b.received
        (bs.map BodyTransfer.received)
      rw [hx, Option.bind_eq_bind, Option.bind_some]
      rw [List.map_cons, ← hcount] at h
      dsimp only
      split
      · rw [ih h]
        rfl
      next hqueued =>
        -- what is not queued again has not failed: the failures are still to come
        cases bs with
        | cons => rfl
        | nil =>
          have hlt : (request_t_pool cJSON_Parse client n b.received).node.iteration < 5 := by
            cases request_t_pool_spec cJSON_Parse client n b.received with
            | exhausted h => exact absurd h hfive
            | failed _ _ _ hsome => exact absurd (hqueued.symm.trans hsome) (by simp)
            | limited _ _ _ _ _ hsome => exact absurd (hqueued.symm.trans hsome) (by simp)
            | ended _ _ _ _ _ hiter => exact hiter ▸ hfew
          exact absurd h (Nat.not_le.mpr hlt)

/-- With fewer than five failures, a life does with the chunks what it does
    with the bytes. -/
theorem request_life_on_spec (heap : Store (Slots UInt8)) {bs : List BodyTransfer}
    (h : n.iteration + transient_count (bs.map BodyTransfer.received) < 5) :
    (request_life_on cJSON_Parse client heap n bs).map Prod.fst =
        request_life cJSON_Parse client n (bs.map BodyTransfer.received) ∧
      ∀ events heap', request_life_on cJSON_Parse client heap n bs = some (events, heap') →
        LeavesBehind heap heap' (bs.countP BodyTransfer.kept) := by
  have hfive : ¬ 5 ≤ n.iteration := by omega
  induction bs generalizing n heap with
  | nil =>
    rw [List.map_nil, request_life_on, request_life, if_neg hfive]
    refine ⟨rfl, fun events heap' hlife => ?_⟩
    cases hlife
  | cons b bs ih =>
    have hfew := Nat.lt_of_not_le hfive
    obtain ⟨heap₁, hx, hleaves⟩ := @request_t_pool_on_spec cJSON_Parse client n hfew heap b
    have hcount := @execution_counts cJSON_Parse client n hfew b.received
      (bs.map BodyTransfer.received)
    rw [List.map_cons, request_life_on, request_life, if_neg hfive, hx, Option.bind_eq_bind,
      Option.bind_some]
    rw [List.map_cons, ← hcount] at h
    dsimp only
    cases hqueued : (request_t_pool cJSON_Parse client n b.received).queued with
    | some w =>
      -- the rest of the life starts with what this attempt leaves
      obtain ⟨hrest, hrest'⟩ := ih heap₁ h (by omega)
      refine ⟨?_, fun events heap' hlife => ?_⟩
      · rw [← hrest, Option.map_map, Option.map_map]
        rfl
      · obtain ⟨⟨events', heap₂⟩, hlife', heq⟩ := Option.map_eq_some_iff.mp hlife
        cases heq
        have hall := hleaves.trans (hrest' events' heap₂ hlife')
        rw [List.countP_cons, Nat.add_comm]
        exact hall
    | none =>
      rw [List.isEmpty_map]
      cases bs with
      | nil =>
        refine ⟨rfl, fun events heap' hlife => ?_⟩
        cases hlife
        rw [List.countP_cons, List.countP_nil, Nat.zero_add]
        exact hleaves
      | cons =>
        refine ⟨rfl, fun events heap' hlife => ?_⟩
        cases hlife

/-- **Responses are put together and accounted for**: whatever chunks the
    bodies come in, over its life a request does what it does with the bytes
    before the first null byte of each. In the end one buffer is left for each
    attempt with a body that did not count as sent, and all other blocks are
    as before. Only a life with five failures is undefined. -/
theorem responses_accounted (cJSON_Parse : Option String → Option CJson) (client : Client)
    (n : RequestNode) (heap : Store (Slots UInt8)) (bs : List BodyTransfer) :
    (request_life_on cJSON_Parse client heap n bs).map Prod.fst =
        (if n.iteration + transient_count (bs.map BodyTransfer.received) < 5 then
          request_life cJSON_Parse client n (bs.map BodyTransfer.received)
        else none) ∧
      ∀ events heap', request_life_on cJSON_Parse client heap n bs = some (events, heap') →
        LeavesBehind heap heap' (bs.countP BodyTransfer.kept) := by
  by_cases h : n.iteration + transient_count (bs.map BodyTransfer.received) < 5
  · rw [if_pos h]
    exact request_life_on_spec heap h
  · rw [if_neg h, request_life_on_exhausted (Nat.le_of_not_lt h)]
    refine ⟨rfl, fun events heap' hlife => ?_⟩
    cases hlife

/-- A request that is answered at the second attempt. Both answers have a
    body. -/
theorem responses_accounted_second : ∃ events heap',
    request_life_on no_document (.init 10 10 10) .empty
      (request "u" none .REQUEST_GET "t" none [])
      [⟨0, 503, [[111], [107]], ⟨0, 0⟩⟩, ⟨0, 200, [[111, 0], [107]], ⟨0, 0⟩⟩] =
        some (events, heap') ∧
      LeavesBehind .empty heap' 1 := by
  obtain ⟨events, heap', hlife⟩ : ∃ events heap',
      request_life_on no_document (.init 10 10 10) .empty
        (request "u" none .REQUEST_GET "t" none [])
        [⟨0, 503, [[111], [107]], ⟨0, 0⟩⟩, ⟨0, 200, [[111, 0], [107]], ⟨0, 0⟩⟩] =
          some (events, heap') := ⟨_, _, rfl⟩
  exact ⟨events, heap', hlife,
    (responses_accounted no_document (.init 10 10 10) _ .empty _).2 events heap' hlife⟩

end life

end DiscoC
