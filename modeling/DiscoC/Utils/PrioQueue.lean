import Mathlib.Data.Prod.Lex
import Mathlib.Data.Int.Order.Basic
import Mathlib.Data.List.Perm.Subperm
import DiscoC.Framework.Store

/-! # The priority queue

  Model of `utils/prio_queue.c`: a singly linked list of `prio_node`s on the
  heap, with a head pointer and a counter. The list functions further down
  say what each pointer operation does to the list it represents:

  * `prio_push` splices a node in with a lagging pointer. Its walk stops on
    the last node before it compares it, so the new node always lands before
    the last one (`prio_insert`).
  * `prio_pop` takes the head.
  * `prio_destroy_queue` frees the nodes up to the last one (`prio_freed`).
-/

namespace DiscoC

/-! ### Time -/

/-- `struct timeval`. -/
@[ext] structure Timeval where
  tv_sec : Int
  tv_usec : Int
  deriving DecidableEq, Repr

/-- Times are compared by their seconds first. -/
instance : LinearOrder Timeval :=
  LinearOrder.lift' (fun t => toLex (t.tv_sec, t.tv_usec)) fun a b h => by
    simp only [EmbeddingLike.apply_eq_iff_eq, Prod.mk.injEq] at h
    exact Timeval.ext h.1 h.2

theorem Timeval.le_iff {a b : Timeval} :
    a ≤ b ↔ a.tv_sec < b.tv_sec ∨ a.tv_sec = b.tv_sec ∧ a.tv_usec ≤ b.tv_usec :=
  Prod.Lex.le_iff

theorem Timeval.lt_iff {a b : Timeval} :
    a < b ↔ a.tv_sec < b.tv_sec ∨ a.tv_sec = b.tv_sec ∧ a.tv_usec < b.tv_usec :=
  Prod.Lex.lt_iff

/-! ### Pointers -/

/-- `struct prio_node`. The data pointer is the address of a work item. -/
structure PrioNode where
  data : Nat
  wait_until : Timeval
  next : Option Nat
  deriving DecidableEq, Repr

/-- `struct prio_queue`. -/
structure PrioQueue where
  head : Option Nat
  size : Nat
  deriving DecidableEq, Repr

/-- `prio_init`. -/
def prio_init : PrioQueue where
  head := none
  size := 0

/-- The comparison in the walk of `prio_push`: `cur` is due no later than
    `wait_until`. -/
def due_by (cur wait_until : Timeval) : Bool :=
  cur.tv_sec < wait_until.tv_sec ||
    (cur.tv_sec == wait_until.tv_sec && cur.tv_usec ≤ wait_until.tv_usec)

theorem due_by_iff {a b : Timeval} : due_by a b = true ↔ a ≤ b := by
  simp [due_by, Timeval.le_iff]

/-- The walk of `prio_push`, with the lagging `prev`. `none` stands for a
    read of a freed node, and for a walk over more nodes than were ever
    allocated, which is one in circles. -/
def prio_walk (h : Store PrioNode) (wait_until : Timeval) :
    Nat → Option Nat → Nat → Option (Option Nat × Nat)
  | 0, _, _ => none
  | fuel + 1, prev, cur => do
    let c ← h.load cur
    match c.next with
    | some next =>
      if due_by c.wait_until wait_until then prio_walk h wait_until fuel (some cur) next
      else some (prev, cur)
    | none => some (prev, cur)

/-- `prio_push`. -/
def prio_push (h : Store PrioNode) (queue : PrioQueue) (data : Nat) (wait_until : Timeval) :
    Option (Store PrioNode × PrioQueue) :=
  let node := h.next
  let h := h.alloc { data, wait_until, next := none }
  match queue.head with
  | none => some (h, { head := some node, size := 1 })
  | some head => do
    let (prev, cur) ← prio_walk h wait_until h.next none head
    match prev with
    | some prev => do
      let p ← h.load prev
      let h ← h.store prev { p with next := some node }
      let h ← h.store node { data, wait_until, next := some cur }
      some (h, { head := some head, size := queue.size + 1 })
    | none => do
      let h ← h.store node { data, wait_until, next := some cur }
      some (h, { head := some node, size := queue.size + 1 })

/-- `prio_pop`: the node at the head, or the null pointer. -/
def prio_pop (h : Store PrioNode) (queue : PrioQueue) : Option (Option Nat × PrioQueue) :=
  match queue.head with
  | none => some (none, queue)
  | some node => do
    let n ← h.load node
    some (some node, { head := n.next, size := queue.size - 1 })

/-- The loop of `prio_destroy_queue`, with `cur` not null. -/
def prio_destroy_loop : Nat → Store PrioNode → Nat → Option (Store PrioNode)
  | 0, _, _ => none
  | fuel + 1, h, cur => do
    let c ← h.load cur
    let h ← h.free cur
    match c.next with
    | none => some h
    | some cur => do
      let c ← h.load cur
      match c.next with
      | none => some h
      | some _ => prio_destroy_loop fuel h cur

/-- `prio_destroy_queue`. The queue keeps its head pointer. -/
def prio_destroy_queue (h : Store PrioNode) (queue : PrioQueue) : Option (Store PrioNode) :=
  match queue.head with
  | none => some h
  | some head => prio_destroy_loop h.next h head

/-! ### Lists -/

/-- What a node carries. -/
abbrev PrioEntry := Nat × Timeval

/-- The payload of a node. -/
def PrioNode.entry (v : PrioNode) : PrioEntry := (v.data, v.wait_until)

/-- `h` leads through the nodes of `l` to `t`. -/
abbrev PrioSeg (m : Store PrioNode) (h : Option Nat) (l : List (Nat × PrioEntry))
    (t : Option Nat) : Prop :=
  Store.Seg PrioNode.entry PrioNode.next m h l t

/-- The queue holds the nodes of `l`, in order, and counts them. -/
structure QueueHolds (h : Store PrioNode) (queue : PrioQueue) (l : List (Nat × PrioEntry)) :
    Prop where
  chain : PrioSeg h queue.head l none
  size : queue.size = l.length

/-- Where `prio_push` puts a new node. -/
def prio_insert (e : Nat × PrioEntry) : List (Nat × PrioEntry) → List (Nat × PrioEntry)
  | [] => [e]
  | [x] => [e, x]
  | x :: y :: l =>
    if due_by x.2.2 e.2.2 then x :: prio_insert e (y :: l) else e :: x :: y :: l

/-- The nodes `prio_destroy_queue` frees: all but the last one, unless there
    is only one. -/
def prio_freed : List (Nat × PrioEntry) → List (Nat × PrioEntry)
  | [] => []
  | [x] => [x]
  | x :: y :: l => x :: (y :: l).dropLast

/-- No node is lost or made up. -/
theorem prio_insert_perm (e : Nat × PrioEntry) (l : List (Nat × PrioEntry)) :
    (prio_insert e l).Perm (e :: l) := by
  induction l using prio_insert.induct (e := e) with
  | case1 => exact List.Perm.refl _
  | case2 x => exact List.Perm.refl _
  | case3 x y l hdue ih =>
    rw [prio_insert, if_pos hdue]
    exact (ih.cons x).trans (List.Perm.swap e x (y :: l))
  | case4 x y l hdue =>
    rw [prio_insert, if_neg hdue]

/-! ### The pointer operations on the lists -/

section walk

variable {h : Store PrioNode} {w : Timeval}

/-- Where the walk of `prio_push` stops: it cuts the list in two where the
    new node belongs, with `prev` on the last node it has passed. -/
theorem prio_walk_spec {l : List (Nat × PrioEntry)} {cur : Nat} {a : PrioEntry} {fuel : Nat}
    (prev : Option Nat) (hs : PrioSeg h (some cur) ((cur, a) :: l) none)
    (hfuel : l.length < fuel) (e : Nat × PrioEntry) (he : e.2.2 = w) :
    ∃ l₁ l₂ stop, (cur, a) :: l = l₁ ++ l₂ ∧
      prio_walk h w fuel prev cur = some ((l₁.getLast?.map Prod.fst).or prev, stop) ∧
      prio_insert e ((cur, a) :: l) = l₁ ++ e :: l₂ ∧
      PrioSeg h (some cur) l₁ (some stop) ∧ PrioSeg h (some stop) l₂ none := by
  induction l generalizing cur a fuel prev with
  | nil =>
    obtain ⟨fuel, rfl⟩ := Nat.exists_eq_succ_of_ne_zero (Nat.ne_of_gt hfuel)
    obtain ⟨v, _, hload, _, hrest⟩ := hs.inv_cons
    have hnext : v.next = none := hrest.eq_of_nil
    -- the walk stops on the last node without comparing it
    exact ⟨[], [(cur, a)], cur, rfl, by simp [prio_walk, hload, hnext], rfl, .nil _, hs⟩
  | cons b l ih =>
    obtain ⟨p, c⟩ := b
    obtain ⟨fuel, rfl⟩ := Nat.exists_eq_succ_of_ne_zero (Nat.ne_of_gt (Nat.zero_lt_of_lt hfuel))
    obtain ⟨v, _, hload, rfl, hrest⟩ := hs.inv_cons
    obtain ⟨_, hnext, _⟩ := hrest.inv_cons
    by_cases hdue : due_by v.wait_until w = true
    · rw [hnext] at hrest
      -- the node is due first: the walk goes on, and `prev` lags behind
      obtain ⟨l₁, l₂, stop, hl, hwalk, hins, h₁, h₂⟩ :=
        ih (some cur) hrest (by simpa using hfuel)
      refine ⟨(cur, v.entry) :: l₁, l₂, stop, by rw [hl]; rfl, ?_, ?_, ?_, h₂⟩
      · rw [prio_walk, hload]
        simp only [Option.bind_eq_bind, Option.bind_some, hnext, hdue, if_true, hwalk]
        rw [List.getLast?_cons]
        cases l₁.getLast? <;> rfl
      · rw [prio_insert, if_pos (by simpa [he, PrioNode.entry] using hdue), hins]
        rfl
      · exact .cons hload (hnext ▸ h₁)
    · refine ⟨[], _, cur, rfl, ?_, ?_, .nil _, hs⟩
      · rw [prio_walk, hload]
        simp [hnext, hdue]
      · rw [prio_insert, if_neg (by simpa [he, PrioNode.entry] using hdue)]
        rfl

end walk

/-- A node of a null-terminated list was allocated, so there are no more of
    them than blocks. -/
theorem PrioSeg.length_le {h : Store PrioNode} {p : Option Nat} {l : List (Nat × PrioEntry)}
    (hs : PrioSeg h p l none) : l.length ≤ h.next := by
  have hsub : l.map Prod.fst ⊆ List.range h.next := by
    intro q hq
    obtain ⟨⟨r, a⟩, hr, rfl⟩ := List.mem_map.mp hq
    obtain ⟨v, hload, _⟩ := hs.load_of_mem hr
    exact List.mem_range.mpr (Store.load_lt hload)
  have := (hs.nodup.subperm hsub).length_le
  simpa using this

section push

variable {h : Store PrioNode} {node stop : Nat} {n : PrioNode} {data : Nat} {w : Timeval}
  {l₁ l₂ : List (Nat × PrioEntry)}

/-- A new node in front of the node `stop`. -/
theorem prioSeg_push_front (hs : PrioSeg h (some stop) l₂ none) (hnode : h.load node = some n)
    (hfresh : node ∉ l₂.map Prod.fst) :
    PrioSeg (h.put node { data, wait_until := w, next := some stop }) (some node)
      ((node, (data, w)) :: l₂) none := by
  have hnew : (h.put node { data, wait_until := w, next := some stop }).load node =
      some { data, wait_until := w, next := some stop } := by
    rw [Store.load_put hnode, if_pos rfl]
  exact .cons hnew (hs.frame_put hnode hfresh _)

/-- A new node between the nodes `prev` and `stop`. -/
theorem prioSeg_push_between {head : Option Nat} {prev : Nat} {v : PrioNode}
    (hs₁ : PrioSeg h head (l₁ ++ [(prev, v.entry)]) (some stop))
    (hs₂ : PrioSeg h (some stop) l₂ none) (hprev : h.load prev = some v)
    (hnode : h.load node = some n) (hnd : ((l₁ ++ [(prev, v.entry)] ++ l₂).map Prod.fst).Nodup)
    (hfresh : node ∉ (l₁ ++ [(prev, v.entry)] ++ l₂).map Prod.fst) :
    PrioSeg ((h.put prev { v with next := some node }).put node
        { data, wait_until := w, next := some stop })
      head (l₁ ++ [(prev, v.entry)] ++ (node, (data, w)) :: l₂) none := by
  rw [List.map_append, List.nodup_append] at hnd
  obtain ⟨hnd₁, -, hdis⟩ := hnd
  rw [List.map_append, List.nodup_append] at hnd₁
  have hout₁ : prev ∉ l₁.map Prod.fst := fun hp => hnd₁.2.2 prev hp prev (by simp) rfl
  have hout₂ : prev ∉ l₂.map Prod.fst := fun hp => hdis prev (by simp) prev hp rfl
  rw [List.map_append, List.mem_append, not_or] at hfresh
  have hne : node ≠ prev := fun heq => hfresh.1 (by simp [heq])
  -- `prev` is linked to the new node first, and then the new node to `stop`
  have hnode' : (h.put prev { v with next := some node }).load node = some n := by
    rw [Store.load_put hprev, if_neg hne, hnode]
  have hfront : PrioSeg (h.put prev { v with next := some node }) head
      (l₁ ++ [(prev, v.entry)]) (some node) := hs₁.relink hout₁ hprev rfl
  have hback := hs₂.frame_put hprev hout₂ { v with next := some node }
  exact (hfront.frame_put hnode' hfresh.1 _).append (prioSeg_push_front hback hnode' hfresh.2)

end push

/-- **`prio_push`** puts the new node where `prio_insert` says, counts it,
    and leaves the other blocks alone. -/
theorem prio_push_spec {h : Store PrioNode} {queue : PrioQueue} {l : List (Nat × PrioEntry)}
    (hq : QueueHolds h queue l) (data : Nat) (w : Timeval) :
    ∃ h' queue', prio_push h queue data w = some (h', queue') ∧
      QueueHolds h' queue' (prio_insert (h.next, (data, w)) l) ∧ h'.next = h.next + 1 ∧
      ∀ p, (h'.load p).isSome ↔ p = h.next ∨ (h.load p).isSome := by
  set node := h.next with hnode
  set h₁ := h.alloc { data, wait_until := w, next := none } with hh₁
  have hlive₁ : ∀ p, (h₁.load p).isSome ↔ p = node ∨ (h.load p).isSome :=
    Store.isSome_load_alloc h _
  -- the new address is above those of all nodes of the queue
  have hfresh : node ∉ l.map Prod.fst := by
    intro hp
    obtain ⟨⟨q, a⟩, hmem, heq⟩ := List.mem_map.mp hp
    obtain ⟨v, hload, -⟩ := hq.chain.load_of_mem hmem
    have hlt : q < h.next := Store.load_lt hload
    have heq : q = h.next := heq
    omega
  have hchain₁ : PrioSeg h₁ queue.head l none := hq.chain.frame_alloc _
  have hnodeload : h₁.load node = some { data, wait_until := w, next := none } :=
    Store.load_alloc_next h _
  cases l with
  | nil =>
    have hhead : queue.head = none := hchain₁.eq_of_nil
    refine ⟨h₁, { head := some node, size := 1 }, ?_, ⟨?_, rfl⟩, by simp [hh₁, hnode], hlive₁⟩
    · simp [prio_push, hhead, ← hh₁, ← hnode]
    · exact .cons hnodeload (.nil none)
  | cons b l =>
    obtain ⟨head, a⟩ := b
    obtain ⟨-, hhead, -⟩ := hchain₁.inv_cons
    rw [hhead] at hchain₁
    have hfuel : l.length < h₁.next := hchain₁.length_le
    -- the walk cuts the queue where the new node goes
    obtain ⟨l₁, l₂, stop, hl, hwalk, hins, hs₁, hs₂⟩ :=
      prio_walk_spec none hchain₁ hfuel (node, (data, w)) rfl
    have hnd := hchain₁.nodup
    rw [hl] at hnd hfresh
    have hsize : queue.size + 1 = (prio_insert (node, (data, w)) ((head, a) :: l)).length := by
      rw [hq.size, (prio_insert_perm _ _).length_eq]
      rfl
    rcases List.eq_nil_or_concat l₁ with rfl | ⟨l₁, ⟨prev, c⟩, rfl⟩
    · -- the new node becomes the head
      have hstored : h₁.store node { data, wait_until := w, next := some stop } = some _ :=
        Store.store_of_live hnodeload _
      refine ⟨h₁.put node { data, wait_until := w, next := some stop },
        { head := some node, size := queue.size + 1 }, ?_, ⟨?_, hsize⟩, by simp [hh₁, hnode], ?_⟩
      · simp only [prio_push, hhead, ← hh₁, ← hnode, hwalk]
        simp [hstored]
      · rw [hins]
        exact prioSeg_push_front hs₂ hnodeload hfresh
      · exact fun p => (Store.isSome_load_put hnodeload _ p).trans (hlive₁ p)
    · -- the new node goes between `prev` and `stop`
      simp only [List.concat_eq_append] at hs₁ hwalk hnd hfresh hins
      obtain ⟨v, hprev, rfl⟩ := hs₁.load_of_mem (p := prev) (a := c) (by simp)
      have hne : node ≠ prev := fun heq => hfresh (by simp [heq])
      have hnodeload₂ : (h₁.put prev { v with next := some node }).load node =
          some { data, wait_until := w, next := none } := by
        rw [Store.load_put hprev, if_neg hne, hnodeload]
      refine ⟨(h₁.put prev { v with next := some node }).put node
          { data, wait_until := w, next := some stop },
        { head := some head, size := queue.size + 1 }, ?_, ⟨?_, hsize⟩, by simp [hh₁, hnode], ?_⟩
      · simp only [prio_push, hhead, ← hh₁, ← hnode, hwalk]
        simp [hprev, Store.store_of_live hprev, Store.store_of_live hnodeload₂]
      · rw [hins]
        exact prioSeg_push_between hs₁ hs₂ hprev hnodeload hnd hfresh
      · exact fun p => (Store.isSome_load_put hnodeload₂ _ p).trans
          ((Store.isSome_load_put hprev _ p).trans (hlive₁ p))

/-- **`prio_pop`** of an empty queue is the null pointer. -/
theorem prio_pop_nil {h : Store PrioNode} {queue : PrioQueue} (hq : QueueHolds h queue []) :
    prio_pop h queue = some (none, queue) := by
  simp [prio_pop, hq.chain.eq_of_nil]

/-- **`prio_pop`** takes the head of a nonempty queue. -/
theorem prio_pop_cons {h : Store PrioNode} {queue : PrioQueue} {p : Nat} {a : PrioEntry}
    {l : List (Nat × PrioEntry)} (hq : QueueHolds h queue ((p, a) :: l)) :
    ∃ queue', prio_pop h queue = some (some p, queue') ∧ QueueHolds h queue' l := by
  obtain ⟨v, hhead, hload, _, hrest⟩ := hq.chain.inv_cons
  refine ⟨{ head := v.next, size := queue.size - 1 }, ?_, hrest, ?_⟩
  · simp [prio_pop, hhead, hload]
  · simp [hq.size]

theorem prio_destroy_loop_spec {l : List (Nat × PrioEntry)} {h : Store PrioNode} {cur : Nat}
    {a : PrioEntry} {fuel : Nat} (hs : PrioSeg h (some cur) ((cur, a) :: l) none)
    (hfuel : l.length < fuel) :
    ∃ h', prio_destroy_loop fuel h cur = some h' ∧
      ∀ p, h'.load p =
        if p ∈ (prio_freed ((cur, a) :: l)).map Prod.fst then none else h.load p := by
  induction l generalizing cur a fuel h with
  | nil =>
    obtain ⟨fuel, rfl⟩ := Nat.exists_eq_succ_of_ne_zero (Nat.ne_of_gt hfuel)
    obtain ⟨v, _, hload, _, hrest⟩ := hs.inv_cons
    have hnext : v.next = none := hrest.eq_of_nil
    refine ⟨h.erase cur, ?_, fun p => ?_⟩
    · simp [prio_destroy_loop, hload, Store.free_of_live hload, hnext]
    · simp [prio_freed, Store.load_erase]
  | cons b l ih =>
    obtain ⟨q, c⟩ := b
    obtain ⟨fuel, rfl⟩ := Nat.exists_eq_succ_of_ne_zero (Nat.ne_of_gt (Nat.zero_lt_of_lt hfuel))
    obtain ⟨v, _, hload, rfl, hrest⟩ := hs.inv_cons
    obtain ⟨u, hnext, hloadq, rfl, hrestq⟩ := hrest.inv_cons
    have hnd := hs.nodup
    rw [List.map_cons, List.nodup_cons] at hnd
    have hrest' : PrioSeg (h.erase cur) (some q) ((q, u.entry) :: l) none :=
      (hnext ▸ hrest).frame_erase hnd.1
    have hne : q ≠ cur := by
      rintro rfl
      exact hnd.1 List.mem_cons_self
    have hloadq' : (h.erase cur).load q = some u := by
      rw [Store.load_erase, if_neg hne, hloadq]
    cases l with
    | nil =>
      -- the second node is the last one: the loop ends before it frees it
      have hend : u.next = none := hrestq.eq_of_nil
      refine ⟨h.erase cur, ?_, fun p => ?_⟩
      · simp [prio_destroy_loop, hload, Store.free_of_live hload, hnext, hloadq', hend]
      · simp [prio_freed, Store.load_erase]
    | cons d l =>
      obtain ⟨_, hsome, _⟩ := hrestq.inv_cons
      obtain ⟨h', hloop, hload'⟩ := ih hrest' (by simpa using hfuel)
      refine ⟨h', ?_, fun p => ?_⟩
      · simp only [prio_destroy_loop, hload, Store.free_of_live hload, hnext, hloadq', hsome,
          Option.bind_eq_bind, Option.bind_some]
        exact hloop
      · rw [hload', Store.load_erase]
        simp only [prio_freed, List.dropLast_cons_cons, List.map_cons, List.mem_cons]
        by_cases hp : p = cur
        · simp [hp]
        · simp [hp]

/-- **`prio_destroy_queue`** frees the nodes of `prio_freed`, each once. -/
theorem prio_destroy_queue_spec {h : Store PrioNode} {queue : PrioQueue}
    {l : List (Nat × PrioEntry)} (hq : QueueHolds h queue l) :
    ∃ h', prio_destroy_queue h queue = some h' ∧
      ∀ p, h'.load p = if p ∈ (prio_freed l).map Prod.fst then none else h.load p := by
  cases l with
  | nil => exact ⟨h, by simp [prio_destroy_queue, hq.chain.eq_of_nil], by simp [prio_freed]⟩
  | cons b l =>
    obtain ⟨cur, a⟩ := b
    obtain ⟨_, hhead, _⟩ := hq.chain.inv_cons
    have hs := hhead ▸ hq.chain
    obtain ⟨h', hloop, hload⟩ := prio_destroy_loop_spec hs hs.length_le
    exact ⟨h', by simp [prio_destroy_queue, hhead, hloop], hload⟩

end DiscoC
