import Mathlib.Data.Multiset.AddSub
import DiscoC.Framework.System
import DiscoC.Utils.PrioQueue

/-! # What the priority queue holds

  Runs of `prio_push` and `prio_pop` from `prio_init`, with what was pushed
  and popped on the way. A node that `prio_pop` has returned belongs to the
  caller, who may free it at any later time, as `t_pool_pop_work` does at
  once. Its `next` pointer still leads into the queue.

  No history loses a node, makes one up, or lets the counter and the head
  pointer disagree (`queue_conserved`).
-/

namespace DiscoC

/-! ### Histories -/

/-- `prio_destroy_node`. -/
def prio_destroy_node (h : Store PrioNode) (node : Option Nat) : Option (Store PrioNode) :=
  match node with
  | none => some h
  | some node => h.free node

/-- What the caller of the queue does. -/
inductive PrioAction where
  | push (data : Nat) (wait_until : Timeval)
  | pop
  /-- `prio_destroy_node` of one of the caller's nodes, or of the null pointer
      if there is none at `i`. -/
  | destroy (i : Nat)
  deriving DecidableEq, Repr

/-- A queue and its history. -/
structure PrioHistory where
  heap : Store PrioNode
  queue : PrioQueue
  /-- The nodes that `prio_pop` has returned and the caller has not destroyed. -/
  taken : List Nat
  /-- What `prio_push` was called with. -/
  pushed : Multiset PrioEntry
  /-- What the nodes carried that `prio_pop` has returned. -/
  popped : Multiset PrioEntry

/-- After `prio_init`. -/
def PrioHistory.start : PrioHistory where
  heap := .empty
  queue := prio_init
  taken := []
  pushed := 0
  popped := 0

def PrioAction.exec (s : PrioHistory) : PrioAction → Option PrioHistory
  | .push data wait_until => do
    let (heap, queue) ← prio_push s.heap s.queue data wait_until
    some { s with heap, queue, pushed := (data, wait_until) ::ₘ s.pushed }
  | .pop => do
    let (node, queue) ← prio_pop s.heap s.queue
    match node with
    | none => some { s with queue }
    | some node => do
      let v ← s.heap.load node
      some { s with queue, taken := node :: s.taken, popped := v.entry ::ₘ s.popped }
  | .destroy i => do
    let heap ← prio_destroy_node s.heap s.taken[i]?
    some { s with heap, taken := s.taken.eraseIdx i }

/-- The queue under any sequence of actions after `prio_init`. -/
def prio_history : System PrioHistory PrioAction := .ofFn .start PrioAction.exec

/-- What the entries of some nodes add up to. -/
def entries (l : List (Nat × PrioEntry)) : Multiset PrioEntry := l.map Prod.snd

/-- What was pushed and not popped is in the queue, and the queue agrees with
    itself: its counter with its head pointer, and both with the list. -/
structure QueueConserved (s : PrioHistory) : Prop where
  /-- The list from the head ends and visits no node twice. The counter is its
      length (`QueueHolds`). -/
  nodes : ∃ l, QueueHolds s.heap s.queue l ∧ (l.map Prod.fst).Nodup ∧
    s.popped ≤ s.pushed ∧ entries l = s.pushed - s.popped
  head_null : s.queue.head = none ↔ s.queue.size = 0
  pop_null : (∃ queue, prio_pop s.heap s.queue = some (none, queue)) ↔ s.queue.size = 0
  pop_returns : (prio_pop s.heap s.queue).isSome = true
  /-- The walk of `prio_push` ends after at most `size` nodes. -/
  walk_ends : ∀ head, s.queue.head = some head → ∀ wait_until,
    (prio_walk s.heap wait_until s.queue.size none head).isSome = true
  push_returns : ∀ data wait_until, (prio_push s.heap s.queue data wait_until).isSome = true

/-! ### The invariant -/

/-- The caller's nodes are live and none of the queue's, and what was pushed
    is what was popped and what is in the queue. -/
structure HistoryInv (s : PrioHistory) (l : List (Nat × PrioEntry)) : Prop where
  holds : QueueHolds s.heap s.queue l
  apart : (s.taken ++ l.map Prod.fst).Nodup
  live : ∀ p ∈ s.taken, (s.heap.load p).isSome = true
  balance : s.pushed = s.popped + entries l

theorem QueueHolds.head_eq_none_iff {h : Store PrioNode} {queue : PrioQueue}
    {l : List (Nat × PrioEntry)} (hq : QueueHolds h queue l) : queue.head = none ↔ l = [] := by
  cases l with
  | nil => exact iff_of_true hq.chain.eq_of_nil rfl
  | cons b l =>
    obtain ⟨-, hhead, -⟩ := hq.chain.inv_cons
    simp [hhead]

theorem QueueHolds.size_eq_zero_iff {h : Store PrioNode} {queue : PrioQueue}
    {l : List (Nat × PrioEntry)} (hq : QueueHolds h queue l) : queue.size = 0 ↔ l = [] := by
  rw [hq.size, List.length_eq_zero_iff]

namespace HistoryInv

variable {s : PrioHistory} {l : List (Nat × PrioEntry)}

theorem start : HistoryInv .start [] :=
  ⟨⟨.nil none, rfl⟩, List.nodup_nil, by simp [PrioHistory.start], rfl⟩

/-- A node of the caller or of the queue has been allocated. -/
theorem lt_next (h : HistoryInv s l) {p : Nat} (hp : p ∈ s.taken ++ l.map Prod.fst) :
    p < s.heap.next := by
  rcases List.mem_append.mp hp with htaken | hqueue
  · obtain ⟨v, hload⟩ := Option.isSome_iff_exists.mp (h.live p htaken)
    exact Store.load_lt hload
  · obtain ⟨⟨q, a⟩, hmem, rfl⟩ := List.mem_map.mp hqueue
    obtain ⟨v, hload, -⟩ := h.holds.chain.load_of_mem hmem
    exact Store.load_lt hload

/-- **`prio_push`** adds its entry, under an address that neither the queue nor
    the caller has. -/
theorem push (h : HistoryInv s l) (data : Nat) (w : Timeval) :
    ∃ s' l', PrioAction.exec s (.push data w) = some s' ∧ HistoryInv s' l' := by
  obtain ⟨heap, queue, hpush, hholds, -, hlive⟩ := prio_push_spec h.holds data w
  have hperm := prio_insert_perm (s.heap.next, (data, w)) l
  have hexec : PrioAction.exec s (.push data w) =
      some { s with heap, queue, pushed := (data, w) ::ₘ s.pushed } := by
    rw [PrioAction.exec, hpush]
    rfl
  refine ⟨_, _, hexec, hholds, ?_, ?_, ?_⟩
  · have hfresh : s.heap.next ∉ s.taken ++ l.map Prod.fst :=
      fun hp => (h.lt_next hp).false
    have hnodes : (s.taken ++ (prio_insert (s.heap.next, (data, w)) l).map Prod.fst).Perm
        (s.heap.next :: (s.taken ++ l.map Prod.fst)) :=
      ((hperm.map Prod.fst).append_left s.taken).trans List.perm_middle
    exact hnodes.nodup_iff.mpr (List.nodup_cons.mpr ⟨hfresh, h.apart⟩)
  · exact fun p hp => (hlive p).mpr (.inr (h.live p hp))
  · have hentries : entries (prio_insert (s.heap.next, (data, w)) l) = (data, w) ::ₘ entries l :=
      Multiset.coe_eq_coe.mpr (hperm.map Prod.snd)
    show (data, w) ::ₘ s.pushed = s.popped + entries (prio_insert _ l)
    rw [hentries, h.balance, Multiset.add_cons]

/-- **`prio_pop`** moves its node from the queue to the caller. -/
theorem pop (h : HistoryInv s l) :
    ∃ s' l', PrioAction.exec s .pop = some s' ∧ HistoryInv s' l' := by
  cases l with
  | nil =>
    have hexec : PrioAction.exec s .pop = some s := by
      rw [PrioAction.exec, prio_pop_nil h.holds]
      rfl
    exact ⟨s, [], hexec, h⟩
  | cons b l =>
    obtain ⟨p, a⟩ := b
    obtain ⟨queue, hpop, hholds⟩ := prio_pop_cons h.holds
    obtain ⟨v, hload, rfl⟩ := h.holds.chain.load_of_mem List.mem_cons_self
    have hexec : PrioAction.exec s .pop =
        some { s with queue, taken := p :: s.taken, popped := v.entry ::ₘ s.popped } := by
      simp only [PrioAction.exec, hpop, hload, Option.bind_eq_bind, Option.bind_some]
    refine ⟨_, l, hexec, hholds, ?_, ?_, ?_⟩
    · exact List.perm_middle.nodup_iff.mp h.apart
    · intro q hq
      rcases List.mem_cons.mp hq with hfirst | hrest
      · rw [hfirst, hload]
        rfl
      · exact h.live q hrest
    · have hentries : entries ((p, v.entry) :: l) = v.entry ::ₘ entries l := rfl
      show s.pushed = v.entry ::ₘ s.popped + entries l
      rw [h.balance, hentries, Multiset.add_cons, Multiset.cons_add]

/-- **`prio_destroy_node`** frees a node that the queue does not lead to. -/
theorem destroy (h : HistoryInv s l) (i : Nat) :
    ∃ s' l', PrioAction.exec s (.destroy i) = some s' ∧ HistoryInv s' l' := by
  by_cases hi : i < s.taken.length
  · obtain ⟨v, hload⟩ := Option.isSome_iff_exists.mp (h.live s.taken[i] (List.getElem_mem hi))
    have hexec : PrioAction.exec s (.destroy i) =
        some { s with heap := s.heap.erase s.taken[i], taken := s.taken.eraseIdx i } := by
      simp only [PrioAction.exec, prio_destroy_node, List.getElem?_eq_getElem hi,
        Store.free_of_live hload, Option.bind_eq_bind, Option.bind_some]
    -- the node is not among those that stay, neither the caller's nor the queue's
    have hperm := (List.getElem_cons_eraseIdx_perm hi).append_right (l.map Prod.fst)
    rw [List.cons_append] at hperm
    obtain ⟨hout, hrest⟩ := List.nodup_cons.mp (hperm.nodup_iff.mpr h.apart)
    rw [List.mem_append, not_or] at hout
    refine ⟨_, l, hexec, ⟨h.holds.chain.frame_erase hout.2, h.holds.size⟩, hrest, ?_, h.balance⟩
    intro p hp
    show ((s.heap.erase s.taken[i]).load p).isSome = true
    have hne : p ≠ s.taken[i] := fun heq => hout.1 (heq ▸ hp)
    rw [Store.load_erase, if_neg hne]
    exact h.live p (List.mem_of_mem_eraseIdx hp)
  · have hlen : s.taken.length ≤ i := Nat.le_of_not_lt hi
    have hexec : PrioAction.exec s (.destroy i) = some s := by
      simp only [PrioAction.exec, prio_destroy_node, List.getElem?_eq_none hlen,
        List.eraseIdx_of_length_le hlen, Option.bind_eq_bind, Option.bind_some]
    exact ⟨s, l, hexec, h⟩

theorem exec (h : HistoryInv s l) (action : PrioAction) :
    ∃ s' l', action.exec s = some s' ∧ HistoryInv s' l' := by
  rcases action with ⟨data, w⟩ | _ | i
  · exact h.push data w
  · exact h.pop
  · exact h.destroy i

/-- The walk of `prio_push` passes every node at most once. -/
theorem walk_ends (h : HistoryInv s l) {head : Nat} (hhead : s.queue.head = some head)
    (w : Timeval) : (prio_walk s.heap w s.queue.size none head).isSome = true := by
  cases l with
  | nil =>
    rw [h.holds.head_eq_none_iff.mpr rfl] at hhead
    cases hhead
  | cons b l =>
    obtain ⟨p, a⟩ := b
    obtain ⟨-, hp, -⟩ := h.holds.chain.inv_cons
    obtain rfl : p = head := Option.some.inj (hp.symm.trans hhead)
    have hlen : l.length < s.queue.size := by simp [h.holds.size]
    obtain ⟨l₁, l₂, stop, -, hwalk, -⟩ :=
      prio_walk_spec none (hp ▸ h.holds.chain) hlen (p, (0, w)) rfl
    rw [hwalk]
    rfl

theorem conserved (h : HistoryInv s l) : QueueConserved s where
  nodes := by
    refine ⟨l, h.holds, h.holds.chain.nodup, ?_, ?_⟩
    · rw [h.balance]
      exact Multiset.le_add_right s.popped (entries l)
    · rw [h.balance, Multiset.add_comm, Multiset.add_sub_cancel_right]
  head_null := h.holds.head_eq_none_iff.trans h.holds.size_eq_zero_iff.symm
  pop_null := by
    rw [h.holds.size_eq_zero_iff]
    rcases l with _ | ⟨⟨p, a⟩, l⟩
    · exact iff_of_true ⟨s.queue, prio_pop_nil h.holds⟩ rfl
    · obtain ⟨queue, hpop, -⟩ := prio_pop_cons h.holds
      simp [hpop]
  pop_returns := by
    rcases l with _ | ⟨⟨p, a⟩, l⟩
    · rw [prio_pop_nil h.holds]
      rfl
    · obtain ⟨queue, hpop, -⟩ := prio_pop_cons h.holds
      rw [hpop]
      rfl
  walk_ends head hhead w := h.walk_ends hhead w
  push_returns data w := by
    obtain ⟨heap, queue, hpush, -⟩ := prio_push_spec h.holds data w
    rw [hpush]
    rfl

end HistoryInv

/-! ### Every run -/

/-- **Queue conservation**: any sequence of pushes, pops and destroyed nodes
    has a run, and it leaves a queue that holds exactly what was pushed and
    not popped, and agrees with itself. -/
theorem queue_conserved (actions : List PrioAction) :
    ∃ s, prio_history.Run actions s ∧ QueueConserved s := by
  have hinit : ∃ l, HistoryInv .start l := ⟨[], .start⟩
  have hstep : ∀ (pre : List PrioAction) (action : PrioAction) s, (∃ l, HistoryInv s l) →
      ∃ s', action.exec s = some s' ∧ ∃ l, HistoryInv s' l := by
    intro _ action s hinv
    obtain ⟨l, hinv⟩ := hinv
    obtain ⟨s', l', hexec, hinv'⟩ := hinv.exec action
    exact ⟨s', hexec, l', hinv'⟩
  obtain ⟨s, hrun, l, hinv⟩ :=
    System.run_ofFn_total (I := fun _ s => ∃ l, HistoryInv s l) hinit hstep actions
  exact ⟨s, hrun, hinv.conserved⟩

end DiscoC
