import DiscoC.Framework.System
import DiscoC.Utils.ThreadPoolDeadline

/-! # The order of the priority queue

  Runs of `prio_push` and `prio_pop` from `prio_init`. The queue should be
  in the order of the times, and nodes with the same time in the order in
  which they were pushed (`ServedInOrder`).

  `prio_push` puts every new node before the last one. That is its place
  exactly when it is due before the last one (`served_in_order_iff`). Of two
  nodes that are due at once the second one comes first
  (`second_served_first`).
-/

namespace DiscoC

/-! ### Runs of the queue -/

/-- A call into the queue. -/
inductive PrioCall where
  | push (data : Nat) (wait_until : Timeval)
  | pop
  deriving DecidableEq, Repr

/-- A queue and the nodes `prio_push` has returned, the oldest first. -/
structure PrioRun where
  heap : Store PrioNode
  queue : PrioQueue
  pushed : List Nat

/-- What a call leaves behind. `prio_push` returns the node it allocates, and
    `prio_pop` hands its node over to the caller. -/
def PrioCall.exec (s : PrioRun) : PrioCall → Option PrioRun
  | .push data wait_until =>
    (prio_push s.heap s.queue data wait_until).map fun (heap, queue) =>
      { heap, queue, pushed := s.pushed ++ [s.heap.next] }
  | .pop => (prio_pop s.heap s.queue).map fun (_, queue) => { s with queue }

/-- The queue under any sequence of calls after `prio_init`. -/
def prio_system : System PrioRun PrioCall :=
  .ofFn { heap := .empty, queue := prio_init, pushed := [] } PrioCall.exec

/-- `a` is due before `b`, or at the same time and has been pushed before. -/
def PrioRun.Precedes (s : PrioRun) (a b : Nat × PrioEntry) : Prop :=
  a.2.2 < b.2.2 ∨ a.2.2 = b.2.2 ∧ [a.1, b.1].Sublist s.pushed

/-- The nodes are in the order of their times, equal ones in the order in
    which they were pushed, and `prio_pop` returns the first of them. -/
def ServedInOrder (s : PrioRun) : Prop :=
  ∃ l, QueueHolds s.heap s.queue l ∧ Sorted l ∧ l.Pairwise s.Precedes ∧
    ∀ node queue, prio_pop s.heap s.queue = some (some node, queue) →
      ∃ a, (node, a) ∈ l ∧ ∀ e ∈ l, e = (node, a) ∨ s.Precedes (node, a) e

/-- A node that is pushed is due before the last one of the queue. -/
def DueBeforeLast (s : PrioRun) : PrioCall → Prop
  | .push _ wait_until =>
    ∀ l, QueueHolds s.heap s.queue l → ∀ e ∈ l.getLast?, wait_until < e.2.2
  | .pop => True

/-! ### Where a new node goes -/

section insert

variable {R : Nat × PrioEntry → Nat × PrioEntry → Prop} {e : Nat × PrioEntry}

/-- **`prio_push`** keeps the order of the times and, among equal ones, of
    the calls exactly when the new node is due before the last one. -/
theorem prio_insert_pairwise_iff {l : List (Nat × PrioEntry)} (h : l.Pairwise R)
    (hle : ∀ x ∈ l, ∀ y ∈ l, R x y → x.2.2 ≤ y.2.2)
    (hbefore : ∀ x ∈ l, R x e ↔ x.2.2 ≤ e.2.2) (hafter : ∀ x ∈ l, R e x ↔ e.2.2 < x.2.2) :
    (prio_insert e l).Pairwise R ↔ ∀ x ∈ l.getLast?, e.2.2 < x.2.2 := by
  induction l using prio_insert.induct (e := e) with
  | case1 => simp [prio_insert]
  | case2 x => simp [prio_insert, hafter x]
  | case3 x y l hdue ih =>
    obtain ⟨hx, htail⟩ := List.pairwise_cons.mp h
    have hih := ih htail
      (fun a ha b hb => hle a (List.mem_cons_of_mem x ha) b (List.mem_cons_of_mem x hb))
      (fun a ha => hbefore a (List.mem_cons_of_mem x ha))
      (fun a ha => hafter a (List.mem_cons_of_mem x ha))
    -- the node goes further back: the question is about the rest
    rw [prio_insert, if_pos hdue, List.pairwise_cons, List.getLast?_cons_cons, ← hih]
    constructor
    · exact fun hs => hs.2
    · intro hs
      refine ⟨fun z hz => ?_, hs⟩
      rcases List.mem_cons.mp ((prio_insert_perm e _).mem_iff.mp hz) with hze | hz
      · rw [hze, hbefore x List.mem_cons_self]
        exact due_by_iff.mp hdue
      · exact hx z hz
  | case4 x y l hdue =>
    have hlt : e.2.2 < x.2.2 := lt_of_not_ge fun hge => hdue (due_by_iff.mpr hge)
    -- the first node is due later, and so are all that follow
    have hall : ∀ z ∈ x :: y :: l, e.2.2 < z.2.2 := by
      intro z hz
      rcases List.mem_cons.mp hz with hzx | htl
      · rw [hzx]
        exact hlt
      · exact hlt.trans_le
          (hle x List.mem_cons_self z hz ((List.pairwise_cons.mp h).1 z htl))
    rw [prio_insert, if_neg hdue, List.pairwise_cons]
    constructor
    · exact fun _ z hz => hall z (List.mem_of_getLast? hz)
    · exact fun _ => ⟨fun z hz => (hafter z hz).mpr (hall z hz), h⟩

end insert

/-! ### The invariant -/

/-- The queue holds nodes that were pushed, and new addresses are new. -/
structure PrioInv (s : PrioRun) (l : List (Nat × PrioEntry)) : Prop where
  holds : QueueHolds s.heap s.queue l
  pushed : ∀ e ∈ l, e.1 ∈ s.pushed
  below : ∀ p ∈ s.pushed, p < s.heap.next

theorem QueueHolds.unique {h : Store PrioNode} {queue : PrioQueue} {l l' : List (Nat × PrioEntry)}
    (hl : QueueHolds h queue l) (hl' : QueueHolds h queue l') : l = l' :=
  Store.Seg.unique hl.chain hl'.chain

namespace PrioInv

variable {s s' : PrioRun} {l : List (Nat × PrioEntry)}

theorem init : PrioInv { heap := .empty, queue := prio_init, pushed := [] } [] :=
  ⟨⟨.nil none, rfl⟩, by simp, by simp⟩

theorem push (h : PrioInv s l) (data : Nat) (w : Timeval) :
    ∃ s', PrioCall.exec s (.push data w) = some s' ∧ s'.pushed = s.pushed ++ [s.heap.next] ∧
      PrioInv s' (prio_insert (s.heap.next, (data, w)) l) := by
  obtain ⟨heap, queue, hpush, hholds, hnext, -⟩ := prio_push_spec h.holds data w
  refine ⟨{ heap, queue, pushed := s.pushed ++ [s.heap.next] }, ?_, rfl, hholds, ?_, ?_⟩
  · show (prio_push s.heap s.queue data w).map _ = _
    rw [hpush]
    rfl
  · intro e he
    show e.1 ∈ s.pushed ++ [s.heap.next]
    rw [List.mem_append, List.mem_singleton]
    rcases List.mem_cons.mp ((prio_insert_perm _ l).mem_iff.mp he) with hnew | hold
    · exact .inr (congrArg Prod.fst hnew)
    · exact .inl (h.pushed e hold)
  · intro p hp
    show p < heap.next
    rw [hnext]
    -- the address of the new node is the next one
    rcases List.mem_append.mp hp with hold | hnew
    · exact Nat.lt_succ_of_lt (h.below p hold)
    · rw [List.mem_singleton.mp hnew]
      exact Nat.lt_succ_self _

theorem pop (h : PrioInv s l) :
    ∃ s', PrioCall.exec s .pop = some s' ∧ s'.pushed = s.pushed ∧ PrioInv s' l.tail := by
  rcases l with _ | ⟨⟨node, a⟩, l⟩
  · refine ⟨s, ?_, rfl, h⟩
    show (prio_pop s.heap s.queue).map _ = _
    rw [prio_pop_nil h.holds]
    rfl
  · obtain ⟨queue, hpop, hholds⟩ := prio_pop_cons h.holds
    refine ⟨{ s with queue }, ?_, rfl, hholds,
      fun e he => h.pushed e (List.mem_cons_of_mem _ he), h.below⟩
    show (prio_pop s.heap s.queue).map _ = _
    rw [hpop]
    rfl

theorem run {calls : List PrioCall} (h : prio_system.Run calls s) : ∃ l, PrioInv s l := by
  refine System.Run.invariant (I := fun _ s => ∃ l, PrioInv s l) ?_ ?_ h
  · intro s hs
    rw [show s = _ from hs]
    exact ⟨[], .init⟩
  · intro calls call s s' _ hinv hexec
    obtain ⟨l, hinv⟩ := hinv
    have hexec : call.exec s = some s' := hexec
    rcases call with ⟨data, w⟩ | _
    · obtain ⟨t, ht, -, hpush⟩ := hinv.push data w
      rw [ht] at hexec
      exact ⟨_, Option.some.inj hexec ▸ hpush⟩
    · obtain ⟨t, ht, -, hpop⟩ := hinv.pop
      rw [ht] at hexec
      exact ⟨_, Option.some.inj hexec ▸ hpop⟩

/-- What `prio_pop` returns is the first node, so the order is all that
    matters. -/
theorem served_iff (h : PrioInv s l) : ServedInOrder s ↔ l.Pairwise s.Precedes := by
  constructor
  · intro hs
    obtain ⟨l', hholds, -, horder, -⟩ := hs
    rw [h.holds.unique hholds]
    exact horder
  · intro horder
    -- the times alone are in order, and the first node is before all others
    refine ⟨l, h.holds, ?_, horder, ?_⟩
    · refine horder.imp fun hab => ?_
      rcases hab with hlt | ⟨heq, -⟩
      · exact hlt.le
      · exact heq.le
    · intro node queue hpop
      rcases l with _ | ⟨⟨p, a⟩, l⟩
      · rw [prio_pop_nil h.holds] at hpop
        simp at hpop
      · obtain ⟨queue', hpop', -⟩ := prio_pop_cons h.holds
        rw [hpop'] at hpop
        obtain ⟨hnode, -⟩ := Prod.mk.inj (Option.some.inj hpop)
        rw [← Option.some.inj hnode]
        refine ⟨a, List.mem_cons_self, fun e he => ?_⟩
        rcases List.mem_cons.mp he with hfirst | hrest
        · exact .inl hfirst
        · exact .inr ((List.pairwise_cons.mp horder).1 e hrest)

/-! ### One call -/

/-- Nodes that are pushed later do not change who was first. -/
theorem precedes_push (hpushed : s'.pushed = s.pushed ++ [s.heap.next])
    {a b : Nat × PrioEntry} (hab : s.Precedes a b) : s'.Precedes a b := by
  rcases hab with hlt | ⟨heq, hfirst⟩
  · exact .inl hlt
  · refine .inr ⟨heq, ?_⟩
    rw [hpushed]
    exact hfirst.trans (List.sublist_append_left _ _)

/-- A node of the queue comes before the new one when it is not due later. -/
theorem precedes_new_iff (h : PrioInv s l) (hpushed : s'.pushed = s.pushed ++ [s.heap.next])
    {a : Nat × PrioEntry} (ha : a ∈ l) (e : PrioEntry) :
    s'.Precedes a (s.heap.next, e) ↔ a.2.2 ≤ e.2 := by
  rw [le_iff_lt_or_eq]
  unfold PrioRun.Precedes
  refine or_congr_right (and_iff_left ?_)
  rw [hpushed]
  exact (List.singleton_sublist.mpr (h.pushed a ha)).append (List.Sublist.refl [s.heap.next])

/-- The new node comes before one of the queue only when it is due earlier:
    it was pushed after all of them. -/
theorem new_precedes_iff (h : PrioInv s l) (hpushed : s'.pushed = s.pushed ++ [s.heap.next])
    (a : Nat × PrioEntry) (e : PrioEntry) :
    s'.Precedes (s.heap.next, e) a ↔ e.2 < a.2.2 := by
  unfold PrioRun.Precedes
  refine or_iff_left ?_
  intro hsame
  have hlast : [s.heap.next, a.1].Sublist (s.pushed ++ [s.heap.next]) := hpushed ▸ hsame.2
  have hnew : s.heap.next ∉ s.pushed := fun hp => (h.below _ hp).false
  -- the new address is the last one of `s'.pushed`, and nothing follows it
  obtain ⟨l₁, l₂, hsplit, h₁, h₂⟩ := List.sublist_append_iff.mp hlast
  rcases l₁ with _ | ⟨p, l₁⟩
  · rw [List.nil_append] at hsplit
    rw [← hsplit] at h₂
    exact absurd h₂.length_le (by simp)
  · obtain ⟨rfl, -⟩ := List.cons.inj hsplit
    exact hnew (h₁.subset List.mem_cons_self)

/-- **One call** keeps the order exactly when a node that is pushed is due
    before the last one. -/
theorem exec_iff {call : PrioCall} (h : PrioInv s l) (horder : l.Pairwise s.Precedes)
    (hexec : call.exec s = some s') : ServedInOrder s' ↔ DueBeforeLast s call := by
  rcases call with ⟨data, w⟩ | _
  · obtain ⟨t, ht, hpushed, hnew⟩ := h.push data w
    obtain rfl : t = s' := Option.some.inj (ht.symm.trans hexec)
    rw [hnew.served_iff]
    have horder' : l.Pairwise t.Precedes := horder.imp (precedes_push hpushed)
    have hle : ∀ x ∈ l, ∀ y ∈ l, t.Precedes x y → x.2.2 ≤ y.2.2 := by
      intro x _ y _ hxy
      rcases hxy with hlt | ⟨heq, -⟩
      · exact hlt.le
      · exact heq.le
    rw [prio_insert_pairwise_iff horder' hle (fun x hx => h.precedes_new_iff hpushed hx _)
      (fun x _ => h.new_precedes_iff hpushed x _)]
    show _ ↔ ∀ l', QueueHolds s.heap s.queue l' → ∀ e ∈ l'.getLast?, w < e.2.2
    constructor
    · intro hlast l' hl'
      rw [← h.holds.unique hl']
      exact hlast
    · exact fun hguard => hguard l h.holds
  · obtain ⟨t, ht, hpushed, hrest⟩ := h.pop
    obtain rfl : t = s' := Option.some.inj (ht.symm.trans hexec)
    -- what is left of the queue was in order before
    refine iff_of_true (hrest.served_iff.mpr ?_) trivial
    refine (horder.sublist (List.tail_sublist l)).imp fun hab => ?_
    unfold PrioRun.Precedes
    rw [hpushed]
    exact hab

end PrioInv

/-! ### Every run -/

/-- **Priority queue order**: along a run of `prio_push` and `prio_pop` the
    queue is served in order exactly when every node is due before the last
    one when it is pushed. -/
theorem served_in_order_iff (calls : List PrioCall) :
    (∀ pre, pre <+: calls → ∀ s, prio_system.Run pre s → ServedInOrder s) ↔
      ∃ s, (prio_system.guarded DueBeforeLast).Run calls s := by
  refine System.holds_along_iff_guarded ?_ ?_ ?_ calls
  · exact PrioInv.init.served_iff.mpr List.Pairwise.nil
  · intro calls call s hrun
    obtain ⟨l, hinv⟩ := PrioInv.run hrun
    rcases call with ⟨data, w⟩ | _
    · obtain ⟨s', hs', -⟩ := hinv.push data w
      exact ⟨s', hs'⟩
    · obtain ⟨s', hs', -⟩ := hinv.pop
      exact ⟨s', hs'⟩
  · intro calls call s s' hrun hserved hexec
    obtain ⟨l, hinv⟩ := PrioInv.run hrun
    exact hinv.exec_iff (hinv.served_iff.mp hserved) hexec

/-- Two requests without a delay: `prio_pop` returns the second one, which is
    not the one that has waited longest. -/
theorem second_served_first :
    ∃ s first second, prio_system.Run [.push 1 ⟨0, 0⟩, .push 2 ⟨0, 0⟩] s ∧
      s.pushed = [first, second] ∧
      (prio_pop s.heap s.queue).map Prod.fst = some (some second) ∧ ¬ ServedInOrder s := by
  obtain ⟨s₁, hexec₁, hpushed₁, hinv₁⟩ := PrioInv.init.push 1 ⟨0, 0⟩
  obtain ⟨s₂, hexec₂, hpushed₂, hinv₂⟩ := hinv₁.push 2 ⟨0, 0⟩
  obtain ⟨queue, hpop, -⟩ := prio_pop_cons hinv₂.holds
  refine ⟨s₂, (Store.empty (α := PrioNode)).next, s₁.heap.next,
    ((System.Run.start rfl).snoc hexec₁).snoc hexec₂, ?_, ?_, ?_⟩
  · rw [hpushed₂, hpushed₁]
    rfl
  · rw [hpop]
    rfl
  · rw [hinv₁.exec_iff (List.pairwise_singleton _ _) hexec₂]
    -- both times are the same, so the second node is not due before the first
    intro hguard
    exact absurd (hguard _ hinv₁.holds _ rfl) (lt_irrefl _)

end DiscoC
