import Mathlib.Algebra.BigOperators.Fin
import Mathlib.Algebra.Order.BigOperators.Group.Multiset
import Mathlib.Data.Multiset.Count
import DiscoC.Framework.System

/-! # Pools of jobs

  What a pool of workers is for, apart from how it queues and waits: a job
  is added once, taken by one worker, and done when that worker is through
  with it. Workers are those of a finite type `W`, jobs are known by keys
  of a type `K`, and no key is used for two jobs.

  The one invariant is `Conserved`: what was ever added is what is queued,
  what is running, and what has been executed, each job counted once.
-/

namespace DiscoC

universe u v

/-- A pool of jobs. -/
@[ext] structure JobPool (W : Type u) (K : Type v) where
  /-- Every job ever added. -/
  added : Multiset K
  /-- The jobs no worker has taken yet. -/
  queued : Multiset K
  /-- What each worker is busy with. -/
  running : W → Option K
  /-- The jobs that are done. -/
  executed : Multiset K

namespace JobPool

variable {W : Type u} {K : Type v}

/-- What happens to one job. -/
inductive Event (W : Type u) (K : Type v) where
  | add (k : K)
  | take (w : W) (k : K)
  | done (w : W) (k : K)

/-- The empty pool, with idle workers. -/
def empty : JobPool W K where
  added := 0
  queued := 0
  running := fun _ => none
  executed := 0

/-- The job of one worker. -/
def held : Option K → Multiset K
  | none => 0
  | some k => {k}

@[simp] theorem held_none : held (none : Option K) = 0 := rfl

@[simp] theorem held_some (k : K) : held (some k) = {k} := rfl

section conserved

variable [Fintype W]

/-- The jobs of all workers. -/
def in_work (s : JobPool W K) : Multiset K :=
  ∑ w, held (s.running w)

/-- No job is lost, made up or in two places. -/
structure Conserved (s : JobPool W K) : Prop where
  /-- Every job is queued, running or executed. -/
  parts : s.added = s.queued + s.in_work + s.executed
  /-- Jobs are told apart. -/
  nodup : s.added.Nodup

theorem mem_in_work {s : JobPool W K} {w : W} {k : K} (h : s.running w = some k) :
    k ∈ s.in_work :=
  Multiset.mem_sum.mpr ⟨w, Finset.mem_univ w, by simp [h]⟩

theorem Conserved.parts_nodup {s : JobPool W K} (h : s.Conserved) :
    (s.queued + s.in_work + s.executed).Nodup :=
  h.parts ▸ h.nodup

theorem Conserved.queued_nodup {s : JobPool W K} (h : s.Conserved) : s.queued.Nodup :=
  (Multiset.nodup_add.mp (Multiset.nodup_add.mp h.parts_nodup).1).1

/-- A running job is not queued. -/
theorem Conserved.not_queued {s : JobPool W K} (h : s.Conserved) {w : W} {k : K}
    (hw : s.running w = some k) : k ∉ s.queued := fun hk =>
  Multiset.disjoint_left.mp (Multiset.nodup_add.mp (Multiset.nodup_add.mp h.parts_nodup).1).2.2
    hk (mem_in_work hw)

/-- A running job has been added. -/
theorem Conserved.running_added {s : JobPool W K} (h : s.Conserved) {w : W} {k : K}
    (hw : s.running w = some k) : k ∈ s.added := by
  rw [h.parts]
  exact Multiset.mem_add.mpr (.inl (Multiset.mem_add.mpr (.inr (mem_in_work hw))))

/-- A running job has not been executed. -/
theorem Conserved.not_executed {s : JobPool W K} (h : s.Conserved) {w : W} {k : K}
    (hw : s.running w = some k) : k ∉ s.executed := fun hk =>
  Multiset.disjoint_left.mp (Multiset.nodup_add.mp h.parts_nodup).2.2
    (Multiset.mem_add.mpr (.inr (mem_in_work hw))) hk

/-- Two workers do not run the same job. -/
theorem Conserved.running_unique [DecidableEq W] {s : JobPool W K} (h : s.Conserved) {v w : W}
    {k : K} (hv : s.running v = some k) (hw : s.running w = some k) : v = w := by
  by_contra hne
  have hnd : s.in_work.Nodup :=
    (Multiset.nodup_add.mp (Multiset.nodup_add.mp h.parts_nodup).1).2.1
  rw [in_work, ← Finset.add_sum_erase _ _ (Finset.mem_univ v)] at hnd
  have hk : k ∈ held (s.running v) := by simp [hv]
  refine Multiset.disjoint_left.mp (Multiset.nodup_add.mp hnd).2.2 hk ?_
  exact Multiset.mem_sum.mpr
    ⟨w, Finset.mem_erase.mpr ⟨Ne.symm hne, Finset.mem_univ w⟩, by simp [hw]⟩

end conserved

/-! ### The moves of a job -/

variable [DecidableEq W]

/-- A new job is queued. -/
def add (s : JobPool W K) (k : K) : JobPool W K :=
  { s with added := k ::ₘ s.added, queued := k ::ₘ s.queued }

/-- A worker takes a queued job. -/
def take [DecidableEq K] (s : JobPool W K) (w : W) (k : K) : JobPool W K :=
  { s with queued := s.queued.erase k, running := Function.update s.running w (some k) }

/-- A worker is through with its job. -/
def done (s : JobPool W K) (w : W) (k : K) : JobPool W K :=
  { s with executed := k ::ₘ s.executed, running := Function.update s.running w none }

/-- The pool as a transition system. -/
def system (W : Type u) (K : Type v) [DecidableEq W] [DecidableEq K] :
    System (JobPool W K) (Event W K) where
  init := fun s => s = empty
  step := fun s e s' =>
    match e with
    | .add k => k ∉ s.added ∧ s' = s.add k
    | .take w k => s.running w = none ∧ k ∈ s.queued ∧ s' = s.take w k
    | .done w k => s.running w = some k ∧ s' = s.done w k

/-- The jobs in work after one worker has taken or finished one. -/
theorem sum_held_update [Fintype W] (r : W → Option K) (w : W) (x : Option K) :
    held (r w) + ∑ v, held (Function.update r w x v) = held x + ∑ v, held (r v) := by
  rw [← Finset.add_sum_erase Finset.univ (fun v => held (r v)) (Finset.mem_univ w),
    ← Finset.add_sum_erase Finset.univ (fun v => held (Function.update r w x v))
      (Finset.mem_univ w), Function.update_self]
  have hrest : ∑ v ∈ Finset.univ.erase w, held (Function.update r w x v) =
      ∑ v ∈ Finset.univ.erase w, held (r v) :=
    Finset.sum_congr rfl fun v hv => by
      rw [Function.update_of_ne (Finset.ne_of_mem_erase hv)]
  rw [hrest, add_left_comm]

/-- The jobs in work after an idle worker has taken one. -/
theorem exists_update_some {r : W → Option K} {w : W} (hw : r w = none) {k x : K} :
    (∃ v, Function.update r w (some k) v = some x) ↔ x = k ∨ ∃ v, r v = some x := by
  constructor
  · rintro ⟨v, hv⟩
    by_cases hvw : v = w
    · rw [hvw, Function.update_self] at hv
      exact .inl (Option.some.inj hv).symm
    · rw [Function.update_of_ne hvw] at hv
      exact .inr ⟨v, hv⟩
  · rintro (rfl | ⟨v, hv⟩)
    · exact ⟨w, Function.update_self w _ r⟩
    · -- `w` ran nothing before, so it is not the worker that runs `x`
      have hvw : v ≠ w := by
        rintro rfl
        rw [hw] at hv
        cases hv
      exact ⟨v, by rw [Function.update_of_ne hvw, hv]⟩

/-- The jobs in work after a worker is through with its own. -/
theorem exists_update_none {r : W → Option K} {w : W} {k x : K} (hw : r w = some k)
    (honly : ∀ v, r v = some k → v = w) :
    (∃ v, Function.update r w none v = some x) ↔ x ≠ k ∧ ∃ v, r v = some x := by
  constructor
  · rintro ⟨v, hv⟩
    have hvw : v ≠ w := by
      rintro rfl
      rw [Function.update_self] at hv
      cases hv
    rw [Function.update_of_ne hvw] at hv
    refine ⟨?_, v, hv⟩
    rintro rfl
    exact hvw (honly v hv)
  · rintro ⟨hx, v, hv⟩
    have hvw : v ≠ w := by
      rintro rfl
      exact hx (Option.some.inj (hv.symm.trans hw))
    exact ⟨v, by rw [Function.update_of_ne hvw, hv]⟩

/-! ### Conservation -/

variable [Fintype W]

omit [DecidableEq W] in
theorem conserved_empty : Conserved (empty : JobPool W K) :=
  ⟨by simp [empty, in_work], Multiset.nodup_zero⟩

omit [DecidableEq W] in
theorem Conserved.add {s : JobPool W K} (h : s.Conserved) {k : K} (hk : k ∉ s.added) :
    (s.add k).Conserved := by
  refine ⟨?_, Multiset.nodup_cons.mpr ⟨hk, h.nodup⟩⟩
  show k ::ₘ s.added = k ::ₘ s.queued + s.in_work + s.executed
  rw [h.parts, Multiset.cons_add, Multiset.cons_add]

theorem Conserved.take [DecidableEq K] {s : JobPool W K} (h : s.Conserved) {w : W} {k : K}
    (hw : s.running w = none) (hk : k ∈ s.queued) : (s.take w k).Conserved := by
  refine ⟨?_, h.nodup⟩
  have hsum := sum_held_update s.running w (some k)
  rw [hw, held_none, zero_add, held_some] at hsum
  show s.added = s.queued.erase k + ∑ v, held (Function.update s.running w (some k) v) + s.executed
  rw [hsum, h.parts, in_work, ← add_assoc]
  congr 2
  rw [add_comm, Multiset.singleton_add, Multiset.cons_erase hk]

theorem Conserved.done {s : JobPool W K} (h : s.Conserved) {w : W} {k : K}
    (hw : s.running w = some k) : (s.done w k).Conserved := by
  refine ⟨?_, h.nodup⟩
  have hsum := sum_held_update s.running w none
  rw [hw, held_none, zero_add, held_some, Multiset.singleton_add] at hsum
  show s.added = s.queued + ∑ v, held (Function.update s.running w none v) + k ::ₘ s.executed
  rw [h.parts, in_work, ← hsum]
  simp only [Multiset.add_cons, Multiset.cons_add]

/-- **Step lemma**: no step loses or doubles a job. -/
theorem Conserved.step [DecidableEq K] {s s' : JobPool W K} {e : Event W K} (h : s.Conserved)
    (hstep : (system W K).step s e s') : s'.Conserved := by
  cases e with
  | add k =>
    obtain ⟨hk, rfl⟩ := hstep
    exact h.add hk
  | take w k =>
    obtain ⟨hw, hk, rfl⟩ := hstep
    exact h.take hw hk
  | done w k =>
    obtain ⟨hw, rfl⟩ := hstep
    exact h.done hw

/-- **Every job is in exactly one place**, at any time. -/
theorem reachable_conserved [DecidableEq K] {s : JobPool W K} (h : (system W K).Reachable s) :
    s.Conserved := by
  refine System.Reachable.invariant (I := Conserved) ?_ ?_ h
  · rintro s rfl
    exact conserved_empty
  · exact fun s e s' _ ih hstep => ih.step hstep

end JobPool

end DiscoC
