import Mathlib.Order.WellFounded
import DiscoC.Framework.System

/-! # Infinite runs and progress

  What a system does in the end, when none of its threads is put off for
  ever:

  * `System.Execution`: an infinite run.
  * `Execution.Fair`: steps of some kind that can be taken from some moment
    on are taken at some moment. A kind of steps stands for a thread, or for
    the passing of time.
  * `Execution.eventually_of_rank`: in every state there is a kind of steps
    that helps. A helpful step makes the rank go down, and no other step
    makes it go up or takes the help away. Then the goal is reached.
-/

namespace DiscoC

namespace System

universe u v

variable {State : Type u} {Label : Type v} {sys : System State Label}

/-- An infinite run. -/
structure Execution (sys : System State Label) where
  state : Nat → State
  label : Nat → Label
  init : sys.init (state 0)
  step : ∀ k, sys.step (state k) (label k) (state (k + 1))

namespace Execution

/-- The labels of the first `k` steps. -/
def labels (e : Execution sys) (k : Nat) : List Label :=
  (List.range k).map e.label

theorem run (e : Execution sys) (k : Nat) : sys.Run (e.labels k) (e.state k) := by
  induction k with
  | zero => exact .start e.init
  | succ k ih =>
    have hsnoc := ih.snoc (e.step k)
    rw [labels, List.range_succ, List.map_append]
    exact hsnoc

theorem reachable (e : Execution sys) (k : Nat) : sys.Reachable (e.state k) :=
  ⟨e.labels k, e.run k⟩

/-- An infinite run of a guarded system is one of the system. -/
def of_guarded {P : State → Label → Prop} (e : Execution (sys.guarded P)) : Execution sys where
  state := e.state
  label := e.label
  init := e.init
  step := fun k => (e.step k).2

/-- An infinite run, seen as one of a system whose steps it takes. -/
def map {State' : Type*} {Label' : Type*} {sys' : System State' Label'} (e : Execution sys)
    (f : State → State') (g : State → Label → Label') (hinit : sys'.init (f (e.state 0)))
    (hstep : ∀ k, sys'.step (f (e.state k)) (g (e.state k) (e.label k)) (f (e.state (k + 1)))) :
    Execution sys' where
  state := fun k => f (e.state k)
  label := fun k => g (e.state k) (e.label k)
  init := hinit
  step := hstep

/-- The step number `k` is one of the steps `A`. -/
def Takes (e : Execution sys) (A : State → Label → State → Prop) (k : Nat) : Prop :=
  A (e.state k) (e.label k) (e.state (k + 1))

/-- One of the steps `A` can be taken in `s`. -/
def Can (sys : System State Label) (A : State → Label → State → Prop) (s : State) : Prop :=
  ∃ l s', sys.step s l s' ∧ A s l s'

/-- **Weak fairness**: if one of the steps `A` can be taken from `k` on, one is
    taken from `k` on. -/
def Fair (e : Execution sys) (A : State → Label → State → Prop) : Prop :=
  ∀ k, (∀ m, k ≤ m → Can sys A (e.state m)) → ∃ m, k ≤ m ∧ e.Takes A m

/-- Steps that can be taken no more are taken fairly. -/
theorem fair_of_not_can {e : Execution sys} {A : State → Label → State → Prop} {n : Nat}
    (h : ∀ k, n ≤ k → ¬ Can sys A (e.state k)) : e.Fair A := by
  intro k hall
  exact absurd (hall (max k n) (le_max_left k n)) (h _ (le_max_right k n))

/-- A run that goes on for ever. -/
theorem exists_of_run {ls : List Label} {s : State} (hrun : sys.Run ls s) {tail : Nat → State}
    {label : Nat → Label} (hfirst : tail 0 = s)
    (hstep : ∀ k, sys.step (tail k) (label k) (tail (k + 1))) :
    ∃ e : Execution sys, ∀ k, e.state (ls.length + k) = tail k ∧
      e.label (ls.length + k) = label k := by
  induction hrun generalizing tail label with
  | start h =>
    subst hfirst
    refine ⟨⟨tail, label, h, hstep⟩, fun k => ?_⟩
    show tail (0 + k) = tail k ∧ label (0 + k) = label k
    rw [Nat.zero_add]
    exact ⟨rfl, rfl⟩
  | @snoc ls l s s' _ hs ih =>
    subst hfirst
    -- the last step of the run becomes the first one of the rest
    obtain ⟨e, he⟩ := @ih (fun k => if k = 0 then s else tail (k - 1))
      (fun k => if k = 0 then l else label (k - 1)) rfl fun k => by
        cases k with
        | zero => exact hs
        | succ k => exact hstep k
    refine ⟨e, fun k => ?_⟩
    have hlen : (ls ++ [l]).length + k = ls.length + (k + 1) := by
      rw [List.length_append, List.length_singleton]
      omega
    rw [hlen]
    exact he (k + 1)

/-- What is true from `k` on, as long as `Q` is not. -/
theorem holds_until {e : Execution sys} {I Q : State → Prop} {k : Nat} (hI : I (e.state k))
    (hstep : ∀ m, k ≤ m → I (e.state m) → ¬ Q (e.state m) → ¬ Q (e.state (m + 1)) →
      I (e.state (m + 1)))
    (hQ : ∀ m, k ≤ m → ¬ Q (e.state m)) : ∀ m, k ≤ m → I (e.state m) := by
  intro m hm
  induction m, hm using Nat.le_induction with
  | base => exact hI
  | succ m hm ih => exact hstep m hm ih (hQ m hm) (hQ (m + 1) (by omega))

section rank

variable {ι α : Type*} [Preorder α] {e : Execution sys}
  {A : ι → State → Label → State → Prop} {I Q : State → Prop}
  {rank : State → α} {helpful : State → ι}

/-- A step goes down, or changes neither the rank nor the help, and is not a
    helpful one. -/
def Progresses (A : ι → State → Label → State → Prop) (rank : State → α) (helpful : State → ι)
    (s : State) (l : Label) (s' : State) : Prop :=
  rank s' < rank s ∨
    rank s' = rank s ∧ helpful s' = helpful s ∧ ¬ A (helpful s) s l s'

/-- The rank goes down at some moment, unless the goal is reached. -/
theorem rank_goes_down (hfair : ∀ i, e.Fair (A i)) {k : Nat}
    (hI : ∀ m, k ≤ m → I (e.state m)) (hQ : ∀ m, k ≤ m → ¬ Q (e.state m))
    (hcan : ∀ m, k ≤ m → I (e.state m) → ¬ Q (e.state m) →
      Can sys (A (helpful (e.state m))) (e.state m))
    (hstep : ∀ m, k ≤ m → I (e.state m) → ¬ Q (e.state m) → ¬ Q (e.state (m + 1)) →
      Progresses A rank helpful (e.state m) (e.label m) (e.state (m + 1))) :
    ∃ m, k ≤ m ∧ rank (e.state m) < rank (e.state k) := by
  by_contra hnone
  have hnot : ∀ m, k ≤ m → ¬ rank (e.state m) < rank (e.state k) := fun m hm hlt =>
    hnone ⟨m, hm, hlt⟩
  -- otherwise the rank stays, and so does the help
  have hstays : ∀ m, k ≤ m → rank (e.state m) = rank (e.state k) ∧
      helpful (e.state m) = helpful (e.state k) := by
    intro m hm
    induction m, hm using Nat.le_induction with
    | base => exact ⟨rfl, rfl⟩
    | succ m hm ih =>
      rcases hstep m hm (hI m hm) (hQ m hm) (hQ (m + 1) (by omega)) with hlt | ⟨hrank, hhelp, -⟩
      · rw [ih.1] at hlt
        exact absurd hlt (hnot (m + 1) (by omega))
      · exact ⟨hrank.trans ih.1, hhelp.trans ih.2⟩
  -- the helpful steps can be taken all the time, so that one of them is
  have hall : ∀ m, k ≤ m → Can sys (A (helpful (e.state k))) (e.state m) := by
    intro m hm
    rw [← (hstays m hm).2]
    exact hcan m hm (hI m hm) (hQ m hm)
  obtain ⟨m, hm, htaken⟩ := hfair _ k hall
  rcases hstep m hm (hI m hm) (hQ m hm) (hQ (m + 1) (by omega)) with hlt | ⟨-, -, hother⟩
  · rw [(hstays m hm).1] at hlt
    exact hnot (m + 1) (by omega) hlt
  · rw [(hstays m hm).2] at hother
    exact hother htaken

/-- **Progress rule**: with a rank that helpful steps bring down, the goal is
    reached. -/
theorem eventually_of_rank [WellFoundedLT α] (rank : State → α) (helpful : State → ι)
    (hfair : ∀ i, e.Fair (A i)) {k : Nat} (hI : I (e.state k))
    (hkeep : ∀ m, k ≤ m → I (e.state m) → ¬ Q (e.state m) → ¬ Q (e.state (m + 1)) →
      I (e.state (m + 1)))
    (hcan : ∀ m, k ≤ m → I (e.state m) → ¬ Q (e.state m) →
      Can sys (A (helpful (e.state m))) (e.state m))
    (hstep : ∀ m, k ≤ m → I (e.state m) → ¬ Q (e.state m) → ¬ Q (e.state (m + 1)) →
      Progresses A rank helpful (e.state m) (e.label m) (e.state (m + 1))) :
    ∃ m, k ≤ m ∧ Q (e.state m) := by
  by_contra hnone
  have hQ : ∀ m, k ≤ m → ¬ Q (e.state m) := fun m hm hq => hnone ⟨m, hm, hq⟩
  have hall := holds_until hI hkeep hQ
  -- a rank that keeps going down: induction on the rank
  have hdescend : ∀ r, ∀ m, k ≤ m → rank (e.state m) = r → False := by
    intro r
    induction r using WellFoundedLT.induction with
    | ind r ih =>
      intro m hm hr
      obtain ⟨m', hm', hlt⟩ := rank_goes_down hfair (k := m)
        (fun j hj => hall j (by omega)) (fun j hj => hQ j (by omega))
        (fun j hj => hcan j (by omega)) (fun j hj => hstep j (by omega))
      rw [hr] at hlt
      exact ih _ hlt m' (by omega) rfl
  exact hdescend _ k le_rfl rfl

end rank

end Execution

end System

end DiscoC
