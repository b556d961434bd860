import Mathlib.Data.List.Basic
import Mathlib.Data.List.Infix

/-! # Labelled transition systems and their runs

  A small framework for reasoning about every finite run of a system:

  * `System`: an initial predicate and a labelled step relation.
  * `System.Run`: a state reached by a trace of labels.
  * `System.guarded`: the same system, restricted to steps that meet a
    side condition. A run of the guarded system is a run of the original
    one all of whose steps meet the condition.
  * `System.ofFn`: the system of a partial function, as for a sequential
    program that is called again and again.
  * `System.ofEnabled`: the system of a function whose labels are enabled in
    some states only, as for threads that take turns.

  A system refines another one when each of its steps is matched by at most
  one step of the other (`Reachable.simulate`).
-/

namespace DiscoC

universe u v

/-- A labelled transition system. -/
structure System (State : Type u) (Label : Type v) where
  /-- The states a run may start in. -/
  init : State → Prop
  /-- One step, with the label it is observed by. -/
  step : State → Label → State → Prop

namespace System

variable {State : Type u} {Label : Type v}

/-- `sys.Run ls s`: the labels `ls`, taken in order from an initial state,
    lead to `s`. -/
inductive Run (sys : System State Label) : List Label → State → Prop where
  /-- The empty run. -/
  | start {s : State} : sys.init s → Run sys [] s
  /-- One more step at the end. -/
  | snoc {ls : List Label} {l : Label} {s s' : State} :
      Run sys ls s → sys.step s l s' → Run sys (ls ++ [l]) s'

/-- A state that some run ends in. -/
def Reachable (sys : System State Label) (s : State) : Prop :=
  ∃ ls, sys.Run ls s

/-- The steps of `sys` that meet the condition `P` on the state before the
    step and its label. -/
def guarded (sys : System State Label) (P : State → Label → Prop) :
    System State Label where
  init := sys.init
  step := fun s l s' => P s l ∧ sys.step s l s'

/-- The system of a partial function: a label for which it returns `none`
    has no step. -/
def ofFn (s₀ : State) (f : State → Label → Option State) : System State Label where
  init := fun s => s = s₀
  step := fun s l s' => f s l = some s'

/-- The system of a function whose label `l` is enabled where `P s l` holds. -/
def ofEnabled (init : State → Prop) (P : State → Label → Prop) (f : State → Label → State) :
    System State Label where
  init := init
  step := fun s l s' => P s l ∧ s' = f s l

/-! ### Invariants -/

/-- **Invariant rule** over traces: what holds initially and is preserved by
    every step of a run holds at the end of every run. -/
theorem Run.invariant {sys : System State Label} {I : List Label → State → Prop}
    (hinit : ∀ s, sys.init s → I [] s)
    (hstep : ∀ ls l s s', sys.Run ls s → I ls s → sys.step s l s' → I (ls ++ [l]) s')
    {ls : List Label} {s : State} (hrun : sys.Run ls s) : I ls s := by
  induction hrun with
  | start h => exact hinit _ h
  | snoc hpre hs ih => exact hstep _ _ _ _ hpre ih hs

/-- **Invariant rule** for reachable states. -/
theorem Reachable.invariant {sys : System State Label} {I : State → Prop}
    (hinit : ∀ s, sys.init s → I s)
    (hstep : ∀ s l s', sys.Reachable s → I s → sys.step s l s' → I s')
    {s : State} (h : sys.Reachable s) : I s := by
  obtain ⟨ls, hrun⟩ := h
  exact Run.invariant (I := fun _ s => I s) hinit
    (fun ls l s s' hpre ih hs => hstep s l s' ⟨ls, hpre⟩ ih hs) hrun

/-- **Invariant rule** for what holds from an event on: the step that makes `A`
    true establishes `I`, and the steps after it preserve it. -/
theorem Reachable.invariant_from {sys : System State Label} {A I : State → Prop}
    (hinit : ∀ s, sys.init s → ¬ A s)
    (henter : ∀ s l s', sys.Reachable s → ¬ A s → sys.step s l s' → A s' → I s')
    (hstep : ∀ s l s', A s → I s → sys.step s l s' → I s')
    {s : State} (h : sys.Reachable s) (hs : A s) : I s := by
  refine Reachable.invariant (I := fun s => A s → I s) ?_ ?_ h hs
  · exact fun s h₀ hA => absurd hA (hinit s h₀)
  · intro s l s' hreach ih hs hA'
    by_cases hA : A s
    · exact hstep s l s' hA (ih hA) hs
    · exact henter s l s' hreach hA hs hA'

theorem Reachable.init {sys : System State Label} {s : State} (h : sys.init s) :
    sys.Reachable s :=
  ⟨[], .start h⟩

theorem Reachable.step {sys : System State Label} {s s' : State} {l : Label}
    (h : sys.Reachable s) (hs : sys.step s l s') : sys.Reachable s' := by
  obtain ⟨ls, hrun⟩ := h
  exact ⟨ls ++ [l], hrun.snoc hs⟩

/-! ### Refinement -/

/-- **Simulation rule**: when every step of `sys` from a related pair of
    states is matched by a step of `abs` or by none, every reachable state
    of `sys` is related to a reachable one of `abs`. -/
theorem Reachable.simulate {AState ALabel : Type*} {sys : System State Label}
    {abs : System AState ALabel} {R : State → AState → Prop}
    (hinit : ∀ s, sys.init s → ∃ a, abs.init a ∧ R s a)
    (hstep : ∀ s l s' a, abs.Reachable a → R s a → sys.step s l s' →
      R s' a ∨ ∃ m a', abs.step a m a' ∧ R s' a')
    {s : State} (h : sys.Reachable s) : ∃ a, abs.Reachable a ∧ R s a := by
  refine Reachable.invariant (I := fun s => ∃ a, abs.Reachable a ∧ R s a) ?_ ?_ h
  · intro s hs
    obtain ⟨a, ha, hR⟩ := hinit s hs
    exact ⟨a, .init ha, hR⟩
  · rintro s l s' - ⟨a, ha, hR⟩ hs
    rcases hstep s l s' a ha hR hs with hR' | ⟨m, a', hm, hR'⟩
    · exact ⟨a, ha, hR'⟩
    · exact ⟨a', ha.step hm, hR'⟩

/-! ### Guarded runs -/

theorem Run.of_guarded {sys : System State Label} {P : State → Label → Prop}
    {ls : List Label} {s : State} (h : (sys.guarded P).Run ls s) : sys.Run ls s := by
  induction h with
  | start h => exact .start h
  | snoc _ hs ih => exact ih.snoc hs.2

theorem Reachable.of_guarded {sys : System State Label} {P : State → Label → Prop}
    {s : State} (h : (sys.guarded P).Reachable s) : sys.Reachable s := by
  obtain ⟨ls, hrun⟩ := h
  exact ⟨ls, hrun.of_guarded⟩

/-! ### Splitting runs -/

/-- The only run with no label is the initial one. -/
theorem run_nil {sys : System State Label} {s : State} :
    sys.Run [] s ↔ sys.init s := by
  constructor
  · intro h
    generalize hls : ([] : List Label) = ls at h
    cases h with
    | start h => exact h
    | snoc _ _ => simp at hls
  · exact .start

/-- A run that ends with a label is a run and one more step. -/
theorem run_snoc {sys : System State Label} {ls : List Label} {l : Label} {s' : State} :
    sys.Run (ls ++ [l]) s' ↔ ∃ s, sys.Run ls s ∧ sys.step s l s' := by
  constructor
  · intro h
    generalize hls : ls ++ [l] = ms at h
    cases h with
    | start _ => simp at hls
    | snoc hpre hs =>
      obtain ⟨rfl, hl⟩ := List.append_inj' hls rfl
      simp only [List.cons.injEq, and_true] at hl
      subst hl
      exact ⟨_, hpre, hs⟩
  · rintro ⟨s, hpre, hs⟩
    exact hpre.snoc hs

/-- Every prefix of a run is a run. -/
theorem Run.take {sys : System State Label} {ls pre : List Label} {s : State}
    (h : sys.Run ls s) (hpre : pre <+: ls) : ∃ t, sys.Run pre t := by
  induction h with
  | start hi =>
    rw [List.prefix_nil] at hpre
    subst hpre
    exact ⟨_, .start hi⟩
  | snoc hrun hs ih =>
    rcases List.prefix_concat_iff.mp hpre with rfl | hpre'
    · exact ⟨_, hrun.snoc hs⟩
    · exact ih hpre'

/-! ### Deterministic systems -/

/-- A run of a partial function ends in one state only. -/
theorem run_ofFn_unique {s₀ : State} {f : State → Label → Option State}
    {ls : List Label} {s t : State}
    (hs : (ofFn s₀ f).Run ls s) (ht : (ofFn s₀ f).Run ls t) : s = t := by
  induction hs generalizing t with
  | start h =>
    have ht' : t = s₀ := run_nil.mp ht
    have hs' : _ = s₀ := h
    rw [hs', ht']
  | snoc _ hstep ih =>
    obtain ⟨u, hu, hstep'⟩ := run_snoc.mp ht
    have := ih hu
    subst this
    have h1 : f _ _ = some _ := hstep
    have h2 : f _ _ = some _ := hstep'
    rw [h1] at h2
    exact Option.some.inj h2

/-- The runs of a partial function are its left folds. -/
theorem run_ofFn_iff {s₀ : State} {f : State → Label → Option State} {ls : List Label}
    {s : State} : (ofFn s₀ f).Run ls s ↔ ls.foldlM f s₀ = some s := by
  induction ls using List.reverseRecOn generalizing s with
  | nil =>
    rw [run_nil]
    constructor
    · rintro rfl
      rfl
    · intro h
      exact (Option.some.inj h).symm
  | append_singleton ls l ih =>
    rw [run_snoc, List.foldlM_append]
    constructor
    · rintro ⟨t, ht, hstep⟩
      rw [ih.mp ht]
      simpa [ofFn] using hstep
    · intro h
      obtain ⟨t, ht, hstep⟩ := Option.bind_eq_some_iff.mp h
      exact ⟨t, ih.mpr ht, by simpa [ofFn] using hstep⟩

/-- A run of a partial function goes on with labels that lead on. -/
theorem Run.append_ofFn {s₀ : State} {f : State → Label → Option State} {ls ls' : List Label}
    {s s' : State} (h : (ofFn s₀ f).Run ls s) (h' : ls'.foldlM f s = some s') :
    (ofFn s₀ f).Run (ls ++ ls') s' := by
  rw [run_ofFn_iff, List.foldlM_append, run_ofFn_iff.mp h]
  exact h'

/-- **Invariant rule** for a partial function that has a value wherever the
    invariant holds: every sequence of labels is that of a run. -/
theorem run_ofFn_total {s₀ : State} {f : State → Label → Option State}
    {I : List Label → State → Prop} (hinit : I [] s₀)
    (hstep : ∀ ls l s, I ls s → ∃ s', f s l = some s' ∧ I (ls ++ [l]) s') (ls : List Label) :
    ∃ s, (ofFn s₀ f).Run ls s ∧ I ls s := by
  induction ls using List.reverseRecOn with
  | nil => exact ⟨s₀, .start rfl, hinit⟩
  | append_singleton ls l ih =>
    obtain ⟨s, hrun, hs⟩ := ih
    obtain ⟨s', hs', hI⟩ := hstep ls l s hs
    exact ⟨s', hrun.snoc hs', hI⟩

/-- The guarded runs of a partial function are left folds, too. -/
theorem run_guarded_iff {s₀ : State} {f : State → Label → Option State}
    {P : State → Label → Prop} [∀ s l, Decidable (P s l)] {ls : List Label} {s : State} :
    ((ofFn s₀ f).guarded P).Run ls s ↔
      ls.foldlM (fun s l => if P s l then f s l else none) s₀ = some s := by
  have hstep : ∀ s l s', ((ofFn s₀ f).guarded P).step s l s' ↔
      (ofFn s₀ fun s l => if P s l then f s l else none).step s l s' := by
    intro s l s'
    show P s l ∧ f s l = some s' ↔ (if P s l then f s l else none) = some s'
    by_cases hP : P s l <;> simp [hP]
  -- the same steps, so the same runs
  rw [← run_ofFn_iff]
  constructor
  · intro h
    induction h with
    | start h => exact .start h
    | snoc _ hs ih => exact ih.snoc ((hstep _ _ _).mp hs)
  · intro h
    induction h with
    | start h => exact .start h
    | snoc _ hs ih => exact ih.snoc ((hstep _ _ _).mpr hs)

/-! ### Runs by evaluation -/

/-- The labels `ls` are enabled one after the other from `s` on. -/
def EnabledAlong (P : State → Label → Prop) (f : State → Label → State) :
    State → List Label → Prop
  | _, [] => True
  | s, l :: ls => P s l ∧ EnabledAlong P f (f s l) ls

instance decidableEnabledAlong {P : State → Label → Prop} {f : State → Label → State}
    [∀ s l, Decidable (P s l)] : ∀ s ls, Decidable (EnabledAlong P f s ls)
  | _, [] => inferInstanceAs (Decidable True)
  | s, l :: ls =>
    have := decidableEnabledAlong (P := P) (f := f) (f s l) ls
    inferInstanceAs (Decidable (P s l ∧ EnabledAlong P f (f s l) ls))

theorem EnabledAlong.mono {P P' : State → Label → Prop} {f : State → Label → State} {s : State}
    {ls : List Label} (h : EnabledAlong P f s ls) (hP : ∀ s l, P s l → P' s l) :
    EnabledAlong P' f s ls := by
  induction ls generalizing s with
  | nil => trivial
  | cons l ls ih => exact ⟨hP s l h.1, ih h.2⟩

/-- Labels that are enabled one after the other make up a run. -/
theorem Run.foldl {init : State → Prop} {P : State → Label → Prop} {f : State → Label → State}
    {pre ls : List Label} {s : State} (hs : (ofEnabled init P f).Run pre s)
    (h : EnabledAlong P f s ls) : (ofEnabled init P f).Run (pre ++ ls) (ls.foldl f s) := by
  induction ls generalizing pre s with
  | nil =>
    rw [List.append_nil]
    exact hs
  | cons l ls ih =>
    have hrun := ih (hs.snoc ⟨h.1, rfl⟩) h.2
    rw [List.append_assoc] at hrun
    exact hrun

theorem reachable_foldl {init : State → Prop} {P : State → Label → Prop} {f : State → Label → State}
    {s : State} (hs : (ofEnabled init P f).Reachable s) {ls : List Label}
    (h : EnabledAlong P f s ls) : (ofEnabled init P f).Reachable (ls.foldl f s) := by
  obtain ⟨pre, hrun⟩ := hs
  exact ⟨_, hrun.foldl h⟩

theorem reachable_foldl_guarded {init : State → Prop} {P Q : State → Label → Prop}
    {f : State → Label → State} {s : State} (hs : ((ofEnabled init P f).guarded Q).Reachable s)
    {ls : List Label} (h : EnabledAlong (fun s l => Q s l ∧ P s l) f s ls) :
    ((ofEnabled init P f).guarded Q).Reachable (ls.foldl f s) := by
  induction ls generalizing s with
  | nil => exact hs
  | cons l ls ih => exact ih (hs.step ⟨h.1.1, h.1.2, rfl⟩) h.2

/-! ### Properties of prefixes -/

/-- A property that one step keeps exactly when the step meets `P` holds all
    along a run exactly when the run is one of the guarded system. -/
theorem holds_along_iff_guarded {s₀ : State} {f : State → Label → Option State}
    {P : State → Label → Prop} {G : State → Prop} (hinit : G s₀)
    (htotal : ∀ ls l s, (ofFn s₀ f).Run ls s → ∃ s', f s l = some s')
    (hstep : ∀ ls l s s', (ofFn s₀ f).Run ls s → G s → f s l = some s' → (G s' ↔ P s l))
    (ls : List Label) :
    (∀ pre, pre <+: ls → ∀ s, (ofFn s₀ f).Run pre s → G s) ↔
      ∃ s, ((ofFn s₀ f).guarded P).Run ls s := by
  constructor
  · intro hgood
    induction ls using List.reverseRecOn with
    | nil => exact ⟨s₀, .start rfl⟩
    | append_singleton ls l ih =>
      -- the guarded run so far is a run, so both of its ends are good
      obtain ⟨s, hs⟩ := ih fun pre hpre => hgood pre (hpre.trans (List.prefix_append ls [l]))
      obtain ⟨s', hs'⟩ := htotal ls l s hs.of_guarded
      have hgs : G s := hgood ls (List.prefix_append ls [l]) s hs.of_guarded
      have hgs' : G s' := hgood _ (List.prefix_refl _) s' (hs.of_guarded.snoc hs')
      exact ⟨s', hs.snoc ⟨(hstep ls l s s' hs.of_guarded hgs hs').mp hgs', hs'⟩⟩
  · rintro ⟨s, hs⟩ pre hpre t ht
    obtain ⟨u, hu⟩ := hs.take hpre
    obtain rfl := run_ofFn_unique hu.of_guarded ht
    refine Run.invariant (I := fun _ s => G s) ?_ ?_ hu
    · rintro s rfl
      exact hinit
    · intro ls l s s' hpre' ih hs'
      exact (hstep ls l s s' hpre'.of_guarded ih hs'.2).mpr hs'.1

end System

end DiscoC
