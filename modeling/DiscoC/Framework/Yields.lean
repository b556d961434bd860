import DiscoC.Framework.Ownership

/-! # Whether a routine returns, and what

  * `Mem.Yields`: a routine that is always defined, with a property of its
    result.
  * `Mem.Returns`: when a routine is defined.
  * `Mem.Alike`: two routines of which both are defined or neither is,
    wherever they start.

  Nothing is said about memory. There is one rule for each way to put
  routines together.
-/

namespace DiscoC

namespace Mem

variable {τ α β : Type}

/-- The routine returns, and `P` holds of its result. -/
def Yields (x : Mem τ α) (P : α → Prop) : Prop := x.Spec True fun a _ => P a

namespace Yields

variable {x : Mem τ α} {f : α → Mem τ β} {P P' : α → Prop} {Q : β → Prop}

theorem pure {a : α} (h : P a) : (Pure.pure a : Mem τ α).Yields P := Spec.pure h

theorem mono (h : x.Yields P) (hP : ∀ a, P a → P' a) : x.Yields P' :=
  Spec.mono h fun a _ ha => hP a ha

theorem alloc (type : τ) : (Mem.alloc type).Yields fun _ => True :=
  fun n => ⟨fun _ => ⟨n, [.alloc ⟨type, n⟩], rfl, trivial⟩, fun hn => absurd trivial hn⟩

theorem bind (hx : x.Yields P) (hf : ∀ a, P a → (f a).Yields Q) : (x >>= f).Yields Q :=
  Spec.congr (Spec.bind hx fun a _ ha => hf a ha) (and_true True).to_iff

/-- A routine has one result: two properties of it hold together. -/
theorem and (hx : x.Yields P) (hx' : x.Yields P') : x.Yields fun a => P a ∧ P' a := by
  intro n
  refine ⟨fun _ => ?_, fun hn => absurd trivial hn⟩
  obtain ⟨a, log, hrun, ha⟩ := (hx n).1 trivial
  obtain ⟨a', log', hrun', ha'⟩ := (hx' n).1 trivial
  rw [hrun] at hrun'
  obtain ⟨rfl, -⟩ := Prod.mk.inj (Option.some.inj hrun')
  exact ⟨a, log, hrun, ha, ha'⟩

/-- A property that does not depend on the result. -/
theorem const_iff {p : Prop} (hx : x.Yields P) : (x.Yields fun _ => p) ↔ p := by
  constructor
  · intro h
    obtain ⟨a, log, hrun, hp⟩ := (h 0).1 trivial
    exact hp
  · exact fun hp => hx.mono fun _ _ => hp

/-- Where the routine is known to return `g` of its result, a property of
    that is a property of the routine. -/
theorem iff_of_eq {γ : Type} {g : α → γ} {c c' : γ} (hx : x.Yields fun a => g a = c) :
    (x.Yields fun a => g a = c') ↔ c = c' := by
  refine Iff.trans ⟨fun h => ?_, fun h => ?_⟩ (const_iff hx)
  · exact (hx.and h).mono fun a ha => ha.1.symm.trans ha.2
  · exact (hx.and h).mono fun a ha => ha.1.trans ha.2

theorem unless_null {p : Option α} {f : (a : α) → p = some a → Mem τ β} {R : Option β → Prop}
    (hnone : p = none → R none) (hsome : ∀ a h, (f a h).Yields fun b => R (some b)) :
    (Mem.unless_null p f).Yields R := by
  cases p with
  | none => exact pure (hnone rfl)
  | some a => exact (hsome a rfl).bind fun b hb => pure hb

theorem each {xs : List α} {f : (a : α) → a ∈ xs → Mem τ β} {γ : Type} {g : β → γ} {h : α → γ}
    (hf : ∀ a ha, (f a ha).Yields fun b => g b = h a) :
    (Mem.each xs f).Yields fun ys => ys.map g = xs.map h := by
  induction xs with
  | nil => exact pure rfl
  | cons a xs ih =>
    refine (hf a _).bind fun b hb => ?_
    refine (ih fun a' ha' => hf a' (List.mem_cons_of_mem a ha')).bind fun ys hys => pure ?_
    rw [List.map_cons, List.map_cons, hb, hys]

end Yields

/-- The routine returns exactly when `D` holds. -/
def Returns (x : Mem τ α) (D : Prop) : Prop := x.Spec D fun _ _ => True

namespace Returns

variable {x : Mem τ α} {f : α → Mem τ β} {D D' E : Prop}

theorem of_spec {P : α → List (Event τ) → Prop} (h : x.Spec D P) : x.Returns D :=
  Spec.mono h fun _ _ _ => trivial

theorem of_yields {P : α → Prop} (h : x.Yields P) : x.Returns True := of_spec h

theorem pure (a : α) : (Pure.pure a : Mem τ α).Returns True := Spec.pure trivial

theorem undefined : (Mem.undefined : Mem τ α).Returns False := Spec.undefined

theorem alloc (type : τ) : (Mem.alloc type).Returns True := of_yields (Yields.alloc type)

theorem visit (type : τ) (b : Block τ) : (Mem.visit type b).Returns True :=
  fun _ => ⟨fun _ => ⟨(), [.visit type b], rfl, trivial⟩, fun hn => absurd trivial hn⟩

theorem congr (h : x.Returns D) (hD : D ↔ D') : x.Returns D' := Spec.congr h hD

theorem bind (hx : x.Returns D) (hf : ∀ a, (f a).Returns E) : (x >>= f).Returns (D ∧ E) :=
  Spec.bind hx fun a _ _ => hf a

/-- A routine that always returns goes first. -/
theorem seq (hx : x.Returns True) (hf : ∀ a, (f a).Returns E) : (x >>= f).Returns E :=
  (hx.bind hf).congr (iff_of_eq (true_and E))

/-- A routine that always returns goes last. -/
theorem bind_total (hx : x.Returns D) (hf : ∀ a, (f a).Returns True) : (x >>= f).Returns D :=
  (hx.bind hf).congr (iff_of_eq (and_true D))

/-- Nothing is needed if the pointer is null. -/
theorem unless_null {p : Option α} {f : (a : α) → p = some a → Mem τ β} {E : α → Prop}
    (hf : ∀ a h, (f a h).Returns (E a)) :
    (Mem.unless_null p f).Returns (∀ a, p = some a → E a) := by
  cases p with
  | none => exact (pure _).congr (by simp)
  | some a => exact ((hf a rfl).bind_total fun b => pure _).congr (by simp)

theorem each {xs : List α} {f : (a : α) → a ∈ xs → Mem τ β}
    (hf : ∀ a ha, (f a ha).Returns True) : (Mem.each xs f).Returns True := by
  induction xs with
  | nil => exact pure []
  | cons a xs ih =>
    have ih := ih fun a' ha' => hf a' (List.mem_cons_of_mem a ha')
    exact (hf a _).seq fun b => ih.seq fun ys => pure (b :: ys)

/-- A pointer that is related to another, which says when. -/
theorem unless_null₂ {γ : Type} {j : Option γ} {p : Option α} {R : γ → α → Prop} {z : α → Mem τ β}
    {E : γ → Prop} (hz : ∀ c a, R c a → (z a).Returns (E c)) (hR : Option.Rel R j p) :
    (Mem.unless_null p fun a _ => z a).Returns (∀ c, j = some c → E c) := by
  cases hR with
  | none => exact (pure _).congr (by simp)
  | some ha => exact ((hz _ _ ha).bind_total fun b => pure _).congr (by simp)

/-- Items that are related to others, which say when. -/
theorem each₂ {γ : Type} {js : List γ} {xs : List α} {R : γ → α → Prop} {z : α → Mem τ β}
    {E : γ → Prop} (hz : ∀ c a, R c a → (z a).Returns (E c)) (hR : List.Forall₂ R js xs) :
    (Mem.each xs fun a _ => z a).Returns (∀ c ∈ js, E c) := by
  induction hR with
  | nil => exact (pure []).congr (by simp)
  | cons ha _ ih =>
    have hrest := (hz _ _ ha).bind fun b => ih.bind_total fun ys => pure (b :: ys)
    exact hrest.congr (by simp)

/-- A routine returns from everywhere or from nowhere. -/
theorem run_iff (h : x.Returns D) (n : Nat) : (x.run n).isSome = true ↔ D := by
  constructor
  · intro hrun
    by_contra hD
    rw [(h n).2 hD] at hrun
    cases hrun
  · intro hD
    obtain ⟨a, log, hrun, -⟩ := (h n).1 hD
    exact Option.isSome_of_eq_some hrun

end Returns

/-- Both routines return or neither does, wherever they start. -/
def Alike (x : Mem τ α) (y : Mem τ β) : Prop :=
  ∀ n k, (x.run n).isSome = (y.run k).isSome

namespace Alike

variable {γ δ : Type} {x : Mem τ α} {y : Mem τ β} {f : α → Mem τ γ} {g : β → Mem τ δ} {D : Prop}

/-- Routines that return under the same condition. -/
theorem of_returns (hx : x.Returns D) (hy : y.Returns D) : x.Alike y := by
  intro n k
  rw [Bool.eq_iff_iff, hx.run_iff, hy.run_iff]

theorem pure (a : α) (b : β) : (Pure.pure a : Mem τ α).Alike (Pure.pure b : Mem τ β) :=
  of_returns (Returns.pure a) (Returns.pure b)

/-- One routine after the other: what the first one returns may differ. -/
theorem bind (hx : x.Alike y) (hf : ∀ a b, (f a).Alike (g b)) : (x >>= f).Alike (y >>= g) := by
  intro n k
  rw [run_bind, run_bind]
  have hfirst := hx n k
  cases hxn : x.run n with
  | none =>
    have hnone : y.run k = none := by simpa [hxn] using hfirst
    rw [hnone]
    rfl
  | some r =>
    rw [hxn] at hfirst
    obtain ⟨r', hyk⟩ := Option.isSome_iff_exists.mp hfirst.symm
    rw [hyk]
    simpa using hf r.1 r'.1 _ _

theorem unless_null {p : Option α} {f : (a : α) → p = some a → Mem τ γ}
    {g : (a : α) → p = some a → Mem τ δ} (hf : ∀ a h, (f a h).Alike (g a h)) :
    (Mem.unless_null p f).Alike (Mem.unless_null p g) := by
  cases p with
  | none => exact pure none none
  | some a => exact (hf a rfl).bind fun b c => pure (some b) (some c)

theorem each {xs : List α} {f : (a : α) → a ∈ xs → Mem τ γ} {g : (a : α) → a ∈ xs → Mem τ δ}
    (hf : ∀ a ha, (f a ha).Alike (g a ha)) : (Mem.each xs f).Alike (Mem.each xs g) := by
  induction xs with
  | nil => exact pure [] []
  | cons a xs ih =>
    have ih := ih fun a' ha' => hf a' (List.mem_cons_of_mem a ha')
    exact (hf a _).bind fun b c => ih.bind fun bs cs => pure (b :: bs) (c :: cs)

/-- A routine that returned once returns again. -/
theorem again (h : x.Alike x) {n k : Nat} (hn : (x.run n).isSome = true) :
    ∃ a log, x.run k = some (a, log) := by
  rw [h n k] at hn
  obtain ⟨r, hr⟩ := Option.isSome_iff_exists.mp hn
  exact ⟨r.1, r.2, hr⟩

end Alike

end Mem

end DiscoC
