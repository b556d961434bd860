import DiscoC.Framework.Yields

/-! # What a copy keeps

  Routines that copy a structure part by part.

  * `Mem.Ensures`: what holds of a result, if there is one.
  * `Mem.Keeps`: exactly when a routine returns, with a result that is the
    same as another value up to a projection. The parts of a structure are
    copied one after the other; what is known of the parts so far is carried
    along, until the structure is put together.
  * `Mem.Supplies`: where the addresses in a result come from.

  There is one rule for each way to put routines together.
-/

namespace DiscoC

namespace Mem

variable {τ α β γ δ : Type}

/-! ### Results -/

/-- If the routine returns, `P` holds of its result. -/
def Ensures (x : Mem τ α) (P : α → Prop) : Prop :=
  ∀ n a log, x.run n = some (a, log) → P a

/-- What the routine can return. -/
def Result (x : Mem τ α) (a : α) : Prop := ∃ n log, x.run n = some (a, log)

/-- What the routine can return when the blocks from `lo` up to `hi` are what
    it may allocate. -/
def ResultIn (x : Mem τ α) (lo hi : Nat) (a : α) : Prop :=
  ∃ n log, x.run n = some (a, log) ∧ lo ≤ n ∧ n + (allocs log).length ≤ hi

theorem ResultIn.result {x : Mem τ α} {lo hi : Nat} {a : α} (h : x.ResultIn lo hi a) :
    x.Result a := by
  obtain ⟨n, log, hrun, -⟩ := h
  exact ⟨n, log, hrun⟩

theorem ResultIn.le {x : Mem τ α} {lo hi : Nat} {a : α} (h : x.ResultIn lo hi a) : lo ≤ hi := by
  obtain ⟨n, log, -, hlo, hhi⟩ := h
  omega

namespace Ensures

variable {x : Mem τ α} {f : α → Mem τ β} {P P' : α → Prop} {Q : β → Prop}

theorem result (x : Mem τ α) : x.Ensures x.Result := fun n _ log hrun => ⟨n, log, hrun⟩

theorem pure {a : α} (h : P a) : (Pure.pure a : Mem τ α).Ensures P := by
  intro n b log hrun
  cases hrun
  exact h

theorem any (x : Mem τ α) : x.Ensures fun _ => True := fun _ _ _ _ => trivial

theorem mono (h : x.Ensures P) (hP : ∀ a, P a → P' a) : x.Ensures P' :=
  fun n a log hrun => hP a (h n a log hrun)

theorem and (h : x.Ensures P) (h' : x.Ensures P') : x.Ensures fun a => P a ∧ P' a :=
  fun n a log hrun => ⟨h n a log hrun, h' n a log hrun⟩

theorem of_spec {D : Prop} {R : α → List (Event τ) → Prop} (h : x.Spec D R)
    (hR : ∀ a log, R a log → P a) : x.Ensures P := by
  intro n a log hrun
  by_cases hD : D
  · obtain ⟨a', log', hrun', ha⟩ := (h n).1 hD
    rw [hrun] at hrun'
    cases hrun'
    exact hR a log ha
  · rw [(h n).2 hD] at hrun
    cases hrun

theorem bind (hx : x.Ensures P) (hf : ∀ a, P a → (f a).Ensures Q) : (x >>= f).Ensures Q := by
  intro n b log hrun
  rw [run_bind] at hrun
  obtain ⟨⟨a, l⟩, hx', hrun⟩ := Option.bind_eq_some_iff.mp hrun
  obtain ⟨⟨c, l'⟩, hf', hrun⟩ := Option.map_eq_some_iff.mp hrun
  cases hrun
  exact hf a (hx n a l hx') _ c l' hf'

/-- A routine whose result does not matter goes first. -/
theorem skip (hf : ∀ a, (f a).Ensures Q) : (x >>= f).Ensures Q :=
  (any x).bind fun a _ => hf a

theorem unless_null {p : Option α} {f : (a : α) → p = some a → Mem τ β} {R : Option β → Prop}
    (hnone : p = none → R none) (hsome : ∀ a h, (f a h).Ensures fun b => R (some b)) :
    (Mem.unless_null p f).Ensures R := by
  cases p with
  | none => exact pure (hnone rfl)
  | some a => exact (hsome a rfl).bind fun b hb => pure hb

/-- A pointer is related to what it was decoded from. -/
theorem pointer {p : Option α} {f : (a : α) → p = some a → Mem τ β} {R : α → β → Prop}
    (hf : ∀ a h, (f a h).Ensures (R a)) : (Mem.unless_null p f).Ensures (Option.Rel R p) := by
  refine unless_null (fun h => ?_) fun a h => (hf a h).mono fun b hb => ?_
  · rw [h]
    exact .none
  · rw [h]
    exact .some hb

/-- Item by item. -/
theorem each {xs : List α} {f : (a : α) → a ∈ xs → Mem τ β} {R : α → β → Prop}
    (hf : ∀ a ha, (f a ha).Ensures (R a)) : (Mem.each xs f).Ensures (List.Forall₂ R xs) := by
  induction xs with
  | nil => exact pure .nil
  | cons a xs ih =>
    have ih := ih fun a' ha' => hf a' (List.mem_cons_of_mem a ha')
    exact (hf a _).bind fun b hb => ih.bind fun ys hys => pure (.cons hb hys)

end Ensures

/-- A routine yields what it ensures when it returns at all. -/
theorem Yields.of_ensures {x : Mem τ α} {P : α → Prop} (hx : x.Returns True) (h : x.Ensures P) :
    x.Yields P := by
  intro n
  refine ⟨fun _ => ?_, fun hn => absurd trivial hn⟩
  obtain ⟨a, log, hrun, -⟩ := (hx n).1 trivial
  exact ⟨a, log, hrun, h n a log hrun⟩

/-! ### Copies -/

/-- The routine returns a result that `g` takes to `c` exactly when `E`
    holds. -/
def Keeps (x : Mem τ α) (g : α → γ) (c : γ) (E : Prop) : Prop :=
  ∀ n, (∃ a log, x.run n = some (a, log) ∧ g a = c) ↔ E

namespace Keeps

variable {x : Mem τ α} {f : α → Mem τ β} {g : α → γ} {g' : β → δ} {c : γ} {c' : δ}
  {E E₁ E₂ K : Prop}

theorem congr (h : x.Keeps g c E₁) (hE : E₁ ↔ E₂) : x.Keeps g c E₂ := by
  rwa [← propext hE]

/-- There is one condition for a result to be the same. -/
theorem unique (h₁ : x.Keeps g c E₁) (h₂ : x.Keeps g c E₂) : E₁ ↔ E₂ := (h₁ 0).symm.trans (h₂ 0)

theorem pure (a : α) : (Pure.pure a : Mem τ α).Keeps g c (g a = c) := by
  intro n
  constructor
  · intro h
    obtain ⟨b, log, hrun, hb⟩ := h
    cases hrun
    exact hb
  · exact fun h => ⟨a, [], rfl, h⟩

/-- A copy that is always made. -/
theorem yields_iff (h : x.Keeps g c E) : (x.Yields fun a => g a = c) ↔ E := by
  constructor
  · intro hx
    exact (h 0).mp ((hx 0).1 trivial)
  · intro hE n
    exact ⟨fun _ => (h n).mpr hE, fun hn => absurd trivial hn⟩

/-- No result is the same. -/
theorem never (h : x.Ensures fun a => g a ≠ c) : x.Keeps g c False := by
  intro n
  refine iff_of_false ?_ not_false
  intro hrun
  obtain ⟨a, log, hrun, ha⟩ := hrun
  exact h n a log hrun ha

/-- The end of a copy: `K` says of the parts what `g` says of the whole. -/
theorem ret {a : α} (h : g a = c ↔ K) : (Pure.pure a : Mem τ α).Keeps g c K :=
  (pure a).congr h

/-- **A part is copied**, where `K` is known of the parts before it. That it
    is the same is known of the parts after it. -/
theorem bind_of (hx : K → x.Keeps g c E₁) (hf : ∀ a, (f a).Keeps g' c' ((K ∧ g a = c) ∧ E₂)) :
    (x >>= f).Keeps g' c' (K ∧ (E₁ ∧ E₂)) := by
  intro n
  rw [run_bind]
  constructor
  · intro h
    obtain ⟨b, log, hrun, hb⟩ := h
    obtain ⟨⟨a, l⟩, hx', hrun⟩ := Option.bind_eq_some_iff.mp hrun
    obtain ⟨⟨b', l'⟩, hf', hrun⟩ := Option.map_eq_some_iff.mp hrun
    cases hrun
    obtain ⟨⟨hK, ha⟩, h₂⟩ := (hf a _).mp ⟨b', l', hf', hb⟩
    exact ⟨hK, (hx hK n).mp ⟨a, l, hx', ha⟩, h₂⟩
  · intro h
    obtain ⟨hK, h₁, h₂⟩ := h
    -- the rest is run with the addresses that the part has left
    obtain ⟨a, l, hx', ha⟩ := (hx hK n).mpr h₁
    obtain ⟨b, l', hf', hb⟩ := (hf a (n + (allocs l).length)).mpr ⟨⟨hK, ha⟩, h₂⟩
    exact ⟨b, l ++ l', by simp [hx', hf'], hb⟩

theorem bind (hx : x.Keeps g c E₁) (hf : ∀ a, (f a).Keeps g' c' ((K ∧ g a = c) ∧ E₂)) :
    (x >>= f).Keeps g' c' (K ∧ (E₁ ∧ E₂)) :=
  bind_of (fun _ => hx) hf

/-- A part that is always the same. -/
theorem bind_all (hx : x.Keeps g c True) (hf : ∀ a, (f a).Keeps g' c' ((K ∧ g a = c) ∧ E)) :
    (x >>= f).Keeps g' c' (K ∧ E) :=
  (hx.bind hf).congr (by rw [true_and])

/-- The last part. -/
theorem last (hx : x.Keeps g c E) (hf : ∀ a, (f a).Keeps g' c' (K ∧ g a = c)) :
    (x >>= f).Keeps g' c' (K ∧ E) :=
  (hx.bind fun a => (hf a).congr (and_true _).to_iff.symm).congr (by rw [and_true])

/-- Nothing has been copied so far. -/
theorem start (h : x.Keeps g c (True ∧ E)) : x.Keeps g c E := h.congr (true_and E).to_iff

/-- A routine that copies nothing goes first. -/
theorem skip (hx : x.Returns True) (hf : ∀ a, (f a).Keeps g' c' E) : (x >>= f).Keeps g' c' E := by
  intro n
  obtain ⟨a, l, hx', -⟩ := (hx n).1 trivial
  rw [← hf a (n + (allocs l).length), run_bind, hx']
  constructor
  · intro h
    obtain ⟨b, log, hrun, hb⟩ := h
    obtain ⟨⟨b', l'⟩, hf', hrun⟩ := Option.map_eq_some_iff.mp hrun
    cases hrun
    exact ⟨b', l', hf', hb⟩
  · intro h
    obtain ⟨b, l', hf', hb⟩ := h
    exact ⟨b, l ++ l', by simp [hf'], hb⟩

/-- Nothing is kept by what is undefined. -/
theorem undefined_bind : ((Mem.undefined : Mem τ α) >>= f).Keeps g' c' False := by
  apply never
  intro n b log hrun
  cases hrun

/-- A value that is known goes first. -/
theorem value {a : α} (h : (f a).Keeps g' c' E) : (Pure.pure a >>= f).Keeps g' c' E := by
  rwa [Mem.pure_bind]

/-- **A copy of a structure** begins with a look at it and a block of its
    own. -/
theorem copying {type : τ} {b : Block τ} {f : Nat → Mem τ β}
    (hf : ∀ address, (f address).Keeps g' c' E) :
    (Mem.visit type b >>= fun _ => Mem.alloc type >>= f).Keeps g' c' E :=
  skip (Returns.visit type b) fun _ => skip (Returns.alloc type) hf

/-- What is wrapped is the same when what is inside is, given what is known
    of that. -/
theorem map_of (hx : x.Keeps g c E) {P : α → Prop} (hP : x.Ensures P) {w : α → β}
    (hw : ∀ a, P a → (g' (w a) = c' ↔ g a = c)) :
    (x >>= fun a => Pure.pure (w a)).Keeps g' c' E := by
  intro n
  rw [← hx n, run_bind]
  constructor
  · intro h
    obtain ⟨b, log, hrun, hb⟩ := h
    obtain ⟨⟨a, l⟩, hx', hrun⟩ := Option.bind_eq_some_iff.mp hrun
    cases hrun
    exact ⟨a, l, hx', (hw a (hP n a l hx')).mp hb⟩
  · intro h
    obtain ⟨a, l, hx', ha⟩ := h
    exact ⟨w a, l ++ [], by simp [hx'], (hw a (hP n a l hx')).mpr ha⟩

theorem map (hx : x.Keeps g c E) {w : α → β} (hw : ∀ a, g' (w a) = c' ↔ g a = c) :
    (x >>= fun a => Pure.pure (w a)).Keeps g' c' E :=
  hx.map_of (Ensures.any x) fun a _ => hw a

theorem unless_null {p : Option α} {f : (a : α) → p = some a → Mem τ β} {g : β → γ}
    {h : α → γ} {E : α → Prop} (hf : ∀ a ha, (f a ha).Keeps g (h a) (E a)) :
    (Mem.unless_null p f).Keeps (Option.map g) (p.map h) (∀ a, p = some a → E a) := by
  cases p with
  | none => exact (pure none).congr (iff_of_true rfl fun a ha => nomatch ha)
  | some a =>
    refine ((hf a rfl).map fun b => ?_).congr ?_
    · simp
    · simp

/-- The same, where the pointer is related to another that says when. -/
theorem unless_null₂ {j : Option δ} {p : Option α} {R : δ → α → Prop} {z : α → Mem τ β}
    {g : β → γ} {h : α → γ} {E : δ → Prop} (hf : ∀ j a, R j a → (z a).Keeps g (h a) (E j))
    (hR : Option.Rel R j p) :
    (Mem.unless_null p fun a _ => z a).Keeps (Option.map g) (p.map h)
      (∀ j', j = some j' → E j') := by
  cases hR with
  | none => exact (pure none).congr (by simp)
  | some ha =>
    refine ((hf _ _ ha).map fun b => ?_).congr ?_
    · simp
    · simp

/-- A loop keeps its items when each turn keeps its own, where the items
    are related to others that say when. -/
theorem each₂ {js : List δ} {xs : List α} {R : δ → α → Prop} {z : α → Mem τ β} {g : β → γ}
    {h : α → γ} {E : δ → Prop} (hf : ∀ j a, R j a → (z a).Keeps g (h a) (E j))
    (hR : List.Forall₂ R js xs) :
    (Mem.each xs fun a _ => z a).Keeps (List.map g) (xs.map h) (∀ j ∈ js, E j) := by
  induction hR with
  | nil => exact (pure []).congr (by simp)
  | cons ha _ ih =>
    refine (bind (K := True) (hf _ _ ha) fun b => ih.last fun ys => ret ?_).congr ?_
    · simp
    · simp

end Keeps

/-! ### Addresses -/

/-- The addresses `p` of a result are in `base`, or of blocks the routine
    allocates. -/
def Supplies (base : List Nat) (x : Mem τ α) (p : α → List Nat) : Prop :=
  ∀ n a log, x.run n = some (a, log) →
    ∀ q ∈ p a, q ∈ base ∨ n ≤ q ∧ q < n + (allocs log).length

namespace Supplies

variable {x : Mem τ α} {f : α → Mem τ β} {base : List Nat} {p : α → List Nat} {p' : β → List Nat}

theorem pure {a : α} (h : ∀ q ∈ p a, q ∈ base) : Supplies base (Pure.pure a : Mem τ α) p := by
  intro n b log hrun q hq
  cases hrun
  exact .inl (h q hq)

theorem alloc (type : τ) : Supplies [] (Mem.alloc type) fun address => [address] := by
  intro n a log hrun q hq
  cases hrun
  rw [List.mem_singleton.mp hq]
  exact .inr ⟨Nat.le_refl n, Nat.lt_succ_self n⟩

/-- The addresses of one result are at hand for what comes after. -/
theorem bind (hx : Supplies [] x p) (hf : ∀ a, Supplies (base ++ p a) (f a) p') :
    Supplies base (x >>= f) p' := by
  intro n b log hrun q hq
  rw [run_bind] at hrun
  obtain ⟨⟨a, l⟩, hx', hrun⟩ := Option.bind_eq_some_iff.mp hrun
  obtain ⟨⟨c, l'⟩, hf', hrun⟩ := Option.map_eq_some_iff.mp hrun
  cases hrun
  rw [allocs_append, List.length_append]
  dsimp only at hf' ⊢
  rcases hf a _ c l' hf' q hq with hbase | hlater
  · rcases List.mem_append.mp hbase with hbase | hfirst
    · exact .inl hbase
    · rcases hx n a l hx' q hfirst with hnil | hrange
      · exact absurd hnil List.not_mem_nil
      · exact .inr (by omega)
  · exact .inr (by omega)

/-- A routine whose result holds no address goes first. -/
theorem skip (hf : ∀ a, Supplies base (f a) p') : Supplies base (x >>= f) p' := by
  have hx : Supplies [] x fun _ => [] := fun _ _ _ _ q hq => absurd hq List.not_mem_nil
  exact hx.bind fun a => by
    rw [List.append_nil]
    exact hf a

theorem unless_null {o : Option α} {f : (a : α) → o = some a → Mem τ β}
    (hf : ∀ a ha, Supplies [] (f a ha) p') :
    Supplies [] (Mem.unless_null o f) fun b => b.toList.flatMap p' := by
  cases o with
  | none => exact pure fun q hq => absurd hq List.not_mem_nil
  | some a => exact (hf a rfl).bind fun b => pure fun q hq => by simpa using hq

theorem each {xs : List α} {f : (a : α) → a ∈ xs → Mem τ β}
    (hf : ∀ a ha, Supplies [] (f a ha) p') :
    Supplies [] (Mem.each xs f) fun ys => ys.flatMap p' := by
  induction xs with
  | nil => exact pure fun q hq => absurd hq List.not_mem_nil
  | cons a xs ih =>
    refine (hf a _).bind fun b => ?_
    have ih := ih fun a' ha' => hf a' (List.mem_cons_of_mem a ha')
    refine (ih.bind fun ys => pure ?_ : Supplies _ _ _)
    intro q hq
    rw [List.flatMap_cons] at hq
    rw [List.nil_append]
    exact hq

end Supplies

end Mem

end DiscoC
