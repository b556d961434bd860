import Mathlib.Data.List.Basic
import Mathlib.Data.List.Nodup
import Mathlib.Data.List.Perm.Basic
import Mathlib.Data.List.Count
import Mathlib.Data.List.Range

/-! # Ownership of blocks

  Routines that build, copy and give up structures made of allocated blocks.

  * `Mem`: a routine, with the log of what it does to memory. A block carries
    a tag that says what it was allocated as. Addresses are handed out in
    order, which `Mem.fresh` keeps as part of the type.
  * `Mem.Spec`: when a routine is defined, and what it then returns and logs.
  * `Owns`, `Disposes`, `Traverses`: what a routine that builds a structure,
    one that gives it up and one that only reads it do to its blocks. There is
    one rule for each way to put routines together.
  * `DestroyLaw`, `CopyLaw`: giving up what was built frees each of its
    blocks once, and reading it meets each of its structures once.
-/

namespace DiscoC

universe u

/-! ## Blocks and logs -/

/-- An allocated block with the tag it was allocated as. -/
structure Block (τ : Type) where
  type : τ
  address : Nat
  deriving DecidableEq, Repr

/-- What a routine does to memory. -/
inductive Event (τ : Type) where
  | alloc (b : Block τ)
  /-- A routine for structures of the type `routine` goes through `b`. -/
  | visit (routine : τ) (b : Block τ)
  | free (b : Block τ)
  deriving DecidableEq, Repr

variable {τ : Type}

/-- The blocks allocated. -/
def allocs (log : List (Event τ)) : List (Block τ) :=
  log.filterMap fun
    | .alloc b => some b
    | _ => none

/-- The blocks freed. -/
def frees (log : List (Event τ)) : List (Block τ) :=
  log.filterMap fun
    | .free b => some b
    | _ => none

/-- The blocks gone through, each with the type of the routine. -/
def visits (log : List (Event τ)) : List (τ × Block τ) :=
  log.filterMap fun
    | .visit routine b => some (routine, b)
    | _ => none

/-- The blocks allocated and not freed again. -/
def live [DecidableEq τ] (log : List (Event τ)) : List (Block τ) :=
  (allocs log).diff (frees log)

@[simp] theorem allocs_nil : allocs ([] : List (Event τ)) = [] := rfl
@[simp] theorem frees_nil : frees ([] : List (Event τ)) = [] := rfl
@[simp] theorem visits_nil : visits ([] : List (Event τ)) = [] := rfl

@[simp] theorem allocs_append (l l' : List (Event τ)) :
    allocs (l ++ l') = allocs l ++ allocs l' := List.filterMap_append

@[simp] theorem frees_append (l l' : List (Event τ)) :
    frees (l ++ l') = frees l ++ frees l' := List.filterMap_append

@[simp] theorem visits_append (l l' : List (Event τ)) :
    visits (l ++ l') = visits l ++ visits l' := List.filterMap_append

/-- What remains live is what was allocated beyond what was freed. -/
theorem live_perm [DecidableEq τ] {log : List (Event τ)} {own : List (Block τ)}
    (h : (frees log ++ own).Perm (allocs log)) : (live log).Perm own := by
  rw [List.perm_iff_count]
  intro b
  have hcount := h.count_eq b
  rw [List.count_append] at hcount
  rw [live, List.count_diff, ← hcount]
  omega

/-! ## Routines -/

/-- A routine: from the address of the next block to its result and its log,
    or to `none` where its behaviour is undefined. -/
@[ext]
structure Mem (τ α : Type) where
  run : Nat → Option (α × List (Event τ))
  fresh : ∀ n a log, run n = some (a, log) →
    (allocs log).map Block.address = List.range' n (allocs log).length

namespace Mem

variable {α β γ : Type}

/-- Nothing is done. -/
protected def pure (a : α) : Mem τ α where
  run _ := some (a, [])
  fresh := by
    intro n b log h
    cases h
    rfl

/-- One routine after another. -/
protected def bind (x : Mem τ α) (f : α → Mem τ β) : Mem τ β where
  run n := (x.run n).bind fun r =>
    ((f r.1).run (n + (allocs r.2).length)).map fun r' => (r'.1, r.2 ++ r'.2)
  fresh := by
    intro n b log h
    obtain ⟨⟨a, l⟩, hx, h⟩ := Option.bind_eq_some_iff.mp h
    obtain ⟨⟨c, l'⟩, hf, h⟩ := Option.map_eq_some_iff.mp h
    cases h
    rw [allocs_append, List.map_append, x.fresh n a l hx, (f a).fresh _ c l' hf,
      List.length_append, ← List.range'_append_1]

instance : Monad (Mem τ) where
  pure := Mem.pure
  bind := Mem.bind

/-- `malloc` and `calloc`: the address of the new block. -/
def alloc (type : τ) : Mem τ Nat where
  run n := some (n, [.alloc ⟨type, n⟩])
  fresh := by
    intro n a log h
    cases h
    rfl

/-- A routine for structures of the type `routine` goes through `b`. -/
def visit (routine : τ) (b : Block τ) : Mem τ Unit where
  run _ := some ((), [.visit routine b])
  fresh := by
    intro n a log h
    cases h
    rfl

/-- `free`. -/
def free (b : Block τ) : Mem τ Unit where
  run _ := some ((), [.free b])
  fresh := by
    intro n a log h
    cases h
    rfl

/-- Undefined behaviour: a read through the null pointer, or of a structure
    that was allocated as another type. -/
def undefined : Mem τ α where
  run _ := none
  fresh := by
    intro n a log h
    cases h

@[simp] theorem run_pure (a : α) (n : Nat) : (pure a : Mem τ α).run n = some (a, []) := rfl

theorem run_bind (x : Mem τ α) (f : α → Mem τ β) (n : Nat) :
    (x >>= f).run n = (x.run n).bind fun r =>
      ((f r.1).run (n + (allocs r.2).length)).map fun r' => (r'.1, r.2 ++ r'.2) := rfl

@[simp] theorem run_alloc (type : τ) (n : Nat) :
    (alloc type).run n = some (n, [.alloc ⟨type, n⟩]) := rfl

@[simp] theorem run_visit (routine : τ) (b : Block τ) (n : Nat) :
    (visit routine b).run n = some ((), [.visit routine b]) := rfl

@[simp] theorem run_free (b : Block τ) (n : Nat) : (free b).run n = some ((), [.free b]) := rfl

@[simp] theorem run_undefined (n : Nat) : (undefined : Mem τ α).run n = none := rfl

theorem pure_bind (a : α) (f : α → Mem τ β) : (pure a >>= f) = f a := by
  ext n : 2
  rw [run_bind, run_pure]
  cases h : (f a).run n <;> simp [h]

theorem bind_assoc (x : Mem τ α) (f : α → Mem τ β) (g : β → Mem τ γ) :
    (x >>= f) >>= g = x >>= fun a => f a >>= g := by
  ext n : 2
  rw [run_bind, run_bind, run_bind]
  cases hx : x.run n with
  | none => rfl
  | some r =>
    simp only [Option.bind_some, run_bind]
    cases hf : (f r.1).run (n + (allocs r.2).length) with
    | none => rfl
    | some r' => simp [Nat.add_assoc, Function.comp_def]

/-- No block is allocated twice. -/
theorem nodup_allocs {x : Mem τ α} {n : Nat} {a : α} {log : List (Event τ)}
    (h : x.run n = some (a, log)) : (allocs log).Nodup := by
  apply List.Nodup.of_map Block.address
  rw [x.fresh n a log h]
  exact List.nodup_range'

/-- The results of a routine for the items of a list, in order. -/
def each : (xs : List α) → ((x : α) → x ∈ xs → Mem τ β) → Mem τ (List β)
  | [], _ => pure []
  | x :: xs, f => do
    let y ← f x List.mem_cons_self
    let ys ← each xs fun x' h => f x' (List.mem_cons_of_mem x h)
    pure (y :: ys)

/-- A routine on what a pointer points to, unless it is null. -/
def unless_null : (p : Option α) → ((a : α) → p = some a → Mem τ β) → Mem τ (Option β)
  | none, _ => pure none
  | some a, f => do
    let b ← f a rfl
    pure (some b)

/-- A routine on a pointer declared as one to `α`, which may have been stored
    through `void *` and point to a `β`. -/
def declared (f : α → Mem τ γ) : α ⊕ β → Mem τ γ
  | .inl a => f a
  | .inr _ => undefined

/-! ## When a routine is defined, and what it does then -/

/-- `x` is defined exactly when `D` holds, and `P` holds of its result and
    its log. -/
def Spec (x : Mem τ α) (D : Prop) (P : α → List (Event τ) → Prop) : Prop :=
  ∀ n, (D → ∃ a log, x.run n = some (a, log) ∧ P a log) ∧ (¬ D → x.run n = none)

namespace Spec

variable {x : Mem τ α} {f : α → Mem τ β} {D D₁ D₂ : Prop}
  {P P' : α → List (Event τ) → Prop} {Q : β → List (Event τ) → Prop}

theorem pure {a : α} (h : P a []) : (Pure.pure a : Mem τ α).Spec True P :=
  fun _ => ⟨fun _ => ⟨a, [], rfl, h⟩, fun hn => absurd trivial hn⟩

theorem undefined : (Mem.undefined : Mem τ α).Spec False P :=
  fun _ => ⟨False.elim, fun _ => rfl⟩

theorem mono (h : x.Spec D P) (hP : ∀ a log, P a log → P' a log) : x.Spec D P' := by
  intro n
  refine ⟨fun hD => ?_, (h n).2⟩
  obtain ⟨a, log, hrun, ha⟩ := (h n).1 hD
  exact ⟨a, log, hrun, hP a log ha⟩

theorem congr (h : x.Spec D₁ P) (hD : D₁ ↔ D₂) : x.Spec D₂ P := by
  rwa [← propext hD]

/-- One routine after another is defined when both are. -/
theorem bind (hx : x.Spec D₁ P)
    (hf : ∀ a log, P a log → (f a).Spec D₂ fun b log' => Q b (log ++ log')) :
    (x >>= f).Spec (D₁ ∧ D₂) Q := by
  intro n
  rw [run_bind]
  constructor
  · intro hD
    obtain ⟨a, log, hrun, ha⟩ := (hx n).1 hD.1
    obtain ⟨b, log', hrun', hb⟩ := (hf a log ha (n + (allocs log).length)).1 hD.2
    exact ⟨b, log ++ log', by simp [hrun, hrun'], hb⟩
  · intro hD
    -- one of the two is undefined, and the first that is ends the run
    by_cases h₁ : D₁
    · obtain ⟨a, log, hrun, ha⟩ := (hx n).1 h₁
      have hnone := (hf a log ha (n + (allocs log).length)).2 fun h₂ => hD ⟨h₁, h₂⟩
      simp [hrun, hnone]
    · simp [(hx n).2 h₁]

end Spec

end Mem

/-! ## Building -/

section
variable {α β : Type} {base base' own own' : List (Block τ)} {D D₁ D₂ : Prop}

/-- From the blocks `base`, the routine builds a result that is made of the
    blocks `own`, where `R` holds of them. It is defined exactly when `D`. -/
def Owns (base : List (Block τ)) (x : Mem τ α) (D : Prop)
    (R : α → List (Block τ) → Prop) : Prop :=
  x.Spec D fun a log =>
    visits log = [] ∧ ∃ own, (frees log ++ own).Perm (base ++ allocs log) ∧ R a own

namespace Owns

variable {x : Mem τ α} {f : α → Mem τ β} {R R' : α → List (Block τ) → Prop}
  {S : β → List (Block τ) → Prop}

theorem pure {a : α} (h : own.Perm base) (hR : R a own) :
    Owns base (Pure.pure a : Mem τ α) True R :=
  Mem.Spec.pure ⟨rfl, own, by simpa using h, hR⟩

theorem congr (h : Owns base x D₁ R) (hD : D₁ ↔ D₂) : Owns base x D₂ R := Mem.Spec.congr h hD

theorem mono (h : Owns base x D R) (hR : ∀ a own, R a own → R' a own) : Owns base x D R' := by
  apply Mem.Spec.mono h
  intro a log ⟨hv, own, hperm, ha⟩
  exact ⟨hv, own, hperm, hR a own ha⟩

theorem perm_base (h : Owns base x D R) (hperm : base.Perm base') : Owns base' x D R := by
  apply Mem.Spec.mono h
  intro a log ⟨hv, own, hown, ha⟩
  exact ⟨hv, own, hown.trans (hperm.append_right _), ha⟩

/-- The frame rule: the blocks `base` are kept while `x` uses the blocks
    `base'`. -/
theorem frame_bind [DecidableEq τ] (hx : Owns base' x D₁ R)
    (hf : ∀ a own, R a own → Owns (base ++ own) (f a) D₂ S) :
    Owns (base ++ base') (x >>= f) (D₁ ∧ D₂) S := by
  refine Mem.Spec.bind hx fun a log ⟨hv, own, hperm, ha⟩ => ?_
  apply Mem.Spec.mono (hf a own ha)
  intro b log' ⟨hv', own', hperm', hb⟩
  refine ⟨by rw [visits_append, hv, hv', List.append_nil], own', ?_, hb⟩
  rw [List.perm_iff_count] at hperm hperm' ⊢
  intro c
  have h := hperm c
  have h' := hperm' c
  simp only [frees_append, allocs_append, List.count_append] at h h' ⊢
  omega

/-- What a routine builds is added to what is there. -/
theorem bind [DecidableEq τ] (hx : Owns [] x D₁ R)
    (hf : ∀ a own, R a own → Owns (base ++ own) (f a) D₂ S) :
    Owns base (x >>= f) (D₁ ∧ D₂) S := by
  have h := frame_bind hx hf
  rwa [List.append_nil] at h

/-- What a routine builds is used by the next one. -/
theorem pass [DecidableEq τ] (hx : Owns base x D₁ R)
    (hf : ∀ a own, R a own → Owns own (f a) D₂ S) : Owns base (x >>= f) (D₁ ∧ D₂) S := by
  rw [← List.nil_append base]
  exact frame_bind hx fun a own ha => by simpa using hf a own ha

/-- A routine that is always defined goes first. -/
theorem seq [DecidableEq τ] (hx : Owns [] x True R)
    (hf : ∀ a own, R a own → Owns (base ++ own) (f a) D S) : Owns base (x >>= f) D S :=
  (bind hx hf).congr (by simp)

theorem frame_seq [DecidableEq τ] (hx : Owns base' x True R)
    (hf : ∀ a own, R a own → Owns (base ++ own) (f a) D S) :
    Owns (base ++ base') (x >>= f) D S :=
  (frame_bind hx hf).congr (by simp)

/-- A routine that is always defined goes last. -/
theorem bind_total [DecidableEq τ] (hx : Owns [] x D R)
    (hf : ∀ a own, R a own → Owns (base ++ own) (f a) True S) : Owns base (x >>= f) D S :=
  (bind hx hf).congr (by simp)

theorem alloc (type : τ) :
    Owns [] (Mem.alloc type) True fun address own => own = [⟨type, address⟩] :=
  fun n => ⟨fun _ => ⟨n, _, rfl, rfl, _, List.Perm.refl _, rfl⟩, fun hn => absurd trivial hn⟩

theorem free (b : Block τ) : Owns [b] (Mem.free b) True fun _ own => own = [] :=
  fun _ => ⟨fun _ => ⟨(), _, rfl, rfl, [], List.Perm.refl _, rfl⟩, fun hn => absurd trivial hn⟩

end Owns

/-- The results `ys` for the items `xs` of a list, which are made of the
    blocks `own` together. -/
inductive Each (R : α → β → List (Block τ) → Prop) :
    List α → List β → List (Block τ) → Prop where
  | nil : Each R [] [] []
  | cons {x : α} {y : β} {xs : List α} {ys : List β} {own owns : List (Block τ)} :
      R x y own → Each R xs ys owns → Each R (x :: xs) (y :: ys) (own ++ owns)

/-- Items without blocks have no blocks together. -/
theorem Each.own_nil {xs : List α} {ys : List β}
    (h : Each (fun _ _ own => own = []) xs ys own) : own = [] := by
  induction h with
  | nil => rfl
  | cons hown _ ih => rw [hown, ih, List.append_nil]

namespace Owns

variable {x : Mem τ α}

/-- A loop builds what each of its turns builds. -/
theorem each [DecidableEq τ] {E : α → Prop} {R : α → β → List (Block τ) → Prop} :
    ∀ {xs : List α} {f : (x : α) → x ∈ xs → Mem τ β},
      (∀ x (h : x ∈ xs), Owns [] (f x h) (E x) (R x)) →
      Owns [] (Mem.each xs f) (∀ x ∈ xs, E x) (Each R xs)
  | [], _, _ => (Owns.pure (List.Perm.refl _) .nil).congr (by simp)
  | x :: xs, f, hf => by
    have hxs := each fun x' h => hf x' (List.mem_cons_of_mem x h)
    refine ((hf x List.mem_cons_self).bind fun y own hy =>
      hxs.bind_total fun ys owns hys => ?_).congr (by simp)
    exact Owns.pure (List.Perm.refl _) (.cons hy hys)

/-- A routine on what a pointer points to builds it, or nothing. -/
theorem unless_null [DecidableEq τ] {p : Option α} {f : (a : α) → p = some a → Mem τ β}
    {E : α → Prop} {R : Option β → List (Block τ) → Prop} (hnone : p = none → R none [])
    (hsome : ∀ a (h : p = some a), Owns [] (f a h) (E a) fun b own => R (some b) own) :
    Owns [] (Mem.unless_null p f) (∀ a, p = some a → E a) R := by
  cases p with
  | none => exact (Owns.pure (List.Perm.refl _) (hnone rfl)).congr (by simp)
  | some a =>
    refine ((hsome a rfl).bind_total fun b own hb => ?_).congr (by simp)
    exact Owns.pure (List.Perm.refl _) hb

end Owns

end

/-! ## Giving up and reading -/

section
variable {α β : Type} (routine : τ → Bool)

/-- The structures among the blocks, each with its type. Only types with
    `routine` have routines of their own. -/
def structs (own : List (Block τ)) : List (τ × Block τ) :=
  (own.filter fun b => routine b.type).map fun b => (b.type, b)

/-- The routine frees the blocks `own`, each once and each structure by the
    routine of its type, if and only if `G` holds. Where `G` fails, it is
    undefined or some of the blocks are `lost`. -/
def Disposes (x : Mem τ α) (own : List (Block τ)) (G : Prop) : Prop :=
  ∀ n, (x.run n = none ∧ ¬ G) ∨ ∃ a log lost, x.run n = some (a, log) ∧
    (frees log ++ lost).Perm own ∧
    (visits log ++ structs routine lost).Perm (structs routine own) ∧ (lost = [] ↔ G)

/-- The routine goes through each structure among the blocks `own` once and
    by the routine of its type, if and only if `G` holds. Where `G` fails, it
    is undefined or some of the structures are `missed`. -/
def Traverses (x : Mem τ α) (own : List (Block τ)) (G : Prop) : Prop :=
  ∀ n, (x.run n = none ∧ ¬ G) ∨ ∃ a log missed, x.run n = some (a, log) ∧
    (visits log ++ missed).Perm (structs routine own) ∧ (missed = [] ↔ G)

/-- The shape of a routine that gives up a structure: it goes through it and
    frees it last. -/
def Mem.destroying (type : τ) (address : Nat) (body : Mem τ Unit) : Mem τ Unit := do
  visit type ⟨type, address⟩
  body
  free ⟨type, address⟩

variable {routine} {own own' own₁ own₂ : List (Block τ)} {G G' G₁ G₂ : Prop}
  {x : Mem τ α} {y : Mem τ β} {f : α → Mem τ β}

@[simp] theorem structs_nil : structs routine ([] : List (Block τ)) = [] := rfl

@[simp] theorem structs_append (own own' : List (Block τ)) :
    structs routine (own ++ own') = structs routine own ++ structs routine own' := by
  simp [structs]

theorem structs_cons_of_routine {b : Block τ} (h : routine b.type = true) :
    structs routine (b :: own) = (b.type, b) :: structs routine own := by
  simp [structs, h]

theorem structs_cons_of_plain {b : Block τ} (h : routine b.type = false) :
    structs routine (b :: own) = structs routine own := by
  simp [structs, h]

theorem structs_perm (h : own.Perm own') : (structs routine own).Perm (structs routine own') :=
  (h.filter _).map _

theorem perm_append_four {δ : Type} (l₁ l₂ l₃ l₄ : List δ) :
    ((l₁ ++ l₂) ++ (l₃ ++ l₄)).Perm ((l₁ ++ l₃) ++ (l₂ ++ l₄)) := by
  rw [List.append_assoc, List.append_assoc]
  exact (List.perm_append_comm_assoc l₂ l₃ l₄).append_left l₁

namespace Disposes

theorem perm (h : Disposes routine x own G) (hperm : own.Perm own') :
    Disposes routine x own' G := by
  intro n
  rcases h n with hnone | ⟨a, log, lost, hrun, hfree, hvisit, hG⟩
  · exact .inl hnone
  · exact .inr ⟨a, log, lost, hrun, hfree.trans hperm, hvisit.trans (structs_perm hperm), hG⟩

theorem congr (h : Disposes routine x own G) (hG : G ↔ G') : Disposes routine x own G' := by
  rwa [← propext hG]

theorem pure (a : α) : Disposes routine (Pure.pure a) [] True :=
  fun _ => .inr ⟨a, [], [], rfl, .refl _, .refl _, iff_of_true rfl trivial⟩

/-- A structure read as another type is not given up. -/
theorem undefined (own : List (Block τ)) :
    Disposes routine (Mem.undefined : Mem τ α) own False :=
  fun _ => .inl ⟨rfl, not_false⟩

/-- A block that is not a structure is freed. -/
theorem free {b : Block τ} (hb : routine b.type = false) :
    Disposes routine (Mem.free b) [b] True :=
  fun _ => .inr ⟨(), _, [], rfl, .refl _, by rw [structs_cons_of_plain hb]; exact .refl _,
    iff_of_true rfl trivial⟩

/-- Two routines give up what each of them gives up. -/
theorem bind (hx : Disposes routine x own₁ G₁) (hf : ∀ a, Disposes routine (f a) own₂ G₂) :
    Disposes routine (x >>= f) (own₁ ++ own₂) (G₁ ∧ G₂) := by
  intro n
  rw [Mem.run_bind]
  rcases hx n with ⟨hrun, hG⟩ | ⟨a, log, lost, hrun, hfree, hvisit, hG⟩
  · exact .inl ⟨by rw [hrun]; rfl, fun h => hG h.1⟩
  rcases hf a (n + (allocs log).length) with
    ⟨hrun', hG'⟩ | ⟨b, log', lost', hrun', hfree', hvisit', hG'⟩
  · exact .inl ⟨by simp [hrun, hrun'], fun h => hG' h.2⟩
  refine .inr ⟨b, log ++ log', lost ++ lost', by simp [hrun, hrun'], ?_, ?_, ?_⟩
  · rw [frees_append]
    exact (perm_append_four _ _ _ _).trans (hfree.append hfree')
  · rw [visits_append, structs_append, structs_append]
    exact (perm_append_four _ _ _ _).trans (hvisit.append hvisit')
  · rw [List.append_eq_nil_iff, hG, hG']

/-- A routine that gives up all of its blocks goes first. -/
theorem seq (hx : Disposes routine x own₁ True) (hf : ∀ a, Disposes routine (f a) own₂ G) :
    Disposes routine (x >>= f) (own₁ ++ own₂) G :=
  (bind hx hf).congr (by simp)

/-- A routine that has nothing to give up goes first. -/
theorem skip (hx : Disposes routine x [] True) (hf : ∀ a, Disposes routine (f a) own G) :
    Disposes routine (x >>= f) own G :=
  seq hx hf

/-- Blocks that a routine does not free are lost. -/
theorem leak (h : Disposes routine x own₁ G) :
    Disposes routine x (own₁ ++ own₂) (G ∧ own₂ = []) := by
  intro n
  rcases h n with ⟨hrun, hG⟩ | ⟨a, log, lost, hrun, hfree, hvisit, hG⟩
  · exact .inl ⟨hrun, fun h => hG h.1⟩
  refine .inr ⟨a, log, lost ++ own₂, hrun, ?_, ?_, ?_⟩
  · rw [← List.append_assoc]
    exact hfree.append_right _
  · rw [structs_append, structs_append, ← List.append_assoc]
    exact hvisit.append_right _
  · rw [List.append_eq_nil_iff, hG]

/-- The routine of a structure gives it up with what the body gives up. -/
theorem destroying {type : τ} {address : Nat} {body : Mem τ Unit} (htype : routine type = true)
    (h : Disposes routine body own G) :
    Disposes routine (Mem.destroying type address body) (⟨type, address⟩ :: own) G := by
  intro n
  have hrun₀ : (Mem.destroying type address body).run n = (body.run n).map fun r =>
      ((), .visit type ⟨type, address⟩ :: (r.2 ++ [.free ⟨type, address⟩])) := by
    cases hbody : body.run n <;> simp [Mem.destroying, Mem.run_bind, allocs, hbody]
  rcases h n with ⟨hrun, hG⟩ | ⟨a, log, lost, hrun, hfree, hvisit, hG⟩
  · exact .inl ⟨by rw [hrun₀, hrun]; rfl, hG⟩
  refine .inr ⟨(), _, lost, by rw [hrun₀, hrun]; rfl, ?_, ?_, hG⟩
  · have hlog : frees (.visit type ⟨type, address⟩ :: (log ++ [.free ⟨type, address⟩])) =
        frees log ++ [⟨type, address⟩] := frees_append log [_]
    rw [hlog, List.append_assoc]
    exact List.perm_middle.trans (hfree.cons _)
  · have hlog : visits (.visit type ⟨type, address⟩ :: (log ++ [.free ⟨type, address⟩])) =
        (type, ⟨type, address⟩) :: visits log := by
      simp [visits]
    rw [hlog, structs_cons_of_routine htype, List.cons_append]
    exact hvisit.cons _

/-- Only the result is made of what a routine returns. -/
theorem ret (h : Disposes routine x own G) (g : α → β) :
    Disposes routine (x >>= fun a => Pure.pure (g a)) own G := by
  apply ((h.bind fun a => pure (g a)).perm _).congr (and_true G).to_iff
  rw [List.append_nil]

/-- A loop has nothing to give up when its turns have not. -/
theorem each_skips {z : α → Mem τ Unit} (hz : ∀ a, Disposes routine (z a) [] True) :
    ∀ as : List α, Disposes routine (Mem.each as fun a _ => z a) [] True
  | [] => pure []
  | a :: as => (hz a).skip fun _ => (each_skips hz as).skip fun _ => pure _

/-- A loop gives up what each of its turns gives up. -/
theorem each {E : β → Prop} {R : β → α → List (Block τ) → Prop} {z : α → Mem τ Unit}
    (hz : ∀ j a own, R j a own → Disposes routine (z a) own (E j)) {js : List β} {as : List α}
    (h : Each R js as own) :
    Disposes routine (Mem.each as fun a _ => z a) own (∀ j ∈ js, E j) := by
  induction h with
  | nil => exact (pure []).congr (by simp)
  | cons hR _ ih => exact ((hz _ _ _ hR).bind fun _ => ih.ret _).congr (by simp)

end Disposes

namespace Traverses

theorem perm (h : Traverses routine x own G) (hperm : own.Perm own') :
    Traverses routine x own' G := by
  intro n
  rcases h n with hnone | ⟨a, log, missed, hrun, hvisit, hG⟩
  · exact .inl hnone
  · exact .inr ⟨a, log, missed, hrun, hvisit.trans (structs_perm hperm), hG⟩

theorem congr (h : Traverses routine x own G) (hG : G ↔ G') : Traverses routine x own G' := by
  rwa [← propext hG]

/-- Nothing has to be done for blocks that are not structures. -/
theorem pure_plain (a : α) (h : structs routine own = []) :
    Traverses routine (Pure.pure a) own True :=
  fun _ => .inr ⟨a, [], [], rfl, by rw [h]; exact .refl _, iff_of_true rfl trivial⟩

theorem pure (a : α) : Traverses routine (Pure.pure a) [] True := pure_plain a rfl

/-- A structure read as another type is not gone through. -/
theorem undefined (own : List (Block τ)) :
    Traverses routine (Mem.undefined : Mem τ α) own False :=
  fun _ => .inl ⟨rfl, not_false⟩

/-- Allocating reads nothing. -/
theorem alloc (type : τ) : Traverses routine (Mem.alloc type) [] True :=
  fun n => .inr ⟨n, _, [], rfl, .refl _, iff_of_true rfl trivial⟩

/-- The routine of a structure goes through it. -/
theorem visit {type : τ} (address : Nat) (htype : routine type = true) :
    Traverses routine (Mem.visit type ⟨type, address⟩) [⟨type, address⟩] True :=
  fun _ => .inr ⟨(), _, [], rfl, by rw [structs_cons_of_routine htype]; exact .refl _,
    iff_of_true rfl trivial⟩

/-- Structures that a routine does not go through are missed. -/
theorem miss (h : Traverses routine x own₁ G) :
    Traverses routine x (own₁ ++ own₂) (G ∧ structs routine own₂ = []) := by
  intro n
  rcases h n with ⟨hrun, hG⟩ | ⟨a, log, missed, hrun, hvisit, hG⟩
  · exact .inl ⟨hrun, fun h => hG h.1⟩
  refine .inr ⟨a, log, missed ++ structs routine own₂, hrun, ?_, ?_⟩
  · rw [structs_append, ← List.append_assoc]
    exact hvisit.append_right _
  · rw [List.append_eq_nil_iff, hG]

/-- Two routines go through what each of them goes through. -/
theorem bind (hx : Traverses routine x own₁ G₁) (hf : ∀ a, Traverses routine (f a) own₂ G₂) :
    Traverses routine (x >>= f) (own₁ ++ own₂) (G₁ ∧ G₂) := by
  intro n
  rw [Mem.run_bind]
  rcases hx n with ⟨hrun, hG⟩ | ⟨a, log, missed, hrun, hvisit, hG⟩
  · exact .inl ⟨by rw [hrun]; rfl, fun h => hG h.1⟩
  rcases hf a (n + (allocs log).length) with
    ⟨hrun', hG'⟩ | ⟨b, log', missed', hrun', hvisit', hG'⟩
  · exact .inl ⟨by simp [hrun, hrun'], fun h => hG' h.2⟩
  refine .inr ⟨b, log ++ log', missed ++ missed', by simp [hrun, hrun'], ?_, ?_⟩
  · rw [visits_append, structs_append]
    exact (perm_append_four _ _ _ _).trans (hvisit.append hvisit')
  · rw [List.append_eq_nil_iff, hG, hG']

/-- A routine that goes through all of its structures goes first. -/
theorem seq (hx : Traverses routine x own₁ True) (hf : ∀ a, Traverses routine (f a) own₂ G) :
    Traverses routine (x >>= f) (own₁ ++ own₂) G :=
  (bind hx hf).congr (by simp)

/-- A routine that has nothing to go through goes first. -/
theorem skip (hx : Traverses routine x [] True) (hf : ∀ a, Traverses routine (f a) own G) :
    Traverses routine (x >>= f) own G :=
  seq hx hf

/-- Only the result is made of what a routine returns. -/
theorem ret (h : Traverses routine x own G) (g : α → β) :
    Traverses routine (x >>= fun a => Pure.pure (g a)) own G := by
  apply ((h.bind fun a => pure (g a)).perm _).congr (and_true G).to_iff
  rw [List.append_nil]

/-- A loop has nothing to go through when its turns have not. -/
theorem each_skips {z : α → Mem τ β} (hz : ∀ a, Traverses routine (z a) [] True) :
    ∀ as : List α, Traverses routine (Mem.each as fun a _ => z a) [] True
  | [] => pure []
  | a :: as => (hz a).skip fun _ => (each_skips hz as).skip fun _ => pure _

/-- A loop goes through what each of its turns goes through. -/
theorem each {E : β → Prop} {R : β → α → List (Block τ) → Prop} {δ : Type} {z : α → Mem τ δ}
    (hz : ∀ j a own, R j a own → Traverses routine (z a) own (E j)) {js : List β} {as : List α}
    (h : Each R js as own) :
    Traverses routine (Mem.each as fun a _ => z a) own (∀ j ∈ js, E j) := by
  induction h with
  | nil => exact (pure []).congr (by simp)
  | cons hR _ ih => exact ((hz _ _ _ hR).bind fun _ => ih.ret _).congr (by simp)

end Traverses

end

/-! ## The laws of a structure -/

section
variable {α β : Type} [DecidableEq τ] (routine : τ → Bool)

/-- Wherever it is built, the structure can be given up, which frees exactly
    the blocks that building it left allocated, each once, and takes each
    structure among them to the routine of its type. -/
def DestroyLaw (build : Mem τ α) (destroy : α → Mem τ Unit) : Prop :=
  ∀ n, ∃ a log, build.run n = some (a, log) ∧
    ∀ m, ∃ log', (destroy a).run m = some ((), log') ∧
      (frees log').Perm (live log) ∧ (frees log').Nodup ∧
      (visits log').Perm (structs routine (live log))

/-- Wherever it is built, the structure can be copied, which takes each
    structure among its blocks to the routine of its type. -/
def CopyLaw (build : Mem τ α) (copy : α → Mem τ β) : Prop :=
  ∀ n, ∃ a log, build.run n = some (a, log) ∧
    ∀ m, ∃ b log', (copy a).run m = some (b, log') ∧
      (visits log').Perm (structs routine (live log))

variable {routine} {build : Mem τ α} {destroy : α → Mem τ Unit} {copy : α → Mem τ β}
  {D G : Prop}

/-- A structure is made of the blocks that building it left allocated. -/
theorem Owns.exists_of_run {R : α → List (Block τ) → Prop} (h : Owns [] build D R) {n : Nat}
    {a : α} {log : List (Event τ)} (hrun : build.run n = some (a, log)) :
    D ∧ ∃ own, (live log).Perm own ∧ own.Nodup ∧ R a own := by
  have hD : D := by
    by_contra hD
    rw [(h n).2 hD] at hrun
    cases hrun
  refine ⟨hD, ?_⟩
  obtain ⟨a', log', hrun', -, own, hperm, hR⟩ := (h n).1 hD
  rw [hrun] at hrun'
  cases hrun'
  refine ⟨own, live_perm hperm, ?_, hR⟩
  exact (List.nodup_append.mp (hperm.nodup_iff.mpr (Mem.nodup_allocs hrun))).2.1

/-- When the blocks of a structure are given up exactly if `G`, so is it. -/
theorem destroyLaw_iff (h : Owns [] build D fun a own => Disposes routine (destroy a) own G) :
    DestroyLaw routine build destroy ↔ D ∧ G := by
  constructor
  · intro hlaw
    obtain ⟨a, log, hrun, hdestroy⟩ := hlaw 0
    obtain ⟨hD, own, hlive, -, hdisposes⟩ := h.exists_of_run hrun
    obtain ⟨log', hrun', hfree, -, -⟩ := hdestroy 0
    refine ⟨hD, ?_⟩
    rcases hdisposes 0 with ⟨hnone, -⟩ | ⟨_, log'', lost, hrun'', hperm, -, hG⟩
    · rw [hnone] at hrun'
      cases hrun'
    · rw [hrun'] at hrun''
      cases hrun''
      -- Nothing is lost, for as many blocks are freed as there are.
      have hlen := hperm.length_eq
      rw [List.length_append, (hfree.trans hlive).length_eq] at hlen
      exact hG.mp (List.length_eq_zero_iff.mp (by omega))
  · rintro ⟨hD, hG⟩ n
    obtain ⟨a, log, hrun, -⟩ := (h n).1 hD
    obtain ⟨-, own, hlive, hnodup, hdisposes⟩ := h.exists_of_run hrun
    refine ⟨a, log, hrun, fun m => ?_⟩
    rcases hdisposes m with ⟨-, hnG⟩ | ⟨_, log', lost, hrun', hfree, hvisit, hlost⟩
    · exact absurd hG hnG
    · rw [hlost.mpr hG, List.append_nil] at hfree
      rw [hlost.mpr hG, structs_nil, List.append_nil] at hvisit
      exact ⟨log', hrun', hfree.trans hlive.symm, hfree.nodup_iff.mpr hnodup,
        hvisit.trans (structs_perm hlive.symm)⟩

/-- When the structures of a structure are gone through exactly if `G`, it
    can be copied exactly then. -/
theorem copyLaw_iff (h : Owns [] build D fun a own => Traverses routine (copy a) own G) :
    CopyLaw routine build copy ↔ D ∧ G := by
  constructor
  · intro hlaw
    obtain ⟨a, log, hrun, hcopy⟩ := hlaw 0
    obtain ⟨hD, own, hlive, -, htraverses⟩ := h.exists_of_run hrun
    obtain ⟨b, log', hrun', hvisit⟩ := hcopy 0
    refine ⟨hD, ?_⟩
    rcases htraverses 0 with ⟨hnone, -⟩ | ⟨_, log'', missed, hrun'', hperm, hG⟩
    · rw [hnone] at hrun'
      cases hrun'
    · rw [hrun'] at hrun''
      cases hrun''
      -- the copy visits every structure, so the missed ones are none
      have hlen := hperm.length_eq
      rw [List.length_append, (hvisit.trans (structs_perm hlive)).length_eq] at hlen
      exact hG.mp (List.length_eq_zero_iff.mp (by omega))
  · rintro ⟨hD, hG⟩ n
    obtain ⟨a, log, hrun, -⟩ := (h n).1 hD
    obtain ⟨-, own, hlive, -, htraverses⟩ := h.exists_of_run hrun
    refine ⟨a, log, hrun, fun m => ?_⟩
    rcases htraverses m with ⟨-, hnG⟩ | ⟨b, log', missed, hrun', hvisit, hmissed⟩
    · exact absurd hG hnG
    · rw [hmissed.mpr hG, List.append_nil] at hvisit
      exact ⟨b, log', hrun', hvisit.trans (structs_perm hlive.symm)⟩

end

end DiscoC
