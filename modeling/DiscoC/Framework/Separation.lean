import DiscoC.Framework.Copying

/-! # What a routine frees, and where it comes from

  * `Mem.Frees`: a block that a routine may free.
  * `Mem.SurelyFrees`: a block that a routine frees whenever it is run.
  * `Mem.Brings`: where the blocks come from that a property of a result
    names. With `Frees` for the property this is separation: what is freed
    when a structure is given up was allocated when it was built.
  * `Mem.Apart`: structures of which no two have a block in common.

  There is one rule for each way to put routines together. Building and
  giving up go through the same parts, so the two are compared part by part.
-/

namespace DiscoC

namespace Mem

variable {τ α β : Type}

/-! ### Freeing -/

/-- The routine may free the block. -/
def Frees (x : Mem τ α) (b : Block τ) : Prop :=
  ∃ n a log, x.run n = some (a, log) ∧ b ∈ frees log

namespace Frees

variable {x : Mem τ α} {y : Mem τ β} {f : α → Mem τ β} {b : Block τ}

theorem not_pure {a : α} : ¬ Frees (Pure.pure a : Mem τ α) b := by
  intro h
  obtain ⟨n, c, log, hrun, hb⟩ := h
  cases hrun
  exact List.not_mem_nil hb

theorem eq_of_free {b' : Block τ} (h : Frees (Mem.free b') b) : b = b' := by
  obtain ⟨n, c, log, hrun, hb⟩ := h
  cases hrun
  exact List.mem_singleton.mp hb

theorem bind (h : Frees (x >>= f) b) : Frees x b ∨ ∃ a, Frees (f a) b := by
  obtain ⟨n, c, log, hrun, hb⟩ := h
  rw [run_bind] at hrun
  obtain ⟨⟨a, l⟩, hx, hrun⟩ := Option.bind_eq_some_iff.mp hrun
  obtain ⟨⟨c', l'⟩, hf, hrun⟩ := Option.map_eq_some_iff.mp hrun
  cases hrun
  rw [frees_append] at hb
  rcases List.mem_append.mp hb with hfirst | hlater
  · exact .inl ⟨n, a, l, hx, hfirst⟩
  · exact .inr ⟨a, _, c', l', hf, hlater⟩

/-- What comes after does not look at the result. -/
theorem seq (h : Frees (x >>= fun _ => y) b) : Frees x b ∨ Frees y b := by
  rcases h.bind with hx | hy
  · exact .inl hx
  · obtain ⟨a, hy⟩ := hy
    exact .inr hy

theorem unless_null {p : Option α} {f : (a : α) → p = some a → Mem τ β}
    (h : Frees (Mem.unless_null p f) b) : ∃ a ha, Frees (f a ha) b := by
  cases p with
  | none => exact absurd h not_pure
  | some a =>
    rcases h.bind with hf | hret
    · exact ⟨a, rfl, hf⟩
    · obtain ⟨c, hret⟩ := hret
      exact absurd hret not_pure

theorem each {xs : List α} {f : (a : α) → a ∈ xs → Mem τ β} (h : Frees (Mem.each xs f) b) :
    ∃ a ha, Frees (f a ha) b := by
  induction xs with
  | nil => exact absurd h not_pure
  | cons a xs ih =>
    rcases h.bind with hfirst | hrest
    · exact ⟨a, _, hfirst⟩
    · obtain ⟨c, hrest⟩ := hrest
      rcases hrest.bind with hlater | hret
      · obtain ⟨a', ha', hf⟩ := ih hlater
        exact ⟨a', List.mem_cons_of_mem a ha', hf⟩
      · obtain ⟨cs, hret⟩ := hret
        exact absurd hret not_pure

theorem destroying {type : τ} {address : Nat} {body : Mem τ Unit}
    (h : Frees (Mem.destroying type address body) b) : b = ⟨type, address⟩ ∨ Frees body b := by
  rcases h.seq with hvisit | hrest
  · obtain ⟨n, c, log, hrun, hb⟩ := hvisit
    cases hrun
    exact absurd hb List.not_mem_nil
  · rcases hrest.seq with hbody | hfree
    · exact .inr hbody
    · exact .inl (eq_of_free hfree)

/-- A routine frees only what it gives up. -/
theorem mem_of_disposes {routine : τ → Bool} {own : List (Block τ)} {G : Prop}
    (hd : Disposes routine x own G) (h : Frees x b) : b ∈ own := by
  obtain ⟨n, a, log, hrun, hb⟩ := h
  rcases hd n with hnone | hsome
  · rw [hnone.1] at hrun
    cases hrun
  · obtain ⟨a', log', lost, hrun', hperm, -⟩ := hsome
    rw [hrun] at hrun'
    cases hrun'
    exact hperm.subset (List.mem_append_left _ hb)

end Frees

/-- A routine that gives up all returns. -/
theorem Returns.of_disposes {routine : τ → Bool} {x : Mem τ α} {own : List (Block τ)}
    (h : Disposes routine x own True) : x.Returns True := by
  intro n
  refine ⟨fun _ => ?_, fun hn => absurd trivial hn⟩
  rcases h n with hnone | hsome
  · exact absurd trivial hnone.2
  · obtain ⟨a, log, lost, hrun, -⟩ := hsome
    exact ⟨a, log, hrun, trivial⟩

/-! ### Where blocks come from -/

/-- The blocks that `p` names for a result are in `base`, or allocated by the
    routine. -/
def Brings (base : Block τ → Prop) (x : Mem τ α) (p : α → Block τ → Prop) : Prop :=
  ∀ n a log, x.run n = some (a, log) → ∀ b, p a b → base b ∨ b ∈ allocs log

namespace Brings

variable {x : Mem τ α} {f : α → Mem τ β} {base base' : Block τ → Prop}
  {p q : α → Block τ → Prop} {p' : β → Block τ → Prop}

theorem pure {a : α} (h : ∀ b, p a b → base b) : Brings base (Pure.pure a : Mem τ α) p := by
  intro n c log hrun b hb
  cases hrun
  exact .inl (h b hb)

theorem alloc (type : τ) :
    Brings base (Mem.alloc type) fun address b => b = ⟨type, address⟩ := by
  intro n a log hrun b hb
  cases hrun
  rw [hb]
  exact .inr (List.mem_singleton_self _)

theorem undefined : Brings base (Mem.undefined : Mem τ α) p := by
  intro n a log hrun
  cases hrun

theorem mono (h : Brings base x p) (hbase : ∀ b, base b → base' b) : Brings base' x p := by
  intro n a log hrun b hb
  exact (h n a log hrun b hb).imp_left (hbase b)

theorem weaken (h : Brings base x p) (hp : ∀ a b, q a b → p a b) : Brings base x q :=
  fun n a log hrun b hb => h n a log hrun b (hp a b hb)

/-- **One part after another**: the blocks of a part are at hand for what
    comes after. -/
theorem bind_result (hx : Brings base x p)
    (hf : ∀ a, x.Result a → Brings (fun b => base b ∨ p a b) (f a) p') :
    Brings base (x >>= f) p' := by
  intro n c log hrun b hb
  rw [run_bind] at hrun
  obtain ⟨⟨a, l⟩, hx', hrun⟩ := Option.bind_eq_some_iff.mp hrun
  obtain ⟨⟨c', l'⟩, hf', hrun⟩ := Option.map_eq_some_iff.mp hrun
  cases hrun
  rw [allocs_append, List.mem_append]
  rcases hf a ⟨n, l, hx'⟩ _ c' l' hf' b hb with hat_hand | hlater
  · rcases hat_hand with hbase | hpart
    · exact .inl hbase
    · exact (hx n a l hx' b hpart).imp_right .inl
  · exact .inr (.inr hlater)

theorem bind (hx : Brings base x p) (hf : ∀ a, Brings (fun b => base b ∨ p a b) (f a) p') :
    Brings base (x >>= f) p' :=
  hx.bind_result fun a _ => hf a

/-- A routine goes first whose result has no blocks. -/
theorem skip (hf : ∀ a, Brings base (f a) p') : Brings base (x >>= f) p' := by
  have hx : Brings base x fun _ _ => False := fun _ _ _ _ _ hb => hb.elim
  exact hx.bind fun a => (hf a).mono fun _ hb => .inl hb

theorem unless_null {o : Option α} {f : (a : α) → o = some a → Mem τ β}
    (hf : ∀ a ha, Brings base (f a ha) p') :
    Brings base (Mem.unless_null o f) fun c b => ∃ a, c = some a ∧ p' a b := by
  cases o with
  | none =>
    refine pure fun b hb => ?_
    obtain ⟨a, ha, -⟩ := hb
    cases ha
  | some a =>
    refine (hf a rfl).bind fun c => pure fun b hb => ?_
    obtain ⟨c', hc', hb⟩ := hb
    cases hc'
    exact .inr hb

theorem each {xs : List α} {f : (a : α) → a ∈ xs → Mem τ β}
    (hf : ∀ a ha, Brings base (f a ha) p') :
    Brings base (Mem.each xs f) fun cs b => ∃ c ∈ cs, p' c b := by
  induction xs with
  | nil =>
    refine pure fun b hb => ?_
    obtain ⟨c, hc, -⟩ := hb
    cases hc
  | cons a xs ih =>
    have ih := ih fun a' ha' => hf a' (List.mem_cons_of_mem a ha')
    refine (hf a _).bind fun c => ?_
    refine (ih.mono fun _ hb => .inl hb).bind fun cs => pure fun b hb => ?_
    obtain ⟨c', hc', hb⟩ := hb
    rcases List.mem_cons.mp hc' with heq | hmem
    · rw [heq] at hb
      exact .inl (.inr hb)
    · exact .inr ⟨c', hmem, hb⟩

/-- A routine that builds a structure brings all that giving it up frees. -/
theorem of_owns {routine : τ → Bool} {D : Prop} {R : α → List (Block τ) → Prop}
    {destroy : α → Mem τ Unit} (h : Owns [] x D R)
    (hR : ∀ a own, R a own → ∃ G, Disposes routine (destroy a) own G) :
    Brings (fun _ => False) x fun a => Frees (destroy a) := by
  intro n a log hrun b hb
  have hD : D := by
    by_contra hD
    rw [(h n).2 hD] at hrun
    cases hrun
  obtain ⟨a', log', hrun', -, own, hperm, hown⟩ := (h n).1 hD
  rw [hrun] at hrun'
  cases hrun'
  obtain ⟨G, hdisposes⟩ := hR a own hown
  have hmem : b ∈ frees log ++ own := List.mem_append_right _ (hb.mem_of_disposes hdisposes)
  exact .inr (hperm.subset hmem)

/-- The blocks of a result that has nothing from elsewhere are in the range
    it was built in. -/
theorem address_range {lo hi : Nat} {a : α} (h : Brings (fun _ => False) x p)
    (hresult : x.ResultIn lo hi a) {b : Block τ} (hb : p a b) :
    lo ≤ b.address ∧ b.address < hi := by
  obtain ⟨n, log, hrun, hlo, hhi⟩ := hresult
  rcases h n a log hrun b hb with hnone | hmem
  · exact hnone.elim
  · have haddress : b.address ∈ (allocs log).map Block.address := List.mem_map_of_mem hmem
    rw [x.fresh n a log hrun, List.mem_range'_1] at haddress
    omega

end Brings

/-! ### Freeing for sure -/

/-- The routine returns, and has freed the block. -/
def SurelyFrees (x : Mem τ α) (b : Block τ) : Prop := x.Spec True fun _ log => b ∈ frees log

namespace SurelyFrees

variable {x : Mem τ α} {f : α → Mem τ β} {b : Block τ}

theorem frees (h : SurelyFrees x b) : Frees x b := by
  obtain ⟨a, log, hrun, hb⟩ := (h 0).1 trivial
  exact ⟨0, a, log, hrun, hb⟩

theorem free (b : Block τ) : SurelyFrees (Mem.free b) b :=
  fun _ => ⟨fun _ => ⟨(), [.free b], rfl, List.mem_singleton_self b⟩, fun h => absurd trivial h⟩

/-- What comes later returns as well. -/
theorem first (hx : SurelyFrees x b) (hf : ∀ a, (f a).Returns True) :
    SurelyFrees (x >>= f) b := by
  refine Spec.congr (Spec.bind hx fun a log hb => Spec.mono (hf a) fun c log' _ => ?_)
    (and_true True).to_iff
  rw [frees_append]
  exact List.mem_append_left _ hb

/-- What comes before returns as well. -/
theorem later (hx : x.Returns True) (hf : ∀ a, SurelyFrees (f a) b) : SurelyFrees (x >>= f) b := by
  refine Spec.congr (Spec.bind hx fun a log _ => Spec.mono (hf a) fun c log' hb => ?_)
    (and_true True).to_iff
  rw [frees_append]
  exact List.mem_append_right _ hb

theorem destroying {type : τ} {address : Nat} {body : Mem τ Unit} (h : SurelyFrees body b) :
    SurelyFrees (Mem.destroying type address body) b :=
  later (Returns.visit _ _) fun _ => h.first fun _ => Returns.of_spec (SurelyFrees.free _)

end SurelyFrees

/-! ### Structures that are apart -/

/-- No block belongs to two of the structures, and all blocks are below
    `bound`. -/
structure Apart (bound : Nat) (own : List (Block τ → Prop)) : Prop where
  disjoint : own.Pairwise fun p q => ∀ b, p b → ¬ q b
  below : ∀ p ∈ own, ∀ b, p b → b.address < bound

namespace Apart

variable {lo hi : Nat} {own : List (Block τ → Prop)}

theorem nil : Apart lo ([] : List (Block τ → Prop)) :=
  ⟨List.Pairwise.nil, fun _ hp => absurd hp List.not_mem_nil⟩

theorem mono (h : Apart lo own) (hle : lo ≤ hi) : Apart hi own :=
  ⟨h.disjoint, fun p hp b hb => Nat.lt_of_lt_of_le (h.below p hp b hb) hle⟩

/-- **A structure in new blocks** is apart from those before. -/
theorem add (h : Apart lo own) (hle : lo ≤ hi) {p : Block τ → Prop}
    (hp : ∀ b, p b → lo ≤ b.address ∧ b.address < hi) : Apart hi (own ++ [p]) where
  disjoint := by
    rw [List.pairwise_append]
    refine ⟨h.disjoint, List.pairwise_singleton _ _, ?_⟩
    intro q hq r hr b hb hr'
    rw [List.mem_singleton.mp hr] at hr'
    have hold := h.below q hq b hb
    have hnew := hp b hr'
    omega
  below := by
    intro q hq b hb
    rcases List.mem_append.mp hq with hold | hnew
    · have hlt := h.below q hold b hb
      omega
    · rw [List.mem_singleton.mp hnew] at hb
      exact (hp b hb).2

end Apart

end Mem

end DiscoC
