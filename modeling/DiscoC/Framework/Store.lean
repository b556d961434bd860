import Mathlib.Data.List.Basic
import Mathlib.Data.List.Nodup

/-! # Blocks of memory and linked lists in them

  A small heap for programs in the style of C:

  * `Store`: the blocks of one type, allocated by position. A freed block
    stays marked and its address is never handed out again, so that a use
    after free and a double free both show as `none`.
  * `Store.Seg`: the blocks on the way from one pointer to another along a
    `next` field, with what each of them carries.

  A list that ends in the null pointer is unique and visits no block twice.
-/

namespace DiscoC

universe u v

/-! ## Blocks -/

/-- The blocks of one type. The address of a block is its position; `none`
    marks a block that has been freed. -/
structure Store (α : Type u) where
  cells : List (Option α)

namespace Store

variable {α : Type u}

/-- No block has been allocated. -/
def empty : Store α := ⟨[]⟩

/-- The address of the next block. -/
def next (m : Store α) : Nat := m.cells.length

/-- The store once the block at `m.next` is allocated and filled. -/
def alloc (m : Store α) (a : α) : Store α := ⟨m.cells ++ [some a]⟩

/-- Read a block; `none` when it is not allocated or has been freed. -/
def load (m : Store α) (p : Nat) : Option α := m.cells[p]?.join

/-- Overwrite a block, whether it is live or not. -/
def put (m : Store α) (p : Nat) (a : α) : Store α := ⟨m.cells.set p (some a)⟩

/-- Mark a block as freed, whether it is live or not. -/
def erase (m : Store α) (p : Nat) : Store α := ⟨m.cells.set p none⟩

/-- Write to a live block. -/
def store (m : Store α) (p : Nat) (a : α) : Option (Store α) :=
  (m.load p).map fun _ => m.put p a

/-- Free a live block. -/
def free (m : Store α) (p : Nat) : Option (Store α) :=
  (m.load p).map fun _ => m.erase p

@[simp] theorem load_empty (p : Nat) : (empty : Store α).load p = none := by
  simp [empty, load]

@[simp] theorem next_empty : (empty : Store α).next = 0 := rfl

@[simp] theorem next_alloc (m : Store α) (a : α) : (m.alloc a).next = m.next + 1 := by
  simp [alloc, next]

@[simp] theorem next_put (m : Store α) (p : Nat) (a : α) : (m.put p a).next = m.next := by
  simp [put, next]

@[simp] theorem next_erase (m : Store α) (p : Nat) : (m.erase p).next = m.next := by
  simp [erase, next]

/-- Only allocated blocks can be read. -/
theorem load_lt {m : Store α} {p : Nat} {a : α} (h : m.load p = some a) : p < m.next := by
  by_contra hge
  have hlen : m.cells.length ≤ p := Nat.le_of_not_lt hge
  simp [load, List.getElem?_eq_none hlen] at h

theorem load_alloc (m : Store α) (a : α) (p : Nat) :
    (m.alloc a).load p = if p = m.next then some a else m.load p := by
  unfold load alloc next
  by_cases hp : p = m.cells.length
  · simp [hp]
  · rw [if_neg hp]
    rcases Nat.lt_or_gt_of_ne hp with hlt | hgt
    · rw [List.getElem?_append_left hlt]
    · rw [List.getElem?_eq_none (by simp; omega), List.getElem?_eq_none (by omega)]

@[simp] theorem load_alloc_next (m : Store α) (a : α) : (m.alloc a).load m.next = some a := by
  simp [load_alloc]

/-- Allocation does not disturb a live block. -/
theorem load_alloc_of_live {m : Store α} {p : Nat} {b : α} (h : m.load p = some b) (a : α) :
    (m.alloc a).load p = some b := by
  rw [load_alloc, if_neg (Nat.ne_of_lt (load_lt h)), h]

theorem load_put {m : Store α} {p : Nat} {b : α} (h : m.load p = some b) (a : α) (q : Nat) :
    (m.put p a).load q = if q = p then some a else m.load q := by
  have hlt : p < m.cells.length := load_lt h
  unfold load put
  by_cases hq : q = p
  · subst hq
    simp [hlt]
  · simp [hq, List.getElem?_set_ne (Ne.symm hq)]

theorem load_erase (m : Store α) (p q : Nat) :
    (m.erase p).load q = if q = p then none else m.load q := by
  unfold load erase
  by_cases hq : q = p
  · subst hq
    by_cases hlt : q < m.cells.length
    · simp [hlt]
    · simp [Nat.le_of_not_lt hlt]
  · simp [hq, List.getElem?_set_ne (Ne.symm hq)]

theorem isSome_load_alloc (m : Store α) (a : α) (p : Nat) :
    ((m.alloc a).load p).isSome ↔ p = m.next ∨ (m.load p).isSome := by
  rw [load_alloc]
  by_cases hp : p = m.next
  · simp [hp]
  · simp [hp]

theorem isSome_load_put {m : Store α} {p : Nat} {b : α} (h : m.load p = some b) (a : α) (q : Nat) :
    ((m.put p a).load q).isSome ↔ (m.load q).isSome := by
  rw [load_put h]
  by_cases hq : q = p
  · simp [hq, h]
  · simp [hq]

theorem store_of_live {m : Store α} {p : Nat} {b : α} (h : m.load p = some b) (a : α) :
    m.store p a = some (m.put p a) := by
  simp [store, h]

theorem free_of_live {m : Store α} {p : Nat} {b : α} (h : m.load p = some b) :
    m.free p = some (m.erase p) := by
  simp [free, h]

theorem free_eq_some {m m' : Store α} {p : Nat} (h : m.free p = some m') : m' = m.erase p := by
  cases hload : m.load p with
  | none => simp [free, hload] at h
  | some b =>
    rw [free_of_live hload] at h
    exact (Option.some.inj h).symm

/-- The addresses of the live blocks, in order of allocation. -/
def live (m : Store α) : List Nat :=
  (List.range m.next).filter fun p => (m.load p).isSome

theorem mem_live {m : Store α} {p : Nat} : p ∈ m.live ↔ ∃ a, m.load p = some a := by
  unfold live
  rw [List.mem_filter, List.mem_range, Option.isSome_iff_exists]
  constructor
  · exact fun h => h.2
  · rintro ⟨a, ha⟩
    exact ⟨load_lt ha, a, ha⟩

theorem next_notMem_live (m : Store α) : m.next ∉ m.live := by
  intro h
  obtain ⟨a, ha⟩ := mem_live.mp h
  exact absurd (load_lt ha) (Nat.lt_irrefl _)

/-- A new block comes last. -/
theorem live_alloc (m : Store α) (a : α) : (m.alloc a).live = m.live ++ [m.next] := by
  unfold live
  rw [next_alloc, List.range_succ, List.filter_append]
  congr 1
  · refine List.filter_congr fun p hp => ?_
    rw [load_alloc, if_neg (Nat.ne_of_lt (List.mem_range.mp hp))]
  · simp

theorem live_erase (m : Store α) (p : Nat) : (m.erase p).live = m.live.filter (· != p) := by
  unfold live
  rw [next_erase, List.filter_filter]
  refine List.filter_congr fun q _ => ?_
  rw [load_erase]
  by_cases hq : q = p
  · simp [hq]
  · simp [hq]

theorem live_put {m : Store α} {p : Nat} {b : α} (h : m.load p = some b) (a : α) :
    (m.put p a).live = m.live := by
  unfold live
  rw [next_put]
  refine List.filter_congr fun q _ => ?_
  rw [Bool.eq_iff_iff]
  exact isSome_load_put h a q

end Store

/-! ## Linked lists -/

section linked

variable {ν : Type u} {π : Type v} (pay : ν → π) (next : ν → Option Nat)

/-- `Seg pay next m h l t`: the pointer `h` leads to the pointer `t` through
    the blocks of `l`, each given with its address and its payload. -/
inductive Store.Seg (m : Store ν) : Option Nat → List (Nat × π) → Option Nat → Prop where
  /-- No block on the way. -/
  | nil (t : Option Nat) : Seg m t [] t
  /-- One block, and the way from its `next` pointer. -/
  | cons {p : Nat} {v : ν} {l : List (Nat × π)} {t : Option Nat} :
      m.load p = some v → Seg m (next v) l t → Seg m (some p) ((p, pay v) :: l) t

namespace Store.Seg

variable {pay next} {m : Store ν} {h t : Option Nat} {l l₁ l₂ : List (Nat × π)}

theorem eq_of_nil (hs : Seg pay next m h [] t) : h = t := by
  cases hs
  rfl

/-- One more block in front, given its payload. -/
theorem of_load {p : Nat} {v : ν} {a : π} (hload : m.load p = some v) (hpay : pay v = a)
    (hs : Seg pay next m (next v) l t) : Seg pay next m (some p) ((p, a) :: l) t :=
  hpay ▸ .cons hload hs

/-- The first block of a nonempty list. -/
theorem inv_cons {p : Nat} {a : π} (hs : Seg pay next m h ((p, a) :: l) t) :
    ∃ v, h = some p ∧ m.load p = some v ∧ pay v = a ∧ Seg pay next m (next v) l t := by
  cases hs with
  | cons hload hrest => exact ⟨_, rfl, hload, rfl, hrest⟩

/-- A list leads on through what follows it. -/
theorem append {u : Option Nat} (h₁ : Seg pay next m h l₁ u) (h₂ : Seg pay next m u l₂ t) :
    Seg pay next m h (l₁ ++ l₂) t := by
  induction h₁ with
  | nil _ => exact h₂
  | cons hload _ ih => exact .cons hload (ih h₂)

/-- A list can be cut anywhere. -/
theorem split (hs : Seg pay next m h (l₁ ++ l₂) t) :
    ∃ u, Seg pay next m h l₁ u ∧ Seg pay next m u l₂ t := by
  induction l₁ generalizing h with
  | nil => exact ⟨h, .nil h, hs⟩
  | cons b l₁ ih =>
    obtain ⟨p, a⟩ := b
    obtain ⟨v, rfl, hload, rfl, hrest⟩ := inv_cons hs
    obtain ⟨u, h₁, h₂⟩ := ih hrest
    exact ⟨u, .cons hload h₁, h₂⟩

/-- Every block of a list is live and carries its payload. -/
theorem load_of_mem {p : Nat} {a : π} (hs : Seg pay next m h l t) (hmem : (p, a) ∈ l) :
    ∃ v, m.load p = some v ∧ pay v = a := by
  induction hs with
  | nil _ => cases hmem
  | cons hload _ ih =>
    rcases List.mem_cons.mp hmem with heq | hmem
    · obtain ⟨rfl, rfl⟩ := Prod.mk.inj heq
      exact ⟨_, hload, rfl⟩
    · exact ih hmem

/-- **Frame**: a list does not notice changes outside its own blocks. -/
theorem frame {m' : Store ν} (hs : Seg pay next m h l t)
    (hsame : ∀ p ∈ l.map Prod.fst, m'.load p = m.load p) : Seg pay next m' h l t := by
  induction hs with
  | nil t => exact .nil t
  | @cons p v l t hload _ ih =>
    rw [List.map_cons, List.forall_mem_cons] at hsame
    exact .cons (hsame.1.trans hload) (ih hsame.2)

theorem frame_alloc (hs : Seg pay next m h l t) (v : ν) : Seg pay next (m.alloc v) h l t := by
  refine hs.frame fun p hp => ?_
  obtain ⟨⟨q, a⟩, hmem, rfl⟩ := List.mem_map.mp hp
  obtain ⟨b, hload, -⟩ := hs.load_of_mem hmem
  exact (load_alloc_of_live hload v).trans hload.symm

theorem frame_put (hs : Seg pay next m h l t) {p : Nat} {b : ν} (hload : m.load p = some b)
    (hp : p ∉ l.map Prod.fst) (v : ν) : Seg pay next (m.put p v) h l t :=
  hs.frame fun q hq => by rw [load_put hload, if_neg (by rintro rfl; exact hp hq)]

theorem frame_erase (hs : Seg pay next m h l t) {p : Nat} (hp : p ∉ l.map Prod.fst) :
    Seg pay next (m.erase p) h l t :=
  hs.frame fun q hq => by rw [load_erase, if_neg (by rintro rfl; exact hp hq)]

/-- The last block of a list is linked to something else. -/
theorem relink {p : Nat} {a : π} {v v' : ν} (hs : Seg pay next m h (l ++ [(p, a)]) t)
    (hp : p ∉ l.map Prod.fst) (hload : m.load p = some v) (hpay : pay v' = pay v) :
    Seg pay next (m.put p v') h (l ++ [(p, a)]) (next v') := by
  obtain ⟨u, hl, hlast⟩ := hs.split
  obtain ⟨w, rfl, hw, rfl, -⟩ := hlast.inv_cons
  obtain rfl := Option.some.inj (hload.symm.trans hw)
  have hnew : (m.put p v').load p = some v' := by rw [load_put hload, if_pos rfl]
  exact (hl.frame_put hload hp v').append (.of_load hnew hpay (.nil _))

/-- The null-terminated list from a pointer is unique. -/
theorem unique {l' : List (Nat × π)} (hs : Seg pay next m h l none)
    (hs' : Seg pay next m h l' none) : l = l' := by
  induction l generalizing h l' with
  | nil =>
    obtain rfl := eq_of_nil hs
    cases hs'
    rfl
  | cons b l ih =>
    obtain ⟨p, a⟩ := b
    obtain ⟨v, rfl, hload, rfl, hrest⟩ := inv_cons hs
    cases hs' with
    | cons hload' hrest' =>
      obtain rfl := Option.some.inj (hload.symm.trans hload')
      rw [ih hrest hrest']

/-- A null-terminated list is acyclic: it visits no block twice. -/
theorem nodup (hs : Seg pay next m h l none) : (l.map Prod.fst).Nodup := by
  induction l generalizing h with
  | nil => exact List.nodup_nil
  | cons b l ih =>
    obtain ⟨p, a⟩ := b
    obtain ⟨v, rfl, _, rfl, hrest⟩ := inv_cons hs
    rw [List.map_cons, List.nodup_cons]
    refine ⟨fun hmem => ?_, ih hrest⟩
    obtain ⟨⟨q, c⟩, hq, rfl⟩ := List.mem_map.mp hmem
    obtain ⟨l₁, l₂, rfl⟩ := List.append_of_mem hq
    -- from the second visit on, the list would repeat itself for ever
    obtain ⟨u, _, hsuffix⟩ := split hrest
    obtain ⟨_, rfl, _⟩ := inv_cons hsuffix
    have hlen := congrArg List.length (unique hs hsuffix)
    simp only [List.length_cons, List.length_append] at hlen
    omega

end Store.Seg

end linked

end DiscoC
