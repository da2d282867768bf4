/-
Id pools — allocation of small integers from a fixed range.

An `Allocator` says which ids a pool may hand out and which free one it
hands out next (or a caller takes one by its number); a `Pool` is the set of ids in use, with the frees that hit
an id not in use kept aside.  The range is part of the pool's type, so a
pool holding an id outside its range cannot be built.
-/
import Mathlib.Data.Finset.Card
import Mathlib.Order.Interval.Finset.Nat

namespace IdPool

/-- The range `[lo, lo + size)` of a pool, and its choice of the next id. -/
structure Allocator where
  lo : Nat
  size : Nat
  pick : Finset Nat → Option Nat
  pick_range : ∀ {used i}, pick used = some i → i ∈ Finset.Ico lo (lo + size)
  pick_fresh : ∀ {used i}, pick used = some i → i ∉ used

/-- The allocator that hands out the lowest free id. -/
def Allocator.firstFit (lo size : Nat) : Allocator where
  lo := lo
  size := size
  pick used := (List.range' lo size).find? (fun i => decide (i ∉ used))
  pick_range := by
    intro used i h
    have hi := List.mem_of_find?_eq_some h
    rw [List.mem_range'_1] at hi
    exact Finset.mem_Ico.mpr hi
  pick_fresh := by
    intro used i h
    have hi := List.find?_some h
    simpa using hi

/-- The allocator hands out an id whenever one is free. -/
def Allocator.Complete (A : Allocator) : Prop :=
  ∀ used, A.pick used = none → Finset.Ico A.lo (A.lo + A.size) ⊆ used

theorem Allocator.firstFit_complete (lo size : Nat) : (Allocator.firstFit lo size).Complete := by
  intro used h i hi
  have hall := List.find?_eq_none.mp h i (List.mem_range'_1.mpr (Finset.mem_Ico.mp hi))
  simpa using hall

/-- The ids in use, and the frees that named an id not in use. -/
structure Pool (A : Allocator) where
  used : Finset Nat
  stray : List Nat
  inRange : used ⊆ Finset.Ico A.lo (A.lo + A.size)

namespace Pool

variable {A : Allocator}
variable {p q : Pool A} {i : Nat}

/-- The pool with nothing allocated. -/
def empty (A : Allocator) : Pool A := ⟨∅, [], Finset.empty_subset _⟩

/-- Hand out one id. -/
def alloc (p : Pool A) : Option (Nat × Pool A) :=
  match h : A.pick p.used with
  | none => none
  | some i => some (i, ⟨insert i p.used, p.stray,
      Finset.insert_subset (A.pick_range h) p.inRange⟩)

/-- Give one id back. -/
def free (p : Pool A) (i : Nat) : Pool A :=
  ⟨p.used.erase i, if i ∈ p.used then p.stray else i :: p.stray,
    (Finset.erase_subset i p.used).trans p.inRange⟩

/-- Take the id `i` by its number. -/
def reserve (p : Pool A) (i : Nat) : Option (Pool A) :=
  if h : i ∈ Finset.Ico A.lo (A.lo + A.size) then
    if i ∈ p.used then none
    else some ⟨insert i p.used, p.stray, Finset.insert_subset h p.inRange⟩
  else none

@[simp] theorem used_free (p : Pool A) (i : Nat) : (p.free i).used = p.used.erase i := rfl

theorem stray_free_of_mem (h : i ∈ p.used) : (p.free i).stray = p.stray :=
  if_pos h

theorem stray_free_of_not_mem (h : i ∉ p.used) : (p.free i).stray = i :: p.stray :=
  if_neg h

theorem alloc_none (h : p.alloc = none) : A.pick p.used = none := by
  unfold alloc at h
  split at h
  · assumption
  · cases h

/-- What a successful allocation does: the id is in range, was free, and is
the only one added. -/
theorem alloc_some (h : p.alloc = some (i, q)) :
    i ∉ p.used ∧ A.lo ≤ i ∧ i < A.lo + A.size ∧ q.used = insert i p.used ∧
      q.stray = p.stray := by
  unfold alloc at h
  split at h
  · cases h
  next j hj =>
  cases h
  have hr := Finset.mem_Ico.mp (A.pick_range hj)
  exact ⟨A.pick_fresh hj, hr.1, hr.2, rfl, rfl⟩

theorem eq_of_used (hused : p.used = q.used) (hstray : p.stray = q.stray) : p = q := by
  obtain ⟨used, stray, hin⟩ := p
  subst hused hstray
  rfl

theorem free_of_alloc (h : p.alloc = some (i, q)) : q.free i = p := by
  obtain ⟨hfresh, -, -, hused, hstray⟩ := alloc_some h
  refine eq_of_used ?_ ?_
  · rw [used_free, hused, Finset.erase_insert hfresh]
  · rw [stray_free_of_mem (hused ▸ Finset.mem_insert_self i p.used), hstray]

theorem reserve_some (h : p.reserve i = some q) :
    i ∈ Finset.Ico A.lo (A.lo + A.size) ∧ i ∉ p.used ∧ q.used = insert i p.used := by
  unfold reserve at h
  split at h
  · next hr =>
    split at h
    · cases h
    · next hf => cases h; exact ⟨hr, hf, rfl⟩
  · cases h

theorem reserve_none (h : p.reserve i = none) :
    i ∈ Finset.Ico A.lo (A.lo + A.size) → i ∈ p.used := by
  intro hr
  unfold reserve at h
  rw [dif_pos hr] at h
  split at h
  · assumption
  · cases h

theorem alloc_isSome (hc : A.Complete) {p : Pool A} {i : Nat}
    (hi : i ∈ Finset.Ico A.lo (A.lo + A.size)) (hf : i ∉ p.used) : p.alloc.isSome := by
  cases h : p.alloc with
  | some _ => rfl
  | none => exact absurd (hc p.used (alloc_none h) hi) hf

theorem lo_le_of_mem (h : i ∈ p.used) : A.lo ≤ i :=
  (Finset.mem_Ico.mp (p.inRange h)).1

theorem card_used_le (p : Pool A) : p.used.card ≤ A.size := by
  have h := Finset.card_le_card p.inRange
  rwa [Nat.card_Ico, Nat.add_sub_cancel_left] at h

/-- The pool hands out `n` ids, one after the other. -/
def Room : Nat → Pool A → Prop
  | 0, _ => True
  | n + 1, p => ∃ i q, p.alloc = some (i, q) ∧ Room n q

end Pool

/-- An id of a pool that starts above `0`, as a word. -/
theorem ofNat_ne_zero {i : Nat} (hpos : 0 < i) (hlt : i < 2 ^ 32) : BitVec.ofNat 32 i ≠ 0 := by
  intro hz
  have hn := congrArg BitVec.toNat hz
  exact absurd hn (by simp only [BitVec.ofNat_eq_ofNat, BitVec.toNat_ofNat]; omega)

end IdPool
