/-
Keyed tables — the finite maps every store of the development is made of.

`Table K V` is Mathlib's association list with pairwise distinct keys, used
at a constant family: a hash table seen through its lookups.  This file
adds the three things a store needs and `AList` does not give at once: the
two case-split lookup rules, the number of entries that satisfy a test
(with what one insertion, removal or replacement does to it), and the
pigeonhole bound on that number.
-/
import Mathlib.Data.List.AList
import Mathlib.Data.Finset.Card

namespace KeyedTable

open Function

/-- A finite map with distinct keys. -/
abbrev Table (K V : Type) := AList (fun _ : K => V)

namespace Table

variable {K V : Type}

/-- The test `p` as a test on entries. -/
def test (p : K → V → Bool) (e : (_ : K) × V) : Bool := p e.1 e.2

/-- How many entries satisfy `p`. -/
def count (p : K → V → Bool) (t : Table K V) : Nat := t.entries.countP (test p)

/-- One when the test holds, zero when it does not. -/
def unit (p : K → V → Bool) (k : K) (v : V) : Nat := if p k v then 1 else 0

theorem count_empty (p : K → V → Bool) : count p (∅ : Table K V) = 0 := rfl

theorem count_split (p q : K → V → Bool) (t : Table K V) :
    count p t = count (fun k v => p k v && q k v) t + count (fun k v => p k v && !q k v) t := by
  unfold count
  induction t.entries with
  | nil => rfl
  | cons e l ih =>
    have hbit : ∀ a b : Bool, (if a = true then 1 else 0) =
        (if (a && b) = true then 1 else 0) + (if (a && !b) = true then 1 else 0) := by decide
    have he : (if test p e = true then 1 else 0) =
        (if test (fun k v => p k v && q k v) e = true then 1 else 0) +
          (if test (fun k v => p k v && !q k v) e = true then 1 else 0) :=
      hbit (p e.1 e.2) (q e.1 e.2)
    rw [List.countP_cons, List.countP_cons, List.countP_cons, ih]
    omega

variable [DecidableEq K]
variable {t t' : Table K V} {k : K} {v w : V} {p : K → V → Bool}

/-! ## Lookups after one change -/

theorem lookup_insert_ite (t : Table K V) (k a : K) (v : V) :
    (t.insert k v).lookup a = if a = k then some v else t.lookup a := by
  split
  · next h => subst h; exact AList.lookup_insert t
  · next h => exact AList.lookup_insert_ne h

theorem lookup_erase_ite (t : Table K V) (k a : K) :
    (t.erase k).lookup a = if a = k then none else t.lookup a := by
  split
  · next h => subst h; exact AList.lookup_erase a t
  · next h => exact AList.lookup_erase_ne h

theorem of_lookup_insert {a : K} (h : (t.insert k v).lookup a = some w) :
    a = k ∧ v = w ∨ a ≠ k ∧ t.lookup a = some w := by
  rw [lookup_insert_ite] at h
  split at h
  · next ha => exact .inl ⟨ha, Option.some.inj h⟩
  · next ha => exact .inr ⟨ha, h⟩

theorem of_lookup_erase {a : K} (h : (t.erase k).lookup a = some w) :
    a ≠ k ∧ t.lookup a = some w := by
  rw [lookup_erase_ite] at h
  split at h
  · cases h
  · next ha => exact ⟨ha, h⟩

/-- What holds of the new entry and of those that were there holds of all. -/
theorem forall_insert {Q : K → V → Prop} (hk : Q k v) (h : ∀ a w, t.lookup a = some w → Q a w) :
    ∀ a w, (t.insert k v).lookup a = some w → Q a w := by
  intro a w ha
  rcases of_lookup_insert ha with ⟨rfl, rfl⟩ | ⟨-, ha⟩
  · exact hk
  · exact h a w ha

theorem forall_erase {Q : K → V → Prop} (h : ∀ a w, t.lookup a = some w → Q a w) :
    ∀ a w, (t.erase k).lookup a = some w → Q a w :=
  fun a w ha => h a w (of_lookup_erase ha).2

theorem isSome_insert {a : K} (h : (t.lookup a).isSome) (k : K) (v : V) :
    ((t.insert k v).lookup a).isSome := by
  rw [lookup_insert_ite]
  split
  · rfl
  · exact h

theorem exists_insert {a : K} (h : ∃ w, t.lookup a = some w) (k : K) (v : V) :
    ∃ w, (t.insert k v).lookup a = some w := by
  rw [lookup_insert_ite]
  split
  · exact ⟨v, rfl⟩
  · exact h

theorem map_insert {U : Type} {f : V → U} (h : t.lookup k = some w) (hf : f v = f w) (a : K) :
    ((t.insert k v).lookup a).map f = (t.lookup a).map f := by
  rw [lookup_insert_ite]
  split
  · next ha => rw [ha, h]; exact congrArg some hf
  · rfl

theorem of_update_some {f : K → Option V} {a x : K} (h : update f a (some v) x = some w) :
    x = a ∧ v = w ∨ x ≠ a ∧ f x = some w := by
  rw [update_apply] at h
  split at h
  · next hx => exact .inl ⟨hx, Option.some.inj h⟩
  · next hx => exact .inr ⟨hx, h⟩

theorem of_update_none {f : K → Option V} {a x : K} (h : update f a none x = some w) :
    x ≠ a ∧ f x = some w := by
  rw [update_apply] at h
  split at h
  · cases h
  · next hx => exact ⟨hx, h⟩

theorem forall_update_some {f : K → Option V} {Q : K → V → Prop} (hk : Q k v)
    (h : ∀ a w, f a = some w → Q a w) : ∀ a w, update f k (some v) a = some w → Q a w := by
  intro a w ha
  rcases of_update_some ha with ⟨rfl, rfl⟩ | ⟨-, ha⟩
  · exact hk
  · exact h a w ha

theorem forall_update_none {f : K → Option V} {Q : K → V → Prop}
    (h : ∀ a w, f a = some w → Q a w) : ∀ a w, update f k none a = some w → Q a w :=
  fun a w ha => h a w (of_update_none ha).2

/-- The lookups of a table as one function. -/
def get (t : Table K V) (k : K) : Option V := t.lookup k

theorem get_insert (t : Table K V) (k : K) (v : V) :
    get (t.insert k v) = update (get t) k (some v) := by
  funext a
  rw [get, lookup_insert_ite, update_apply]
  rfl

theorem get_erase (t : Table K V) (k : K) : get (t.erase k) = update (get t) k none := by
  funext a
  rw [get, lookup_erase_ite, update_apply]
  rfl

theorem mem_entries_iff : ⟨k, v⟩ ∈ t.entries ↔ t.lookup k = some v :=
  AList.mem_lookup_iff.symm

theorem not_mem_of_lookup (h : t.lookup k = none) : k ∉ t :=
  AList.lookup_eq_none.mp h

theorem exists_lookup_of_insert (h : t.lookup k = some v) (new : V) :
    ∀ a w, (t.insert k new).lookup a = some w → ∃ v', t.lookup a = some v' := by
  intro a w ha
  rcases of_lookup_insert ha with ⟨he, -⟩ | ⟨-, ha⟩
  · exact ⟨v, he ▸ h⟩
  · exact ⟨w, ha⟩

/-- Two tables with the same keys. -/
def SameKeys (t t' : Table K V) : Prop := ∀ a, (t'.lookup a).isSome = (t.lookup a).isSome

theorem SameKeys.refl (t : Table K V) : SameKeys t t := fun _ => rfl

theorem SameKeys.trans {t'' : Table K V} (h : SameKeys t t') (h' : SameKeys t' t'') :
    SameKeys t t'' := fun a => (h' a).trans (h a)

theorem SameKeys.insert {t : Table K V} {k : K} (h : (t.lookup k).isSome) (v : V) :
    SameKeys t (t.insert k v) := by
  intro a
  rw [lookup_insert_ite]
  split
  · next ha => rw [ha, h]; rfl
  · rfl

theorem erase_of_lookup (h : t.lookup k = none) : t.erase k = t :=
  AList.ext (List.kerase_of_notMem_keys (not_mem_of_lookup h))

theorem insert_erase (t : Table K V) (k : K) (v : V) : (t.erase k).insert k v = t.insert k v := by
  refine AList.ext ?_
  rw [AList.entries_insert]
  exact congrArg _ (List.kerase_of_notMem_keys (List.notMem_keys_kerase k t.nodupKeys))

theorem erase_insert (h : t.lookup k = none) (v : V) : (t.insert k v).erase k = t := by
  refine AList.ext ?_
  show (t.insert k v).entries.kerase k = t.entries
  rw [AList.entries_insert_of_notMem (not_mem_of_lookup h)]
  exact List.kerase_cons_eq rfl

/-! ## Counting -/

theorem count_insert_new (h : t.lookup k = none) :
    count p (t.insert k v) = count p t + unit p k v := by
  unfold count unit
  rw [AList.entries_insert_of_notMem (not_mem_of_lookup h), List.countP_cons]
  rfl

theorem cons_erase_perm (h : t.lookup k = some v) :
    (⟨k, v⟩ :: (t.erase k).entries).Perm t.entries := by
  have hmem : (⟨k, v⟩ : (_ : K) × V) ∈ t.entries := mem_entries_iff.mpr h
  obtain ⟨w, l₁, l₂, _, hl, he⟩ :=
    List.exists_of_kerase (List.mem_keys_of_mem hmem)
  have hw : w = v := by
    have hin : (⟨k, w⟩ : (_ : K) × V) ∈ t.entries := by rw [hl]; simp
    have : t.lookup k = some w := mem_entries_iff.mp hin
    rw [h] at this
    exact (Option.some.inj this).symm
  subst hw
  calc (⟨k, w⟩ :: (t.erase k).entries)
      _ = ⟨k, w⟩ :: (l₁ ++ l₂) := congrArg _ he
      _ |>.Perm (l₁ ++ ⟨k, w⟩ :: l₂) := List.perm_middle.symm
      _ = t.entries := hl.symm

theorem count_erase (h : t.lookup k = some v) : count p t = count p (t.erase k) + unit p k v := by
  unfold count unit
  rw [← (cons_erase_perm h).countP_eq, List.countP_cons]
  rfl

theorem count_replace (h : t.lookup k = some v) :
    count p (t.insert k w) + unit p k v = count p t + unit p k w := by
  have hnew : count p (t.insert k w) = count p (t.erase k) + unit p k w := by
    unfold count unit
    rw [AList.entries_insert, List.countP_cons]
    rfl
  rw [count_erase h]
  omega

theorem count_congr (h : get t = get t') : count p t = count p t' := by
  have hperm : t.entries.Perm t'.entries := by
    refine List.lookup_ext t.nodupKeys t'.nodupKeys (fun k v => ?_)
    show v ∈ get t k ↔ v ∈ get t' k
    rw [h]
  exact hperm.countP_eq _

/-- What a place of a table adds to a count. -/
def unitAt (p : K → V → Bool) (k : K) (o : Option V) : Nat := (o.map (unit p k)).getD 0

theorem count_update {x : Option V} (h : get t' = update (get t) k x) :
    count p t' + unitAt p k (get t k) = count p t + unitAt p k x := by
  cases x with
  | some v =>
    rw [count_congr (h.trans (get_insert t k v).symm)]
    cases ho : get t k with
    | none => exact congrArg (· + 0) (count_insert_new ho)
    | some w => exact count_replace ho
  | none =>
    rw [count_congr (h.trans (get_erase t k).symm)]
    cases ho : get t k with
    | none =>
      have hsame : get (t.erase k) = get t := by
        rw [get_erase, ← ho, update_eq_self]
      rw [count_congr hsame]
    | some w => exact (count_erase ho).symm

theorem unit_le_count (h : t.lookup k = some v) : unit p k v ≤ count p t := by
  rw [count_erase h]
  exact Nat.le_add_left _ _

theorem count_pos (h : t.lookup k = some v) (hp : p k v = true) : 0 < count p t := by
  have hu := unit_le_count (p := p) h
  rw [unit, if_pos hp] at hu
  exact hu

theorem exists_of_count_pos (h : 0 < count p t) : ∃ k v, t.lookup k = some v ∧ p k v = true := by
  obtain ⟨⟨k, v⟩, hmem, hp⟩ := List.countP_pos_iff.mp h
  exact ⟨k, v, mem_entries_iff.mp hmem, hp⟩

theorem count_eq_zero : count p t = 0 ↔ ∀ k v, t.lookup k = some v → p k v = false := by
  constructor
  · intro h0 k v hl
    by_contra hp
    exact absurd h0 (Nat.ne_of_gt (count_pos hl (by simpa using hp)))
  · intro h
    refine Nat.eq_zero_of_not_pos fun hpos => ?_
    obtain ⟨k, v, hl, hp⟩ := exists_of_count_pos hpos
    rw [h k v hl] at hp
    cases hp

/-- Entries that own pairwise distinct members of a finite set are no more
than that set has. -/
theorem count_le_card {S : Finset Nat} (f : K → V → Nat)
    (hin : ∀ k v, t.lookup k = some v → p k v = true → f k v ∈ S)
    (hinj : ∀ k k' v v', t.lookup k = some v → t.lookup k' = some v' →
      p k v = true → p k' v' = true → f k v = f k' v' → k = k') :
    count p t ≤ S.card := by
  have hnd : ((t.entries.filter (test p)).map (fun e => f e.1 e.2)).Nodup := by
    refine List.Nodup.map_on ?_ (t.nodupKeys.nodup.filter _)
    rintro ⟨k, v⟩ hk ⟨k', v'⟩ hk' hf
    rw [List.mem_filter] at hk hk'
    have hl := mem_entries_iff.mp hk.1
    have hl' := mem_entries_iff.mp hk'.1
    have hkk := hinj k k' v v' hl hl' hk.2 hk'.2 hf
    subst hkk
    rw [hl] at hl'
    cases hl'
    rfl
  have hsub : ((t.entries.filter (test p)).map (fun e => f e.1 e.2)).toFinset ⊆ S := by
    intro n hn
    rw [List.mem_toFinset, List.mem_map] at hn
    obtain ⟨⟨k, v⟩, hk, rfl⟩ := hn
    rw [List.mem_filter] at hk
    exact hin k v (mem_entries_iff.mp hk.1) hk.2
  calc count p t
      _ = ((t.entries.filter (test p)).map (fun e => f e.1 e.2)).length := by
          rw [List.length_map, count, List.countP_eq_length_filter]
      _ = ((t.entries.filter (test p)).map (fun e => f e.1 e.2)).toFinset.card :=
          (List.toFinset_card_of_nodup hnd).symm
      _ ≤ S.card := Finset.card_le_card hsub

end Table
end KeyedTable
