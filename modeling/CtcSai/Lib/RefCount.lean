/-
Reference counts — objects that count the users pointing at them.

Users live in tables and each points at one object at most; an object keeps a
number.  What one operation does to the numbers and to the users is stated in
the same form, `Moves`: one pointer leaves `o` and arrives at `n`.  Balance is
then kept by comparing the two moves, whatever the order of the writes was.
-/
import CtcSai.Lib.Table

namespace RefCounts

open Function KeyedTable Table

variable {K V P : Type} [DecidableEq P]

/-- What a pointer adds to the users of `p`. -/
def pointsAt (o : Option P) (p : P) : Nat := if o = some p then 1 else 0

@[simp] theorem pointsAt_none (p : P) : pointsAt none p = 0 := rfl

/-- The entries of a table whose pointer is at `p`. -/
def users (ref : K → V → Option P) (t : Table K V) (p : P) : Nat :=
  Table.count (fun k v => decide (ref k v = some p)) t

/-- The number an object keeps, zero where there is none. -/
def kept {O : Type} [DecidableEq O] (cnt : V → Nat) (t : Table O V) (p : O) : Nat :=
  ((t.lookup p).map cnt).getD 0

/-! ## Moves -/

/-- `g` is `f` after one pointer left `o` and arrived at `n`. -/
def Moves (o n : Option P) (f g : P → Nat) : Prop :=
  ∀ p, g p + pointsAt o p = f p + pointsAt n p

namespace Moves

variable {o n : Option P} {f f' g g' h : P → Nat}

theorem refl (o : Option P) (f : P → Nat) : Moves o o f f := fun _ => rfl

theorem agree (hf : Moves o n f f') (hg : Moves o n g g') (heq : f = g) : f' = g' := by
  funext p
  have h₁ := hf p
  have h₂ := hg p
  rw [heq] at h₁
  omega

theorem add_right (hf : Moves o n f f') (g : P → Nat) :
    Moves o n (fun p => f p + g p) (fun p => f' p + g p) := by
  intro p
  have hp := hf p
  show f' p + g p + _ = f p + g p + _
  omega

theorem add_left (hf : Moves o n f f') (g : P → Nat) :
    Moves o n (fun p => g p + f p) (fun p => g p + f' p) := by
  intro p
  have hp := hf p
  show g p + f' p + _ = g p + f p + _
  omega

theorem join_leave (hj : Moves none n f g) (hl : Moves o none g h) : Moves o n f h := by
  intro p
  have h₁ := hj p
  have h₂ := hl p
  omega

end Moves

/-! ## Users -/

section Users

variable [DecidableEq K] {ref : K → V → Option P} {t t' : Table K V}

omit [DecidableEq K] in
theorem unit_ref (ref : K → V → Option P) (k : K) (v : V) (p : P) :
    Table.unit (fun k v => decide (ref k v = some p)) k v = pointsAt (ref k v) p := by
  simp only [Table.unit, pointsAt, decide_eq_true_eq]

omit [DecidableEq K] in
theorem unitAt_ref (ref : K → V → Option P) (k : K) (x : Option V) (p : P) :
    unitAt (fun k v => decide (ref k v = some p)) k x = pointsAt (x.bind (ref k)) p := by
  cases x with
  | none => rfl
  | some v => exact unit_ref ref k v p

theorem users_moves {k : K} {x : Option V} (h : Table.get t' = update (Table.get t) k x) :
    Moves ((t.lookup k).bind (ref k)) (x.bind (ref k)) (users ref t) (users ref t') := by
  intro p
  have hc := count_update (p := fun k v => decide (ref k v = some p)) h
  rw [unitAt_ref, unitAt_ref] at hc
  exact hc

theorem users_insert (ref : K → V → Option P) (t : Table K V) (k : K) (v : V) :
    Moves ((t.lookup k).bind (ref k)) (ref k v) (users ref t) (users ref (t.insert k v)) :=
  users_moves (get_insert t k v)

theorem users_erase (ref : K → V → Option P) (t : Table K V) (k : K) :
    Moves ((t.lookup k).bind (ref k)) none (users ref t) (users ref (t.erase k)) :=
  users_moves (get_erase t k)

theorem users_insert_same {k : K} {v : V} (h : (t.lookup k).bind (ref k) = ref k v) :
    users ref (t.insert k v) = users ref t := by
  have hm := users_insert ref t k v
  rw [h] at hm
  exact hm.agree (Moves.refl _ _) rfl

theorem users_erase_none {k : K} (h : (t.lookup k).bind (ref k) = none) :
    users ref (t.erase k) = users ref t := by
  have hm := users_erase ref t k
  rw [h] at hm
  exact hm.agree (Moves.refl _ _) rfl

theorem users_pos {k : K} {v : V} {p : P} (h : t.lookup k = some v) (hr : ref k v = some p) :
    0 < users ref t p :=
  count_pos h (decide_eq_true hr)

theorem users_eq_card (ref : K → V → Option P) (t : Table K V) (p : P) (S : Finset K)
    (hS : ∀ k, k ∈ S ↔ (t.lookup k).bind (ref k) = some p) : users ref t p = S.card := by
  let test := Table.test fun k v => decide (ref k v = some p)
  have hnd : ((t.entries.filter test).map Sigma.fst).Nodup :=
    (AList.keys_nodup t).sublist ((List.filter_sublist).map Sigma.fst)
  have hset : ((t.entries.filter test).map Sigma.fst).toFinset = S := by
    ext k
    rw [List.mem_toFinset, List.mem_map, hS, Option.bind_eq_some_iff]
    constructor
    · rintro ⟨⟨k', v⟩, hmem, rfl⟩
      rw [List.mem_filter] at hmem
      exact ⟨v, mem_entries_iff.mp hmem.1, of_decide_eq_true hmem.2⟩
    · rintro ⟨v, hl, hr⟩
      exact ⟨⟨k, v⟩, List.mem_filter.mpr ⟨mem_entries_iff.mpr hl, decide_eq_true hr⟩, rfl⟩
  calc users ref t p
      _ = ((t.entries.filter test).map Sigma.fst).length := by
          rw [List.length_map, users, Table.count, List.countP_eq_length_filter]
      _ = ((t.entries.filter test).map Sigma.fst).toFinset.card :=
          (List.toFinset_card_of_nodup hnd).symm
      _ = S.card := congrArg Finset.card hset

theorem users_congr (h : ∀ k, (t'.lookup k).bind (ref k) = (t.lookup k).bind (ref k)) :
    users ref t' = users ref t := by
  funext p
  let S := t.keys.toFinset.filter fun k => (t.lookup k).bind (ref k) = some p
  have hS : ∀ k, k ∈ S ↔ (t.lookup k).bind (ref k) = some p := by
    intro k
    rw [Finset.mem_filter, List.mem_toFinset, and_iff_right_iff_imp]
    intro hk
    obtain ⟨v, hl, _⟩ := Option.bind_eq_some_iff.mp hk
    exact AList.lookup_isSome.mp (Option.isSome_iff_exists.mpr ⟨v, hl⟩)
  rw [users_eq_card ref t p S hS, users_eq_card ref t' p S fun k => (hS k).trans (by rw [h])]

omit [DecidableEq K] in
@[simp] theorem users_empty (ref : K → V → Option P) (p : P) :
    users ref (∅ : Table K V) p = 0 := rfl

end Users

/-! ## Numbers kept -/

section Kept

variable {cnt : V → Nat} {t : Table P V} {p : P} {v v' : V}

theorem kept_of_lookup (h : t.lookup p = some v) : kept cnt t p = cnt v := by
  rw [kept, h]
  rfl

theorem kept_of_none (h : t.lookup p = none) : kept cnt t p = 0 := by
  rw [kept, h]
  rfl

theorem exists_of_kept_pos (h : 0 < kept cnt t p) : ∃ v, t.lookup p = some v ∧ cnt v = kept cnt t p := by
  cases hl : t.lookup p with
  | none =>
    rw [kept_of_none hl] at h
    exact absurd h (Nat.lt_irrefl 0)
  | some v => exact ⟨v, rfl, (kept_of_lookup hl).symm⟩

theorem kept_insert (cnt : V → Nat) (t : Table P V) (p : P) (v : V) :
    kept cnt (t.insert p v) = update (kept cnt t) p (cnt v) := by
  funext q
  rw [kept, lookup_insert_ite, update_apply]
  split
  · rfl
  · rfl

theorem kept_insert_same (h : kept cnt t p = cnt v) : kept cnt (t.insert p v) = kept cnt t := by
  rw [kept_insert, ← h, update_eq_self]

theorem kept_erase (h : kept cnt t p = 0) : kept cnt (t.erase p) = kept cnt t := by
  funext q
  rw [kept, lookup_erase_ite]
  split
  · next hq =>
    rw [hq, h]
    rfl
  · rfl

theorem kept_join (h : t.lookup p = some v) (hc : cnt v' = cnt v + 1) :
    Moves none (some p) (kept cnt t) (kept cnt (t.insert p v')) := by
  intro q
  rw [kept_insert, update_apply, pointsAt_none, pointsAt]
  by_cases hq : q = p
  · rw [if_pos hq, if_pos (by rw [hq]), hq, kept_of_lookup h, hc]
  · rw [if_neg hq, if_neg (fun he => hq (Option.some.inj he).symm)]

theorem kept_leave (h : t.lookup p = some v) (hc : cnt v' + 1 = cnt v) :
    Moves (some p) none (kept cnt t) (kept cnt (t.insert p v')) := by
  intro q
  rw [kept_insert, update_apply, pointsAt_none, pointsAt]
  by_cases hq : q = p
  · rw [if_pos hq, if_pos (by rw [hq]), hq, kept_of_lookup h, hc]
    rfl
  · rw [if_neg hq, if_neg (fun he => hq (Option.some.inj he).symm)]

end Kept

/-! ## Counters of sixteen bits -/

section Narrow

variable {cnt : V → BitVec 16} {t : Table P V} {p q : P} {v v' old old' : V}

theorem kept_hold (h : t.lookup p = some v) (hc : cnt v' = cnt v + 1) (hroom : cnt v ≠ 65535) :
    Moves none (some p) (kept (fun x => (cnt x).toNat) t)
      (kept (fun x => (cnt x).toNat) (t.insert p v')) := by
  refine kept_join h ?_
  bv_omega

theorem kept_release (h : t.lookup p = some v) (hc : cnt v' = cnt v - 1) (hpos : cnt v ≠ 0) :
    Moves (some p) none (kept (fun x => (cnt x).toNat) t)
      (kept (fun x => (cnt x).toNat) (t.insert p v')) := by
  refine kept_leave h ?_
  bv_omega

theorem kept_replace (hne : q ≠ p) (hp : t.lookup p = some v) (hc : cnt v' = cnt v + 1)
    (hroom : cnt v ≠ 65535) (hq : t.lookup q = some old) (hold : cnt old' = cnt old - 1)
    (hpos : cnt old ≠ 0) :
    Moves (some q) (some p) (kept (fun x => (cnt x).toNat) t)
      (kept (fun x => (cnt x).toNat) ((t.insert p v').insert q old')) := by
  refine (kept_hold hp hc hroom).join_leave (kept_release ?_ hold hpos)
  rw [lookup_insert_ite, if_neg hne, hq]

theorem exists_of_kept (h : 0 < kept (fun x => (cnt x).toNat) t p) :
    ∃ v, t.lookup p = some v ∧ cnt v ≠ 0 := by
  obtain ⟨v, hl, hc⟩ := exists_of_kept_pos h
  refine ⟨v, hl, fun hz => ?_⟩
  rw [← hc, hz] at h
  exact absurd h (Nat.lt_irrefl 0)

end Narrow

end RefCounts
