/-
# `UdfBitmap` — the hash bitmap of a UDF group

The four bits of each mask, lowest offset first, as one number: `udfPackFrom`
puts them side by side, since sixteen bits have room for four UDFs, and the
sort before it brings the UDFs into the order of their offsets.
-/
import CtcSai.Udf
import Mathlib.Data.Nat.Digits.Lemmas

namespace CtcSai

open BubbleSort

/-! ## Nibbles -/

/-- One bit for each byte of a mask that is all ones, lowest byte first. -/
def udfNibble (mask : Fin 4 → BitVec 8) : Nat :=
  Nat.ofDigits 2 ((List.finRange 4).map fun j => if mask j = 0xFF then 1 else 0)

theorem toNat_udfHashBmp (mask : Fin 4 → BitVec 8) : (udfHashBmp mask).toNat = udfNibble mask := by
  have h : List.finRange 4 = [0, 1, 2, 3] := rfl
  simp only [udfHashBmp, udfNibble, h, List.foldl_cons, List.foldl_nil, List.map_cons, List.map_nil]
  split <;> split <;> split <;> split <;> rfl

theorem udfNibble_lt (mask : Fin 4 → BitVec 8) : udfNibble mask < 16 := by
  have h := Nat.ofDigits_lt_base_pow_length (b := 2)
    (l := (List.finRange 4).map fun j => if mask j = 0xFF then 1 else 0) (by decide) (by
      intro x hx
      obtain ⟨j, -, rfl⟩ := List.mem_map.mp hx
      split <;> decide)
  simpa [udfNibble] using h

theorem ofDigits_eq_zero {b : Nat} {l : List Nat} (h : ∀ x ∈ l, x = 0) : Nat.ofDigits b l = 0 := by
  induction l with
  | nil => rfl
  | cons x l ih =>
    rw [Nat.ofDigits_cons, h x List.mem_cons_self, ih fun y hy => h y (List.mem_cons_of_mem x hy)]
    rfl

theorem udfNibble_eq_zero {mask : Fin 4 → BitVec 8} (h : ∀ j, mask j ≠ 0xFF) :
    udfNibble mask = 0 := by
  refine ofDigits_eq_zero fun x hx => ?_
  obtain ⟨j, -, rfl⟩ := List.mem_map.mp hx
  exact if_neg (h j)

/-! ## Packing -/

theorem toNat_or_shift {i : Nat} (hi : i < 4) {tmp : BitVec 16} (htmp : tmp.toNat < 16 ^ i)
    {n : BitVec 8} (hn : n.toNat < 16) :
    (tmp ||| (n &&& 0xF).setWidth 16 <<< (i * 4)).toNat = tmp.toNat + 16 ^ i * n.toNat := by
  have hand : (n &&& 0xF).toNat = n.toNat := by
    exact Nat.and_two_pow_sub_one_of_lt_two_pow (n := 4) hn
  have hpow : (16 : Nat) ^ i = 2 ^ (i * 4) := by
    rw [Nat.mul_comm, Nat.pow_mul]
  have hlt : n.toNat * 2 ^ (i * 4) < 2 ^ 16 := by
    calc n.toNat * 2 ^ (i * 4)
        _ ≤ 15 * 2 ^ (3 * 4) := Nat.mul_le_mul (by omega)
            (Nat.pow_le_pow_right (by decide) (by omega))
        _ < 2 ^ 16 := by decide
  rw [BitVec.toNat_or, BitVec.toNat_shiftLeft, BitVec.toNat_setWidth, hand,
    Nat.mod_eq_of_lt (Nat.lt_of_lt_of_le hn (by decide)), Nat.shiftLeft_eq,
    Nat.mod_eq_of_lt hlt, hpow, Nat.add_comm, Nat.two_pow_add_eq_or_of_lt (by rwa [← hpow]),
    Nat.or_comm, Nat.mul_comm]

theorem toNat_udfPackFrom {l : List (BitVec 8 × BitVec 8)} {i : Nat} (hi : i + l.length ≤ 4)
    {tmp : BitVec 16} (htmp : tmp.toNat < 16 ^ i) (hl : ∀ a ∈ l, a.2.toNat < 16) :
    (udfPackFrom i tmp l).toNat =
      tmp.toNat + 16 ^ i * Nat.ofDigits 16 (l.map fun a => a.2.toNat) := by
  induction l generalizing i tmp with
  | nil => rfl
  | cons a l ih =>
    have ha := hl a List.mem_cons_self
    have hone := toNat_or_shift (by simp at hi; omega) htmp ha
    have hlt : tmp.toNat + 16 ^ i * a.2.toNat < 16 ^ (i + 1) := by
      calc tmp.toNat + 16 ^ i * a.2.toNat
          _ < 16 ^ i + 16 ^ i * a.2.toNat := by omega
          _ = 16 ^ i * (a.2.toNat + 1) := by rw [Nat.mul_succ, Nat.add_comm]
          _ ≤ 16 ^ i * 16 := Nat.mul_le_mul_left _ ha
          _ = 16 ^ (i + 1) := (Nat.pow_succ ..).symm
    rw [udfPackFrom, ih (by simp at hi; omega) (by rwa [hone])
      (fun b hb => hl b (List.mem_cons_of_mem a hb)), hone, List.map_cons, Nat.ofDigits_cons,
      Nat.mul_add, Nat.pow_succ, ← Nat.add_assoc, Nat.mul_assoc]

/-! ## The bitmap -/

/-- The masks of a list, in that order, are the bitmap. -/
def udfConcat {α : Type} (mask : α → Fin 4 → BitVec 8) (l : List α) : Nat :=
  Nat.ofDigits 16 (l.map fun a => udfNibble (mask a))

/-- `_ctc_sai_udf_bubble_sort` packs the masks in the order of the offsets. -/
theorem toNat_udfBubbleSort {α : Type} (offset : α → BitVec 8) (mask : α → Fin 4 → BitVec 8)
    {l : List α} (hl : l.length ≤ 4) :
    ∃ s : List α, s.Perm l ∧ (s.Pairwise fun a b => offset a ≤ offset b) ∧
      (udfBubbleSort (l.map fun a => (offset a, udfHashBmp (mask a)))).toNat =
        udfConcat mask s := by
  have hperm := @bubbleSort_perm _ (fun a b => decide (offset a ≤ offset b)) l.length l
  refine ⟨bubbleSort (fun a b => decide (offset a ≤ offset b)) l.length l, hperm, ?_, ?_⟩
  · refine List.Pairwise.imp of_decide_eq_true (bubbleSort_pairwise ?_ ?_ l)
    · intro a b
      simp only [decide_eq_true_eq]
      exact BitVec.le_total _ _
    · intro a b c hab hbc
      rw [decide_eq_true_eq] at hab hbc ⊢
      exact BitVec.le_trans hab hbc
  · unfold udfBubbleSort
    rw [List.length_map, bubbleSort_map]
    generalize hs : bubbleSort (fun a b => udfOffsetLe (offset a, udfHashBmp (mask a))
      (offset b, udfHashBmp (mask b))) l.length l = s
    have hs' : bubbleSort (fun a b => decide (offset a ≤ offset b)) l.length l = s := hs
    rw [hs'] at hperm ⊢
    rw [toNat_udfPackFrom]
    · simp [udfConcat, toNat_udfHashBmp, Function.comp_def]
    · rw [List.length_map, hperm.length_eq]
      omega
    · decide
    · intro a ha
      obtain ⟨b, -, rfl⟩ := List.mem_map.mp ha
      rw [toNat_udfHashBmp]
      exact udfNibble_lt _

theorem udfConcat_remove {α : Type} {mask : α → Fin 4 → BitVec 8} {front back : List α} {u : α}
    (hu : udfNibble (mask u) = 0) (hback : ∀ v ∈ back, udfNibble (mask v) = 0) :
    udfConcat mask (front ++ u :: back) = udfConcat mask (front ++ back) := by
  have hzero : ∀ l : List α, (∀ v ∈ l, udfNibble (mask v) = 0) → udfConcat mask l = 0 := by
    intro l hl
    refine ofDigits_eq_zero fun x hx => ?_
    obtain ⟨v, hv, rfl⟩ := List.mem_map.mp hx
    exact hl v hv
  have happ : ∀ l : List α, udfConcat mask (front ++ l) =
      udfConcat mask front + 16 ^ front.length * udfConcat mask l := by
    simp [udfConcat, Nat.ofDigits_append]
  rw [happ, happ, hzero back hback, hzero (u :: back)]
  intro v hv
  rcases List.mem_cons.mp hv with rfl | hv
  · exact hu
  · exact hback v hv

end CtcSai
